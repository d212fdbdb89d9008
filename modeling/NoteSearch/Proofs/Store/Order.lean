import NoteSearch.Proofs.Store.Keys
import NoteSearch.Search.Read

/-!
# The order of a list

Every list of notes is in one order: what is pinned before what is not, then what was changed last, then
what has the larger number. No two notes of a store have the same number, so the order leaves nothing open.

`NoteSearch.NoteView.Outranks` is the strict order, on notes as they are shown. A list of all notes has
exactly those outside the trash (`NoteSearch.Store.fetchAll_perm`), each of them ahead of all that it
outranks (`NoteSearch.Store.Keyed.pairwise_outranks_fetchAll`).
-/

namespace NoteSearch

/-! ### The order of rows -/

namespace Note

variable {k m n : Note}

/-- **What it is for a row to come before another**, or to be in the same place. -/
theorem precedes_iff : m.precedes n = true ↔
    (m.pinned = true ∧ n.pinned = false) ∨ m.pinned = n.pinned ∧
      (n.modified.rank < m.modified.rank ∨ m.modified.rank = n.modified.rank ∧ n.id ≤ m.id) := by
  unfold precedes
  split
  · next hpin =>
    have hne : m.pinned ≠ n.pinned := bne_iff_ne.mp hpin
    revert hne
    cases m.pinned <;> cases n.pinned <;> simp
  split
  · next hpin hrank =>
    have hne : m.modified.rank ≠ n.modified.rank := bne_iff_ne.mp hrank
    have heq : m.pinned = n.pinned := by simpa using hpin
    simp [heq, hne]
  · next hpin hrank =>
    have heq : m.pinned = n.pinned := by simpa using hpin
    have heq' : m.modified.rank = n.modified.rank := by simpa using hrank
    simp [heq, heq']

theorem precedes_trans (h : k.precedes m = true) (h' : m.precedes n = true) :
    k.precedes n = true := by
  rw [precedes_iff] at *
  grind

theorem precedes_total (m n : Note) : (m.precedes n || n.precedes m) = true := by
  rw [Bool.or_eq_true, precedes_iff, precedes_iff]
  rcases hm : m.pinned <;> rcases hn : n.pinned <;> simp
  all_goals omega

end Note

/-! ### The order of notes as they are shown -/

/-- **A note comes before another one in a list**: it is pinned and the other is not; or it was changed
later; or it has the larger number. Each of these decides only where the ones before it leave a tie. -/
def NoteView.Outranks (v w : NoteView) : Prop :=
  (v.pinned = true ∧ w.pinned = false) ∨ v.pinned = w.pinned ∧
    (w.modified.rank < v.modified.rank ∨ v.modified.rank = w.modified.rank ∧ w.id < v.id)

instance (v w : NoteView) : Decidable (v.Outranks w) :=
  inferInstanceAs (Decidable (_ ∨ _))

namespace Store

variable {s : Store}

/-- The rows that are listed come one before the other. -/
theorem pairwise_precedes_active (s : Store) :
    s.active.Pairwise fun m n => m.precedes n = true := by
  refine List.pairwise_mergeSort (fun k m n hkm hmn => ?_) Note.precedes_total _
  exact Note.precedes_trans hkm hmn

/-- **Every note outside the trash is listed once**, as it is shown. -/
theorem fetchAll_perm (s : Store) :
    s.fetchAll.Perm ((s.notes.filter Note.isActive).map s.view) :=
  (List.mergeSort_perm _ _).map _

/-- The rows that are listed have different numbers. -/
theorem Keyed.nodup_active (hs : s.Keyed) : (s.active.map (·.id)).Nodup := by
  have hperm : (s.active.map (·.id)).Perm ((s.notes.filter Note.isActive).map (·.id)) :=
    (List.mergeSort_perm _ _).map _
  exact hperm.nodup_iff.mpr (hs.notes.sublist (List.filter_sublist.map _))

/-- **A list is strictly descending**: each note outranks all that come after it. -/
theorem Keyed.pairwise_outranks_fetchAll (hs : s.Keyed) :
    s.fetchAll.Pairwise NoteView.Outranks := by
  have hids : s.active.Pairwise fun m n => m.id ≠ n.id := List.pairwise_map.mp hs.nodup_active
  refine List.pairwise_map.mpr ((s.pairwise_precedes_active.and hids).imp fun {m n} h => ?_)
  -- with different numbers, being in the same place is ruled out
  obtain ⟨hprec, hne⟩ := h
  show (m.pinned = true ∧ n.pinned = false) ∨ m.pinned = n.pinned ∧
    (n.modified.rank < m.modified.rank ∨ m.modified.rank = n.modified.rank ∧ n.id < m.id)
  obtain hpin | ⟨hpin, hrank | ⟨hrank, hid⟩⟩ := Note.precedes_iff.mp hprec
  · exact .inl hpin
  · exact .inr ⟨hpin, .inl hrank⟩
  · exact .inr ⟨hpin, .inr ⟨hrank, Nat.lt_of_le_of_ne hid (Ne.symm hne)⟩⟩

end Store

end NoteSearch
