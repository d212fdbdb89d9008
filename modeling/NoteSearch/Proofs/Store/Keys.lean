import Mathlib.Data.List.Nodup
import NoteSearch.Proofs.Store.Edit
import NoteSearch.Store.View

/-!
# Rows and their numbers

A number leads to at most one row of its table. This is what makes following a number from one table to
another the same thing as looking for *some* row of that number, and so what lets the names in a
`NoteSearch.NoteView` be read off the tables (`NoteSearch.Store.Keyed.mem_tags_view`,
`NoteSearch.Store.Keyed.folder_view`).

The property is `NoteSearch.Store.Keyed`. The empty store has it, and no edit loses it: a row that is added
gets a number that is larger than all others (`NoteSearch.nextId_not_mem`), a row that is changed keeps its
number, and deleting only takes numbers away.
-/

namespace NoteSearch

/-! ### Numbers in a list -/

/-- The next number is larger than all that are there. -/
theorem lt_nextId {ids : List Nat} {i : Nat} (h : i ∈ ids) : i < nextId ids := by
  have hle : i ≤ ids.max?.getD 0 := by
    cases hmax : ids.max? with
    | none =>
      rw [List.max?_eq_none_iff.mp hmax] at h
      exact absurd h List.not_mem_nil
    | some m => exact (List.max?_le_iff hmax).mp (Nat.le_refl m) i h
  rw [nextId, List.foldl_max]
  omega

/-- **The next number is new.** -/
theorem nextId_not_mem (ids : List Nat) : nextId ids ∉ ids :=
  fun h => absurd (lt_nextId h) (Nat.lt_irrefl _)

/-- Numbers stay different when the next one is added. -/
theorem nodup_append_nextId {ids : List Nat} (h : ids.Nodup) : (ids ++ [nextId ids]).Nodup := by
  rw [← List.concat_eq_append, List.nodup_concat]
  exact ⟨nextId_not_mem ids, h⟩

section Rows

variable {α : Type} {key : α → Nat} {rows : List α}

/-- **Looking a row up by its number** finds the row of that number, if the numbers are all different. -/
theorem find?_key_eq_some_iff (h : (rows.map key).Nodup) {k : Nat} {r : α} :
    rows.find? (key · == k) = some r ↔ r ∈ rows ∧ key r = k := by
  constructor
  · intro hfind
    exact ⟨List.mem_of_find?_eq_some hfind, by simpa using List.find?_some hfind⟩
  · rintro ⟨hmem, rfl⟩
    cases hfind : rows.find? (key · == key r) with
    | none => exact absurd (beq_self_eq_true (key r)) (List.find?_eq_none.mp hfind r hmem)
    | some r' =>
      have hkey : key r' = key r := by simpa using List.find?_some hfind
      rw [List.inj_on_of_nodup_map h (List.mem_of_find?_eq_some hfind) hmem hkey]

/-- Changing rows in place leaves their numbers alone. -/
theorem map_key_of_keeps (key : α → Nat) {f : α → α} (h : ∀ r, key (f r) = key r) :
    (rows.map f).map key = rows.map key := by
  rw [List.map_map]
  exact List.map_congr_left fun r _ => h r

end Rows

namespace Store

/-! ### What the numbers are -/

/-- **A store in which numbers lead to one row**: no two folders have the same number, nor two tags, nor
two notes. -/
structure Keyed (s : Store) : Prop where
  /-- The numbers of folders are different. -/
  folders : (s.folders.map (·.id)).Nodup
  /-- The numbers of tags are different. -/
  tags : (s.tags.map (·.id)).Nodup
  /-- The numbers of notes are different. -/
  notes : (s.notes.map (·.id)).Nodup

/-- Nothing has a number in the empty store. -/
theorem keyed_empty : ({} : Store).Keyed :=
  ⟨List.nodup_nil, List.nodup_nil, List.nodup_nil⟩

namespace Keyed

variable {s s' : Store}

/-- Numbers stay different when some of them go. -/
theorem of_sublist (hs : s.Keyed)
    (hfolders : (s'.folders.map (·.id)).Sublist (s.folders.map (·.id)))
    (htags : (s'.tags.map (·.id)).Sublist (s.tags.map (·.id)))
    (hnotes : (s'.notes.map (·.id)).Sublist (s.notes.map (·.id))) : s'.Keyed :=
  ⟨hs.folders.sublist hfolders, hs.tags.sublist htags, hs.notes.sublist hnotes⟩

/-! ### Edits -/

/-- Adding a folder gives it a number of its own. -/
theorem addFolder (hs : s.Keyed) {name : String} {parent : Option Nat} {id : Nat}
    (h : s.addFolder name parent = .ok (s', id)) : s'.Keyed := by
  obtain ⟨rfl, -, rfl⟩ := addFolder_eq_ok_iff.mp h
  refine ⟨?_, hs.tags, hs.notes⟩
  rw [List.map_append]
  exact nodup_append_nextId hs.folders

/-- Adding a tag gives it a number of its own. -/
theorem addTag (hs : s.Keyed) (name : String) : (s.addTag name).1.Keyed := by
  refine ⟨hs.folders, ?_, hs.notes⟩
  show ((s.tags ++ [_]).map Tag.id).Nodup
  rw [List.map_append]
  exact nodup_append_nextId hs.tags

/-- Adding a note gives it a number of its own. -/
theorem addNote (hs : s.Keyed) {d : NoteDraft} {id : Nat}
    (h : s.addNote d = .ok (s', id)) : s'.Keyed := by
  obtain ⟨rfl, -, -, rfl⟩ := addNote_eq_ok_iff.mp h
  refine ⟨hs.folders, hs.tags, ?_⟩
  rw [List.map_append]
  exact nodup_append_nextId hs.notes

/-- Changing a note leaves its number alone. -/
theorem updateNote (hs : s.Keyed) {id : Nat} {c : NoteChange}
    (h : s.updateNote id c = .ok s') : s'.Keyed := by
  obtain ⟨-, rfl⟩ | ⟨-, -, -, rfl⟩ := updateNote_eq_ok_iff.mp h
  · exact hs
  · refine ⟨hs.folders, hs.tags, ?_⟩
    rw [map_key_of_keeps _ fun n => by split <;> rfl]
    exact hs.notes

/-- Moving a folder leaves its number alone. -/
theorem moveFolder (hs : s.Keyed) {id : Nat} {parent : Option Nat}
    (h : s.moveFolder id parent = .ok s') : s'.Keyed := by
  obtain ⟨-, rfl⟩ | ⟨-, -, rfl⟩ := moveFolder_eq_ok_iff.mp h
  · exact hs
  · refine ⟨?_, hs.tags, hs.notes⟩
    rw [map_key_of_keeps _ fun f => by split <;> rfl]
    exact hs.folders

/-- A new name leaves the number alone. -/
theorem rename (hs : s.Keyed) (kind : RowKind) (id : Nat) (name : String) :
    (s.rename kind id name).Keyed := by
  cases kind with
  | note =>
    refine ⟨hs.folders, hs.tags, ?_⟩
    show ((s.notes.map _).map Note.id).Nodup
    rw [map_key_of_keeps _ fun n => by split <;> rfl]
    exact hs.notes
  | tag =>
    refine ⟨hs.folders, ?_, hs.notes⟩
    show ((s.tags.map _).map Tag.id).Nodup
    rw [map_key_of_keeps _ fun t => by split <;> rfl]
    exact hs.tags
  | folder =>
    refine ⟨?_, hs.tags, hs.notes⟩
    show ((s.folders.map _).map Folder.id).Nodup
    rw [map_key_of_keeps _ fun f => by split <;> rfl]
    exact hs.folders

/-- **Deleting takes numbers away**, and changes none. -/
theorem delete (hs : s.Keyed) (kind : RowKind) (id : Nat) : (s.delete kind id).Keyed := by
  cases kind with
  | note =>
    exact hs.of_sublist (List.Sublist.refl _) (List.Sublist.refl _) (List.filter_sublist.map _)
  | tag =>
    exact hs.of_sublist (List.Sublist.refl _) (List.filter_sublist.map _) (List.Sublist.refl _)
  | folder =>
    refine hs.of_sublist (List.filter_sublist.map _) (List.Sublist.refl _) ?_
    show ((s.notes.map _).map Note.id).Sublist (s.notes.map Note.id)
    rw [map_key_of_keeps _ fun n => by split <;> rfl]

end Keyed

end Store

/-! ### The names in a view -/

/-- Taking out the repetitions of a run takes no member away, and puts none in. -/
theorem mem_eraseRepsBy_loop {names acc : List String} {a x : String} :
    x ∈ List.eraseRepsBy.loop (· == ·) a names acc ↔ x = a ∨ x ∈ names ∨ x ∈ acc := by
  induction names generalizing a acc with
  | nil =>
    show x ∈ (a :: acc).reverse ↔ _
    rw [List.mem_reverse, List.mem_cons, or_iff_right List.not_mem_nil]
  | cons b names ih =>
    unfold List.eraseRepsBy.loop
    split
    · next heq =>
      rw [ih, eq_of_beq heq, List.mem_cons]
      tauto
    · rw [ih, List.mem_cons, List.mem_cons]
      tauto

/-- Nor does it for the list as a whole. -/
theorem mem_eraseReps {names : List String} {x : String} : x ∈ names.eraseReps ↔ x ∈ names := by
  cases names with
  | nil => rfl
  | cons a names =>
    show x ∈ List.eraseRepsBy.loop (· == ·) a names [] ↔ _
    rw [mem_eraseRepsBy_loop, List.mem_cons, or_iff_left List.not_mem_nil]

/-- **The set of the given names** has the given names as its members. -/
theorem mem_nameSet {names : List String} {x : String} : x ∈ nameSet names ↔ x ∈ names := by
  rw [nameSet, mem_eraseReps, List.mem_mergeSort]

/-- Names that are sorted by a key are in its order. -/
theorem pairwise_mergeSort_key (key : String → String) (names : List String) :
    (names.mergeSort fun a b => key a ≤ key b).Pairwise fun a b => key a ≤ key b := by
  have hsorted := @List.pairwise_mergeSort String (fun a b => key a ≤ key b)
    (fun a b c hab hbc => decide_eq_true (String.le_trans (of_decide_eq_true hab) (of_decide_eq_true hbc)))
    (fun a b => by simpa using String.le_total (key a) (key b)) names
  exact hsorted.imp fun hab => of_decide_eq_true hab

/-- Taking out the repetitions of a run in order leaves each name once, and in order. -/
theorem pairwise_eraseRepsBy_loop {names acc : List String} {a : String}
    (hnames : (a :: names).Pairwise (· ≤ ·)) (hacc : (acc.reverse ++ [a]).Pairwise (· < ·)) :
    (List.eraseRepsBy.loop (· == ·) a names acc).Pairwise (· < ·) := by
  induction names generalizing a acc with
  | nil =>
    show (a :: acc).reverse.Pairwise _
    rwa [List.reverse_cons]
  | cons b names ih =>
    obtain ⟨ha, hb⟩ := List.pairwise_cons.mp hnames
    rw [List.forall_mem_cons] at ha
    unfold List.eraseRepsBy.loop
    split
    · exact ih (List.pairwise_cons.mpr ⟨ha.2, hb.of_cons⟩) hacc
    · next hne =>
      have hab : a < b := Std.lt_of_le_of_ne ha.1 (by simpa using hne)
      refine ih hb ?_
      rw [List.reverse_cons, List.pairwise_append]
      refine ⟨hacc, List.pairwise_singleton _ b, fun c hc d hd => ?_⟩
      rw [List.mem_singleton.mp hd]
      obtain hc | hc := List.mem_append.mp hc
      · exact String.lt_trans ((List.pairwise_append.mp hacc).2.2 c hc a (List.mem_singleton_self a)) hab
      · rwa [List.mem_singleton.mp hc]

/-- **The set of the given names** has each name once. -/
theorem nodup_nameSet (names : List String) : (nameSet names).Nodup := by
  have hsorted := pairwise_mergeSort_key id names
  unfold nameSet
  cases hnames : names.mergeSort fun a b => a ≤ b with
  | nil => exact List.nodup_nil
  | cons a rest =>
    have hpairwise : (a :: rest).eraseReps.Pairwise (· < ·) :=
      pairwise_eraseRepsBy_loop (hnames ▸ hsorted) (List.pairwise_singleton _ a)
    exact hpairwise.imp Std.ne_of_lt

namespace Store.Keyed

variable {s : Store}

/-- **The tags of a note in a view**: the names of the tags that are linked to it. -/
theorem mem_tags_view (hs : s.Keyed) {n : Note} {x : String} :
    x ∈ (s.view n).tags ↔
      ∃ l ∈ s.links, l.note = n.id ∧ ∃ t ∈ s.tags, t.id = l.tag ∧ t.name = x := by
  show x ∈ nameSet (s.tagNames n.id) ↔ _
  rw [mem_nameSet, tagNames, List.mem_map]
  constructor
  · rintro ⟨t, ht, rfl⟩
    obtain ⟨l, hl, hfind⟩ := List.mem_filterMap.mp ht
    obtain ⟨hlink, hnote⟩ := List.mem_filter.mp hl
    obtain ⟨htag, hid⟩ := (find?_key_eq_some_iff hs.tags).mp hfind
    exact ⟨l, hlink, eq_of_beq hnote, t, htag, hid, rfl⟩
  · rintro ⟨l, hlink, hnote, t, htag, hid, rfl⟩
    refine ⟨t, List.mem_filterMap.mpr ⟨l, ?_, ?_⟩, rfl⟩
    · exact List.mem_filter.mpr ⟨hlink, beq_iff_eq.mpr hnote⟩
    · exact (find?_key_eq_some_iff hs.tags).mpr ⟨htag, hid⟩

/-- **The folder of a note in a view**: the name of the folder that it is filed in. -/
theorem folder_view (hs : s.Keyed) {n : Note} {x : String} :
    (s.view n).folder = some x ↔ ∃ f ∈ s.folders, n.folder = some f.id ∧ f.name = x := by
  show (n.folder.bind s.folder?).map (·.name) = some x ↔ _
  rw [Option.map_eq_some_iff]
  constructor
  · rintro ⟨f, hf, rfl⟩
    obtain ⟨id, hid, hfind⟩ := Option.bind_eq_some_iff.mp hf
    obtain ⟨hmem, rfl⟩ := (find?_key_eq_some_iff hs.folders).mp hfind
    exact ⟨f, hmem, hid, rfl⟩
  · rintro ⟨f, hmem, hid, rfl⟩
    refine ⟨f, Option.bind_eq_some_iff.mpr ⟨f.id, hid, ?_⟩, rfl⟩
    exact (find?_key_eq_some_iff hs.folders).mpr ⟨hmem, rfl⟩

end Store.Keyed

end NoteSearch
