import NoteSearch.Proofs.Computation
import NoteSearch.Store.Edit

/-!
# What an edit leaves behind

An edit that succeeds has passed its checks, and leaves one particular store behind. Each statement here
says which checks and which store, for one edit; whatever is true of a store after an edit is read off
these, without opening the edit again.
-/

namespace NoteSearch

namespace Store

variable {s s' : Store}

/-! ### The checks -/

/-- A reference to a folder passes its check if there is none, or if the folder is there. -/
theorem checkFolder_eq_ok_iff {isThere : Nat → Bool} {folder : Option Nat} :
    checkFolder isThere folder = .ok () ↔ ∀ i, folder = some i → isThere i = true := by
  cases folder with
  | none => simp [checkFolder]
  | some id => cases hthere : isThere id <;> simp [checkFolder, hthere]

/-- **The tags of a note pass their check** if they are there and no two of them are the same. -/
theorem checkTags_eq_ok_iff {tags : List Nat} :
    s.checkTags tags = .ok () ↔ (∀ t ∈ tags, s.hasTag t = true) ∧ tags.Nodup := by
  induction tags with
  | nil => exact ⟨fun _ => ⟨fun t ht => absurd ht List.not_mem_nil, List.nodup_nil⟩, fun _ => rfl⟩
  | cons t tags ih =>
    rw [checkTags, List.forall_mem_cons, List.nodup_cons]
    by_cases htag : s.hasTag t = true
    · by_cases hmem : t ∈ tags
      · simp [htag, hmem]
      · simp [htag, hmem, ih]
    · simp [htag]

/-! ### The edits -/

/-- **A folder is added** at the end of the table, if the folder that it lies in is there. -/
theorem addFolder_eq_ok_iff {name : String} {parent : Option Nat} {id : Nat} :
    s.addFolder name parent = .ok (s', id) ↔
      id = nextId (s.folders.map (·.id))
        ∧ checkFolder (fun p => p == id || s.hasFolder p) parent = .ok ()
        ∧ s' = { s with folders := s.folders ++ [⟨id, name, parent⟩] } := by
  constructor
  · intro h
    obtain ⟨_, hparent, h⟩ := bind_eq_ok_iff.mp h
    cases h
    exact ⟨rfl, hparent, rfl⟩
  · rintro ⟨rfl, hparent, rfl⟩
    exact bind_eq_ok_iff.mpr ⟨(), hparent, rfl⟩

/-- **A note is added** at the end of the table, with a link for each of its tags, if its folder and its
tags are there and no tag is given twice. -/
theorem addNote_eq_ok_iff {d : NoteDraft} {id : Nat} :
    s.addNote d = .ok (s', id) ↔
      id = nextId (s.notes.map (·.id))
        ∧ checkFolder s.hasFolder d.folder = .ok () ∧ checkTags s d.tags = .ok ()
        ∧ s' = { s with
            notes := s.notes ++
              [⟨id, d.title, d.body, d.folder, d.pinned, d.created, d.modified, d.deleted⟩]
            links := s.links ++ d.tags.map fun t => ⟨id, t⟩ } := by
  constructor
  · intro h
    obtain ⟨_, hfolder, h⟩ := bind_eq_ok_iff.mp h
    obtain ⟨_, htags, h⟩ := bind_eq_ok_iff.mp h
    cases h
    exact ⟨rfl, hfolder, htags, rfl⟩
  · rintro ⟨rfl, hfolder, htags, rfl⟩
    exact bind_eq_ok_iff.mpr ⟨(), hfolder, bind_eq_ok_iff.mpr ⟨(), htags, rfl⟩⟩

/-- **A note is changed** in its place, and its links are set anew, if the folder and the tags that it is
to have are there; a note that is not there is left alone. -/
theorem updateNote_eq_ok_iff {id : Nat} {c : NoteChange} :
    s.updateNote id c = .ok s' ↔
      s.note? id = none ∧ s' = s
        ∨ s.note? id ≠ none ∧ checkFolder s.hasFolder (c.folder.getD none) = .ok ()
          ∧ checkTags s (c.tags.getD []) = .ok ()
          ∧ s' = { s with
              notes := s.notes.map fun n => if n.id == id then changeNote c n else n
              links := relink s id c.tags } := by
  unfold updateNote
  cases hnote : s.note? id with
  | none =>
    refine ⟨fun h => .inl ⟨rfl, ?_⟩, ?_⟩
    · cases h
      rfl
    · rintro (⟨-, rfl⟩ | ⟨hne, -⟩)
      · rfl
      · exact absurd rfl hne
  | some n =>
    constructor
    · intro h
      obtain ⟨_, hfolder, h⟩ := bind_eq_ok_iff.mp h
      obtain ⟨_, htags, h⟩ := bind_eq_ok_iff.mp h
      cases h
      exact .inr ⟨Option.some_ne_none n, hfolder, htags, rfl⟩
    · rintro (⟨hnone, -⟩ | ⟨-, hfolder, htags, rfl⟩)
      · cases hnone
      · exact bind_eq_ok_iff.mpr ⟨(), hfolder, bind_eq_ok_iff.mpr ⟨(), htags, rfl⟩⟩

/-- **A folder is moved** in its place, if the folder that it is to lie in is there; one that is not there is
left alone. -/
theorem moveFolder_eq_ok_iff {id : Nat} {parent : Option Nat} :
    s.moveFolder id parent = .ok s' ↔
      s.folder? id = none ∧ s' = s
        ∨ s.folder? id ≠ none ∧ checkFolder s.hasFolder parent = .ok ()
          ∧ s' = { s with folders := s.folders.map fun f => if f.id == id then { f with parent } else f } := by
  unfold moveFolder
  cases hfolder : s.folder? id with
  | none =>
    refine ⟨fun h => .inl ⟨rfl, ?_⟩, ?_⟩
    · cases h
      rfl
    · rintro (⟨-, rfl⟩ | ⟨hne, -⟩)
      · rfl
      · exact absurd rfl hne
  | some f =>
    constructor
    · intro h
      obtain ⟨_, hparent, h⟩ := bind_eq_ok_iff.mp h
      cases h
      exact .inr ⟨Option.some_ne_none f, hparent, rfl⟩
    · rintro (⟨hnone, -⟩ | ⟨-, hparent, rfl⟩)
      · cases hnone
      · exact bind_eq_ok_iff.mpr ⟨(), hparent, rfl⟩

end Store

end NoteSearch
