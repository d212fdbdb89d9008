import NoteSearch.Store.Edit

/-!
# The folders in a folder

Deleting a folder takes the folders in it along, and those in them, to any depth. Which ones these are is
found in rounds (`NoteSearch.Store.withInner`): a round finds the folders that lie directly in one that was
found before, and takes them out of those that are still to be looked at. What the rounds find in the end
is what there is to be found (`NoteSearch.Store.mem_subtree_iff`), also where folders lie in a circle: a
folder is looked at once, so a circle is walked around once.
-/

namespace NoteSearch

namespace Store

/-- **A folder lies within another one** if it is that one, or lies directly in one that lies within it. -/
inductive Within (s : Store) (root : Nat) : Nat → Prop
  /-- A folder lies within itself. -/
  | self {f : Folder} (hf : f ∈ s.folders) (hid : f.id = root) : Within s root root
  /-- So does a folder that lies directly in one that does. -/
  | inner {f : Folder} {p : Nat} (hf : f ∈ s.folders) (hparent : f.parent = some p)
      (hp : Within s root p) : Within s root f.id

/-! ### What the rounds find -/

/-- The numbers that can be found from those of `ids` by way of the folders of `rest`. -/
inductive Found (ids : List Nat) (rest : List Folder) : Nat → Prop
  /-- What is given is found. -/
  | given {i : Nat} (h : i ∈ ids) : Found ids rest i
  /-- A folder in one that is found is found. -/
  | inner {f : Folder} {p : Nat} (hf : f ∈ rest) (hparent : f.parent = some p)
      (hp : Found ids rest p) : Found ids rest f.id

variable {ids : List Nat} {rest : List Folder} {f : Folder} {i : Nat}

theorem isIn_iff : isIn f ids = true ↔ ∃ p, f.parent = some p ∧ p ∈ ids := by
  simp [isIn, Option.any_eq_true]

/-- **A round finds nothing that was not to be found, and leaves nothing out.** -/
theorem found_round_iff :
    Found ((inside ids rest).map (·.id) ++ ids) (outside ids rest) i ↔ Found ids rest i := by
  constructor
  · intro h
    induction h with
    | given h =>
      obtain h | h := List.mem_append.mp h
      · obtain ⟨f, hf, rfl⟩ := List.mem_map.mp h
        obtain ⟨hrest, hin⟩ := List.mem_filter.mp hf
        obtain ⟨p, hparent, hp⟩ := isIn_iff.mp hin
        exact .inner hrest hparent (.given hp)
      · exact .given h
    | inner hf hparent _ ih => exact .inner (List.mem_filter.mp hf).1 hparent ih
  · intro h
    induction h with
    | given h => exact .given (List.mem_append_right _ h)
    | @inner f p hf hparent _ ih =>
      cases hin : isIn f ids with
      | true =>
        have hinside : f ∈ inside ids rest := List.mem_filter.mpr ⟨hf, hin⟩
        exact .given (List.mem_append_left _ (List.mem_map_of_mem hinside))
      | false => exact .inner (List.mem_filter.mpr ⟨hf, by simp [hin]⟩) hparent ih

/-- When no folder lies directly in one that is found, there is nothing more to be found. -/
theorem found_iff_of_none_inside (h : ¬rest.any (isIn · ids)) : Found ids rest i ↔ i ∈ ids := by
  refine ⟨fun hfound => ?_, .given⟩
  induction hfound with
  | given hi => exact hi
  | inner hf hparent _ ih =>
    exact absurd (List.any_eq_true.mpr ⟨_, hf, isIn_iff.mpr ⟨_, hparent, ih⟩⟩) h

/-- **The rounds find what there is to be found.** -/
theorem mem_withInner_iff : i ∈ withInner ids rest ↔ Found ids rest i := by
  induction ids, rest using withInner.induct with
  | case1 ids rest hmore ih =>
    rw [withInner, if_pos hmore, ih]
    exact found_round_iff
  | case2 ids rest hnone =>
    rw [withInner, if_neg hnone]
    exact (found_iff_of_none_inside hnone).symm

/-! ### What is deleted with a folder -/

variable {s : Store} {root : Nat}

/-- **The folders that are deleted with one** are those that lie within it. -/
theorem mem_subtree_iff : i ∈ s.subtree root ↔ s.Within root i := by
  rw [subtree, mem_withInner_iff]
  constructor
  · intro h
    induction h with
    | given h =>
      obtain ⟨f, hf, rfl⟩ := List.mem_map.mp h
      obtain ⟨hmem, hid⟩ := List.mem_filter.mp hf
      rw [eq_of_beq hid]
      exact .self hmem (eq_of_beq hid)
    | inner hf hparent _ ih => exact .inner (List.mem_filter.mp hf).1 hparent ih
  · -- the folder itself is given, so it is no longer among those to be looked at
    have hgiven : ∀ {f : Folder}, f ∈ s.folders → f.id = root →
        f.id ∈ (s.folders.filter (·.id == root)).map (·.id) := fun hf hid =>
      List.mem_map_of_mem (List.mem_filter.mpr ⟨hf, beq_iff_eq.mpr hid⟩)
    intro h
    induction h with
    | self hf hid =>
      have hroot := hgiven hf hid
      rw [hid] at hroot
      exact .given hroot
    | @inner f p hf hparent _ ih =>
      by_cases hid : f.id = root
      · exact .given (hgiven hf hid)
      · exact .inner (List.mem_filter.mpr ⟨hf, by simp [hid]⟩) hparent ih

end Store

end NoteSearch
