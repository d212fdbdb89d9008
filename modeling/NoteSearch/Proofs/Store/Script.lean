import NoteSearch.Proofs.Store.References

/-!
# What a script does

What an edit asks for (`NoteSearch.Edit.Fits`) and what it is to do (`NoteSearch.Edit.Does`) is said here
for each kind of edit, apart from how it is done. An edit that fits is made and does what it is to do; one
that does not fit is refused, and a script goes on with the store as it was. A row that is added is
referred to by nothing but what is added with it, whatever its number has been before; this takes a sound
store (`NoteSearch.Store.Sound.does`), and a script leads from a sound store to sound ones.
-/

namespace NoteSearch

/-! ### What an edit asks for, and what it is to do -/

/-- **A field after a change**: it has the value that is given, and its own where none is given. -/
def IsSet {α : Type} (given : Option α) (old new : α) : Prop :=
  new ∈ given ∨ given = none ∧ new = old

/-- **A note after a change**, field by field: its number and the moment when it was made stay. -/
structure NoteChange.Makes (c : NoteChange) (n n' : Note) : Prop where
  /-- The number stays. -/
  id : n'.id = n.id
  /-- The title may be changed. -/
  title : IsSet c.title n.title n'.title
  /-- So may the text. -/
  body : IsSet c.body n.body n'.body
  /-- So may the folder. -/
  folder : IsSet c.folder n.folder n'.folder
  /-- So may the pinned state. -/
  pinned : IsSet c.pinned n.pinned n'.pinned
  /-- The moment when the note was made stays. -/
  created : n'.created = n.created
  /-- The moment of the last change may be changed. -/
  modified : IsSet c.modified n.modified n'.modified
  /-- So may the moment of deletion. -/
  deleted : IsSet c.deleted n.deleted n'.deleted

namespace Edit

/-- **What an edit asks for**: the rows that it is to refer to are there, where a folder that is added may
lie in itself, and no note is to carry a tag twice. -/
def Fits (s : Store) : Edit → Prop
  | .addFolder _ parent => ∀ i, parent = some i → i ∈ nextId (s.ids .folder) :: s.ids .folder
  | .addTag _ => True
  | .addNote d => (∀ i, d.folder = some i → i ∈ s.ids .folder) ∧ d.tags ⊆ s.ids .tag ∧ d.tags.Nodup
  | .moveFolder id parent => id ∈ s.ids .folder → ∀ i, parent = some i → i ∈ s.ids .folder
  | .updateNote id c => id ∈ s.ids .note →
      (∀ i, c.folder = some (some i) → i ∈ s.ids .folder)
        ∧ ∀ tags, c.tags = some tags → tags ⊆ s.ids .tag ∧ tags.Nodup
  | .rename .. => True
  | .delete .. => True

/-- **What an edit is to do** to a store `s`; `s'` is the store that it leads to, and `added` the number of
the row that it adds, if it adds one. -/
def Does (s s' : Store) (added : Option Nat) : Edit → Prop
  | .addFolder name parent => ∃ id, added = some id ∧ s.IsNew .folder id
      ∧ s' = { s with folders := s.folders ++ [⟨id, name, parent⟩] }
  | .addTag name => ∃ id, added = some id ∧ s.IsNew .tag id
      ∧ s' = { s with tags := s.tags ++ [⟨id, name⟩] }
  | .addNote d => ∃ id, added = some id ∧ s.IsNew .note id
      ∧ s' = { s with
          notes := s.notes ++
            [⟨id, d.title, d.body, d.folder, d.pinned, d.created, d.modified, d.deleted⟩]
          links := s.links ++ d.tags.map fun t => ⟨id, t⟩ }
  | .moveFolder id parent => added = none ∧ s'.ids = s.ids
      ∧ s' = { s with folders := s.folders.map fun f => if f.id = id then { f with parent } else f }
  | .updateNote id c => added = none ∧ s'.ids = s.ids
      ∧ s'.folders = s.folders ∧ s'.tags = s.tags
      ∧ List.Forall₂ (fun n n' => if n.id = id then c.Makes n n' else n' = n) s.notes s'.notes
      ∧ (∀ l, l.note ≠ id ∨ c.tags = none → (l ∈ s'.links ↔ l ∈ s.links))
      ∧ ∀ tags, c.tags = some tags → id ∈ s.ids .note → ∀ t, ⟨id, t⟩ ∈ s'.links ↔ t ∈ tags
  | .rename kind id name => added = none ∧ s'.ids = s.ids ∧ s'.references = s.references ∧ s'.links = s.links
      ∧ s' = match kind with
        | .note => { s with notes := s.notes.map fun n => if n.id = id then { n with title := name } else n }
        | .tag => { s with tags := s.tags.map fun t => if t.id = id then { t with name } else t }
        | .folder => { s with folders := s.folders.map fun f => if f.id = id then { f with name } else f }
  | .delete .folder id => added = none ∧ ∃ gone : List Nat, (∀ i, i ∈ gone ↔ s.Within id i)
      ∧ s' = { s with
          folders := s.folders.filter (·.id ∉ gone)
          notes := s.notes.map fun n =>
            if ∃ i ∈ gone, n.folder = some i then { n with folder := none } else n }
  | .delete .tag id => added = none ∧ s' = { s with
      tags := s.tags.filter (·.id ≠ id)
      links := s.links.filter (·.tag ≠ id) }
  | .delete .note id => added = none ∧ s' = { s with
      notes := s.notes.filter (·.id ≠ id)
      links := s.links.filter (·.note ≠ id) }

end Edit

namespace Store

variable {s s' : Store}

/-! ### Edits are made as they should be -/

/-- A reference to a folder passes its check if the folder is there. -/
theorem folder_passes_iff {folder : Option Nat} :
    checkFolder s.hasFolder folder = .ok () ↔ ∀ i, folder = some i → i ∈ s.ids .folder := by
  simp only [checkFolder_eq_ok_iff, hasFolder_iff]

/-- **An edit is refused exactly if it does not fit.** -/
theorem exists_edit_eq_ok_iff {e : Edit} : (∃ r, s.edit e = .ok r) ↔ e.Fits s := by
  cases e with
  | addFolder name parent =>
    constructor
    · rintro ⟨r, h⟩ i hi
      obtain ⟨⟨t, id⟩, hadd, -⟩ := map_eq_ok_iff.mp h
      obtain ⟨rfl, hparent, -⟩ := addFolder_eq_ok_iff.mp hadd
      have hthere := checkFolder_eq_ok_iff.mp hparent i hi
      rw [Bool.or_eq_true, beq_iff_eq, hasFolder_iff] at hthere
      exact List.mem_cons.mpr hthere
    · intro hfits
      refine ⟨_, map_eq_ok_iff.mpr ⟨_, addFolder_eq_ok_iff.mpr ⟨rfl, ?_, rfl⟩, rfl⟩⟩
      refine checkFolder_eq_ok_iff.mpr fun i hi => ?_
      rw [Bool.or_eq_true, beq_iff_eq, hasFolder_iff]
      exact List.mem_cons.mp (hfits i hi)
  | addTag name => exact ⟨fun _ => trivial, fun _ => ⟨_, rfl⟩⟩
  | addNote d =>
    constructor
    · rintro ⟨r, h⟩
      obtain ⟨⟨t, id⟩, hadd, -⟩ := map_eq_ok_iff.mp h
      obtain ⟨-, hfolder, htags, -⟩ := addNote_eq_ok_iff.mp hadd
      obtain ⟨hthere, hnodup⟩ := checkTags_eq_ok_iff.mp htags
      exact ⟨folder_passes_iff.mp hfolder, fun t ht => hasTag_iff.mp (hthere t ht), hnodup⟩
    · rintro ⟨hfolder, htags, hnodup⟩
      have hpass := checkTags_eq_ok_iff.mpr ⟨fun t ht => hasTag_iff.mpr (htags ht), hnodup⟩
      exact ⟨_, map_eq_ok_iff.mpr
        ⟨_, addNote_eq_ok_iff.mpr ⟨rfl, folder_passes_iff.mpr hfolder, hpass, rfl⟩, rfl⟩⟩
  | moveFolder id parent =>
    constructor
    · rintro ⟨r, h⟩ hid
      obtain ⟨t, hmove, -⟩ := map_eq_ok_iff.mp h
      obtain ⟨hnone, -⟩ | ⟨-, hparent, -⟩ := moveFolder_eq_ok_iff.mp hmove
      · exact absurd hid (folder?_eq_none_iff.mp hnone)
      · exact folder_passes_iff.mp hparent
    · intro hfits
      by_cases hid : id ∈ s.ids .folder
      · refine ⟨_, map_eq_ok_iff.mpr ⟨_, moveFolder_eq_ok_iff.mpr (.inr ⟨?_, ?_, rfl⟩), rfl⟩⟩
        · exact fun hnone => folder?_eq_none_iff.mp hnone hid
        · exact folder_passes_iff.mpr (hfits hid)
      · exact ⟨_, map_eq_ok_iff.mpr
          ⟨_, moveFolder_eq_ok_iff.mpr (.inl ⟨folder?_eq_none_iff.mpr hid, rfl⟩), rfl⟩⟩
  | updateNote id c =>
    constructor
    · rintro ⟨r, h⟩ hid
      obtain ⟨t, hupdate, -⟩ := map_eq_ok_iff.mp h
      obtain ⟨hnone, -⟩ | ⟨-, hfolder, htags, -⟩ := updateNote_eq_ok_iff.mp hupdate
      · exact absurd hid (note?_eq_none_iff.mp hnone)
      · obtain ⟨hthere, hnodup⟩ := checkTags_eq_ok_iff.mp htags
        refine ⟨fun i hi => ?_, fun tags hc => ?_⟩
        · rw [hi] at hfolder
          exact folder_passes_iff.mp hfolder i rfl
        · rw [hc] at hthere hnodup
          exact ⟨fun t ht => hasTag_iff.mp (hthere t ht), hnodup⟩
    · intro hfits
      by_cases hid : id ∈ s.ids .note
      · obtain ⟨hfolder, htags⟩ := hfits hid
        refine ⟨_, map_eq_ok_iff.mpr ⟨_, updateNote_eq_ok_iff.mpr (.inr ⟨?_, ?_, ?_, rfl⟩), rfl⟩⟩
        · exact fun hnone => note?_eq_none_iff.mp hnone hid
        · refine folder_passes_iff.mpr fun i hi => hfolder i ?_
          cases hc : c.folder with
          | none =>
            rw [hc] at hi
            cases hi
          | some folder =>
            rw [hc] at hi
            exact congrArg some hi
        · cases hc : c.tags with
          | none => rfl
          | some tags =>
            obtain ⟨hthere, hnodup⟩ := htags tags hc
            exact checkTags_eq_ok_iff.mpr ⟨fun t ht => hasTag_iff.mpr (hthere ht), hnodup⟩
      · exact ⟨_, map_eq_ok_iff.mpr
          ⟨_, updateNote_eq_ok_iff.mpr (.inl ⟨note?_eq_none_iff.mpr hid, rfl⟩), rfl⟩⟩
  | rename kind id name => exact ⟨fun _ => trivial, fun _ => ⟨_, rfl⟩⟩
  | delete kind id => exact ⟨fun _ => trivial, fun _ => ⟨_, rfl⟩⟩

theorem isSet_getD {α : Type} (given : Option α) (old : α) : IsSet given old (given.getD old) := by
  cases given with
  | none => exact .inr ⟨rfl, rfl⟩
  | some new => exact .inl rfl

/-- A change is made in every field of a note. -/
theorem makes_changeNote (c : NoteChange) (n : Note) : c.Makes n (changeNote c n) where
  id := rfl
  title := isSet_getD c.title n.title
  body := isSet_getD c.body n.body
  folder := isSet_getD c.folder n.folder
  pinned := isSet_getD c.pinned n.pinned
  created := rfl
  modified := isSet_getD c.modified n.modified
  deleted := isSet_getD c.deleted n.deleted

/-- **The notes after the change of one**: the change is made in that note, and the others stay. -/
theorem forall₂_changeNote (c : NoteChange) (id : Nat) (notes : List Note) :
    List.Forall₂ (fun n n' => if n.id = id then c.Makes n n' else n' = n) notes
      (notes.map fun n => if n.id = id then changeNote c n else n) := by
  refine List.forall₂_map_right_iff.mpr (List.forall₂_same.mpr fun n _ => ?_)
  by_cases hid : n.id = id
  · rw [if_pos hid, if_pos hid]
    exact makes_changeNote c n
  · rw [if_neg hid, if_neg hid]

/-- A note that is not there is not changed. -/
theorem forall₂_changeNote_of_absent {c : NoteChange} {id : Nat} (h : id ∉ s.ids .note) :
    List.Forall₂ (fun n n' => if n.id = id then c.Makes n n' else n' = n) s.notes s.notes := by
  refine List.forall₂_same.mpr fun n hn => ?_
  rw [if_neg]
  rintro rfl
  exact h (List.mem_map_of_mem hn)

/-- **An edit does what it is to do**, in a sound store. -/
theorem Sound.does (hs : s.Sound) {e : Edit} {added : Option Nat} (h : s.edit e = .ok (s', added)) :
    e.Does s s' added := by
  cases e with
  | addFolder name parent =>
    obtain ⟨⟨t, id⟩, hadd, heq⟩ := map_eq_ok_iff.mp h
    cases heq
    obtain ⟨rfl, -, rfl⟩ := addFolder_eq_ok_iff.mp hadd
    exact ⟨_, rfl, hs.isNew _ (nextId_not_mem _), rfl⟩
  | addTag name =>
    cases h
    exact ⟨_, rfl, hs.isNew _ (nextId_not_mem _), rfl⟩
  | addNote d =>
    obtain ⟨⟨t, id⟩, hadd, heq⟩ := map_eq_ok_iff.mp h
    cases heq
    obtain ⟨rfl, -, -, rfl⟩ := addNote_eq_ok_iff.mp hadd
    exact ⟨_, rfl, hs.isNew _ (nextId_not_mem _), rfl⟩
  | moveFolder id parent =>
    obtain ⟨t, hmove, heq⟩ := map_eq_ok_iff.mp h
    cases heq
    refine ⟨rfl, ids_moveFolder hmove, ?_⟩
    obtain ⟨hnone, rfl⟩ | ⟨-, -, rfl⟩ := moveFolder_eq_ok_iff.mp hmove
    · rw [map_changed_of_absent Folder.id (folder?_eq_none_iff.mp hnone)]
    · simp only [beq_iff_eq]
  | updateNote id c =>
    obtain ⟨t, hupdate, heq⟩ := map_eq_ok_iff.mp h
    cases heq
    refine ⟨rfl, ids_updateNote hupdate, ?_⟩
    obtain ⟨hnone, rfl⟩ | ⟨-, -, -, rfl⟩ := updateNote_eq_ok_iff.mp hupdate
    · have habsent := note?_eq_none_iff.mp hnone
      refine ⟨rfl, rfl, forall₂_changeNote_of_absent habsent, fun _ _ => Iff.rfl, ?_⟩
      exact fun _ _ hid => absurd hid habsent
    · refine ⟨rfl, rfl, ?_, fun l hl => ?_, fun tags hc _ t => ?_⟩
      · simp only [beq_iff_eq]
        exact forall₂_changeNote c id s.notes
      · cases hc : c.tags with
        | none => rfl
        | some tags =>
          have hother : l.note ≠ id := hl.resolve_right (by simp [hc])
          simp [mem_relink_iff, hother]
      · simp [hc, mem_relink_iff]
  | rename kind id name =>
    cases h
    refine ⟨rfl, ids_rename kind id name, references_rename kind id name, links_rename kind id name, ?_⟩
    cases kind <;> simp only [Store.rename, beq_iff_eq]
  | delete kind id =>
    cases h
    cases kind with
    | note => exact ⟨rfl, by simp [Store.delete, Store.deleteNote, bne, Bool.beq_eq_decide_eq]⟩
    | tag => exact ⟨rfl, by simp [Store.delete, Store.deleteTag, bne, Bool.beq_eq_decide_eq]⟩
    | folder =>
      refine ⟨rfl, s.subtree id, fun i => mem_subtree_iff, ?_⟩
      simp [Store.delete, Store.deleteFolder, Option.any_eq_true, and_comm]

/-- **A script keeps a store sound, and each edit of it does what it is to do or nothing**: whatever the
script has led to, the next edit is refused exactly if it does not fit, and then changes nothing; otherwise
it does what it is to do. -/
theorem sound_and_done_run (hs : s.Sound) (script : List Edit) :
    (s.run script).Sound ∧ ∀ e : Edit,
      match (s.run script).edit e with
      | .ok (s', added) =>
        e.Fits (s.run script) ∧ s.run (script ++ [e]) = s' ∧ e.Does (s.run script) s' added
      | .error _ => ¬e.Fits (s.run script) ∧ s.run (script ++ [e]) = s.run script := by
  have hrun := hs.run script
  refine ⟨hrun, fun e => ?_⟩
  have hnext : s.run (script ++ [e]) = (s.run script).afterEdit e := List.foldl_concat ..
  rw [hnext, Store.afterEdit]
  cases h : (s.run script).edit e with
  | ok r => exact ⟨exists_edit_eq_ok_iff.mp ⟨r, h⟩, rfl, hrun.does h⟩
  | error fault =>
    refine ⟨fun hfits => ?_, rfl⟩
    obtain ⟨r, hr⟩ := exists_edit_eq_ok_iff.mpr hfits
    rw [h] at hr
    cases hr

/-- A store in which a note with a tag is filed in a folder in another one. -/
def nestedStore : Store where
  folders := [⟨1, "work", none⟩, ⟨2, "plans", some 1⟩]
  tags := [⟨1, "urgent"⟩]
  notes := [⟨1, "call", "", some 2, false, .epoch, .epoch, none⟩]
  links := [⟨1, 1⟩]

/-- The store is sound, so the theorem speaks of it; and a tag that gets the number of one that was deleted
is not linked to the note. -/
theorem sound_and_done_run_nestedStore :
    nestedStore.Sound
      ∧ (nestedStore.run [.delete .tag 1, .addTag "later", .delete .folder 1]).Sound
      ∧ (nestedStore.run [.delete .tag 1, .addTag "later"]).tags = [⟨1, "later"⟩]
      ∧ (nestedStore.run [.delete .tag 1, .addTag "later"]).links = [] := by
  have hbuild : build [("work", none), ("plans", some 1)] ["urgent"]
      [{ title := "call", folder := some 2, tags := [1] }] = .ok nestedStore := rfl
  have hs := sound_build hbuild
  exact ⟨hs, (sound_and_done_run hs _).1, rfl, rfl⟩

end Store

end NoteSearch
