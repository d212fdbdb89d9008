import NoteSearch.Proofs.Store.Descent
import NoteSearch.Proofs.Store.Keys
import NoteSearch.Store.Script

/-!
# References lead to rows

A note refers to its folder, a folder to the one that it lies in, and a link to a note and a tag. In a
*sound* store (`NoteSearch.Store.Sound`) every reference leads to a row. Numbers are given out again, so a
reference that led nowhere would come to lead to the next row that gets its number; in a sound store that
cannot be (`NoteSearch.Store.Sound.isNew`).

Edits come in two kinds. One that takes no row away can only make a store unsound through the references
that it makes, and those are checked (`NoteSearch.Store.Sound.grow`). One that takes rows away can only
make it unsound through references that stay behind, and those are taken away, or cleared, with the rows;
for folders this is because what is taken away is closed under lying in one another. Soundness after a
whole script (`NoteSearch.Store.Sound.run`) is by induction on it.
-/

namespace NoteSearch

namespace Store

/-! ### Rows and references -/

/-- The numbers of the rows of a kind. -/
def ids (s : Store) : RowKind → List Nat
  | .note => s.notes.map (·.id)
  | .tag => s.tags.map (·.id)
  | .folder => s.folders.map (·.id)

/-- **The references to rows of a kind**: those of links to notes and to tags, and those of notes and of
folders to folders. -/
def references (s : Store) : RowKind → List Nat
  | .note => s.links.map (·.note)
  | .tag => s.links.map (·.tag)
  | .folder => s.notes.filterMap (·.folder) ++ s.folders.filterMap (·.parent)

/-- **A sound store**: numbers lead to one row, every reference leads to a row, and no note carries a tag
twice. -/
structure Sound (s : Store) : Prop extends Keyed s where
  /-- Every reference leads to a row. -/
  led : ∀ kind, s.references kind ⊆ s.ids kind
  /-- No link occurs twice. -/
  links : s.links.Nodup

variable {s s' : Store}

theorem hasFolder_iff {i : Nat} : s.hasFolder i = true ↔ i ∈ s.ids .folder := by
  simp [hasFolder, ids]

theorem hasTag_iff {i : Nat} : s.hasTag i = true ↔ i ∈ s.ids .tag := by
  simp [hasTag, ids]

theorem note?_eq_none_iff {i : Nat} : s.note? i = none ↔ i ∉ s.ids .note := by
  simp [note?, ids]

theorem folder?_eq_none_iff {i : Nat} : s.folder? i = none ↔ i ∉ s.ids .folder := by
  simp [folder?, ids]

theorem mem_references_folder {i : Nat} :
    i ∈ s.references .folder ↔
      (∃ n ∈ s.notes, n.folder = some i) ∨ ∃ f ∈ s.folders, f.parent = some i := by
  rw [references, List.mem_append, List.mem_filterMap, List.mem_filterMap]

/-- **A number is new** for a kind of rows if no row of the kind has it, and nothing refers to it. -/
def IsNew (s : Store) (kind : RowKind) (id : Nat) : Prop :=
  id ∉ s.ids kind ∧ id ∉ s.references kind

/-- The empty store is sound. -/
theorem sound_empty : ({} : Store).Sound where
  toKeyed := keyed_empty
  led kind := by cases kind <;> exact List.nil_subset _
  links := List.nodup_nil

/-- **In a sound store a number that no row has is new**: nothing refers to it. -/
theorem Sound.isNew (hs : s.Sound) (kind : RowKind) {id : Nat} (h : id ∉ s.ids kind) :
    s.IsNew kind id :=
  ⟨h, fun href => h (hs.led kind href)⟩

/-! ### Edits that take no row away -/

/-- **A store that has grown is sound** if every reference in it was there before, or leads to a row. -/
theorem Sound.grow (hs : s.Sound) (hkeyed : s'.Keyed) (hids : ∀ kind, s.ids kind ⊆ s'.ids kind)
    (hends : ∀ l ∈ s'.links, l ∈ s.links ∨ l.note ∈ s'.ids .note ∧ l.tag ∈ s'.ids .tag)
    (hnotes : ∀ n ∈ s'.notes, ∀ i, n.folder = some i →
      i ∈ s.references .folder ∨ i ∈ s'.ids .folder)
    (hfolders : ∀ f ∈ s'.folders, ∀ i, f.parent = some i →
      i ∈ s.references .folder ∨ i ∈ s'.ids .folder)
    (hlinks : s'.links.Nodup) : s'.Sound where
  toKeyed := hkeyed
  links := hlinks
  led kind i hi := by
    have hled : i ∈ s.references kind ∨ i ∈ s'.ids kind → i ∈ s'.ids kind :=
      Or.rec (fun hold => hids kind (hs.led kind hold)) id
    refine hled ?_
    cases kind with
    | note =>
      obtain ⟨l, hl, rfl⟩ := List.mem_map.mp hi
      exact (hends l hl).imp (fun hold => List.mem_map_of_mem hold) And.left
    | tag =>
      obtain ⟨l, hl, rfl⟩ := List.mem_map.mp hi
      exact (hends l hl).imp (fun hold => List.mem_map_of_mem hold) And.right
    | folder =>
      obtain ⟨n, hn, hfolder⟩ | ⟨f, hf, hparent⟩ := mem_references_folder.mp hi
      · exact hnotes n hn i hfolder
      · exact hfolders f hf i hparent

/-- A note of the store refers to its folder. -/
theorem mem_references_of_note {n : Note} {i : Nat} (hn : n ∈ s.notes) (h : n.folder = some i) :
    i ∈ s.references .folder :=
  mem_references_folder.mpr (.inl ⟨n, hn, h⟩)

/-- A folder of the store refers to the one that it lies in. -/
theorem mem_references_of_folder {f : Folder} {i : Nat} (hf : f ∈ s.folders)
    (h : f.parent = some i) : i ∈ s.references .folder :=
  mem_references_folder.mpr (.inr ⟨f, hf, h⟩)

/-- Adding a folder leaves a store sound. -/
theorem Sound.addFolder (hs : s.Sound) {name : String} {parent : Option Nat} {id : Nat}
    (h : s.addFolder name parent = .ok (s', id)) : s'.Sound := by
  have hkeyed := hs.toKeyed.addFolder h
  obtain ⟨rfl, hparent, rfl⟩ := addFolder_eq_ok_iff.mp h
  refine hs.grow hkeyed (fun kind => ?_) (fun _ => .inl)
    (fun n hn i hi => .inl (mem_references_of_note hn hi)) (fun f hf i hi => ?_) hs.links
  · cases kind <;> simp [ids]
  · obtain hf | hf := List.mem_append.mp hf
    · exact .inl (mem_references_of_folder hf hi)
    · -- the new folder lies in itself, or in one that was there before
      rw [List.mem_singleton.mp hf] at hi
      have hthere := checkFolder_eq_ok_iff.mp hparent i hi
      rw [Bool.or_eq_true, beq_iff_eq, hasFolder_iff] at hthere
      obtain rfl | hold := hthere
      · right
        simp [ids]
      · right
        exact List.map_subset _ (List.subset_append_left _ _) hold

/-- Adding a tag leaves a store sound. -/
theorem Sound.addTag (hs : s.Sound) (name : String) : (s.addTag name).1.Sound := by
  refine hs.grow (hs.toKeyed.addTag name) (fun kind => ?_) (fun _ => .inl)
    (fun n hn i hi => .inl (mem_references_of_note hn hi))
    (fun f hf i hi => .inl (mem_references_of_folder hf hi)) hs.links
  cases kind <;> simp [ids, Store.addTag]

/-- The links of one note to different tags are different. -/
theorem nodup_linksOf {note : Nat} {tags : List Nat} (h : tags.Nodup) :
    (tags.map fun t => (⟨note, t⟩ : Link)).Nodup :=
  h.map fun _ _ heq => congrArg Link.tag heq

/-- Links stay different when a note that had none gets links to different tags. -/
theorem nodup_append_linksOf {links : List Link} {note : Nat} {tags : List Nat}
    (hlinks : links.Nodup) (hnone : ∀ l ∈ links, l.note ≠ note) (htags : tags.Nodup) :
    (links ++ tags.map fun t => (⟨note, t⟩ : Link)).Nodup := by
  refine List.nodup_append.mpr ⟨hlinks, nodup_linksOf htags, ?_⟩
  rintro l hl _ hown rfl
  obtain ⟨t, -, rfl⟩ := List.mem_map.mp hown
  exact hnone _ hl rfl

/-- Adding a note leaves a store sound. -/
theorem Sound.addNote (hs : s.Sound) {d : NoteDraft} {id : Nat}
    (h : s.addNote d = .ok (s', id)) : s'.Sound := by
  have hkeyed := hs.toKeyed.addNote h
  obtain ⟨rfl, hfolder, htags, rfl⟩ := addNote_eq_ok_iff.mp h
  obtain ⟨hthere, hnodup⟩ := checkTags_eq_ok_iff.mp htags
  refine hs.grow hkeyed (fun kind => ?_) (fun l hl => ?_) (fun n hn i hi => ?_)
    (fun f hf i hi => .inl (mem_references_of_folder hf hi)) ?_
  · cases kind <;> simp [ids]
  · obtain hold | hown := List.mem_append.mp hl
    · exact .inl hold
    · obtain ⟨t, ht, rfl⟩ := List.mem_map.mp hown
      refine .inr ⟨?_, hasTag_iff.mp (hthere t ht)⟩
      simp [ids]
  · obtain hn | hn := List.mem_append.mp hn
    · exact .inl (mem_references_of_note hn hi)
    · rw [List.mem_singleton.mp hn] at hi
      exact .inr (hasFolder_iff.mp (checkFolder_eq_ok_iff.mp hfolder i hi))
  · refine nodup_append_linksOf hs.links (fun l hl hnote => ?_) hnodup
    have hnew := (hs.isNew .note (nextId_not_mem _)).2
    exact hnew (hnote ▸ List.mem_map_of_mem hl)

/-- A change of a row that is not there changes nothing. -/
theorem map_changed_of_absent {α : Type} (key : α → Nat) {rows : List α} {id : Nat} {f : α → α}
    (h : id ∉ rows.map key) : rows.map (fun r => if key r = id then f r else r) = rows := by
  conv_rhs => rw [← List.map_id rows]
  refine List.map_congr_left fun r hr => if_neg fun heq => h ?_
  exact heq ▸ List.mem_map_of_mem hr

/-- Moving a folder leaves all numbers alone. -/
theorem ids_moveFolder {id : Nat} {parent : Option Nat} (h : s.moveFolder id parent = .ok s') :
    s'.ids = s.ids := by
  obtain ⟨-, rfl⟩ | ⟨-, -, rfl⟩ := moveFolder_eq_ok_iff.mp h
  · rfl
  · funext kind
    cases kind with
    | note => rfl
    | tag => rfl
    | folder => exact map_key_of_keeps Folder.id fun f => by split <;> rfl

/-- Moving a folder leaves a store sound. -/
theorem Sound.moveFolder (hs : s.Sound) {id : Nat} {parent : Option Nat}
    (h : s.moveFolder id parent = .ok s') : s'.Sound := by
  have hids := ids_moveFolder h
  have hkeyed := hs.toKeyed.moveFolder h
  obtain ⟨-, rfl⟩ | ⟨-, hparent, rfl⟩ := moveFolder_eq_ok_iff.mp h
  · exact hs
  · refine hs.grow hkeyed (fun kind => ?_) (fun _ => .inl)
      (fun n hn i hi => .inl (mem_references_of_note hn hi)) (fun f hf i hi => ?_) hs.links
    · rw [hids]
      exact List.Subset.refl _
    · obtain ⟨g, hg, rfl⟩ := List.mem_map.mp hf
      split at hi
      · rw [hids]
        exact .inr (hasFolder_iff.mp (checkFolder_eq_ok_iff.mp hparent i hi))
      · exact .inl (mem_references_of_folder hg hi)

/-- Changing a note leaves all numbers alone. -/
theorem ids_updateNote {id : Nat} {c : NoteChange} (h : s.updateNote id c = .ok s') :
    s'.ids = s.ids := by
  obtain ⟨-, rfl⟩ | ⟨-, -, -, rfl⟩ := updateNote_eq_ok_iff.mp h
  · rfl
  · funext kind
    cases kind with
    | note => exact map_key_of_keeps Note.id fun n => by split <;> rfl
    | tag => rfl
    | folder => rfl

/-- The links of a store in which a note is to carry given tags: its own are the given ones, and the others
stay. -/
theorem mem_relink_iff {note : Nat} {tags : List Nat} {l : Link} :
    l ∈ s.relink note (some tags) ↔
      l.note ≠ note ∧ l ∈ s.links ∨ l.note = note ∧ l.tag ∈ tags := by
  rw [relink, List.mem_append, List.mem_filter, List.mem_map, bne_iff_ne, and_comm]
  refine or_congr Iff.rfl ⟨?_, ?_⟩
  · rintro ⟨t, ht, rfl⟩
    exact ⟨rfl, ht⟩
  · rintro ⟨rfl, ht⟩
    exact ⟨l.tag, ht, rfl⟩

/-- Links stay different when the tags of a note are set anew. -/
theorem nodup_relink (hlinks : s.links.Nodup) {note : Nat} {tags : List Nat} (htags : tags.Nodup) :
    (s.relink note (some tags)).Nodup := by
  refine nodup_append_linksOf (hlinks.filter _) (fun l hl => ?_) htags
  exact bne_iff_ne.mp (List.mem_filter.mp hl).2

/-- Changing a note leaves a store sound. -/
theorem Sound.updateNote (hs : s.Sound) {id : Nat} {c : NoteChange}
    (h : s.updateNote id c = .ok s') : s'.Sound := by
  have hids := ids_updateNote h
  have hkeyed := hs.toKeyed.updateNote h
  obtain ⟨-, rfl⟩ | ⟨hnote, hfolder, htags, rfl⟩ := updateNote_eq_ok_iff.mp h
  · exact hs
  · obtain ⟨hthere, hnodup⟩ := checkTags_eq_ok_iff.mp htags
    refine hs.grow hkeyed (fun kind => ?_) (fun l hl => ?_) (fun n hn i hi => ?_)
      (fun f hf i hi => .inl (mem_references_of_folder hf hi)) ?_
    · rw [hids]
      exact List.Subset.refl _
    · rw [hids]
      cases hc : c.tags with
      | none =>
        rw [hc] at hl
        exact .inl hl
      | some tags =>
        rw [hc] at hl hthere
        obtain ⟨-, hold⟩ | ⟨hown, ht⟩ := mem_relink_iff.mp hl
        · exact .inl hold
        · rw [hown]
          exact .inr ⟨not_not.mp (mt note?_eq_none_iff.mpr hnote), hasTag_iff.mp (hthere _ ht)⟩
    · obtain ⟨m, hm, rfl⟩ := List.mem_map.mp hn
      rw [hids]
      split at hi
      · cases hc : c.folder with
        | none =>
          rw [changeNote, hc] at hi
          exact .inl (mem_references_of_note hm hi)
        | some folder =>
          rw [changeNote, hc] at hi
          rw [hc] at hfolder
          exact .inr (hasFolder_iff.mp (checkFolder_eq_ok_iff.mp hfolder i hi))
      · exact .inl (mem_references_of_note hm hi)
    · cases hc : c.tags with
      | none => exact hs.links
      | some tags =>
        rw [hc] at hnodup
        exact nodup_relink hs.links hnodup

/-- A new name leaves all numbers alone. -/
theorem ids_rename (kind : RowKind) (id : Nat) (name : String) :
    (s.rename kind id name).ids = s.ids := by
  funext of
  cases kind <;> cases of <;> first
    | rfl
    | exact map_key_of_keeps Note.id fun n => by split <;> rfl
    | exact map_key_of_keeps Tag.id fun t => by split <;> rfl
    | exact map_key_of_keeps Folder.id fun f => by split <;> rfl

/-- Changing rows in place leaves a reference in them alone, if no change touches it. -/
theorem filterMap_of_keeps {α : Type} (reference : α → Option Nat) {rows : List α} {f : α → α}
    (h : ∀ r, reference (f r) = reference r) :
    (rows.map f).filterMap reference = rows.filterMap reference := by
  rw [List.filterMap_map]
  exact congrArg (List.filterMap · rows) (funext h)

/-- A new name leaves all references alone. -/
theorem references_rename (kind : RowKind) (id : Nat) (name : String) :
    (s.rename kind id name).references = s.references := by
  funext of
  cases of with
  | note => cases kind <;> rfl
  | tag => cases kind <;> rfl
  | folder =>
    cases kind with
    | note =>
      exact congrArg (· ++ _) (filterMap_of_keeps Note.folder fun n => by split <;> rfl)
    | tag => rfl
    | folder =>
      exact congrArg (_ ++ ·) (filterMap_of_keeps Folder.parent fun f => by split <;> rfl)

/-- A new name leaves all links alone. -/
theorem links_rename (kind : RowKind) (id : Nat) (name : String) :
    (s.rename kind id name).links = s.links := by
  cases kind <;> rfl

/-- A new name leaves a store sound. -/
theorem Sound.rename (hs : s.Sound) (kind : RowKind) (id : Nat) (name : String) :
    (s.rename kind id name).Sound where
  toKeyed := hs.toKeyed.rename kind id name
  led of := by
    rw [ids_rename, references_rename]
    exact hs.led of
  links := by
    rw [links_rename]
    exact hs.links

/-! ### Edits that take rows away -/

/-- The numbers of the rows that are left. -/
theorem mem_map_key_filter {α : Type} {key : α → Nat} {rows : List α} {i : Nat} (stays : Nat → Bool) :
    i ∈ (rows.filter fun r => stays (key r)).map key ↔ i ∈ rows.map key ∧ stays i = true := by
  simp only [List.mem_map, List.mem_filter]
  constructor
  · rintro ⟨r, ⟨hr, hstays⟩, rfl⟩
    exact ⟨⟨r, hr, rfl⟩, hstays⟩
  · rintro ⟨⟨r, hr, rfl⟩, hstays⟩
    exact ⟨r, ⟨hr, hstays⟩, rfl⟩

/-- Deleting a note, with its links, leaves a store sound. -/
theorem Sound.deleteNote (hs : s.Sound) (id : Nat) : (s.deleteNote id).Sound where
  toKeyed := hs.toKeyed.delete .note id
  links := hs.links.filter _
  led kind i hi := by
    cases kind with
    | note =>
      obtain ⟨hold, hstays⟩ := (mem_map_key_filter (· != id)).mp hi
      exact (mem_map_key_filter (· != id)).mpr ⟨hs.led .note hold, hstays⟩
    | tag => exact hs.led .tag (List.map_subset _ (List.filter_subset_self _) hi)
    | folder =>
      obtain ⟨n, hn, hfolder⟩ | ⟨f, hf, hparent⟩ := mem_references_folder.mp hi
      · exact hs.led .folder (mem_references_of_note (List.mem_filter.mp hn).1 hfolder)
      · exact hs.led .folder (mem_references_of_folder hf hparent)

/-- Deleting a tag, with its links, leaves a store sound. -/
theorem Sound.deleteTag (hs : s.Sound) (id : Nat) : (s.deleteTag id).Sound where
  toKeyed := hs.toKeyed.delete .tag id
  links := hs.links.filter _
  led kind i hi := by
    cases kind with
    | note => exact hs.led .note (List.map_subset _ (List.filter_subset_self _) hi)
    | tag =>
      obtain ⟨hold, hstays⟩ := (mem_map_key_filter (· != id)).mp hi
      exact (mem_map_key_filter (· != id)).mpr ⟨hs.led .tag hold, hstays⟩
    | folder => exact hs.led .folder hi

/-- **Deleting a folder leaves a store sound**: what goes is closed under lying in one another, so no folder
that stays lies in one that goes, and no note that is filed stays filed in one that goes. -/
theorem Sound.deleteFolder (hs : s.Sound) (id : Nat) : (s.deleteFolder id).Sound where
  toKeyed := hs.toKeyed.delete .folder id
  links := hs.links
  led kind i hi := by
    have hstays : i ∈ s.ids .folder → i ∉ s.subtree id → i ∈ (s.deleteFolder id).ids .folder := by
      intro hthere hnot
      refine (mem_map_key_filter fun j => !(s.subtree id).contains j).mpr ⟨hthere, ?_⟩
      simp [hnot]
    cases kind with
    | note =>
      have hkeeps : (s.deleteFolder id).ids .note = s.ids .note :=
        map_key_of_keeps Note.id fun n => by split <;> rfl
      rw [hkeeps]
      exact hs.led .note hi
    | tag => exact hs.led .tag hi
    | folder =>
      obtain ⟨n, hn, hfolder⟩ | ⟨f, hf, hparent⟩ := mem_references_folder.mp hi
      · obtain ⟨m, hm, rfl⟩ := List.mem_map.mp hn
        split at hfolder
        · cases hfolder
        · next hkept =>
          rw [hfolder] at hkept
          refine hstays (hs.led .folder (mem_references_of_note hm hfolder)) fun hgone => hkept ?_
          simp [hgone]
      · obtain ⟨hmem, hkept⟩ := List.mem_filter.mp hf
        refine hstays (hs.led .folder (mem_references_of_folder hmem hparent)) fun hgone => ?_
        have hinner : f.id ∈ s.subtree id :=
          mem_subtree_iff.mpr (.inner hmem hparent (mem_subtree_iff.mp hgone))
        simp [hinner] at hkept

/-! ### One edit -/

/-- **An edit leaves a store sound.** -/
theorem Sound.edit (hs : s.Sound) {e : Edit} {added : Option Nat} (h : s.edit e = .ok (s', added)) :
    s'.Sound := by
  cases e with
  | addFolder name parent =>
    obtain ⟨⟨t, id⟩, hadd, heq⟩ := map_eq_ok_iff.mp h
    cases heq
    exact hs.addFolder hadd
  | addTag name =>
    cases h
    exact hs.addTag name
  | addNote d =>
    obtain ⟨⟨t, id⟩, hadd, heq⟩ := map_eq_ok_iff.mp h
    cases heq
    exact hs.addNote hadd
  | moveFolder id parent =>
    obtain ⟨t, hmove, heq⟩ := map_eq_ok_iff.mp h
    cases heq
    exact hs.moveFolder hmove
  | updateNote id c =>
    obtain ⟨t, hupdate, heq⟩ := map_eq_ok_iff.mp h
    cases heq
    exact hs.updateNote hupdate
  | rename kind id name =>
    cases h
    exact hs.rename kind id name
  | delete kind id =>
    cases h
    cases kind with
    | note => exact hs.deleteNote id
    | tag => exact hs.deleteTag id
    | folder => exact hs.deleteFolder id

/-- So does one that is refused, as it changes nothing. -/
theorem Sound.afterEdit (hs : s.Sound) (e : Edit) : (s.afterEdit e).Sound := by
  rw [Store.afterEdit]
  split
  · next h => exact hs.edit h
  · exact hs

/-- **A script leaves a store sound.** -/
theorem Sound.run (hs : s.Sound) (script : List Edit) : (s.run script).Sound := by
  induction script generalizing s with
  | nil => exact hs
  | cons e script ih => exact ih (hs.afterEdit e)

/-- **A store made in one go is sound.** -/
theorem sound_build {folders : List (String × Option Nat)} {tags : List String}
    {notes : List NoteDraft} {s : Store} (h : build folders tags notes = .ok s) : s.Sound := by
  obtain ⟨t, hfolders, h⟩ := bind_eq_ok_iff.mp h
  have ht : t.Sound := by
    refine foldlM_keeps (fun {_ _ _} hs hf => ?_) sound_empty hfolders
    obtain ⟨r, hadd, rfl⟩ := map_eq_ok_iff.mp hf
    exact hs.addFolder hadd
  refine foldlM_keeps (fun {_ _ _} hs hd => ?_)
    (List.foldlRecOn tags _ ht fun _ hs t _ => hs.addTag t) h
  obtain ⟨r, hadd, rfl⟩ := map_eq_ok_iff.mp hd
  exact hs.addNote hadd

end Store

end NoteSearch
