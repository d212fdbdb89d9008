import NoteSearch.Proofs.Command.Listing
import NoteSearch.Proofs.Console.Json
import NoteSearch.Proofs.Text.Lowercase

/-!
# The order of the tags of a note

The names of the tags of a note are a set, and a set may be told in any order: a view of a note keeps one of
these orders, and every other one is just as good (`NoteSearch.NoteView.rereads_view_iff`). The names are
listed without regard to case, and names that differ in case only stay in the order in which they were told.
So the list is the same however the set is told exactly if no two of its names differ in case only; and the
same goes for the row of the note in a table and for an array that has the note among its members
(`NoteSearch.Command.tellsApart_iff_printed`).
-/

namespace NoteSearch

open Text

namespace NoteView

/-- **The same note, read again.** The names of its tags may be told in another order. -/
def Rereads (again n : NoteView) : Prop :=
  ∃ tags, tags.Perm n.tags ∧ again = { n with tags }

/-- **The tags of a note are told apart**: no two of them differ in case only. -/
def TellsApart (n : NoteView) : Prop :=
  ∀ a ∈ n.tags, ∀ b ∈ n.tags, lowercase a = lowercase b → a = b

/-- A note of a store is read again with the names of its tags, each once, in any order. -/
theorem rereads_view_iff {s : Store} {n : Note} {again : NoteView} : again.Rereads (s.view n)
    ↔ ∃ tags : List String, tags.Nodup ∧ (∀ a, a ∈ tags ↔ a ∈ s.tagNames n.id)
      ∧ again = { s.view n with tags } := by
  refine exists_congr fun tags => ?_
  rw [← and_assoc, and_congr_left_iff]
  rintro -
  constructor
  · intro hperm
    exact ⟨hperm.nodup_iff.mpr (nodup_nameSet _), fun a => hperm.mem_iff.trans mem_nameSet⟩
  · rintro ⟨hnodup, hmem⟩
    exact (List.perm_ext_iff_of_nodup hnodup (nodup_nameSet _)).mpr fun a => (hmem a).trans mem_nameSet.symm

end NoteView

namespace Command

open Console

variable {names pre post : List String} {a b : String} {n again : NoteView} {notes : List NoteView}

/-! ### Names in order -/

/-- The order of a list of tags. -/
def tagLe (a b : String) : Prop :=
  lowercase a ≤ lowercase b

/-- A name that stands before another one, and does not differ from it in case only. -/
def StandsBefore (a b : String) : Prop :=
  tagLe a b ∧ (lowercase a = lowercase b → a = b)

instance : Trans StandsBefore StandsBefore StandsBefore where
  trans {a b c} hab hbc := by
    refine ⟨String.le_trans hab.1 hbc.1, fun hac => ?_⟩
    -- what stands between two names that differ in case only differs from them in case only
    have heq : lowercase a = lowercase b := String.le_antisymm hab.1 (hac ▸ hbc.1)
    exact (hab.2 heq).trans (hbc.2 (heq.symm.trans hac))

/-- The names are listed in their order. -/
theorem pairwise_listedTags (names : List String) : (listedTags names).Pairwise tagLe :=
  pairwise_mergeSort_key lowercase names

theorem listedTags_perm (names : List String) : (listedTags names).Perm names :=
  List.mergeSort_perm names _

/-- Names in their order are listed as they are. -/
theorem listedTags_of_pairwise (h : names.Pairwise tagLe) : listedTags names = names :=
  List.mergeSort_of_pairwise (h.imp fun {a b} hab => decide_eq_true (p := lowercase a ≤ lowercase b) hab)

/-- Neighbours that differ in case only can change their places. -/
theorem pairwise_swap (h : (pre ++ a :: b :: post).Pairwise tagLe) (heq : lowercase a = lowercase b) :
    (pre ++ b :: a :: post).Pairwise tagLe := by
  have hback : tagLe b a := by rw [tagLe, heq]
  simp only [List.pairwise_append, List.pairwise_cons, List.forall_mem_cons] at h ⊢
  obtain ⟨hpre, ⟨⟨-, ha⟩, hb, hpost⟩, hacross⟩ := h
  refine ⟨hpre, ⟨⟨hback, hb⟩, ha, hpost⟩, fun c hc => ?_⟩
  obtain ⟨hca, hcb, hc⟩ := hacross c hc
  exact ⟨hcb, hca, hc⟩

/-- **Names are told apart if neighbours in the list are.** -/
theorem tellsApart_of_neighbours (h : ∀ pre a b post, listedTags n.tags = pre ++ a :: b :: post →
    lowercase a = lowercase b → a = b) : n.TellsApart := by
  have hsorted := pairwise_listedTags n.tags
  have hchain : (listedTags n.tags).IsChain StandsBefore := by
    refine List.isChain_iff_forall_rel_of_append_cons_cons.mpr fun a b pre post heq => ⟨?_, h pre a b post heq⟩
    rw [heq, List.pairwise_append, List.pairwise_cons] at hsorted
    exact hsorted.2.1.1 b List.mem_cons_self
  have hsymm : Std.Symm fun a b : String => lowercase a = lowercase b → a = b :=
    ⟨fun a b hab heq => (hab heq.symm).symm⟩
  have hlisted := ((List.isChain_iff_pairwise.mp hchain).imp And.right).forall_of_forall fun _ _ _ => rfl
  exact fun a ha b hb =>
    hlisted ((listedTags_perm n.tags).mem_iff.mpr ha) ((listedTags_perm n.tags).mem_iff.mpr hb)

/-! ### The list of one note -/

/-- **The list of a set of names that are told apart** is the same, in whatever order the set is told. -/
theorem listedTags_of_rereads (h : n.TellsApart) (hagain : again.Rereads n) :
    listedTags again.tags = listedTags n.tags := by
  obtain ⟨tags, hperm, rfl⟩ := hagain
  refine List.Perm.eq_of_pairwise (fun a b ha hb hab hba => ?_) (pairwise_listedTags tags)
    (pairwise_listedTags n.tags) ?_
  · have ha' : a ∈ n.tags := hperm.mem_iff.mp ((listedTags_perm tags).mem_iff.mp ha)
    exact h a ha' b ((listedTags_perm n.tags).mem_iff.mp hb) (String.le_antisymm hab hba)
  · exact (listedTags_perm tags).trans (hperm.trans (listedTags_perm n.tags).symm)

/-- **What shows the places of neighbours** shows in which order a set is told, unless its names are told
apart. -/
theorem tellsApart_iff_shown {α : Type} (shown : List String → α)
    (hshown : ∀ pre a b post, lowercase a = lowercase b →
      shown (pre ++ b :: a :: post) = shown (pre ++ a :: b :: post) → a = b) :
    n.TellsApart ↔ ∀ again : NoteView, again.Rereads n →
      shown (listedTags again.tags) = shown (listedTags n.tags) := by
  constructor
  · exact fun h again hagain => congrArg shown (listedTags_of_rereads h hagain)
  · intro h
    refine tellsApart_of_neighbours fun pre a b post heq hab => hshown pre a b post hab ?_
    have hswapped : (pre ++ b :: a :: post).Pairwise tagLe :=
      pairwise_swap (heq ▸ pairwise_listedTags n.tags) hab
    have hperm : (pre ++ b :: a :: post).Perm n.tags :=
      ((List.Perm.swap a b post).append_left pre).trans (heq ▸ listedTags_perm n.tags)
    have hsame := h { n with tags := pre ++ b :: a :: post } ⟨_, hperm, rfl⟩
    rwa [listedTags_of_pairwise hswapped, heq] at hsame

/-- The list itself shows it. -/
theorem tellsApart_iff_listedTags :
    n.TellsApart ↔ ∀ again : NoteView, again.Rereads n → listedTags again.tags = listedTags n.tags := by
  refine tellsApart_iff_shown id fun pre a b post _ heq => ?_
  exact (List.cons.inj (List.append_cancel_left heq)).1.symm

/-! ### The row of a table -/

/-- Two neighbours that change their places in a joined text unnoticed do so between themselves. -/
theorem append_swap_of_intercalate {sep x y : List Char} {pre post : List (List Char)}
    (h : sep.intercalate (pre ++ y :: x :: post) = sep.intercalate (pre ++ x :: y :: post)) :
    y ++ (sep ++ x) = x ++ (sep ++ y) := by
  induction pre with
  | nil =>
    cases post with
    | nil => simpa [List.intercalate_cons_cons] using h
    | cons z post =>
      have hrest : y ++ (sep ++ x) ++ (sep ++ sep.intercalate (z :: post))
          = x ++ (sep ++ y) ++ (sep ++ sep.intercalate (z :: post)) := by
        simpa [List.intercalate_cons_cons] using h
      exact List.append_cancel_right hrest
  | cons p pre ih =>
    refine ih ?_
    cases pre <;> simpa [List.intercalate_cons_cons] using h

/-- What stands before a comma and has none. -/
theorem eq_nil_of_comma {x y z : List Char} (h : ',' :: x = y ++ z) (hcount : y.count ',' = 0) : y = [] := by
  cases y with
  | nil => rfl
  | cons d y =>
    rw [← (List.cons.inj h).1, List.count_cons_self] at hcount
    cases hcount

/-- Two texts with equally many commas do not change their places around a comma unnoticed. -/
theorem eq_of_append_swap {x y : List Char} (hcount : x.count ',' = y.count ',')
    (h : y ++ ([',', ' '] ++ x) = x ++ ([',', ' '] ++ y)) : x = y := by
  obtain ⟨more, rfl, hrest⟩ | ⟨more, rfl, hrest⟩ := List.append_eq_append_iff.mp h
  · rw [eq_nil_of_comma hrest (by simpa using hcount), List.append_nil]
  · rw [eq_nil_of_comma hrest (by simpa using hcount), List.append_nil]

/-- **The row of a note shows it**: the names are joined by commas, and names that differ in case only have
equally many commas of their own. -/
theorem tellsApart_iff_noteRow (snippetLength : Int) : n.TellsApart
    ↔ ∀ again : NoteView, again.Rereads n → noteRow snippetLength again = noteRow snippetLength n := by
  have hrow : ∀ again : NoteView, again.Rereads n → (noteRow snippetLength again = noteRow snippetLength n
      ↔ String.intercalate ", " (listedTags again.tags) = String.intercalate ", " (listedTags n.tags)) := by
    rintro again ⟨tags, -, rfl⟩
    simp [noteRow, NoteView.preview]
  rw [forall₂_congr hrow]
  refine tellsApart_iff_shown (String.intercalate ", ") fun pre a b post hab heq => ?_
  have hchars := congrArg String.toList heq
  simp only [String.toList_intercalate, List.map_append, List.map_cons] at hchars
  refine String.toList_inj.mp (eq_of_append_swap ?_ (append_swap_of_intercalate hchars))
  have hcomma : ','.toNat < 'A'.toNat := by decide
  rw [← count_lowercase hcomma a, ← count_lowercase hcomma b, hab]

/-! ### The notes that are printed -/

theorem noteJson_eq_iff (snippetLength : Int) (h : again.Rereads n) :
    noteJson snippetLength again = noteJson snippetLength n ↔ listedTags again.tags = listedTags n.tags := by
  obtain ⟨tags, -, rfl⟩ := h
  have htext : Function.Injective Json.text := fun _ _ => Json.text.inj
  simp [noteJson, NoteView.preview, htext.list_map.eq_iff]

/-- Notes that show the same one by one are shown as the same list. -/
theorem map_eq_of_rereads {α : Type} {f : NoteView → α} {reread : List NoteView}
    (h : List.Forall₂ NoteView.Rereads reread notes)
    (hf : ∀ n ∈ notes, ∀ again : NoteView, again.Rereads n → f again = f n) : reread.map f = notes.map f := by
  induction h with
  | nil => rfl
  | cons hagain _ ih =>
    rw [List.forall_mem_cons] at hf
    rw [List.map_cons, List.map_cons, hf.1 _ hagain, ih hf.2]

theorem isEmpty_of_rereads {reread : List NoteView} (h : List.Forall₂ NoteView.Rereads reread notes) :
    reread.isEmpty = notes.isEmpty := by
  cases h <;> rfl

/-- What the members of an array are is known from its text. -/
theorem listing_json_inj {c : Config} {reread : List NoteView} (hreread : reread ≠ []) (hnotes : notes ≠ [])
    (h : listing c .json reread = listing c .json notes) :
    reread.map (noteJson c.snippetLength) = notes.map (noteJson c.snippetLength) := by
  simp only [listing, List.isEmpty_iff, if_neg hreread, if_neg hnotes, String.append_left_inj] at h
  exact Json.list.inj (Json.print_inj h)

/-- **An array of notes shows in which order their tags are told**, unless they are told apart. -/
theorem forall_tellsApart_iff_listing (c : Config) (notes : List NoteView) :
    (∀ n ∈ notes, n.TellsApart) ↔ ∀ reread, List.Forall₂ NoteView.Rereads reread notes →
      listing c .json reread = listing c .json notes := by
  constructor
  · intro hapart reread h
    rw [listing, listing, isEmpty_of_rereads h, map_eq_of_rereads h]
    exact fun n hn again hagain =>
      (noteJson_eq_iff c.snippetLength hagain).mpr (listedTags_of_rereads (hapart n hn) hagain)
  · intro h n hn
    refine tellsApart_iff_listedTags.mpr fun again hagain => ?_
    -- only this note is told in another order
    have hothers : List.Forall₂ NoteView.Rereads (notes.map fun m => if m = n then again else m) notes := by
      rw [List.forall₂_map_left_iff, List.forall₂_same]
      intro m hm
      split
      · next heq => exact heq ▸ hagain
      · exact ⟨m.tags, .rfl, rfl⟩
    have hne : notes ≠ [] := List.ne_nil_of_mem hn
    have hmembers := listing_json_inj (by simpa using hne) hne (h _ hothers)
    rw [List.map_map, List.map_inj_left] at hmembers
    simpa [noteJson_eq_iff c.snippetLength hagain] using hmembers n hn

/-! ### The run of a search -/

/-- The notices of a search do not show in which order tags are told, if those of every note that is listed
are told apart. -/
theorem foundNotices_of_rereads {s : Settings} {r : SearchRequest} {reread : List NoteView}
    (h : List.Forall₂ NoteView.Rereads reread notes) (hapart : ∀ n ∈ r.listed s.config notes, n.TellsApart) :
    r.foundNotices s reread = r.foundNotices s notes := by
  have hlisted : List.Forall₂ NoteView.Rereads (r.listed s.config reread) (r.listed s.config notes) := by
    unfold SearchRequest.listed
    split
    · exact List.forall₂_take _ h
    · exact h
  have hrows := map_eq_of_rereads hlisted fun n hn again hagain =>
    (tellsApart_iff_noteRow s.config.snippetLength).mp (hapart n hn) again hagain
  have hjson := map_eq_of_rereads hlisted fun n hn again hagain =>
    (noteJson_eq_iff s.config.snippetLength hagain).mpr
      (listedTags_of_rereads (hapart n hn) hagain)
  have hids : (r.listed s.config reread).map idLine = (r.listed s.config notes).map idLine := by
    refine map_eq_of_rereads hlisted fun n _ again hagain => ?_
    obtain ⟨tags, -, rfl⟩ := hagain
    rfl
  unfold SearchRequest.foundNotices SearchRequest.listNotices
  rw [isEmpty_of_rereads hlisted, hlisted.length_eq, h.length_eq, hrows, hjson, hids]

/-- **The order in which the tags of a note are told shows in what is printed exactly if two of them differ in
case only.** So it is for the list of tags itself, for the row of the note in a table, and for an array of
notes; and if the tags of every note that is listed are told apart, then the whole run is the same. -/
theorem tellsApart_iff_printed (s : Settings) (r : SearchRequest) (t : Tree) (notes : List NoteView) :
    (∀ n ∈ notes, n.TellsApart
      ↔ ∀ again : NoteView, again.Rereads n → listedTags again.tags = listedTags n.tags)
    ∧ (∀ n ∈ notes, n.TellsApart ↔ ∀ again : NoteView, again.Rereads n →
        noteRow s.config.snippetLength again = noteRow s.config.snippetLength n)
    ∧ ((∀ n ∈ notes, n.TellsApart) ↔ ∀ reread, List.Forall₂ NoteView.Rereads reread notes →
        listing s.config .json reread = listing s.config .json notes)
    ∧ ∀ reread, List.Forall₂ NoteView.Rereads reread notes → (∀ n ∈ r.listed s.config notes, n.TellsApart) →
        (Ending.found reread).outcome s r t = (Ending.found notes).outcome s r t := by
  refine ⟨fun _ _ => tellsApart_iff_listedTags, fun _ _ => tellsApart_iff_noteRow s.config.snippetLength,
    forall_tellsApart_iff_listing s.config notes, fun reread h hapart => ?_⟩
  simp only [Ending.outcome, Ending.notices, Ending.exit, foundNotices_of_rereads h hapart]

/-! ### Two orders of the same names -/

/-- A note with these tags. -/
def taggedNote (tags : List String) : NoteView :=
  ⟨1, "milk", "", false, none, tags, .epoch, .epoch⟩

/-- The order of the tags `work` and `Home` does not show. -/
theorem printed_twoTags :
    let n := taggedNote ["work", "Home"]
    let again := taggedNote ["Home", "work"]
    List.Forall₂ NoteView.Rereads [again] [n]
      ∧ (∀ m ∈ ({} : SearchRequest).listed defaults [n], m.TellsApart)
      ∧ (Ending.found [again]).outcome quietSettings {} homeTree
        = (Ending.found [n]).outcome quietSettings {} homeTree := by
  intro n again
  have hagain : List.Forall₂ NoteView.Rereads [again] [n] :=
    .cons ⟨_, .swap "work" "Home" [], rfl⟩ .nil
  have hcase : lowercase "work" ≠ lowercase "Home" := by decide +kernel
  have hapart : ∀ m ∈ ({} : SearchRequest).listed defaults [n], m.TellsApart := by
    intro m hm
    rw [show m = n from List.mem_singleton.mp hm]
    simp [NoteView.TellsApart, n, taggedNote, hcase, hcase.symm]
  exact ⟨hagain, hapart, (tellsApart_iff_printed quietSettings {} homeTree [n]).2.2.2 [again] hagain hapart⟩

/-- Two tags of one note that differ in case only are listed as they are told. -/
theorem listedTags_pair (h : lowercase a = lowercase b) : listedTags [a, b] = [a, b] := by
  refine listedTags_of_pairwise (List.pairwise_pair.mpr ?_)
  rw [tagLe, h]

/-- **The tags `Work` and `work` are printed in the order in which they are told**, in the list of the tags, in
the row of the note and in an array. It can even be that only one of two orders can be laid out. -/
theorem printed_caseTwins :
    let n := taggedNote ["Work", "work"]
    let again := taggedNote ["work", "Work"]
    n.tags.Nodup ∧ again.Rereads n
      ∧ listedTags again.tags ≠ listedTags n.tags
      ∧ noteRow 80 again ≠ noteRow 80 n
      ∧ listing defaults .json [again] ≠ listing defaults .json [n]
      ∧ (Marked.ofMarkup (String.intercalate ", " (listedTags ["[x][x][/x]", "[X][X][/x]"])).toList).isOk = true
      ∧ (Marked.ofMarkup (String.intercalate ", " (listedTags ["[X][X][/x]", "[x][x][/x]"])).toList).isOk = false
    := by
  intro n again
  have hwork : lowercase "Work" = lowercase "work" := by decide +kernel
  have hmarks : lowercase "[x][x][/x]" = lowercase "[X][X][/x]" := by decide +kernel
  have hagain : again.Rereads n := ⟨_, .swap "Work" "work" [], rfl⟩
  have hlisted : listedTags again.tags ≠ listedTags n.tags := by
    rw [show listedTags n.tags = ["Work", "work"] from listedTags_pair hwork,
      show listedTags again.tags = ["work", "Work"] from listedTags_pair hwork.symm]
    decide
  refine ⟨by decide, hagain, hlisted, fun hrow => ?_, fun harray => ?_, ?_, ?_⟩
  · have hcell : String.intercalate ", " (listedTags ["work", "Work"])
        = String.intercalate ", " (listedTags ["Work", "work"]) := congrArg (·[3]!) hrow
    rw [listedTags_pair hwork, listedTags_pair hwork.symm] at hcell
    exact absurd hcell (by decide)
  · have hmembers := listing_json_inj (List.cons_ne_nil _ _) (List.cons_ne_nil _ _) harray
    exact hlisted ((noteJson_eq_iff _ hagain).mp (List.cons.inj hmembers).1)
  · rw [listedTags_pair hmarks]
    decide +kernel
  · rw [listedTags_pair hmarks.symm]
    decide +kernel

end Command

end NoteSearch
