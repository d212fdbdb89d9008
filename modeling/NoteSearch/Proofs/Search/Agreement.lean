import NoteSearch.Proofs.Search.Answer
import NoteSearch.Proofs.Store.Keys

/-!
# The two ways to search agree, and where they do not

A predicate is answered by the database or in memory, and both answers are meant to be the same list of
notes. On the side of the tables this is so: a link to a tag of some name is a tag name in the view, and a
folder of some name is the folder name in the view, because numbers lead to one row
(`NoteSearch.Store.Keyed`). Two things keep the answers apart.

* **The engine does not take every condition.** A condition that is nested too deep or has too many operands
  is refused, and the read fails where the test in memory has an answer
  (`NoteSearch.Predicate.Taken`).
* **The engine does not read every character.** A comparison reads U+FFFE and U+FFFF as the replacement
  character (`NoteSearch.Like.seen`). So the database looks for what is read of a term in what is read of
  a text (`NoteSearch.Leaf.seen`, `NoteSearch.NoteView.seen`), where the test in memory looks at the
  characters that are there.

There is nothing else, as long as a statement has no more values than can be bound to it: for notes and terms
without NUL, and patterns within the limit, the two lists are equal exactly when the condition is taken and
reading makes no difference to its answer
(`NoteSearch.Database.fetchMatching_eq_fetchMatchingInMemory_iff`), and it makes none where neither of the
two characters occurs.
-/

namespace NoteSearch

open Text

/-! ### What is read of a text -/

namespace Like

/-- **A text as a comparison reads it.** -/
def read (t : String) : String :=
  String.ofList (t.toList.map seen)

/-- **A text that is read as it is**: the two characters do not occur. -/
def Plain (t : String) : Prop :=
  '\uFFFE' ∉ t.toList ∧ '\uFFFF' ∉ t.toList

instance (t : String) : Decidable (Plain t) :=
  inferInstanceAs (Decidable (_ ∧ _))

theorem read_of_plain {t : String} (h : Plain t) : read t = t := by
  rw [read, map_seen_eq_self h.1 h.2, String.ofList_toList]

/-- **A pattern finds what is read of a term in what is read of a text**, in either case, if there is no
NUL in them. -/
theorem finds_eq_hasInfix_read {term t : String} (hterm : '\x00' ∉ term.toList)
    (ht : '\x00' ∉ t.toList) :
    finds term.toList t.toList
      = hasInfix (foldCase (read term)).toList (foldCase (read t)).toList := by
  rw [finds_eq hterm, visible_of_not_mem ht, toList_foldCase, toList_foldCase, read, read,
    String.toList_ofList, String.toList_ofList]

end Like

/-- What is read of a leaf. -/
def Leaf.seen : Leaf → Leaf
  | text term => text (Like.read term)
  | l => l

/-- What is read of a note. -/
def NoteView.seen (v : NoteView) : NoteView :=
  { v with title := Like.read v.title, body := Like.read v.body }

/-! ### The tables and the view -/

namespace Store.Keyed

variable {s : Store} {n : Note}

/-- **A tag of a name is linked to a note** exactly when the view has a tag of this name. -/
theorem linksTag_eq (hs : s.Keyed) (name : String) :
    Condition.linksTag s n name = (Leaf.tag name).test (s.view n) := by
  refine Bool.eq_iff_iff.mpr ?_
  simp only [Condition.linksTag, Condition.sameName, Leaf.test, List.any_eq_true, Bool.and_eq_true,
    beq_iff_eq]
  constructor
  · rintro ⟨l, hl, hnote, t, ht, hid, hname⟩
    exact ⟨t.name, hs.mem_tags_view.mpr ⟨l, hl, hnote, t, ht, hid, rfl⟩, hname⟩
  · rintro ⟨x, hx, hname⟩
    obtain ⟨l, hl, hnote, t, ht, hid, rfl⟩ := hs.mem_tags_view.mp hx
    exact ⟨l, hl, hnote, t, ht, hid, hname⟩

/-- **The folder of a note has a name** exactly when the view has a folder of this name. -/
theorem linksFolder_eq (hs : s.Keyed) (name : String) :
    Condition.linksFolder s n name = (Leaf.folder name).test (s.view n) := by
  refine Bool.eq_iff_iff.mpr ?_
  simp only [Condition.linksFolder, Condition.sameName, Leaf.test, List.any_eq_true, Bool.and_eq_true,
    beq_iff_eq, Option.any_eq_true]
  constructor
  · rintro ⟨f, hf, hid, hname⟩
    exact ⟨f.name, hs.folder_view.mpr ⟨f, hf, hid, rfl⟩, hname⟩
  · rintro ⟨x, hx, hname⟩
    obtain ⟨f, hf, hid, rfl⟩ := hs.folder_view.mp hx
    exact ⟨f, hf, hid, hname⟩

/-- **The database replies to a leaf** as the test in memory does, on what is read of the leaf and of the
note. -/
theorem replies_eq (hs : s.Keyed) (htitle : '\x00' ∉ n.title.toList) (hbody : '\x00' ∉ n.body.toList)
    {l : Leaf} (hl : ∀ term, l = .text term → '\x00' ∉ term.toList) :
    s.replies n l = l.seen.test (s.view n).seen := by
  cases l with
  | tag name => exact hs.linksTag_eq name
  | folder name => exact hs.linksFolder_eq name
  | text term =>
    have hterm : '\x00' ∉ term.toList := hl term rfl
    show (Like.finds term.toList n.title.toList || Like.finds term.toList n.body.toList) = _
    rw [Like.finds_eq_hasInfix_read hterm htitle, Like.finds_eq_hasInfix_read hterm hbody]
    rfl
  | pinned flag => rfl

end Store.Keyed

/-! ### Agreement -/

namespace Predicate

/-- **The engine takes the condition of a predicate**, if there is one. -/
def Taken (p : Predicate) : Prop :=
  ∀ c ∈ p.clause, c.accept = .ok ()

/-- **Reading makes no difference** to the answer of a predicate on the notes of a store. -/
def ReadAlike (p : Predicate) (s : Store) : Prop :=
  ∀ v ∈ s.fetchAll, (p.answer fun l => l.seen.test v.seen) = p.answer fun l => l.test v

/-- The terms in a predicate. -/
def terms (p : Predicate) : List String :=
  (p.clause.map Condition.terms).getD []

/-- **What a comparison can be relied on for**: the patterns are within the limit, and neither a term nor a
note has a NUL, at which the engine would stop. -/
structure Comparable (p : Predicate) (s : Store) : Prop where
  /-- Terms have no NUL, and their patterns are within the limit. -/
  terms : ∀ t ∈ p.terms, '\x00' ∉ t.toList ∧ Like.Fitting t
  /-- Notes have no NUL. -/
  notes : ∀ n ∈ s.active, '\x00' ∉ n.title.toList ∧ '\x00' ∉ n.body.toList

/-- Reading makes no difference where neither of the two characters occurs. -/
theorem readAlike_of_plain {p : Predicate} {s : Store} (hterms : ∀ t ∈ p.terms, Like.Plain t)
    (hnotes : ∀ n ∈ s.active, Like.Plain n.title ∧ Like.Plain n.body) : p.ReadAlike s := by
  intro v hv
  obtain ⟨n, hn, rfl⟩ := List.mem_map.mp hv
  have hseen : (s.view n).seen = s.view n := by
    have htitle : Like.read (s.view n).title = (s.view n).title := Like.read_of_plain (hnotes n hn).1
    have hbody : Like.read (s.view n).body = (s.view n).body := Like.read_of_plain (hnotes n hn).2
    rw [NoteView.seen, htitle, hbody]
  rw [hseen]
  obtain ⟨clause, test⟩ := p
  cases clause with
  | none => rfl
  | some c =>
    -- only terms are read, all other leaves stay what they are
    refine Condition.answer_congr (fun t ht => ?_) fun l hl => ?_
    · show (Leaf.text (Like.read t)).test _ = _
      rw [Like.read_of_plain (hterms t ht)]
    · cases l with
      | text term => exact absurd rfl (hl term)
      | tag | folder | pinned => rfl

end Predicate

/-- Two filters keep the same members of a list exactly when they agree on its members. -/
theorem filter_eq_filter_iff {α : Type} {p q : α → Bool} {l : List α} :
    l.filter p = l.filter q ↔ ∀ a ∈ l, p a = q a := by
  refine ⟨fun h a ha => ?_, List.filter_congr⟩
  have hmem : a ∈ l.filter p ↔ a ∈ l.filter q := by rw [h]
  rw [List.mem_filter, List.mem_filter, and_iff_right ha, and_iff_right ha] at hmem
  exact Bool.eq_iff_iff.mpr hmem

/-- Notes that are in the order of a list already, and not in the trash, are listed as they are. -/
theorem Store.active_eq_notes (s : Store) (hall : ∀ n ∈ s.notes, n.isActive = true)
    (hsorted : s.notes.Pairwise fun m n => m.precedes n = true) : s.active = s.notes := by
  rw [active, List.filter_eq_self.mpr hall, List.mergeSort_of_pairwise hsorted]

namespace Database

variable {s : Store} {p : Predicate}

/-- **What the database finds**, if the engine takes the condition: the notes for which the answer on what
is read of them is yes. -/
theorem fetchMatching_eq_filter (hs : s.Keyed) (hcomp : p.Comparable s) (htaken : p.Taken) :
    (holding s).fetchMatching p
      = .ok (s.fetchAll.filter fun v => p.answer fun l => l.seen.test v.seen) := by
  obtain ⟨hterms, hnotes⟩ := hcomp
  obtain ⟨clause, test⟩ := p
  cases clause with
  | none =>
    rw [fetchMatching_eq_fetchAll rfl]
    exact congrArg Except.ok (List.filter_eq_self.mpr fun _ _ => rfl).symm
  | some c =>
    rw [fetchMatching_eq rfl (htaken c rfl) fun t ht => (hterms t ht).2, Store.fetchAll,
      List.filter_map]
    congr 2
    refine List.filter_congr fun n hn => Condition.answer_congr (fun t ht => ?_) fun l hl => ?_
    · refine hs.replies_eq (hnotes n hn).1 (hnotes n hn).2 fun term hterm => ?_
      cases hterm
      exact (hterms t ht).1
    · exact hs.replies_eq (hnotes n hn).1 (hnotes n hn).2 fun term hterm => absurd hterm (hl term)

/-- **When the two ways to search agree.** The test in memory always has an answer. The database gives the
same list exactly when the engine takes the condition and reading makes no difference; and reading makes no
difference where neither of the two characters occurs. -/
theorem fetchMatching_eq_fetchMatchingInMemory_iff (hs : s.Keyed) (hp : p.Built)
    (hcomp : p.Comparable s) :
    (holding s).fetchMatchingInMemory p = .ok (s.fetchAll.filter p.test)
      ∧ ((holding s).fetchMatching p = (holding s).fetchMatchingInMemory p ↔
          p.Taken ∧ p.ReadAlike s)
      ∧ ((∀ t ∈ p.terms, Like.Plain t) →
          (∀ n ∈ s.active, Like.Plain n.title ∧ Like.Plain n.body) → p.ReadAlike s) := by
  have htest : p.test = fun v => p.answer fun l => l.test v := funext hp.coherent
  refine ⟨rfl, ⟨fun h => ?_, fun ⟨htaken, halike⟩ => ?_⟩, Predicate.readAlike_of_plain⟩
  · -- the test in memory has an answer, so a read that gives the same has not failed
    have htaken : p.Taken := by
      intro c hc
      cases haccept : c.accept with
      | ok => rfl
      | error fault =>
        rw [fetchMatching_eq_error hc haccept] at h
        cases h
    rw [fetchMatching_eq_filter hs hcomp htaken, fetchMatchingInMemory_eq, htest] at h
    exact ⟨htaken, filter_eq_filter_iff.mp (Except.ok.inj h)⟩
  · rw [fetchMatching_eq_filter hs hcomp htaken, fetchMatchingInMemory_eq, htest]
    exact congrArg Except.ok (filter_eq_filter_iff.mpr halike)

/-- Two notes with a tag in two spellings, one of them with a character that has to be marked. -/
def twoNotes : Store where
  tags := [⟨1, "Draft"⟩, ⟨2, "draft"⟩]
  notes := [⟨1, "500 done", "", none, true, .epoch, .epoch, none⟩,
    ⟨2, "50% done", "", none, false, .epoch, .epoch, none⟩]
  links := [⟨1, 1⟩, ⟨2, 1⟩, ⟨2, 2⟩]

/-- The notes with the tag and without the marked term, or no note at all. -/
def draftNotDone : Predicate :=
  ((Predicate.ofExpr (.leaf (.tag "DRAFT"))).conj
    (Predicate.ofExpr (.leaf (.text "50%"))).neg).disj Predicate.everything.neg

/-- The two ways agree on them, and find one of the two notes. -/
theorem fetchMatching_eq_fetchMatchingInMemory_twoNotes :
    twoNotes.Keyed ∧ draftNotDone.Built ∧ draftNotDone.Comparable twoNotes
      ∧ (holding twoNotes).fetchMatching draftNotDone
          = (holding twoNotes).fetchMatchingInMemory draftNotDone
      ∧ (holding twoNotes).fetchMatching draftNotDone
          = .ok [twoNotes.view twoNotes.notes[0]] := by
  have hactive : twoNotes.active = twoNotes.notes := twoNotes.active_eq_notes (by decide) (by decide)
  have hkeyed : twoNotes.Keyed := ⟨by decide, by decide, by decide⟩
  have hbuilt : draftNotDone.Built :=
    ((Predicate.Built.ofExpr _).conj (Predicate.Built.ofExpr _).neg).disj
      Predicate.Built.everything.neg
  have hterm : ∀ t ∈ draftNotDone.terms, '\x00' ∉ t.toList ∧ Like.Fitting t ∧ Like.Plain t := by
    intro t ht
    rw [List.mem_singleton.mp (show t ∈ ["50%"] from ht)]
    exact ⟨by decide, by unfold Like.Fitting; decide, by decide⟩
  have hcomp : draftNotDone.Comparable twoNotes := by
    refine ⟨fun t ht => ⟨(hterm t ht).1, (hterm t ht).2.1⟩, ?_⟩
    rw [hactive]
    decide
  have hplain : ∀ n ∈ twoNotes.active, Like.Plain n.title ∧ Like.Plain n.body := by
    rw [hactive]
    decide
  obtain ⟨-, hiff, halike⟩ := fetchMatching_eq_fetchMatchingInMemory_iff hkeyed hbuilt hcomp
  refine ⟨hkeyed, hbuilt, hcomp,
    hiff.mpr ⟨?_, halike (fun t ht => (hterm t ht).2.2) hplain⟩, ?_⟩
  · intro c hc
    cases hc
    rfl
  · rw [fetchMatching_eq rfl rfl fun t ht => (hterm t ht).2.1, hactive]
    rfl

/-- A note whose title is the replacement character. -/
def replaced : Store where
  notes := [⟨1, "\uFFFD", "", none, true, .epoch, .epoch, none⟩]

/-- `AND` and `OR` in turn, each inside the other. -/
def ladder : Nat → Expr
  | 0 => .leaf (.pinned true)
  | k + 1 => .or (.leaf (.pinned true)) (.and (.leaf (.pinned true)) (ladder k))

/-- **The two ways do not always agree**: one finds a character that is not there, and it has no answer
where the condition is nested deeply. -/
theorem fetchMatching_ne_fetchMatchingInMemory :
    let term := Predicate.ofExpr (.leaf (.text "\uFFFE"))
    let deep := Predicate.ofExpr (ladder 30)
    replaced.Keyed ∧ term.Built ∧ term.Comparable replaced
      ∧ deep.Built ∧ deep.Comparable replaced
      ∧ (holding replaced).fetchMatching term = .ok [replaced.view replaced.notes[0]]
      ∧ (holding replaced).fetchMatchingInMemory term = .ok []
      ∧ (holding replaced).fetchMatching deep = .error (.unreadable .note .stackOverflow)
      ∧ (holding replaced).fetchMatchingInMemory deep = .ok [replaced.view replaced.notes[0]] := by
  intro term deep
  have hactive : replaced.active = replaced.notes := replaced.active_eq_notes (by decide) (by decide)
  have hnul : ∀ n ∈ replaced.active, '\x00' ∉ n.title.toList ∧ '\x00' ∉ n.body.toList := by
    rw [hactive]
    decide
  have hterm : ∀ t ∈ term.terms, '\x00' ∉ t.toList ∧ Like.Fitting t := by
    intro t ht
    rw [List.mem_singleton.mp (show t ∈ ["\uFFFE"] from ht)]
    exact ⟨by decide, by unfold Like.Fitting; decide⟩
  have hdeep : ∀ t ∈ deep.terms, '\x00' ∉ t.toList ∧ Like.Fitting t := by
    have hnone : deep.terms = [] := by decide +kernel
    rw [hnone]
    exact fun t ht => absurd ht List.not_mem_nil
  refine ⟨⟨by decide, by decide, by decide⟩, .ofExpr _, ⟨hterm, hnul⟩, .ofExpr _, ⟨hdeep, hnul⟩,
    ?_, ?_, fetchMatching_eq_error rfl (by decide +kernel), ?_⟩
  · rw [fetchMatching_eq rfl rfl fun t ht => (hterm t ht).2, hactive]
    rfl
  · rw [fetchMatchingInMemory_eq, Store.fetchAll, hactive]
    rfl
  · rw [fetchMatchingInMemory_eq, Store.fetchAll, hactive]
    rfl

end Database

end NoteSearch
