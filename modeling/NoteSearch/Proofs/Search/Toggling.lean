import NoteSearch.Proofs.Query.RoundTrip
import NoteSearch.Proofs.Search.Row

/-!
# Carrying chips over, and back

Switching to text mode writes the chips as a query, and switching back reads them from it. This file
says what survives. Everything does that a row of chips can say: if no name has a quote in it, the
query asks for what the chips ask for (`NoteSearch.Session.expr_toText`), a search finds the same in
both modes (`NoteSearch.Session.search_toText_eq`), and the chips come back in their order.

What does not survive is what the query cannot say. A single chip is written without an operator, so
the operator is `AND` afterwards, whatever it was. And an empty row is not written at all: the query
that was there stays, and what comes back is the row of that query, if it has one. Apart from these
two cases a session is the same after both switches (`NoteSearch.Session.alike_toggled_iff`, which
leaves a query that cannot be read aside), and goes on like one that was never switched
(`NoteSearch.Session.Alike.afterStep`).

That no name has a quote in it need not be assumed of a session, only of what is entered: names that
come from a query have none, because the query language cannot quote a quote
(`NoteSearch.Sitting.writable_run`).
-/

namespace NoteSearch

open Text

/-! ### Chips that can be written -/

namespace Chip

variable {c : Chip} {chips : List Chip} {j : Junction} {e : Expr}

/-- A chip can be written when it has the name that it needs, and there is no quote in the name. -/
theorem spellable_leaf_iff :
    c.leaf.Spellable ↔ c.isNamed = true ∧ (c.kind ≠ .pinned → '"' ∉ c.value.toList) := by
  rw [isNamed_iff]
  cases hkind : c.kind <;> simp [leaf, hkind, Leaf.Spellable]

theorem spellable_of_combine (h : combine j chips = some e) :
    e.Spellable ↔ ∀ c ∈ chips, c.leaf.Spellable := by
  rw [Expr.Spellable, leaves_of_combine h, List.forall_mem_map]

end Chip

namespace Session

variable {src : Source} {s s' t : Session} {u : Step} {e : Expr}

/-! ### To text mode -/

/-- **The chips of a session can be written.** -/
def Writable (s : Session) : Prop :=
  ∀ c ∈ s.chips, c.leaf.Spellable

theorem exists_chipsExpr (h : s.chips ≠ []) : ∃ e, s.chipsExpr = some e :=
  Option.ne_none_iff_exists'.mp (mt Chip.combine_eq_none_iff.mp h)

theorem toText_of_chipsExpr (h : s.chipsExpr = some e) :
    s.toText = { s with mode := .text, query := e.text } := by
  rw [toText, h]

/-- **What is written is read**: the query asks for what the chips ask for. -/
theorem ofText?_toText (h : s.chipsExpr = some e) (hw : s.Writable) :
    Expr.ofText? s.toText.query = some e := by
  rw [toText_of_chipsExpr h]
  exact ofText?_text ((Chip.spellable_of_combine h).mpr hw)

theorem expr_toText (h : s.chipsExpr = some e) (hw : s.Writable) : s.toText.expr = some e :=
  ofText?_toText h hw

/-! ### And back -/

/-- A query with a row of chips is carried over. -/
theorem toVisual_of_row {chips : List Chip} {j : Junction}
    (h : rowOfQuery? s.query = some (chips, j)) :
    s.toVisual = { s with mode := .visual, chips, junction := j } := by
  obtain ⟨e, he, -⟩ := combine_of_rowOfQuery? h
  rw [s.toVisual_of_ofText? he, carriedOver, h]

/-- The row of the query that was written: the chips again, with the operator that can be seen. -/
theorem rowOfQuery?_toText (h : s.chipsExpr = some e) (hw : s.Writable) :
    rowOfQuery? s.toText.query =
      some (s.chips.map Chip.normalized, if s.chips.length = 1 then .and else s.junction) := by
  rw [rowOfQuery?, ofText?_toText h hw]
  exact Chip.recover_of_combine h fun c hc => (Chip.spellable_leaf_iff.mp (hw c hc)).1

/-- **A session after both switches.** -/
def toggled (s : Session) : Session :=
  s.toText.toVisual

theorem toggled_of_chipsExpr (h : s.chipsExpr = some e) (hw : s.Writable) :
    s.toggled = { s with
      mode := .visual
      query := e.text
      chips := s.chips.map Chip.normalized
      junction := if s.chips.length = 1 then .and else s.junction } := by
  rw [toggled, toVisual_of_row (rowOfQuery?_toText h hw), toText_of_chipsExpr h]

/-- **The chips ask for the same after both switches**, under whichever operator they have then. -/
theorem chipsExpr_toggled (h : s.chips ≠ []) (hw : s.Writable) :
    s.toggled.chipsExpr = s.chipsExpr := by
  obtain ⟨e, he⟩ := exists_chipsExpr h
  obtain ⟨f, hf, hrow⟩ := combine_of_rowOfQuery? (rowOfQuery?_toText he hw)
  rw [ofText?_toText he hw, Option.some.injEq] at hf
  rw [toggled_of_chipsExpr he hw, he, hf]
  exact hrow

theorem junction_toggled (h : s.chips ≠ []) (hw : s.Writable) :
    s.toggled.junction = if s.chips.length = 1 then .and else s.junction := by
  obtain ⟨e, he⟩ := exists_chipsExpr h
  rw [toggled_of_chipsExpr he hw]

/-- **An empty row is not written**: what comes back is the row of the query that was there. A query
that cannot be read makes no difference to an empty row that is joined by `AND`. -/
theorem toggled_of_no_chips (h : s.chips = []) (hread : Unreadable s.query → s.junction = .and) :
    s.toggled = s.carriedOver := by
  have htext : s.toText = { s with mode := .text } := by
    rw [toText, chipsExpr, h]
    rfl
  rw [toggled, htext]
  by_cases hun : Unreadable s.query
  · have hemptied := ({ s with mode := .text } : Session).toVisual_of_unreadable hun
    rw [hemptied, s.carriedOver_of_unreadable hun, ← hread hun, ← h]
  · exact ({ s with mode := .text } : Session).toVisual_of_not_unreadable hun

/-! ### Sessions that go on alike -/

/-- **The chips of two sessions ask for the same**, and will do so whatever is added to them. -/
structure Alike (s t : Session) : Prop where
  /-- The same is looked for. -/
  chipsExpr : t.chipsExpr = s.chipsExpr
  /-- Further chips are joined in the same way. -/
  junction : t.junction = s.junction

/-- **When both switches change nothing**: a single chip was joined by `AND`, and where there are no
chips, the query has none either. Left aside is the query that cannot be read, in a session without
chips whose operator is `OR`. -/
theorem alike_toggled_iff (hw : s.Writable)
    (hread : s.chips = [] → Unreadable s.query → s.junction = .and) :
    s.Alike s.toggled ↔ (s.chips.length = 1 → s.junction = .and) ∧
      (s.chips = [] → rowOfQuery? s.query = none) := by
  by_cases hchips : s.chips = []
  · have hnone : s.chipsExpr = none := Chip.combine_eq_none_iff.mpr hchips
    have hlen : s.chips.length ≠ 1 := by simp [hchips]
    have htoggled : s.toggled = s.carriedOver := toggled_of_no_chips hchips (hread hchips)
    cases hrow : rowOfQuery? s.query with
    | none =>
      rw [htoggled, carriedOver, hrow]
      exact iff_of_true ⟨rfl, rfl⟩ ⟨fun h => absurd h hlen, fun _ => rfl⟩
    | some row =>
      -- the row that the query has asks for something, and the empty row does not
      obtain ⟨e, -, hcombine⟩ := combine_of_rowOfQuery? hrow
      have hsome : s.toggled.chipsExpr = some e := by
        rw [htoggled, carriedOver, hrow]
        exact hcombine
      refine iff_of_false (fun h => ?_) fun h => absurd (h.2 hchips) (by simp)
      rw [h.chipsExpr, hnone] at hsome
      exact absurd hsome (by simp)
  · have hexpr := chipsExpr_toggled hchips hw
    have hjunction := junction_toggled hchips hw
    refine ⟨fun h => ⟨fun hlen => ?_, fun hnil => absurd hnil hchips⟩, fun h => ⟨hexpr, ?_⟩⟩
    · rw [← h.junction, hjunction, if_pos hlen]
    · rw [hjunction]
      split
      · next hlen => exact (h.1 hlen).symm
      · rfl

/-- **A step that adds a chip.** -/
def Step.AddsChip : Step → Prop
  | addChip _ _ _ | addPinned _ => True
  | _ => False

/-- Adding a chip adds the same chip, or fails for the same reason, in every session. -/
theorem exists_edit_eq_pushChip (h : u.AddsChip) :
    u.searches = true ∧ ∃ chip, ∀ s, edit s u = s.pushChip chip := by
  cases u with
  | addChip kind value negated => exact ⟨rfl, Chip.make kind value negated, fun _ => rfl⟩
  | addPinned flag => exact ⟨rfl, .ok (Chip.ofPinned flag false), fun _ => rfl⟩
  | _ => exact h.elim

/-- **Sessions that go on alike**: in visual mode, a further chip makes the same of two sessions whose
chips ask for the same, and of what they have found. -/
theorem Alike.afterStep (h : s.Alike t) (hs : s.mode = .visual) (ht : t.mode = .visual)
    (hfind : t.findings = s.findings) (hu : u.AddsChip) (src : Source) :
    (t.afterStep src u).1.chipsExpr = (s.afterStep src u).1.chipsExpr ∧
      (t.afterStep src u).1.findings = (s.afterStep src u).1.findings ∧
      (t.afterStep src u).2 = (s.afterStep src u).2 := by
  obtain ⟨hsearches, chip, hchip⟩ := exists_edit_eq_pushChip hu
  cases chip with
  | error fault =>
    have hrefused (r : Session) : r.afterStep src u = (r, []) := by
      rw [Session.afterStep, step_eq, hchip]
      rfl
    rw [hrefused, hrefused]
    exact ⟨h.chipsExpr, hfind, rfl⟩
  | ok c =>
    have hadded (r : Session) : r.afterStep src u = { r with chips := r.chips ++ [c] }.search src := by
      rw [Session.afterStep, step_eq, hchip]
      exact if_pos hsearches
    have hexpr : ({ t with chips := t.chips ++ [c] } : Session).chipsExpr =
        ({ s with chips := s.chips ++ [c] } : Session).chipsExpr := by
      have hrow : Chip.combine t.junction t.chips = Chip.combine s.junction s.chips := h.chipsExpr
      rw [h.junction] at hrow
      exact h.junction ▸ Chip.combine_append_congr hrow c
    rw [hadded, hadded, chipsExpr_congr (inputs_search _ _), chipsExpr_congr (inputs_search _ _)]
    refine ⟨hexpr, findings_search_congr src (needsSource_of_visual hs) (needsSource_of_visual ht) ?_⟩
    rw [expr, expr, hs, ht]
    exact hexpr

/-! ### The names of a session can be written -/

/-- **No name with a quote in it is entered.** -/
def Step.QuoteFree : Step → Prop
  | addChip kind value _ => kind ≠ .pinned → '"' ∉ value.toList
  | _ => True

/-- **What a step brings can be written**: a name that comes from a query was written there. -/
theorem spellable_of_brings {c : Chip} (hu : u.QuoteFree) (h : s.Brings u c) : c.leaf.Spellable := by
  cases h with
  | made hmake =>
    obtain ⟨rfl, hnamed⟩ := isNamed_of_make hmake
    exact Chip.spellable_leaf_iff.mpr ⟨hnamed, hu⟩
  | pinned => trivial
  | recovered hrow hc =>
    obtain ⟨e, he, hcombine⟩ := combine_of_rowOfQuery? hrow
    exact (Chip.spellable_of_combine hcombine).mp (spellable_of_ofText? he) c hc

theorem writable_afterStep (src : Source) (hu : u.QuoteFree) (hs : s.Writable) :
    (s.afterStep src u).1.Writable :=
  forall_chips_afterStep src hs fun _ => spellable_of_brings hu

/-! ### The search is the same in both modes -/

variable (s) in
/-- **Carrying the chips over preserves the search.** Let there be chips, each with the name that it needs
(`NoteSearch.Chip.make` makes no others), and no quote in a name. In text mode the session then looks for
what the chips ask for; a search finds the same or reports the same as it would in visual mode, with one
read of the same kind; and back in visual mode, with or without that search in between, the chips are
there again, and so is their operator if there are two of them. -/
theorem search_toText_eq (src : Source) (hne : s.chips ≠ [])
    (hnamed : ∀ c ∈ s.chips, c.isNamed = true)
    (hquote : ∀ c ∈ s.chips, c.kind ≠ .pinned → '"' ∉ c.value.toList) :
    s.toText.expr = Chip.combine s.junction s.chips ∧
    (s.toText.search src).1.findings = ({ s with mode := .visual }.search src).1.findings ∧
    (s.toText.search src).2 = [.fetchMatching] ∧
    ({ s with mode := .visual }.search src).2 = [.fetchMatching] ∧
    ∀ t ∈ [s.toText, (s.toText.search src).1], t.toVisual.mode = .visual ∧
      t.toVisual.chips = s.chips.map Chip.normalized ∧
      (2 ≤ s.chips.length → t.toVisual.junction = s.junction) := by
  have hw : s.Writable := fun c hc => Chip.spellable_leaf_iff.mpr ⟨hnamed c hc, hquote c hc⟩
  obtain ⟨e, he⟩ := exists_chipsExpr hne
  have htext : s.toText.expr = some e := expr_toText he hw
  have hneed : s.toText.NeedsSource := needsSource_of_ofText? (ofText?_toText he hw)
  have hneed' : ({ s with mode := .visual } : Session).NeedsSource := needsSource_of_visual rfl
  obtain ⟨hfind, hreads⟩ := findings_search_congr src hneed' hneed (htext.trans he.symm)
  have hone : (s.toText.search src).2 = [.fetchMatching] := by
    rw [search_of_needsSource hneed, htext, reads_consult]
    rfl
  refine ⟨htext.trans he.symm, hfind, hone, hreads ▸ hone, fun t ht => ?_⟩
  have hin : t.inputs = s.toText.inputs := by
    rcases List.mem_cons.mp ht with rfl | ht
    · rfl
    · rw [List.mem_singleton.mp ht]
      exact inputs_search src s.toText
  have hquery : t.query = s.toText.query := congrArg Inputs.query hin
  rw [toVisual_of_row (hquery ▸ rowOfQuery?_toText he hw)]
  refine ⟨rfl, rfl, fun hlen => if_neg ?_⟩
  omega

/-- Names that only fit in quotes, a chip that excludes, and a value for the pinned state that is neither
`true` nor `false`, in a session whose query is about something else. -/
theorem search_toText_eq_threeChips :
    let s : Session := { mode := .text, query := "NOT", junction := .or, chips :=
      [⟨.tag, "co op", false⟩, ⟨.folder, "(x) AND", true⟩, ⟨.pinned, "maybe", false⟩] }
    let src : Source := ⟨.holding {}, none⟩
    s.toText.query = "((tag:\"co op\" OR NOT folder:\"(x) AND\") OR pinned:false)" ∧
    s.toText.expr = Chip.combine s.junction s.chips ∧
    (s.toText.search src).1.findings = ({ s with mode := .visual }.search src).1.findings ∧
    (s.toText.search src).2 = [.fetchMatching] ∧ s.toText.toVisual.junction = .or ∧
    s.toText.toVisual.chips =
      [⟨.tag, "co op", false⟩, ⟨.folder, "(x) AND", true⟩, ⟨.pinned, "false", false⟩] := by
  intro s src
  obtain ⟨hexpr, hfind, hreads, -, hback⟩ := search_toText_eq s src (by decide) (by decide) (by decide)
  obtain ⟨-, hchips, hjunction⟩ := hback s.toText (.head _)
  exact ⟨by decide +kernel, hexpr, hfind, hreads, hjunction (by decide), hchips⟩

theorem findings_toggled (s : Session) : s.toggled.findings = s.findings := by
  obtain ⟨chips, junction, h⟩ := s.toText.exists_toVisual_eq
  rw [toggled, h]
  rfl

theorem mode_toggled (s : Session) : s.toggled.mode = .visual := by
  obtain ⟨chips, junction, h⟩ := s.toText.exists_toVisual_eq
  rw [toggled, h]

end Session

namespace Sitting

/-- **In every run without a quote in an entered name, the chips can be written.** -/
theorem writable_run (source : Source) (junction : Junction) {events : List Event}
    (h : ∀ u, .step u ∈ events → u.QuoteFree) :
    ((new source junction).run events).session.Writable :=
  run_keeps Session.Writable Session.Step.QuoteFree
    (fun src _ _ hu hs => Session.writable_afterStep src hu hs) (fun _ hc => absurd hc List.not_mem_nil) h

/-- **What toggling the modes loses, and what it does not.** After any run without a quote in an entered
name, let the session be in visual mode, and switch to text mode and back. Where there are chips, they
ask for the same as before, and their operator is the same unless there is only one of them; then it is
`AND`. Where there are none, the chips and the operator are those of the query that was there, if it has
a row. Nothing else is lost, a query that cannot be read left aside where there is no chip and the
operator is `OR`; and where nothing is lost, a further chip leads to the same chips, findings and reads
as without the switches. -/
theorem alike_toggled_run_iff (source : Source) (junction : Junction) (events : List Event)
    (hquote : ∀ u, .step u ∈ events → u.QuoteFree)
    (hvisual : ((new source junction).run events).session.mode = .visual) :
    let s := ((new source junction).run events).session
    (s.chips ≠ [] → s.toggled.chipsExpr = s.chipsExpr ∧
      s.toggled.junction = if s.chips.length = 1 then .and else s.junction) ∧
    (s.chips = [] → ∀ chips j, rowOfQuery? s.query = some (chips, j) →
      s.toggled.chips = chips ∧ s.toggled.junction = j) ∧
    ((s.chips = [] → Unreadable s.query → s.junction = .and) →
      (s.Alike s.toggled ↔ (s.chips.length = 1 → s.junction = .and) ∧
        (s.chips = [] → rowOfQuery? s.query = none))) ∧
    (s.Alike s.toggled → ∀ (src : Source) (u : Session.Step), u.AddsChip →
      (s.toggled.afterStep src u).1.chipsExpr = (s.afterStep src u).1.chipsExpr ∧
      (s.toggled.afterStep src u).1.findings = (s.afterStep src u).1.findings ∧
      (s.toggled.afterStep src u).2 = (s.afterStep src u).2) := by
  intro s
  have hw : s.Writable := writable_run source junction hquote
  refine ⟨fun hne => ⟨Session.chipsExpr_toggled hne hw, Session.junction_toggled hne hw⟩,
    fun hnil chips j hrow => ?_, Session.alike_toggled_iff hw, fun halike src u hu => ?_⟩
  · obtain ⟨e, he, -⟩ := combine_of_rowOfQuery? hrow
    have hread : Unreadable s.query → s.junction = .and :=
      fun hun => absurd hun (not_unreadable_of_ofText? he)
    rw [Session.toggled_of_no_chips hnil hread, Session.carriedOver, hrow]
    exact ⟨rfl, rfl⟩
  · exact halike.afterStep hvisual s.mode_toggled s.findings_toggled hu src

/-- Two chips joined by `OR` over a query from before, entered while reads fail: nothing is lost. -/
theorem alike_toggled_run_twoChips :
    let source : Source := ⟨.holding {}, some "disk I/O error"⟩
    let events : List Event := [.step (.setQuery "tag:old"), .step (.addChip .tag "co op" false),
      .step (.addChip .folder "x" true), .step (.setJunction .or), .source ⟨.holding {}, none⟩]
    let s := ((new source .and).run events).session
    (∀ u, .step u ∈ events → u.QuoteFree) ∧ s.mode = .visual ∧ s.chips.length = 2 ∧
      s.Alike s.toggled ∧
      ∀ src, (s.toggled.afterStep src (.addPinned true)).1.findings =
        (s.afterStep src (.addPinned true)).1.findings := by
  intro source events s
  have hquote : ∀ u, .step u ∈ events → u.QuoteFree := by
    simp [events, Session.Step.QuoteFree]
  obtain ⟨-, -, hiff, hafter⟩ := alike_toggled_run_iff source .and events hquote rfl
  have halike : s.Alike s.toggled :=
    (hiff fun hnil => absurd hnil (by decide)).mpr ⟨fun hlen => absurd hlen (by decide),
      fun hnil => absurd hnil (by decide)⟩
  exact ⟨hquote, rfl, rfl, halike, fun src => (hafter halike src (.addPinned true) trivial).2.1⟩

/-- **Toggling loses the operator of a single chip, and finds a query that was forgotten.** One chip and
`OR`: afterwards the operator is `AND`, and the next chip narrows the search instead of widening it. No
chip, but a query: afterwards there is a chip. -/
theorem not_alike_toggled_run :
    let source : Source := ⟨.holding {}, some "disk I/O error"⟩
    let work : Expr := .leaf (.tag "work")
    let home : Expr := .leaf (.tag "home")
    let single := ((new source .or).run [.step (.addChip .tag "work" false)]).session
    let forgotten := ((new source .and).run [.step (.setQuery "tag:work")]).session
    let next : Session.Step := .addChip .tag "home" false
    single.mode = .visual ∧ single.junction = .or ∧ single.toggled.junction = .and ∧
      (single.afterStep source next).1.chipsExpr = some (.or work home) ∧
      (single.toggled.afterStep source next).1.chipsExpr = some (.and work home) ∧
      forgotten.mode = .visual ∧ forgotten.chipsExpr = none ∧
      forgotten.toggled.chipsExpr = some work := by
  intro source work home single forgotten next
  have hw : single.Writable := writable_run source .or (by simp [Session.Step.QuoteFree])
  have hsingle : single.toggled = { single with
      mode := .visual, query := work.text, chips := single.chips, junction := .and } :=
    Session.toggled_of_chipsExpr (s := single) (e := work) rfl hw
  have hread : Expr.ofText? forgotten.query = some work :=
    ofText?_text (e := work) (by simp [work, Expr.Spellable, Expr.leaves, Leaf.Spellable])
  have hrow : rowOfQuery? forgotten.query = some ([⟨.tag, "work", false⟩], .and) := by
    rw [rowOfQuery?, hread]
    rfl
  have hforgotten : forgotten.toggled = forgotten.carriedOver :=
    Session.toggled_of_no_chips rfl fun _ => rfl
  refine ⟨rfl, rfl, ?_, rfl, ?_, rfl, rfl, ?_⟩
  · rw [hsingle]
  · rw [hsingle]
    rfl
  · rw [hforgotten, Session.carriedOver, hrow]
    rfl

end Sitting

end NoteSearch
