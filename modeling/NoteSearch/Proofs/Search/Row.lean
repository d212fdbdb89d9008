import NoteSearch.Proofs.Search.Run

/-!
# The row of chips in a session

Two kinds of steps can be refused: adding a chip that needs a name and has none, and removing a chip that
is not there. This file says exactly when that happens, and what happens otherwise. An index may count from
either end of the row; whichever it does, it stands for one chip, and that chip alone goes
(`NoteSearch.Session.dropChip_append`).

Chips come into a session in several ways, but each of them makes sure of the name: a chip that was not
there before was made to be added, or was recovered from the query (`NoteSearch.Session.Brings`). So no run
leads to a chip without the name that it needs (`NoteSearch.Sitting.named_run`).
-/

namespace NoteSearch

namespace Session

variable {src : Source} {s s' t : Session} {u : Step} {c : Chip} {fault : StepFault}

/-! ### Places in a row -/

theorem place?_eq_some_iff {length i : Nat} {index : Int} :
    place? length index = some i ↔ i < length ∧ (index = i ∨ index = (i : Int) - length) := by
  unfold place?
  split
  · rw [Option.ite_none_right_eq_some, Option.some.injEq]
    omega
  · rw [Option.ite_none_right_eq_some, Option.some.injEq]
    omega

theorem place?_eq_none_iff {length : Nat} {index : Int} :
    place? length index = none ↔ index < -(length : Int) ∨ (length : Int) ≤ index := by
  unfold place?
  split
  · rw [ite_eq_right_iff]
    simp only [reduceCtorEq, imp_false]
    omega
  · rw [ite_eq_right_iff]
    simp only [reduceCtorEq, imp_false]
    omega

/-- **What an index stands for**: so many chips from the left, or so many from the right. -/
def Points (index : Int) (before after : List Chip) : Prop :=
  index = before.length ∨ index = -((after.length : Int) + 1)

/-- An index within the bounds of the row stands for a chip in it. -/
theorem exists_points {chips : List Chip} {index : Int} (hlow : -(chips.length : Int) ≤ index)
    (hhigh : index < chips.length) :
    ∃ before c after, chips = before ++ c :: after ∧ Points index before after := by
  cases hplace : place? chips.length index with
  | none => rcases place?_eq_none_iff.mp hplace with h | h <;> omega
  | some i =>
    obtain ⟨hi, hindex⟩ := place?_eq_some_iff.mp hplace
    refine ⟨chips.take i, chips[i], chips.drop (i + 1), ?_, ?_⟩
    · rw [← List.drop_eq_getElem_cons hi, List.take_append_drop]
    · rw [Points, List.length_take, List.length_drop]
      omega

/-- **Removing takes out the chip that the index stands for**, and keeps all others in their order. -/
theorem dropChip_append {before after : List Chip} {index : Int} (h : s.chips = before ++ c :: after)
    (hindex : Points index before after) :
    s.dropChip index = .ok { s with chips := before ++ after } := by
  have hplace : place? s.chips.length index = some before.length := by
    refine place?_eq_some_iff.mpr ?_
    rw [h, List.length_append, List.length_cons]
    rcases hindex with hindex | hindex <;> omega
  have herase : s.chips.eraseIdx before.length = before ++ after := by
    rw [h, List.eraseIdx_append_of_length_le (Nat.le_refl _), Nat.sub_self, List.eraseIdx_cons_zero]
  rw [dropChip, hplace]
  exact congrArg (fun chips => Except.ok { s with chips }) herase

/-! ### Refused steps -/

theorem step_eq_error_iff : s.step src u = .error fault ↔ s.edit u = .error fault := by
  rw [step_eq]
  cases s.edit u with
  | error f => simp [Except.map]
  | ok t => exact iff_of_false nofun nofun

/-- **A step that is refused changes nothing**, and reads nothing. -/
theorem afterStep_of_step_eq_error (h : s.step src u = .error fault) : s.afterStep src u = (s, []) := by
  rw [afterStep, h]

/-- A chip for a tag or a folder is refused exactly when it has no name. -/
theorem make_eq_error_iff {kind : ChipKind} {name : String} {negated : Bool} {fault : ChipFault}
    (hkind : kind ≠ .pinned) :
    Chip.make kind name negated = .error fault ↔ name = "" ∧ fault = .unnamed kind := by
  have hnamed : (⟨kind, name, negated⟩ : Chip).isNamed = true ↔ name ≠ "" := by
    rw [Chip.isNamed_iff]
    exact ⟨fun h => h hkind, fun h _ => h⟩
  rw [Chip.make]
  by_cases hname : name = ""
  · rw [if_neg (mt hnamed.mp (not_not_intro hname)), Except.error.injEq, eq_comm]
    exact ⟨fun h => ⟨hname, h⟩, fun h => h.2⟩
  · rw [if_pos (hnamed.mpr hname)]
    exact iff_of_false nofun fun h => hname h.1

theorem step_addChip_eq_error_iff {kind : ChipKind} {name : String} {negated : Bool}
    (hkind : kind ≠ .pinned) :
    s.step src (.addChip kind name negated) = .error fault ↔
      name = "" ∧ fault = .chip (.unnamed kind) := by
  have hmade (f : ChipFault) : Chip.make kind name negated = .error f ↔ name = "" ∧ f = .unnamed kind :=
    make_eq_error_iff hkind
  rw [step_eq_error_iff, edit]
  cases hmake : Chip.make kind name negated with
  | error f =>
    obtain ⟨hname, rfl⟩ := (hmade f).mp hmake
    rw [pushChip, Except.error.injEq, eq_comm]
    exact ⟨fun h => ⟨hname, h⟩, fun h => h.2⟩
  | ok c =>
    refine iff_of_false nofun fun h => ?_
    have herror := (hmade (.unnamed kind)).mpr ⟨h.1, rfl⟩
    rw [hmake] at herror
    cases herror

theorem step_removeChip_eq_error_iff {index : Int} :
    s.step src (.removeChip index) = .error fault ↔
      (index < -(s.chips.length : Int) ∨ (s.chips.length : Int) ≤ index) ∧ fault = .noChipAt index := by
  rw [step_eq_error_iff, edit, dropChip]
  cases hplace : place? s.chips.length index with
  | none =>
    rw [Except.error.injEq, eq_comm]
    exact ⟨fun h => ⟨place?_eq_none_iff.mp hplace, h⟩, fun h => h.2⟩
  | some i =>
    refine iff_of_false nofun fun h => ?_
    rw [place?_eq_none_iff.mpr h.1] at hplace
    cases hplace

/-! ### Searching again -/

theorem eq_of_inputs_of_findings (hin : s.inputs = t.inputs) (hfind : s.findings = t.findings) : s = t := by
  obtain ⟨hmode, hquery, hchips, hjunction⟩ := Inputs.mk.inj hin
  obtain ⟨hresults, hsyntax, hsource⟩ := Findings.mk.inj hfind
  cases s
  cases t
  rw [Session.mk.injEq]
  exact ⟨hmode, hquery, hchips, hjunction, hresults, hsyntax, hsource⟩

/-- **Searching again changes nothing**, as long as the source stays the same. -/
theorem search_search (src : Source) (s : Session) : (s.search src).1.search src = s.search src := by
  have hin : ((s.search src).1.search src).1.inputs = (s.search src).1.inputs := inputs_search _ _
  obtain ⟨hfind, hreads⟩ := (answered_search src (s.search src).1).unique (answered_search src s) hin
  exact Prod.ext (eq_of_inputs_of_findings hin hfind) hreads

/-- Removing a chip leaves what a search leaves in the session without it. -/
theorem step_removeChip_append {before after : List Chip} {index : Int}
    (h : s.chips = before ++ c :: after) (hindex : Points index before after) :
    s.step src (.removeChip index) = .ok ({ s with chips := before ++ after }.search src) := by
  rw [step, dropChip_append h hindex]
  rfl

/-! ### Where chips come from -/

/-- **A chip that a step may bring** into the row. -/
inductive Brings (s : Session) : Step → Chip → Prop
  /-- It is made to be added. -/
  | made {kind : ChipKind} {value : String} {negated : Bool} {c : Chip} :
      Chip.make kind value negated = .ok c → Brings s (.addChip kind value negated) c
  /-- It is added for the pinned state. -/
  | pinned {flag : Bool} : Brings s (.addPinned flag) (Chip.ofPinned flag false)
  /-- It is recovered from the query. -/
  | recovered {chips : List Chip} {j : Junction} {c : Chip} :
      rowOfQuery? s.query = some (chips, j) → c ∈ chips → Brings s .toVisual c

theorem mem_of_pushChip {chip : Except ChipFault Chip} (h : s.pushChip chip = .ok s')
    (hc : c ∈ s'.chips) : c ∈ s.chips ∨ chip = .ok c := by
  cases chip with
  | error fault => cases h
  | ok d =>
    obtain rfl := Except.ok.inj h
    exact (List.mem_append.mp hc).imp_right fun hd => congrArg Except.ok (List.mem_singleton.mp hd).symm

theorem mem_of_dropChip {index : Int} (h : s.dropChip index = .ok s') (hc : c ∈ s'.chips) :
    c ∈ s.chips := by
  rw [dropChip] at h
  split at h
  · obtain rfl := Except.ok.inj h
    exact List.mem_of_mem_eraseIdx hc
  · cases h

theorem mem_or_brings_of_toVisual (hc : c ∈ s.toVisual.chips) : c ∈ s.chips ∨ s.Brings .toVisual c := by
  by_cases hun : Unreadable s.query
  · rw [s.toVisual_of_unreadable hun] at hc
    exact absurd hc List.not_mem_nil
  · rw [s.toVisual_of_not_unreadable hun, carriedOver] at hc
    cases hrow : rowOfQuery? s.query with
    | none =>
      rw [hrow] at hc
      exact Or.inl hc
    | some row =>
      rw [hrow] at hc
      exact Or.inr (.recovered hrow hc)

/-- **A chip was there before, or was brought.** -/
theorem mem_or_brings_of_edit (h : s.edit u = .ok s') (hc : c ∈ s'.chips) :
    c ∈ s.chips ∨ s.Brings u c := by
  cases u with
  | addChip kind value negated => exact (mem_of_pushChip h hc).imp_right .made
  | addPinned flag =>
    have hpush : s.pushChip (.ok (Chip.ofPinned flag false)) = .ok s' := h
    refine (mem_of_pushChip hpush hc).imp_right fun hd => ?_
    rw [← Except.ok.inj hd]
    exact .pinned
  | removeChip index => exact Or.inl (mem_of_dropChip h hc)
  | toVisual =>
    obtain rfl := Except.ok.inj h
    exact mem_or_brings_of_toVisual hc
  | clear =>
    obtain rfl := Except.ok.inj h
    exact absurd hc List.not_mem_nil
  | setJunction _ | toText | setMode _ | setQuery _ | search =>
    obtain rfl := Except.ok.inj h
    exact Or.inl hc

/-- **What all chips have in common**, a step keeps, if the chips that it may bring have it too. -/
theorem forall_chips_afterStep {P : Chip → Prop} (src : Source) (hs : ∀ c ∈ s.chips, P c)
    (hbrings : ∀ c, s.Brings u c → P c) : ∀ c ∈ (s.afterStep src u).1.chips, P c := by
  have hedit (s' : Session) (h : s.edit u = .ok s') : ∀ c ∈ s'.chips, P c :=
    fun c hc => (mem_or_brings_of_edit h hc).elim (hs c) (hbrings c)
  refine keeps_afterStep (fun t : Session => ∀ c ∈ t.chips, P c) hs (fun s' h _ => hedit s' h)
    fun s' h _ => ?_
  have hchips : (s'.search src).1.chips = s'.chips := congrArg Inputs.chips (inputs_search src s')
  rw [hchips]
  exact hedit s' h

/-- **A recovered chip has the name that it needs.** -/
theorem isNamed_of_rowOfQuery? {query : String} {chips : List Chip} {j : Junction}
    (h : rowOfQuery? query = some (chips, j)) : ∀ c ∈ chips, c.isNamed = true := by
  obtain ⟨e, -, hrow⟩ := Option.bind_eq_some_iff.mp h
  exact Chip.isNamed_of_recover hrow

theorem isNamed_of_make {kind : ChipKind} {value : String} {negated : Bool}
    (h : Chip.make kind value negated = .ok c) : c = ⟨kind, value, negated⟩ ∧ c.isNamed = true := by
  rw [Chip.make] at h
  split at h
  · next hnamed =>
    obtain rfl := Except.ok.inj h
    exact ⟨rfl, hnamed⟩
  · cases h

theorem isNamed_of_brings (h : s.Brings u c) : c.isNamed = true := by
  cases h with
  | made hmake => exact (isNamed_of_make hmake).2
  | pinned => rfl
  | recovered hrow hc => exact isNamed_of_rowOfQuery? hrow c hc

end Session

namespace Sitting

/-- **In every run, the chips have the names that they need.** -/
theorem named_run (source : Source) (junction : Junction) (events : List Event) :
    ∀ c ∈ ((new source junction).run events).session.chips, c.isNamed = true :=
  run_keeps (fun s => ∀ c ∈ s.chips, c.isNamed = true) (fun _ => True)
    (fun src _ _ _ hs => Session.forall_chips_afterStep src hs fun _ => Session.isNamed_of_brings)
    (fun _ hc => absurd hc List.not_mem_nil) fun _ _ => trivial

/-- **What is refused leaves no trace.** A chip for a tag or a folder is refused exactly when it has no
name, and removing a chip exactly when the index is out of bounds; a session is afterwards what it was,
and the source has not been read. Where the index is within the bounds, the chip that it stands for is
taken out and no other, and the session has just been answered: what is there is what a search leaves,
and to search again changes nothing. In no session, whatever has been done in it, is there a chip for a
tag or a folder without a name, nor is there in the row of any query. -/
theorem refused_iff_and_named_run (src : Source) :
    (∀ (s : Session) (kind : ChipKind) (name : String) (negated : Bool) (fault : StepFault),
      kind ≠ .pinned → (s.step src (.addChip kind name negated) = .error fault ↔
        name = "" ∧ fault = .chip (.unnamed kind))) ∧
    (∀ (s : Session) (index : Int) (fault : StepFault), s.step src (.removeChip index) = .error fault ↔
      (index < -(s.chips.length : Int) ∨ (s.chips.length : Int) ≤ index) ∧ fault = .noChipAt index) ∧
    (∀ (s : Session) (u : Session.Step) (fault : StepFault), s.step src u = .error fault →
      s.afterStep src u = (s, [])) ∧
    (∀ (s : Session) (index : Int), -(s.chips.length : Int) ≤ index → index < s.chips.length →
      ∃ before c after t reads, s.chips = before ++ c :: after ∧ Session.Points index before after ∧
        s.step src (.removeChip index) = .ok (t, reads) ∧
        t.inputs = { s with chips := before ++ after }.inputs ∧
        t.Answered src reads ∧ t.search src = (t, reads)) ∧
    (∀ (source : Source) (junction : Junction) (events : List Event),
      ∀ c ∈ ((new source junction).run events).session.chips, c.kind ≠ .pinned → c.value ≠ "") ∧
    ∀ (query : String) (chips : List Chip) (j : Junction),
      Chip.recover (Expr.ofText? query) = some (chips, j) →
      ∀ c ∈ chips, c.kind ≠ .pinned → c.value ≠ "" := by
  refine ⟨fun s kind name negated fault => Session.step_addChip_eq_error_iff,
    fun s index fault => Session.step_removeChip_eq_error_iff,
    fun s u fault => Session.afterStep_of_step_eq_error, fun s index hlow hhigh => ?_,
    fun source junction events c hc => Chip.isNamed_iff.mp (named_run source junction events c hc),
    fun query chips j h c hc => Chip.isNamed_iff.mp (Chip.isNamed_of_recover h c hc)⟩
  obtain ⟨before, c, after, hchips, hindex⟩ := Session.exists_points hlow hhigh
  let without : Session := { s with chips := before ++ after }
  exact ⟨before, c, after, (without.search src).1, (without.search src).2, hchips, hindex,
    Session.step_removeChip_append hchips hindex, Session.inputs_search src without,
    Session.answered_search src without, Session.search_search src without⟩

/-- Two chips, while reads fail: a folder without a name and a third chip are refused, and the first chip,
counted from the end, is taken out. -/
theorem refused_iff_and_named_run_twoChips :
    let src : Source := ⟨.holding {}, some "disk I/O error"⟩
    let s : Session := { chips := [⟨.tag, "work", false⟩, ⟨.folder, "old", true⟩] }
    s.afterStep src (.addChip .folder "" true) = (s, []) ∧
      s.afterStep src (.removeChip 2) = (s, []) ∧
      ∃ t reads, s.step src (.removeChip (-2)) = .ok (t, reads) ∧
        t.chips = [⟨.folder, "old", true⟩] ∧ t.sourceMessage = some "disk I/O error" := by
  intro src s
  obtain ⟨hadd, hremove, hrefused, htaken, -⟩ := refused_iff_and_named_run src
  refine ⟨hrefused s _ _ ((hadd s .folder "" true _ (by decide)).mpr ⟨rfl, rfl⟩),
    hrefused s _ _ ((hremove s 2 _).mpr ⟨Or.inr (by decide), rfl⟩), ?_⟩
  obtain ⟨before, c, after, t, reads, hchips, hindex, hstep, hin, hanswered, -⟩ :=
    htaken s (-2) (by decide) (by decide)
  have hlength : 2 = before.length + (after.length + 1) := by
    rw [← List.length_cons, ← List.length_append, ← hchips]
    rfl
  obtain rfl : before = [] := List.length_eq_zero_iff.mp (by rcases hindex with h | h <;> omega)
  obtain ⟨-, rfl⟩ := List.cons.inj hchips
  have hmode : t.mode = .visual := congrArg Session.Inputs.mode hin
  have hfindings : t.findings = ⟨[], none, some "disk I/O error"⟩ :=
    hanswered.failed (Session.needsSource_of_visual hmode) _ rfl
  exact ⟨t, reads, hstep, congrArg Session.Inputs.chips hin,
    congrArg Session.Findings.sourceMessage hfindings⟩

end Sitting

end NoteSearch
