import NoteSearch.Proofs.Search.Switching

/-!
# Whole runs of a session

A session is used for a long time: chips come and go, the mode changes, queries are typed, and the
source may fail in between. This file says what such a history can leave behind, and it is very
little. At most one message is there at any time, and none next to results
(`NoteSearch.Session.Findings.Settled`). What a search leaves depends on what is looked for and on the
source (`NoteSearch.Session.Answered`), so two sessions with different pasts that look for the same in
the same source find the same and read the same (`NoteSearch.Session.Answered.unique`).

A step is a change that is followed, for some steps, by a search (`NoteSearch.Session.step_eq`). What
is shown of steps is shown of these two parts: a property that a session has is kept by a step if the
changes without a search keep it and the searches restore it (`NoteSearch.Session.keeps_afterStep`).
The only induction is the one over the run (`NoteSearch.Sitting.run_keeps`).
-/

namespace NoteSearch

open Text

/-- A query that can be read is not one that cannot. -/
theorem not_unreadable_of_ofText? {query : String} {e : Expr} (h : Expr.ofText? query = some e) :
    ¬Unreadable query := by
  rintro ⟨-, hnone⟩
  rw [hnone] at h
  exact absurd h (by simp)

namespace Session

/-! ### What is looked for, and what was found -/

/-- **What a session looks for**: all that a search takes from the session. -/
structure Inputs where
  /-- The mode. -/
  mode : Mode
  /-- The typed query. -/
  query : String
  /-- The row of chips. -/
  chips : List Chip
  /-- The operator that joins the chips. -/
  junction : Junction

/-- **What a search leaves in a session.** -/
structure Findings where
  /-- What was found. -/
  results : List NoteView
  /-- What was wrong with the query, if anything. -/
  syntaxMessage : Option String
  /-- What was wrong with the source, if anything. -/
  sourceMessage : Option String

/-- What the session looks for. -/
def inputs (s : Session) : Inputs :=
  ⟨s.mode, s.query, s.chips, s.junction⟩

/-- What the latest search has left. -/
def findings (s : Session) : Findings :=
  ⟨s.results, s.syntaxMessage, s.sourceMessage⟩

namespace Findings

/-- What a read leaves: its notes, or the message of its failure and no notes. -/
def ofRead : Except DatabaseFault (List NoteView) → Findings
  | .ok notes => ⟨notes, none, none⟩
  | .error fault => ⟨[], none, some fault.message⟩

/-- What a search of the source leaves, told by whether its reads fail and by what is looked for. -/
theorem ofRead_search (src : Source) (e : Option Expr) : ofRead (src.search e).1 =
    match src.failing, e with
    | some message, _ => ⟨[], none, some message⟩
    | none, none => ofRead src.database.fetchAll
    | none, some e => ofRead (src.database.fetchMatching (.ofExpr e)) := by
  cases e <;> simp only [Source.search, Source.fetchAll, Source.fetchMatching, Source.read] <;>
    cases src.failing <;> rfl

/-- **At most one message, and none next to results.** -/
structure Settled (f : Findings) : Prop where
  /-- Not both the query and the source were wrong. -/
  oneMessage : f.syntaxMessage = none ∨ f.sourceMessage = none
  /-- Where something was wrong, nothing was found. -/
  noResults : f.syntaxMessage ≠ none ∨ f.sourceMessage ≠ none → f.results = []

theorem settled_ofRead (r : Except DatabaseFault (List NoteView)) : (ofRead r).Settled := by
  cases r with
  | ok notes => exact ⟨Or.inl rfl, by simp [ofRead]⟩
  | error fault => exact ⟨Or.inl rfl, fun _ => rfl⟩

/-- Without a read there are no results, and only the query can be wrong. -/
theorem settled_of_no_read (message : Option String) : Settled ⟨[], message, none⟩ :=
  ⟨Or.inr rfl, fun _ => rfl⟩

end Findings

variable {src : Source} {s s' t : Session} {reads reads' : List ReadKind} {u : Step}

/-- **The source has to be read**, unless there is a query that is blank or cannot be read. -/
def NeedsSource (s : Session) : Prop :=
  ¬(s.mode = .text ∧ (isBlankText s.query = true ∨ Unreadable s.query))

theorem needsSource_of_visual (h : s.mode = .visual) : s.NeedsSource := by
  rw [NeedsSource, h]
  simp

theorem needsSource_of_ofText? {e : Expr} (h : Expr.ofText? s.query = some e) : s.NeedsSource := by
  rintro ⟨-, hblank | hun⟩
  · rw [ofText?_eq_none_of_blank hblank] at h
    exact absurd h (by simp)
  · exact not_unreadable_of_ofText? h hun

/-- **The session has just been answered**, with these reads. -/
structure Answered (src : Source) (s : Session) (reads : List ReadKind) : Prop where
  /-- A blank query finds nothing, and nothing is wrong with it. -/
  blank : s.mode = .text → isBlankText s.query = true → s.findings = ⟨[], none, none⟩ ∧ reads = []
  /-- Of a query that cannot be read, the user is told so. -/
  unreadable : s.mode = .text → Unreadable s.query →
    s.findings = ⟨[], some "Invalid search syntax", none⟩ ∧ reads = []
  /-- In all other cases there is one read, and its kind says whether something is looked for. -/
  oneRead : s.NeedsSource → reads = [if s.expr = none then .fetchAll else .fetchMatching]
  /-- While reads fail, the message of the failure is there, and no notes. -/
  failed : s.NeedsSource → ∀ message, src.failing = some message →
    s.findings = ⟨[], none, some message⟩
  /-- Where nothing is looked for, there is what the database says of all notes. -/
  all : s.NeedsSource → src.failing = none → s.expr = none →
    s.findings = .ofRead src.database.fetchAll
  /-- Where something is looked for, there is what the database says of the notes that satisfy it. -/
  matching : s.NeedsSource → src.failing = none → ∀ e, s.expr = some e →
    s.findings = .ofRead (src.database.fetchMatching (.ofExpr e))

/-- The answer to a session that needs the source is the one of a search for its expression. -/
theorem Answered.findings_eq (h : s.Answered src reads) (hneed : s.NeedsSource) :
    s.findings = .ofRead (src.search s.expr).1 := by
  rw [Findings.ofRead_search]
  cases hfailing : src.failing with
  | some message => exact h.failed hneed message hfailing
  | none =>
    cases hexpr : s.expr with
    | none => exact h.all hneed hfailing hexpr
    | some e => exact h.matching hneed hfailing e hexpr

theorem chipsExpr_congr (h : s.inputs = t.inputs) : s.chipsExpr = t.chipsExpr := by
  simp only [inputs, Inputs.mk.injEq] at h
  rw [chipsExpr, chipsExpr, h.2.2.1, h.2.2.2]

theorem expr_congr (h : s.inputs = t.inputs) : s.expr = t.expr := by
  have hchips := chipsExpr_congr h
  simp only [inputs, Inputs.mk.injEq] at h
  rw [expr, expr, h.1, h.2.1, hchips]

theorem needsSource_congr (h : s.inputs = t.inputs) : s.NeedsSource ↔ t.NeedsSource := by
  simp only [inputs, Inputs.mk.injEq] at h
  rw [NeedsSource, NeedsSource, h.1, h.2.1]

/-- **The past does not matter**: sessions that look for the same and have been answered from the same
source have found the same, with the same reads. -/
theorem Answered.unique (h : s.Answered src reads) (h' : t.Answered src reads')
    (hin : s.inputs = t.inputs) : s.findings = t.findings ∧ reads = reads' := by
  by_cases hneed : s.NeedsSource
  · have hneed' : t.NeedsSource := (needsSource_congr hin).mp hneed
    rw [h.findings_eq hneed, h'.findings_eq hneed', h.oneRead hneed, h'.oneRead hneed', expr_congr hin]
    exact ⟨rfl, rfl⟩
  · -- no read in either session: both have the same query, and it says the same in both
    obtain ⟨hmode, hquery⟩ := Classical.not_not.mp hneed
    have hmode' : t.mode = .text := (congrArg Inputs.mode hin).symm.trans hmode
    have hsame : s.query = t.query := congrArg Inputs.query hin
    rcases hquery with hblank | hun
    · obtain ⟨hfind, hreads⟩ := h.blank hmode hblank
      obtain ⟨hfind', hreads'⟩ := h'.blank hmode' (hsame ▸ hblank)
      exact ⟨hfind.trans hfind'.symm, hreads.trans hreads'.symm⟩
    · obtain ⟨hfind, hreads⟩ := h.unreadable hmode hun
      obtain ⟨hfind', hreads'⟩ := h'.unreadable hmode' (hsame ▸ hun)
      exact ⟨hfind.trans hfind'.symm, hreads.trans hreads'.symm⟩

theorem Answered.settled (h : s.Answered src reads) : s.findings.Settled := by
  by_cases hneed : s.NeedsSource
  · rw [h.findings_eq hneed]
    exact Findings.settled_ofRead _
  · obtain ⟨hmode, hblank | hun⟩ := Classical.not_not.mp hneed
    · rw [(h.blank hmode hblank).1]
      exact Findings.settled_of_no_read none
    · rw [(h.unreadable hmode hun).1]
      exact Findings.settled_of_no_read _

/-! ### Searching -/

@[simp] theorem inputs_consult (src : Source) (s : Session) (e : Option Expr) :
    (s.consult src e).1.inputs = s.inputs := by
  show (s.receive (src.search e).1).inputs = s.inputs
  cases (src.search e).1 <;> rfl

@[simp] theorem findings_consult (src : Source) (s : Session) (e : Option Expr) :
    (s.consult src e).1.findings = .ofRead (src.search e).1 := by
  show (s.receive (src.search e).1).findings = .ofRead (src.search e).1
  cases (src.search e).1 <;> rfl

/-- **Consulting the source takes one read**, whether it fails or not. -/
@[simp] theorem reads_consult (src : Source) (s : Session) (e : Option Expr) :
    (s.consult src e).2 = [if e = none then .fetchAll else .fetchMatching] := by
  cases e <;> rfl

/-- Where the source is not needed, an answer is about the query alone. -/
theorem answered_of_not_needsSource (h : ¬s.NeedsSource)
    (hblank : s.mode = .text → isBlankText s.query = true → s.findings = ⟨[], none, none⟩ ∧ reads = [])
    (hunreadable : s.mode = .text → Unreadable s.query →
      s.findings = ⟨[], some "Invalid search syntax", none⟩ ∧ reads = []) : s.Answered src reads :=
  ⟨hblank, hunreadable, fun hneed => absurd hneed h, fun hneed => absurd hneed h,
    fun hneed => absurd hneed h, fun hneed => absurd hneed h⟩

/-- **A session that has consulted the source for what it looks for has been answered.** -/
theorem answered_consult (src : Source) (h : s.NeedsSource) :
    (s.consult src s.expr).1.Answered src (s.consult src s.expr).2 := by
  -- the answer is about the inputs after the read, which are those before it
  have hin := inputs_consult src s s.expr
  have hneed : (s.consult src s.expr).1.NeedsSource := (needsSource_congr hin).mpr h
  refine ⟨fun htext hblank => absurd ⟨htext, Or.inl hblank⟩ hneed,
    fun htext hun => absurd ⟨htext, Or.inr hun⟩ hneed, fun _ => ?_, fun _ message hfailing => ?_,
    fun _ hfailing hexpr => ?_, fun _ hfailing e hexpr => ?_⟩
  · rw [expr_congr hin, reads_consult]
  · rw [findings_consult, Findings.ofRead_search, hfailing]
  · rw [expr_congr hin] at hexpr
    rw [findings_consult, Findings.ofRead_search, hfailing, hexpr]
  · rw [expr_congr hin] at hexpr
    rw [findings_consult, Findings.ofRead_search, hfailing, hexpr]

theorem search_of_blank (hmode : s.mode = .text) (hblank : isBlankText s.query = true) :
    s.search src = (s.idle none, []) := by
  rw [search, hmode]
  exact if_pos hblank

theorem search_of_unreadable (hmode : s.mode = .text) (hun : Unreadable s.query) :
    s.search src = (s.idle (some SyntaxFault.message), []) := by
  rw [search, hmode, hun.2]
  exact if_neg (by simp [hun.1])

/-- In both modes, a search that needs the source consults it for the expression. -/
theorem search_of_needsSource (h : s.NeedsSource) : s.search src = s.consult src s.expr := by
  cases hmode : s.mode with
  | visual => rw [search, expr, hmode]
  | text =>
    have hblank : ¬isBlankText s.query = true := fun hb => h ⟨hmode, Or.inl hb⟩
    cases hread : Expr.ofText? s.query with
    | none => exact absurd ⟨hmode, Or.inr ⟨Bool.eq_false_iff.mpr hblank, hread⟩⟩ h
    | some e =>
      rw [search, expr, hmode, hread]
      exact if_neg hblank

/-- A search changes nothing that is looked for. -/
@[simp] theorem inputs_search (src : Source) (s : Session) : (s.search src).1.inputs = s.inputs := by
  by_cases hneed : s.NeedsSource
  · rw [search_of_needsSource hneed, inputs_consult]
  · obtain ⟨hmode, hblank | hun⟩ := Classical.not_not.mp hneed
    · rw [search_of_blank hmode hblank]
      rfl
    · rw [search_of_unreadable hmode hun]
      rfl

/-- **Every search answers.** -/
theorem answered_search (src : Source) (s : Session) :
    (s.search src).1.Answered src (s.search src).2 := by
  by_cases hneed : s.NeedsSource
  · rw [search_of_needsSource hneed]
    exact answered_consult src hneed
  · -- without a read the query stays as it was: it is blank, or else it cannot be read
    obtain ⟨hmode, hblank | hun⟩ := Classical.not_not.mp hneed
    · rw [search_of_blank hmode hblank]
      exact answered_of_not_needsSource hneed (fun _ _ => ⟨rfl, rfl⟩)
        fun _ hun => absurd (hblank.symm.trans hun.1) (by decide)
    · rw [search_of_unreadable hmode hun]
      exact answered_of_not_needsSource hneed
        (fun _ hblank => absurd (hun.1.symm.trans hblank) (by decide)) fun _ _ => ⟨rfl, rfl⟩

/-- **A read depends on the expression alone**, and not on the mode that it comes from. -/
theorem findings_search_congr (src : Source) (hs : s.NeedsSource) (ht : t.NeedsSource)
    (h : t.expr = s.expr) : (t.search src).1.findings = (s.search src).1.findings ∧
      (t.search src).2 = (s.search src).2 := by
  rw [search_of_needsSource hs, search_of_needsSource ht, findings_consult, findings_consult,
    reads_consult, reads_consult, h]
  exact ⟨rfl, rfl⟩

/-! ### A step is a change and perhaps a search -/

/-- Whether a step searches, once its change is made. -/
def Step.searches : Step → Bool
  | addChip _ _ _ | addPinned _ | removeChip _ | setJunction _ | search => true
  | toText | toVisual | clear | setMode _ | setQuery _ => false

/-- **The change that a step makes**, without the search that may follow. -/
def edit (s : Session) : Step → Except StepFault Session
  | .addChip kind value negated => s.pushChip (Chip.make kind value negated)
  | .addPinned flag => s.pushChip (.ok (Chip.ofPinned flag false))
  | .removeChip index => s.dropChip index
  | .setJunction junction => .ok { s with junction }
  | .toText => .ok s.toText
  | .toVisual => .ok s.toVisual
  | .clear => .ok s.clear
  | .setMode mode => .ok { s with mode }
  | .setQuery query => .ok { s with query }
  | .search => .ok s

theorem step_eq (src : Source) (s : Session) (u : Step) :
    s.step src u = (s.edit u).map fun s' => if u.searches then s'.search src else (s', []) := by
  cases u <;> rfl

/-- What an accepted step did. -/
theorem step_eq_ok_iff {r : Session × List ReadKind} : s.step src u = .ok r ↔
    ∃ s', s.edit u = .ok s' ∧ r = if u.searches then s'.search src else (s', []) := by
  rw [step_eq]
  cases s.edit u with
  | error fault => simp [Except.map]
  | ok t => simp [Except.map, eq_comm (a := r)]

/-- **What a step keeps**: a property that its change keeps, where no search follows, and that the
search restores, where one does. A step that is refused keeps everything. -/
theorem keeps_afterStep (P : Session → Prop) (hs : P s)
    (hedit : ∀ s', s.edit u = .ok s' → u.searches = false → P s')
    (hsearch : ∀ s', s.edit u = .ok s' → u.searches = true → P (s'.search src).1) :
    P (s.afterStep src u).1 := by
  rw [afterStep]
  cases hstep : s.step src u with
  | error fault => exact hs
  | ok r =>
    obtain ⟨s', hs', rfl⟩ := step_eq_ok_iff.mp hstep
    cases hu : u.searches with
    | false => exact hedit s' hs' hu
    | true => exact hsearch s' hs' hu

/-- A step that searches answers. -/
theorem answered_of_step (hu : u.searches = true) (h : s.step src u = .ok (s', reads)) :
    s'.Answered src reads := by
  obtain ⟨t, -, ht⟩ := step_eq_ok_iff.mp h
  rw [if_pos hu] at ht
  obtain ⟨rfl, rfl⟩ := Prod.mk.inj ht
  exact answered_search src t

/-- Without a search, the findings stay, or there are none any more. -/
theorem findings_edit (h : s.edit u = .ok s') (hu : u.searches = false) :
    s'.findings = s.findings ∨ s'.findings = ⟨[], none, none⟩ := by
  cases u with
  | addChip _ _ _ | addPinned _ | removeChip _ | setJunction _ | search => simp [Step.searches] at hu
  | toText | setMode _ | setQuery _ =>
    obtain rfl := Except.ok.inj h
    exact Or.inl rfl
  | toVisual =>
    obtain rfl := Except.ok.inj h
    obtain ⟨chips, junction, hvisual⟩ := s.exists_toVisual_eq
    rw [hvisual]
    exact Or.inl rfl
  | clear =>
    obtain rfl := Except.ok.inj h
    exact Or.inr rfl

/-- **Every step leaves the session settled.** -/
theorem settled_afterStep (src : Source) (u : Step) (hs : s.findings.Settled) :
    (s.afterStep src u).1.findings.Settled := by
  refine keeps_afterStep (fun t : Session => t.findings.Settled) hs (fun s' h hu => ?_) fun s' _ _ => ?_
  · rcases findings_edit h hu with hkept | hnone
    · exact hkept ▸ hs
    · exact hnone ▸ Findings.settled_of_no_read none
  · exact (answered_search src s').settled

end Session

/-! ### Runs -/

/-- **What happens in the course of a session.** -/
inductive Event
  /-- The user takes a step, which may be refused. -/
  | step (step : Session.Step)
  /-- The source becomes another one: its reads start to fail or no longer do, or its notes change. -/
  | source (source : Source)

/-- **A session at work**: its state, and the source it reads from. -/
structure Sitting where
  /-- Where the session reads from. -/
  source : Source
  /-- The state of the session. -/
  session : Session

namespace Sitting

/-- A new session. -/
def new (source : Source) (junction : Junction) : Sitting :=
  ⟨source, { junction }⟩

/-- What an event makes of a session. -/
def after (w : Sitting) : Event → Sitting
  | .step u => { w with session := (w.session.afterStep w.source u).1 }
  | .source source => { w with source }

/-- **What a run makes of a session.** -/
def run (w : Sitting) (events : List Event) : Sitting :=
  events.foldl after w

/-- **What every step keeps, a run keeps.** The steps may be restricted to those that are allowed. -/
theorem run_keeps (P : Session → Prop) (Allowed : Session.Step → Prop)
    (hstep : ∀ src s u, Allowed u → P s → P (s.afterStep src u).1)
    {w : Sitting} {events : List Event} (hw : P w.session)
    (hallowed : ∀ u, .step u ∈ events → Allowed u) : P (w.run events).session := by
  induction events generalizing w with
  | nil => exact hw
  | cons event events ih =>
    have hrest : ∀ u, .step u ∈ events → Allowed u := fun u hu => hallowed u (.tail _ hu)
    cases event with
    | step u => exact ih (hstep w.source w.session u (hallowed u (.head _)) hw) hrest
    | source source => exact ih hw hrest

/-- **Some step searches here**, and leads to this session with these reads. -/
def Searches (w : Sitting) (s : Session) (reads : List ReadKind) : Prop :=
  ∃ u, u.searches = true ∧ w.session.step w.source u = .ok (s, reads)

/-- A step that searches answers, from the source as it is then. -/
theorem Searches.answered {w : Sitting} {s : Session} {reads : List ReadKind}
    (h : w.Searches s reads) : s.Answered w.source reads := by
  obtain ⟨u, hu, hstep⟩ := h
  exact Session.answered_of_step hu hstep

theorem settled_run (source : Source) (junction : Junction) (events : List Event) :
    ((new source junction).run events).session.findings.Settled :=
  run_keeps (fun s => s.findings.Settled) (fun _ => True)
    (fun src _ u _ => Session.settled_afterStep src u)
    (Session.Findings.settled_of_no_read none) fun _ _ => trivial

/-- **A session has no past.** After any run, at most one message is there, and none next to results.
A search is never refused, and changes nothing that is looked for. Whatever step comes next, if it
searches, it leaves the answer to what the session then looks for in the source of that time; and any
other session, whatever its past, that searches for the same in the same source has the same findings
and the same reads. -/
theorem settled_and_answered_run (source : Source) (junction : Junction) (events : List Event) :
    ((new source junction).run events).session.findings.Settled ∧
    (∃ s reads, ((new source junction).run events).Searches s reads ∧
      s.inputs = ((new source junction).run events).session.inputs) ∧
    ∀ s reads, ((new source junction).run events).Searches s reads →
      s.Answered ((new source junction).run events).source reads ∧ s.findings.Settled ∧
      ∀ (w : Sitting) (t : Session) (reads' : List ReadKind), w.Searches t reads' →
        w.source = ((new source junction).run events).source → t.inputs = s.inputs →
        t.findings = s.findings ∧ reads' = reads := by
  refine ⟨settled_run source junction events, ?_, fun s reads hs => ?_⟩
  · exact ⟨_, _, ⟨.search, rfl, rfl⟩, Session.inputs_search _ _⟩
  · refine ⟨hs.answered, hs.answered.settled, fun w t reads' ht hsource hin => ?_⟩
    have hanswered : t.Answered w.source reads' := ht.answered
    rw [hsource] at hanswered
    exact hanswered.unique hs.answered hin

end Sitting

end NoteSearch
