import NoteSearch.Proofs.Command.Notice
import NoteSearch.Proofs.Search.Run
import NoteSearch.Proofs.Store.Opening

/-!
# How a search ends

A search ends in one of seven ways (`NoteSearch.Command.Ending`), and each of them has its exit code. Which
one it is depends on what is asked for, on what is at the place of the database, and on what the database
answers (`NoteSearch.Command.SearchRequest.ending`); nothing of what is printed plays a part in it.

The run does what its ending says: it prints the notices of the ending one after another, and has its exit
code, if all of them can be printed (`NoteSearch.Command.SearchRequest.run_of_ending`).
-/

namespace NoteSearch.Command

open Text Console

/-- **How a search ends.** -/
inductive Ending
  /-- A chip lacks its name. -/
  | nameless (kind : ChipKind)
  /-- There are a query and chips. -/
  | twofold
  /-- There is no database. -/
  | missing
  /-- The database cannot be opened. -/
  | unopened (cause : EngineFault)
  /-- The query cannot be read. -/
  | unreadable
  /-- The database cannot be read. -/
  | unanswered (fault : DatabaseFault)
  /-- These notes are found. -/
  | found (notes : List NoteView)
  deriving Repr, Inhabited

/-- **The exit codes.** -/
def Ending.exit : Ending → Nat
  | nameless _ => 1
  | twofold => 1
  | missing => 3
  | unopened _ => 2
  | unreadable => 1
  | unanswered _ => 2
  | found _ => 0

/-! ### What is asked for -/

namespace SearchRequest

/-- The chips of a kind, by name. -/
def chipsOf (kind : ChipKind) (negated : Bool) (names : List String) : List Chip :=
  names.map fun name => ⟨kind, name, negated⟩

/-- The chips of tags and folders. -/
def namedChips (r : SearchRequest) : List Chip :=
  chipsOf .tag false r.tags ++ chipsOf .folder false r.folders ++ chipsOf .tag true r.excludedTags
    ++ chipsOf .folder true r.excludedFolders

/-- **The row of chips.** -/
def chipRow (r : SearchRequest) : List Chip :=
  r.namedChips ++ r.pinned.toList.map fun flag => Chip.ofPinned flag false

/-- The operator that joins the chips. -/
def junction (c : Config) (r : SearchRequest) : Junction :=
  if r.any then .or else c.junction

/-- **What is looked for**: what the query says, unless it is blank, or else what the chips ask for. -/
def asked (c : Config) (r : SearchRequest) : Option Expr :=
  if isBlankText r.query then Chip.combine (r.junction c) r.chipRow else Expr.ofText? r.query

end SearchRequest

/-! ### The ending -/

/-- **The store of the database of the settings**: nothing if there is no such file, and a fault if the engine
does not open it. -/
def Settings.openStore (s : Settings) (t : Tree) : Except FileFault (Option (Except EngineFault Store)) :=
  let name := s.config.database.text
  let here := s.surroundings.here
  if name == memoryPath then .ok (some (.ok {}))
  else do
    if ← t.hasEntry here (Path.ofText name) then
      return some ((t.openPlace (Tree.enginePlace here (Path.ofText name))).map (·.2.store))
    else return none

namespace SearchRequest

/-- What the store says. -/
def answer (c : Config) (r : SearchRequest) (store : Store) : Ending :=
  if !isBlankText r.query && (Expr.ofText? r.query).isNone then .unreadable
  else
    match (Database.holding store).search (r.asked c) with
    | .error fault => .unanswered fault
    | .ok notes => .found notes

/-- **How the search ends**, unless the place of the database cannot be looked at. -/
def ending (s : Settings) (r : SearchRequest) (t : Tree) : Except FileFault Ending :=
  match r.namedChips.find? (·.value == "") with
  | some c => .ok (.nameless c.kind)
  | none =>
    if !isBlankText r.query && !r.chipRow.isEmpty then .ok .twofold
    else do
      match ← s.openStore t with
      | none => return .missing
      | some (.error cause) => return .unopened cause
      | some (.ok store) => return r.answer s.config store

/-! ### The notices -/

/-- The canonical form of what is looked for. -/
def canonical (c : Config) (r : SearchRequest) : String :=
  ((r.asked c).map Expr.text).getD ""

/-- The notices of the notes that are listed. -/
def listNotices (s : Settings) (r : SearchRequest) (notes : List NoteView) : List Notice :=
  let canonical := r.canonical s.config
  if notes.isEmpty then
    if r.format = .table && !s.quiet then
      [.info ("No results for: " ++ orIfEmpty (orIfEmpty canonical r.query) "(all notes)")]
    else []
  else
    match r.format with
    | .ids => [.plain (String.join (notes.map idLine))]
    | .json => [.plain (echoed (Json.list (notes.map (noteJson s.config.snippetLength))).print)]
    | .table =>
      [.info ("Search: " ++ orIfEmpty canonical "all notes" ++ " (" ++ String.ofList (numeral notes.length)
          ++ " results)"),
        .table (notes.map (noteRow s.config.snippetLength))]

/-- The notices of the notes that are found. -/
def foundNotices (s : Settings) (r : SearchRequest) (notes : List NoteView) : List Notice :=
  (if r.showQuery && r.canonical s.config != "" then [.query (r.canonical s.config)] else [])
    ++ (if s.verbose then [.info (String.ofList (numeral notes.length) ++ " notes matched")] else [])
    ++ r.listNotices s (r.listed s.config notes)

end SearchRequest

/-- **What the user is told** when a search ends so. -/
def Ending.notices (s : Settings) (r : SearchRequest) : Ending → List Notice
  | nameless kind => [.error ("Invalid filter: " ++ (ChipFault.unnamed kind).message)]
  | twofold => [.error "Use either a QUERY or chip options, not both"]
  | missing =>
    [.error (DatabaseFault.notFound (Path.ofText s.config.database.text).text).message, .advice]
  | unopened cause =>
    [.error ("Database error: "
      ++ (DatabaseFault.cannotOpen (Path.ofText s.config.database.text).text cause).message)]
  | unreadable => [.error (SyntaxFault.message ++ ": " ++ r.query)]
  | unanswered fault =>
    [.error ("Database error: " ++ fault.message ++ ((r.asked s.config).map Expr.boundNote).getD "")]
  | found notes => r.foundNotices s notes

/-- The run that ends so, and leaves this tree. -/
def Ending.outcome (s : Settings) (r : SearchRequest) (t : Tree) (e : Ending) : Except Breakdown Outcome :=
  return ⟨e.exit, ← (e.notices s r).mapM (Notice.print s), t⟩

/-! ### Chips -/

namespace SearchRequest

variable {r : SearchRequest} {s : Settings} {t : Tree} {store : Store}

/-- Chips, unless one of them lacks its name. -/
def checked (chips : List Chip) : Except ChipFault (List Chip) :=
  match chips.find? (·.value == "") with
  | some c => .error (.unnamed c.kind)
  | none => .ok chips

/-- Making chips of names. -/
theorem mapM_make {kind : ChipKind} (hkind : kind ≠ .pinned) (negated : Bool) (names : List String) :
    names.mapM (fun name => Chip.make kind name negated) = checked (chipsOf kind negated names) := by
  induction names with
  | nil => rfl
  | cons name names ih =>
    rw [List.mapM_cons, ih]
    unfold checked chipsOf
    rw [List.map_cons, List.find?_cons]
    by_cases hname : name = ""
    · subst hname
      simp [Chip.make, Chip.isNamed, hkind]
      rfl
    · have hmake : Chip.make kind name negated = .ok ⟨kind, name, negated⟩ := by
        simp [Chip.make, Chip.isNamed, hname]
      have hbeq : (name == "") = false := beq_eq_false_iff_ne.mpr hname
      simp only [hmake, hbeq]
      generalize List.find? _ _ = unnamed
      cases unnamed <;> rfl

/-- Chips after chips. -/
theorem checked_append {α : Type} (chips chips' : List Chip) (f : List Chip → Except ChipFault α) :
    (do let cs ← checked chips; let cs' ← checked chips'; f (cs ++ cs'))
      = (do let cs ← checked (chips ++ chips'); f cs) := by
  unfold checked
  rw [List.find?_append]
  cases chips.find? (·.value == "") <;> cases chips'.find? (·.value == "") <;> rfl

/-- **The chips are made**, unless one of them lacks its name. -/
theorem chips_eq (r : SearchRequest) :
    r.chips = match r.namedChips.find? (·.value == "") with
      | some c => .error (.unnamed c.kind)
      | none => .ok r.chipRow := by
  have hmake : r.chips = (do
      let cs ← checked r.namedChips
      return cs ++ r.pinned.toList.map fun flag => Chip.ofPinned flag false) := by
    unfold chips namedChips
    have htag : ChipKind.tag ≠ .pinned := by decide
    have hfolder : ChipKind.folder ≠ .pinned := by decide
    simp only [mapM_make htag, mapM_make hfolder, ← checked_append]
  rw [hmake, checked, chipRow]
  cases r.namedChips.find? (·.value == "") <;> rfl

/-! ### The session -/

/-- What the session looks for. -/
theorem expr_session (c : Config) : (r.session c r.chipRow).expr = r.asked c := by
  unfold Session.expr Session.chipsExpr session asked junction
  cases isBlankText r.query <;> rfl

/-- **The session after its search.** -/
theorem search_session (c : Config) (store : Store) :
    ((r.session c r.chipRow).search ⟨.holding store, none⟩).1
      = if !isBlankText r.query && (Expr.ofText? r.query).isNone then
          (r.session c r.chipRow).idle (some SyntaxFault.message)
        else (r.session c r.chipRow).receive ((Database.holding store).search (r.asked c)) := by
  split
  · next h =>
    rw [Bool.and_eq_true, Bool.not_eq_true', Option.isNone_iff_eq_none] at h
    have hmode : (r.session c r.chipRow).mode = .text := by rw [session, h.1]; rfl
    rw [Session.search_of_unreadable hmode h]
  · next h =>
    have hneed : (r.session c r.chipRow).NeedsSource := by
      rw [Bool.and_eq_true, Bool.not_eq_true', Option.isNone_iff_eq_none] at h
      rintro ⟨hmode, hblank | hun⟩
      · have hvisual : (r.session c r.chipRow).mode = .visual := if_pos hblank
        exact nomatch hmode.symm.trans hvisual
      · exact h hun
    rw [Session.search_of_needsSource hneed, expr_session]
    cases r.asked c <;> rfl

/-! ### Printing -/

/-- Laying one notice out. -/
theorem mapM_print_singleton (s : Settings) (n : Notice) :
    [n].mapM (Notice.print s) = (do return [← n.print s]) := by
  rw [List.mapM_cons, List.mapM_nil]
  rfl

/-- An ending of which the user is told by an error message. -/
theorem outcome_of_error {e : Ending} {message : String} (h : e.notices s r = [.error message]) :
    e.outcome s r t = refuse e.exit message t := by
  rw [Ending.outcome, h, mapM_print_singleton, Notice.print, bind_assoc]
  rfl

/-- Printing the canonical form of the query. -/
theorem printQuery_eq (canonical : String) :
    r.printQuery canonical
      = (if r.showQuery && canonical != "" then [.query canonical] else []).mapM (Notice.print s) := by
  unfold printQuery
  split
  · rw [mapM_print_singleton, Notice.print]
    simp only [bind_assoc, pure_bind]
  · rfl

/-- Printing the number of matches. -/
theorem printCount_eq (matched : Nat) :
    printCount s matched
      = (if s.verbose then [.info (String.ofList (numeral matched) ++ " notes matched")] else []).mapM
          (Notice.print s) := by
  unfold printCount
  split
  · rw [mapM_print_singleton, Notice.print]
  · rfl

/-- Printing a list of notes. -/
theorem printListed_eq (notes : List NoteView) :
    r.printListed s (r.canonical s.config) notes = (r.listNotices s notes).mapM (Notice.print s) := by
  unfold printListed listNotices
  dsimp only
  split
  · unfold printNothing
    split
    · rw [mapM_print_singleton, Notice.print]
    · rfl
  · unfold printNotes
    cases r.format with
    | ids => rw [mapM_print_singleton, Notice.print]; rfl
    | json => rw [mapM_print_singleton, Notice.print]; rfl
    | table =>
      simp only [List.mapM_cons, List.mapM_nil, Notice.print, bind_assoc, pure_bind]

/-- **The report is what the store says.** -/
theorem report_eq (store : Store) (t : Tree) :
    r.report s ((r.session s.config r.chipRow).search ⟨.holding store, none⟩).1 t
      = (r.answer s.config store).outcome s r t := by
  rw [search_session]
  unfold answer
  split
  · exact (outcome_of_error (e := .unreadable) rfl).symm
  · have hexpr : ∀ found, ((r.session s.config r.chipRow).receive found).expr = r.asked s.config :=
      fun found => by cases found <;> exact expr_session s.config
    cases (Database.holding store).search (r.asked s.config) with
    | error fault =>
      show refuse exitDatabase ("Database error: " ++ fault.message
        ++ (((r.session s.config r.chipRow).receive (.error fault)).expr.map Expr.boundNote).getD "") t = _
      rw [hexpr]
      exact (outcome_of_error (e := .unanswered fault) rfl).symm
    | ok notes =>
      show (do
        let canonical := (((r.session s.config r.chipRow).receive (.ok notes)).expr.map Expr.text).getD ""
        let query ← r.printQuery canonical
        let count ← printCount s notes.length
        let listed ← r.printListed s canonical (r.listed s.config notes)
        return (⟨exitSuccess, query ++ count ++ listed, t⟩ : Outcome)) = _
      rw [hexpr]
      show (do
        let query ← r.printQuery (r.canonical s.config)
        let count ← printCount s notes.length
        let listed ← r.printListed s (r.canonical s.config) (r.listed s.config notes)
        return (⟨exitSuccess, query ++ count ++ listed, t⟩ : Outcome)) = _
      rw [printQuery_eq, printCount_eq, printListed_eq, Ending.outcome, Ending.notices, foundNotices,
        List.mapM_append, List.mapM_append]
      simp only [bind_assoc, pure_bind]
      rfl

/-! ### The run -/

/-- A run without a database. -/
theorem refuseOpening_notFound (s : Settings) (r : SearchRequest) (t : Tree) :
    refuseOpening t (.database (.notFound (Path.ofText s.config.database.text).text))
      = Ending.missing.outcome s r t := by
  show refuseWithAdvice exitNoDatabase (DatabaseFault.notFound _).message databaseAdvice t = _
  rw [refuseWithAdvice, Ending.outcome, Ending.notices, List.mapM_cons, mapM_print_singleton, Notice.print,
    Notice.print]
  simp only [bind_assoc, pure_bind]
  rfl

/-- A run with a database that cannot be opened. -/
theorem refuseOpening_cannotOpen (s : Settings) (r : SearchRequest) (t : Tree) (cause : EngineFault) :
    refuseOpening t (.database (.cannotOpen (Path.ofText s.config.database.text).text cause))
      = (Ending.unopened cause).outcome s r t :=
  (outcome_of_error (e := .unopened cause) rfl).symm

section Opening

variable {α : Type} {read : Store → α} {goOn : α → Tree → Except Breakdown Outcome}

/-- A database that is opened is read. -/
theorem withDatabase_of_ok {t' : Tree} {d : OpenDatabase}
    (h : t.openDatabase s.surroundings.here s.config.database.text false = (t', .ok d)) :
    s.withDatabase t read goOn = goOn (read d.store) (t'.commit d d.store) := by
  unfold Settings.withDatabase Tree.useDatabase Tree.withSession
  rw [h]
  rfl

/-- A database that is not opened ends the run. -/
theorem withDatabase_of_error {t' : Tree} {fault : OpenFault}
    (h : t.openDatabase s.surroundings.here s.config.database.text false = (t', .error fault)) :
    s.withDatabase t read goOn = refuseOpening t' fault := by
  unfold Settings.withDatabase Tree.useDatabase Tree.withSession
  rw [h]

/-- **Reading the database** goes on with the store, or ends. -/
theorem withDatabase_eq (s : Settings) (r : SearchRequest) (t : Tree) (read : Store → α)
    (goOn : α → Tree → Except Breakdown Outcome) :
    match s.openStore t with
    | .error fault => s.withDatabase t read goOn = .error (.file fault)
    | .ok none => s.withDatabase t read goOn = Ending.missing.outcome s r t
    | .ok (some (.error cause)) => ∃ t', s.withDatabase t read goOn = (Ending.unopened cause).outcome s r t'
    | .ok (some (.ok store)) => ∃ t', s.withDatabase t read goOn = goOn (read store) t' := by
  by_cases hmemory : (s.config.database.text == memoryPath) = true
  · have hopen : t.openDatabase s.surroundings.here s.config.database.text false = (t, .ok ⟨none, {}⟩) :=
      if_pos hmemory
    unfold Settings.openStore
    rw [if_pos hmemory]
    exact ⟨_, withDatabase_of_ok hopen⟩
  · unfold Settings.openStore
    rw [if_neg hmemory]
    have hopen : t.openDatabase s.surroundings.here s.config.database.text false = _ := if_neg hmemory
    dsimp only at hopen
    rw [Tree.prepare_eq] at hopen
    cases hentry : t.hasEntry s.surroundings.here (Path.ofText s.config.database.text) with
    | error fault =>
      rw [hentry] at hopen
      exact withDatabase_of_error hopen
    | ok found =>
      rw [hentry] at hopen
      cases found with
      | false => exact (withDatabase_of_error hopen).trans (refuseOpening_notFound s r t)
      | true =>
        dsimp only at hopen
        cases hplace :
            t.openPlace (Tree.enginePlace s.surroundings.here (Path.ofText s.config.database.text)) with
        | error cause =>
          rw [hplace] at hopen
          exact ⟨_, (withDatabase_of_error hopen).trans (refuseOpening_cannotOpen s r _ cause)⟩
        | ok opened =>
          rw [hplace] at hopen
          exact ⟨_, withDatabase_of_ok hopen⟩

end Opening

/-- **The run does what its ending says.** -/
theorem run_of_ending (s : Settings) (r : SearchRequest) (t : Tree) :
    match r.ending s t with
    | .error fault => r.run s t = .error (.file fault)
    | .ok e => ∃ t', r.run s t = e.outcome s r t' := by
  unfold ending run
  rw [chips_eq]
  cases r.namedChips.find? (·.value == "") with
  | some c =>
    exact ⟨t, (outcome_of_error (e := .nameless c.kind) rfl).symm⟩
  | none =>
    dsimp only
    by_cases hboth : (!isBlankText r.query && !r.chipRow.isEmpty) = true
    · rw [if_pos hboth, if_pos hboth]
      exact ⟨t, (outcome_of_error (e := .twofold) rfl).symm⟩
    · rw [if_neg hboth, if_neg hboth]
      have h := withDatabase_eq s r t
        (fun store => ((r.session s.config r.chipRow).search ⟨.holding store, none⟩).1) (r.report s)
      revert h
      cases s.openStore t with
      | error fault => exact id
      | ok opened =>
        match opened with
        | none => exact fun h => ⟨t, h⟩
        | some (.error cause) => exact id
        | some (.ok store) =>
          rintro ⟨t', h⟩
          exact ⟨t', h.trans (report_eq store t')⟩

end SearchRequest

end NoteSearch.Command
