import Mathlib
import NoteSearch.Proofs.Config.Document

/-!
# Loading a file of settings

A file of settings is a text that anyone may write, and whatever stands in it is meant to give either
settings or a fault that the user is told of: that it is no TOML, or which value is wrong and why
(`NoteSearch.Config.Complaint`, `NoteSearch.Config.Documented`).

There are four ways for it to give another fault (`NoteSearch.Config.Unforeseen`): a whole number with too
many digits, a value in the place of a section, and a path of the database that leads nowhere or cannot be
looked at. And there is one way for it to give settings where a value is wrong: a text or a list in the place
of a section that is not found out (`NoteSearch.Config.Overlooked`). In all other cases the file gives what
it is meant to give (`NoteSearch.Config.load_text_iff`).

The reader of the file goes down into lists and tables without end here. One that runs on a stack of limited
height gives up where they are nested some hundreds deep; texts are taken to be less deep than that.
-/

namespace NoteSearch.Config

/-! ### What is meant -/

/-- **A fault of a document that the user is told of**: a section is no table, or an entry is not as it is
asked for. -/
inductive Complaint (d : Table) : Fault → Prop
  /-- Something that is no table stands in the place of a section. -/
  | misplaced {name reason : String} : name ∈ sectionNames → isMisplaced d name = true →
      Complaint d (.invalid name reason)
  /-- An entry is not as it is asked for. -/
  | entry {q : Demand} : q ∈ Demand.all → q.fails d = true → Complaint d q.fault

/-- **What loading a text from a path is meant to give**: settings if nothing is wrong with it, or else a
fault that says what is. -/
def Documented (path : Path) (content : String) (outcome : Except Fault (Config × List Warning)) : Prop :=
  match Toml.read content with
  | .error .malformed => outcome = .error (.unreadable path.text)
  | .error .numberTooLong => ∃ fault, outcome = .error fault ∧ fault.message?.isSome
  | .ok d => (∃ fault, Complaint d fault ∧ outcome = .error fault)
      ∨ (∀ fault, ¬Complaint d fault) ∧ ∃ r, outcome = .ok r

/-! ### What there is besides -/

/-- **What is not foreseen** in a text that settings are loaded from, apart from lists and tables that are nested
too deep for the stack of a reader. -/
inductive Unforeseen (env : Surroundings) (t : Tree) (path : Path) (content : String) : Prop
  /-- A whole number has too many digits. -/
  | longNumber : Toml.read content = .error .numberTooLong → Unforeseen env t path content
  /-- Before any entry is found wrong, a section is found not to be one. -/
  | noSection {d : Table} : Toml.read content = .ok d →
      firstFault? (checks d) = some .notASection → Unforeseen env t path content
  /-- Every value has its type, and the path of the database leads nowhere. -/
  | noPath {d : Table} {fault : PathFault} : Toml.read content = .ok d →
      firstFault? (checks d) = none → (settings env path d).database.resolve env = .error fault →
      Unforeseen env t path content
  /-- Every value has its type and is in range, and the path of the database is too long. -/
  | longPath {d : Table} {database : Path} : Toml.read content = .ok d →
      firstFault? (checks d) = none → firstFault? (rangeChecks d) = none →
      (settings env path d).database.resolve env = .ok database → t.look env.here database = .tooLong →
      Unforeseen env t path content

/-- **What is overlooked** in a text: nothing else is found wrong, and something that is no table stands in
the place of a section. -/
def Overlooked (content : String) : Prop :=
  ∃ d, Toml.read content = .ok d ∧ firstFault? (checks d) = none ∧ firstFault? (rangeChecks d) = none
    ∧ ∃ name ∈ sectionNames, isMisplaced d name = true

/-! ### Checks and complaints -/

variable {env : Surroundings} {t : Tree} {p : Path} {content : String} {d : Table} {fault : Fault}

theorem Complaint.isSome_message? (h : Complaint d fault) : fault.message?.isSome = true := by
  cases h <;> rfl

/-- **A check of reading that fails** finds a section that is none, or has a complaint. -/
theorem eq_notASection_or_complaint (h : firstFault? (checks d) = some fault) :
    fault = .notASection ∨ Complaint d fault := by
  have hmem := mem_of_firstFault?_eq_some h
  simp only [checks, List.mem_cons, List.not_mem_nil, or_false, Prod.mk.injEq] at hmem
  obtain ⟨-, rfl⟩ | ⟨hq, rfl⟩ | ⟨-, rfl⟩ | ⟨hq, rfl⟩ | ⟨hq, rfl⟩ | ⟨-, rfl⟩ | ⟨hq, rfl⟩ | ⟨hq, rfl⟩ := hmem
  all_goals first
    | exact .inl rfl
    | exact .inr (.entry (by simp [Demand.all]) hq.symm)

/-- A check of ranges that fails has a complaint. -/
theorem complaint_of_rangeChecks (h : firstFault? (rangeChecks d) = some fault) : Complaint d fault := by
  have hmem := mem_of_firstFault?_eq_some h
  simp only [rangeChecks, List.mem_cons, List.not_mem_nil, or_false, Prod.mk.injEq] at hmem
  obtain ⟨hq, rfl⟩ | ⟨hq, rfl⟩ := hmem
  · exact .entry (by simp [Demand.all]) hq.symm
  · exact .entry (by simp [Demand.all]) hq.symm

/-- **Where all checks pass**, the only complaint there can be is of a section that is overlooked. -/
theorem exists_misplaced_of_complaint (hchecks : firstFault? (checks d) = none)
    (hranges : firstFault? (rangeChecks d) = none) (h : Complaint d fault) :
    ∃ name ∈ sectionNames, isMisplaced d name = true := by
  cases h with
  | misplaced hname hd => exact ⟨_, hname, hd⟩
  | @entry q hq hfails =>
    -- whatever is asked of an entry is checked
    rw [firstFault?_eq_none_iff] at hchecks hranges
    simp only [checks, rangeChecks, List.forall_mem_cons] at hchecks hranges
    obtain ⟨-, hdatabase, -, hcolored, hlength, -, hlogic, hlimit, -⟩ := hchecks
    obtain ⟨hlogicRange, hlengthRange, -⟩ := hranges
    have hnone : ∀ q ∈ Demand.all, q.fails d = false := by
      simp only [Demand.all, List.forall_mem_cons]
      exact ⟨hdatabase, hcolored, hlength, hlogic, hlimit, hlogicRange, hlengthRange,
        fun q hq => absurd hq List.not_mem_nil⟩
    rw [hnone q hq] at hfails
    cases hfails

/-! ### Loading -/

/-- **Loading a text**: it is read, checked, and its path of the database is looked at. -/
theorem load_text {path : Option Path} {place : List String}
    (hpath : (path.getD (defaultPath env)).resolve env = .ok p)
    (hlook : t.look env.here p = .found place (.text content)) :
    load env t path = match Toml.read content with
      | .error .malformed => .error (.unreadable p.text)
      | .error .numberTooLong => .error .numberTooLong
      | .ok d => passing (checks d) (settings env p d) >>= validate env t := by
  unfold load
  rw [hpath]
  simp only [Except.mapError, bind, Except.bind, hlook]
  cases Toml.read content with
  | error fault => cases fault <;> rfl
  | ok d => exact congrArg (· >>= validate env t) (ofDocument_eq env p d)

/-- **What checking a document gives.** -/
inductive Outcome (env : Surroundings) (t : Tree) (p : Path) (d : Table) :
    Except Fault (Config × List Warning) → Prop
  /-- A check of reading fails. -/
  | refused {fault : Fault} (hchecks : firstFault? (checks d) = some fault) :
      Outcome env t p d (.error fault)
  /-- The path of the database leads nowhere. -/
  | noPath {fault : PathFault} (hchecks : firstFault? (checks d) = none)
      (hdatabase : (settings env p d).database.resolve env = .error fault) :
      Outcome env t p d (.error (.badPath fault))
  /-- A check of ranges fails. -/
  | outOfRange {fault : Fault} {q : Path} (hchecks : firstFault? (checks d) = none)
      (hdatabase : (settings env p d).database.resolve env = .ok q)
      (hranges : firstFault? (rangeChecks d) = some fault) : Outcome env t p d (.error fault)
  /-- The path of the database is too long. -/
  | longPath {q : Path} (hchecks : firstFault? (checks d) = none)
      (hdatabase : (settings env p d).database.resolve env = .ok q)
      (hranges : firstFault? (rangeChecks d) = none) (hlook : t.look env.here q = .tooLong) :
      Outcome env t p d (.error (.badFile (.nameTooLong q.text)))
  /-- There are settings. -/
  | loaded {q : Path} {r : Config × List Warning} (hchecks : firstFault? (checks d) = none)
      (hdatabase : (settings env p d).database.resolve env = .ok q)
      (hranges : firstFault? (rangeChecks d) = none) (hlook : t.look env.here q ≠ .tooLong) :
      Outcome env t p d (.ok r)

/-- A path that is not too long can be looked at. -/
theorem exists_hasEntry {here : List String} (h : t.look here p ≠ .tooLong) :
    ∃ isThere, t.hasEntry here p = .ok isThere := by
  unfold Tree.hasEntry
  split
  · exact ⟨true, rfl⟩
  · next hlook => exact absurd hlook h
  · exact ⟨false, rfl⟩

/-- **A document has one of these outcomes.** -/
theorem outcome_document (env : Surroundings) (t : Tree) (p : Path) (d : Table) :
    Outcome env t p d (passing (checks d) (settings env p d) >>= validate env t) := by
  cases hchecks : firstFault? (checks d) with
  | some fault =>
    rw [passing, hchecks]
    exact .refused hchecks
  | none =>
    rw [passing, hchecks]
    show Outcome env t p d (validate env t (settings env p d))
    rw [validate_settings]
    cases hdatabase : (settings env p d).database.resolve env with
    | error fault => exact .noPath hchecks hdatabase
    | ok q =>
      cases hranges : firstFault? (rangeChecks d) with
      | some fault =>
        simp only [passing, hranges]
        exact .outOfRange hchecks hdatabase hranges
      | none =>
        simp only [passing, hranges]
        show Outcome env t p d ((t.hasEntry env.here q).mapError .badFile >>= _)
        by_cases hlook : t.look env.here q = .tooLong
        · rw [Tree.hasEntry, hlook]
          exact .longPath hchecks hdatabase hranges hlook
        · obtain ⟨isThere, hthere⟩ := exists_hasEntry hlook
          rw [hthere]
          exact .loaded hchecks hdatabase hranges hlook

section Document

variable {outcome : Except Fault (Config × List Warning)}

/-- **Something in a document is not foreseen** exactly when it gives a fault that the user is not told of.
-/
theorem exists_unmentioned_iff (hread : Toml.read content = .ok d)
    (houtcome : Outcome env t p d outcome) :
    (∃ fault, outcome = .error fault ∧ fault.message? = none) ↔ Unforeseen env t p content := by
  cases houtcome with
  | @refused fault hchecks =>
    constructor
    · rintro ⟨_, ⟨⟩, hfault⟩
      obtain rfl | hcomplaint := eq_notASection_or_complaint hchecks
      · exact .noSection hread hchecks
      · exact absurd hfault (Option.isSome_iff_ne_none.mp hcomplaint.isSome_message?)
    · rintro (h | ⟨h, hsection⟩ | ⟨h, hnone⟩ | ⟨h, hnone⟩) <;> cases hread.symm.trans h
      · cases hchecks.symm.trans hsection
        exact ⟨.notASection, rfl, rfl⟩
      · cases hchecks.symm.trans hnone
      · cases hchecks.symm.trans hnone
  | noPath hchecks hdatabase =>
    exact ⟨fun _ => .noPath hread hchecks hdatabase, fun _ => ⟨_, rfl, rfl⟩⟩
  | outOfRange hchecks hdatabase hranges =>
    have hcomplaint := complaint_of_rangeChecks hranges
    constructor
    · rintro ⟨_, ⟨⟩, hfault⟩
      exact absurd hfault (Option.isSome_iff_ne_none.mp hcomplaint.isSome_message?)
    · rintro (h | ⟨h, hsection⟩ | ⟨h, -, hpath⟩ | ⟨h, -, hnone⟩) <;> cases hread.symm.trans h
      · cases hchecks.symm.trans hsection
      · cases hdatabase.symm.trans hpath
      · cases hranges.symm.trans hnone
  | longPath hchecks hdatabase hranges hlook =>
    exact ⟨fun _ => .longPath hread hchecks hranges hdatabase hlook, fun _ => ⟨_, rfl, rfl⟩⟩
  | loaded hchecks hdatabase hranges hlook =>
    constructor
    · rintro ⟨_, ⟨⟩, -⟩
    · rintro (h | ⟨h, hsection⟩ | ⟨h, -, hpath⟩ | ⟨h, -, -, hpath, htoo⟩) <;>
        cases hread.symm.trans h
      · cases hchecks.symm.trans hsection
      · cases hdatabase.symm.trans hpath
      · cases hdatabase.symm.trans hpath
        exact absurd htoo hlook

/-- A document that gives a fault gives what it is meant to give if the user is told of the fault. -/
theorem complaint_iff_isSome_message? (houtcome : Outcome env t p d (.error fault)) :
    Complaint d fault ↔ fault.message?.isSome = true := by
  refine ⟨Complaint.isSome_message?, fun hsome => ?_⟩
  cases houtcome with
  | refused hchecks =>
    obtain rfl | hcomplaint := eq_notASection_or_complaint hchecks
    · cases hsome
    · exact hcomplaint
  | noPath => cases hsome
  | outOfRange _ _ hranges => exact complaint_of_rangeChecks hranges
  | longPath => cases hsome

/-- A document in which something is overlooked gives no fault that the user is told of. -/
theorem not_overlooked_of_complaint (hread : Toml.read content = .ok d)
    (houtcome : Outcome env t p d (.error fault)) (h : Complaint d fault) : ¬Overlooked content := by
  rintro ⟨d', hread', hchecks, hranges, -⟩
  cases hread.symm.trans hread'
  cases houtcome with
  | refused hfirst => cases hchecks.symm.trans hfirst
  | noPath => cases h
  | outOfRange _ _ hfirst => cases hranges.symm.trans hfirst
  | longPath => cases h

/-- **A document gives what it is meant to give** exactly where nothing is unforeseen or overlooked. -/
theorem documented_iff (hread : Toml.read content = .ok d) (houtcome : Outcome env t p d outcome) :
    Documented p content outcome ↔ ¬Unforeseen env t p content ∧ ¬Overlooked content := by
  rw [← exists_unmentioned_iff hread houtcome]
  have hmeant : Documented p content outcome ↔ (∃ fault, Complaint d fault ∧ outcome = .error fault)
      ∨ (∀ fault, ¬Complaint d fault) ∧ ∃ r, outcome = .ok r := by
    rw [Documented, hread]
  rw [hmeant]
  cases outcome with
  | error fault =>
    have hcomplaint := complaint_iff_isSome_message? houtcome
    constructor
    · rintro (⟨_, h, ⟨⟩⟩ | ⟨-, _, ⟨⟩⟩)
      refine ⟨?_, not_overlooked_of_complaint hread houtcome h⟩
      rintro ⟨_, ⟨⟩, hnone⟩
      exact Option.isSome_iff_ne_none.mp (hcomplaint.mp h) hnone
    · rintro ⟨hmentioned, -⟩
      refine .inl ⟨fault, hcomplaint.mpr (Option.isSome_iff_ne_none.mpr fun hnone => ?_), rfl⟩
      exact hmentioned ⟨fault, rfl, hnone⟩
  | ok r =>
    cases houtcome with
    | loaded hchecks _ hranges _ =>
      constructor
      · rintro (⟨_, -, ⟨⟩⟩ | ⟨hnone, -⟩)
        refine ⟨fun ⟨_, h, _⟩ => (nomatch h), ?_⟩
        rintro ⟨d', hread', -, -, name, hname, hmisplaced⟩
        cases hread.symm.trans hread'
        exact hnone (.invalid name "") (.misplaced hname hmisplaced)
      · rintro ⟨-, hoverlooked⟩
        refine .inr ⟨fun fault hcomplaint => ?_, r, rfl⟩
        exact hoverlooked ⟨d, hread, hchecks, hranges,
          exists_misplaced_of_complaint hchecks hranges hcomplaint⟩

end Document

/-- **What loading a text gives.** It gives a fault that the user is not told of exactly where something is
not foreseen; and it gives what it is meant to give exactly where besides nothing is overlooked. -/
theorem load_text_iff {path : Option Path} {place : List String}
    (hpath : (path.getD (defaultPath env)).resolve env = .ok p)
    (hlook : t.look env.here p = .found place (.text content)) :
    ((∃ fault, load env t path = .error fault ∧ fault.message? = none) ↔ Unforeseen env t p content)
      ∧ (Documented p content (load env t path) ↔ ¬Unforeseen env t p content ∧ ¬Overlooked content) := by
  have hload := load_text hpath hlook
  cases hread : Toml.read content with
  | error fault =>
    simp only [hread] at hload
    have hoverlooked : ¬Overlooked content := fun ⟨d, h, _⟩ => nomatch hread.symm.trans h
    cases fault with
    | malformed =>
      have hforeseen : ¬Unforeseen env t p content := by
        rintro (h | h | h | h) <;> cases hread.symm.trans h
      rw [hload, Documented, hread]
      refine ⟨iff_of_false ?_ hforeseen, iff_of_true rfl ⟨hforeseen, hoverlooked⟩⟩
      rintro ⟨_, ⟨⟩, hnone⟩
      cases hnone
    | numberTooLong =>
      have hunforeseen : Unforeseen env t p content := .longNumber hread
      rw [hload, Documented, hread]
      refine ⟨iff_of_true ⟨_, rfl, rfl⟩ hunforeseen, iff_of_false ?_ fun h => h.1 hunforeseen⟩
      rintro ⟨_, ⟨⟩, hsome⟩
      cases hsome
  | ok d =>
    simp only [hread] at hload
    have houtcome : Outcome env t p d (load env t path) := hload ▸ outcome_document env t p d
    exact ⟨exists_unmentioned_iff hread houtcome, documented_iff hread houtcome⟩

/-- A user who works in a directory of their own. -/
def desk : Surroundings where
  here := ["work"]
  home := "/home/ann"
  homes := []

/-- A file of settings in that directory. -/
def settingsFile (content : String) : Tree where
  entries := [(["work"], .directory), (["work", "config.toml"], .text content)]

/-- The path of the file. -/
def settingsPath : Path :=
  .absolute ["work", "config.toml"]

theorem resolve_settingsPath :
    ((some (Path.ofText "config.toml")).getD (defaultPath desk)).resolve desk = .ok settingsPath :=
  rfl

theorem look_settingsFile (content : String) :
    (settingsFile content).look desk.here settingsPath = .found ["work", "config.toml"] (.text content) := by
  cbv

/-- A length that is out of range is a fault that names the entry, and nothing is unforeseen. -/
theorem load_text_outOfRange :
    let content := "[display]\nsnippet_length = 0\n"
    let outcome := load desk (settingsFile content) (some (Path.ofText "config.toml"))
    ((some (Path.ofText "config.toml")).getD (defaultPath desk)).resolve desk = .ok settingsPath
      ∧ (settingsFile content).look desk.here settingsPath
          = .found ["work", "config.toml"] (.text content)
      ∧ outcome = .error (.invalid "display.snippet_length" "must be positive")
      ∧ Documented settingsPath content outcome := by
  intro content outcome
  have hread : Toml.read content = .ok [("display", .table [("snippet_length", .integer 0)])] := by cbv
  have houtcome : outcome = .error (.invalid "display.snippet_length" "must be positive") := by
    show load _ _ _ = _
    rw [load_text resolve_settingsPath (look_settingsFile content), hread]
    rfl
  obtain ⟨hunforeseen, hdocumented⟩ := load_text_iff resolve_settingsPath (look_settingsFile content)
  refine ⟨resolve_settingsPath, look_settingsFile content, houtcome,
    hdocumented.mpr ⟨fun h => ?_, ?_⟩⟩
  · obtain ⟨fault, hfault, hnone⟩ := hunforeseen.mpr h
    cases houtcome.symm.trans hfault
    cases hnone
  · rintro ⟨d, hd, -, hranges, -⟩
    cases hread.symm.trans hd
    cases hranges

/-- **Something in the place of a section** is not always what the user is told of: a number there gives a
fault without a message, and a text gives settings. -/
theorem load_text_not_documented :
    let number := "paths = 5\n"
    let text := "paths = 'notes'\n"
    let outcome content := load desk (settingsFile content) (some (Path.ofText "config.toml"))
    outcome number = .error .notASection ∧ Fault.notASection.message? = none
      ∧ ¬Documented settingsPath number (outcome number)
      ∧ (∃ r, outcome text = .ok r) ∧ ¬Documented settingsPath text (outcome text) := by
  intro number text outcome
  have hnumber : Toml.read number = .ok [("paths", .integer 5)] := by cbv
  have htext : Toml.read text = .ok [("paths", .text "notes")] := by cbv
  have hrefused : outcome number = .error .notASection := by
    show load _ _ _ = _
    rw [load_text resolve_settingsPath (look_settingsFile number), hnumber]
    rfl
  have hloaded : ∃ r, outcome text = .ok r := by
    show ∃ r, load _ _ _ = _
    rw [load_text resolve_settingsPath (look_settingsFile text), htext]
    exact ⟨_, rfl⟩
  refine ⟨hrefused, rfl, ?_, hloaded, ?_⟩
  · rw [hrefused, Documented, hnumber]
    rintro (⟨_, h, ⟨⟩⟩ | ⟨-, _, ⟨⟩⟩)
    cases h
  · obtain ⟨r, hr⟩ := hloaded
    rw [hr, Documented, htext]
    rintro (⟨_, -, ⟨⟩⟩ | ⟨hnone, -⟩)
    exact hnone (.invalid "paths" "") (.misplaced (by simp [sectionNames]) rfl)

end NoteSearch.Config
