import NoteSearch.Proofs.Config.Saving

/-!
# The entries of a document

Five entries of a document are read, and no other makes a difference. What the value of each of them may be is
`NoteSearch.Config.Entry.Allows`; a document is valid when the values that are there are allowed
(`NoteSearch.Config.IsValid`). The checks that look for this are spread over reading and validation, and the
two are seven demands on five entries (`NoteSearch.Config.Entry.demands`): the type of a length and of an
operator is one demand, their range another, which is made after the path of the database has been resolved.

A document that is read and checked gives settings exactly when it is valid and the path of the database can
be resolved and looked at, and then each setting is the value given or the default. Otherwise the fault names
an entry whose value is not allowed, or is that of the path (`NoteSearch.Config.readDocument_iff`). A path that
can be resolved need not be one that can be looked at (`NoteSearch.Config.readDocument_longPath`).
-/

namespace NoteSearch.Config

/-! ### What entries may be -/

/-- **An entry that is read.** -/
inductive Entry
  /-- Where the notes are. -/
  | database
  /-- Whether output is colored. -/
  | colored
  /-- How long previews are. -/
  | snippetLength
  /-- How chips are joined. -/
  | chipLogic
  /-- How many results are listed. -/
  | limit
  deriving DecidableEq, Repr, Inhabited

namespace Entry

/-- The section that the entry stands in. -/
def sectionName : Entry → String
  | database => "paths"
  | colored | snippetLength => "display"
  | chipLogic | limit => "search"

/-- The key of the entry in its section. -/
def key : Entry → String
  | database => "database"
  | colored => "colored_output"
  | snippetLength => "snippet_length"
  | chipLogic => "chip_logic"
  | limit => "limit"

/-- The name of the entry in a fault. -/
def name (e : Entry) : String :=
  e.sectionName ++ "." ++ e.key

/-- The value of the entry in a document, if there is one. -/
def value? (e : Entry) (d : Table) : Option Value :=
  valueOf? d e.sectionName e.key

/-- **What the value of an entry may be.** A truth value is no number. -/
def Allows : Entry → Value → Prop
  | database, .text _ => True
  | colored, .boolean _ => True
  | snippetLength, .integer n => 0 < n
  | chipLogic, .text s => Text.lowercase s = "and" ∨ Text.lowercase s = "or"
  | limit, .integer n => 0 ≤ n
  | _, _ => False

/-- What is asked of an entry: a type, and of some a range. -/
def demands : Entry → List Demand
  | database => [Demand.database]
  | colored => [Demand.colored]
  | snippetLength => [Demand.snippetLength, Demand.snippetLengthRange]
  | chipLogic => [Demand.chipLogic, Demand.chipLogicRange]
  | limit => [Demand.limit]

/-- The demands on an entry are about this entry. -/
theorem of_mem_demands {e : Entry} {q : Demand} (h : q ∈ e.demands) :
    q.sectionName = e.sectionName ∧ q.key = e.key := by
  cases e <;> simp only [demands, List.mem_cons, List.not_mem_nil, or_false] at h
  case snippetLength | chipLogic => obtain rfl | rfl := h <;> exact ⟨rfl, rfl⟩
  all_goals
    subst h
    exact ⟨rfl, rfl⟩

/-- **A value is allowed** when it meets all that is asked of the entry. -/
theorem allows_iff {e : Entry} {v : Value} : e.Allows v ↔ ∀ q ∈ e.demands, q.meets v = true := by
  cases e with
  | database => cases v <;> simp [Allows, demands, Demand.database, text?]
  | colored => cases v <;> simp [Allows, demands, Demand.colored, boolean?]
  | snippetLength =>
    cases v <;> simp [Allows, demands, Demand.snippetLength, Demand.snippetLengthRange, integer?]
  | chipLogic =>
    cases v <;> simp [Allows, demands, Demand.chipLogic, Demand.chipLogicRange, text?, isSome_ofName?_iff]
  | limit =>
    cases v with
    | integer n =>
      have hlimit : (limit? (.integer n)).isSome = true ↔ 0 ≤ n := by
        show (if n < 0 then none else some (if n = 0 then none else some n)).isSome = true ↔ _
        split
        · next hneg => simpa using hneg
        · next hneg => simpa using hneg
      simpa [Allows, demands, Demand.limit] using hlimit.symm
    | _ => simp [Allows, demands, Demand.limit, limit?]

end Entry

/-- All that is asked of entries is asked of one of them. -/
theorem Demand.mem_all_iff {q : Demand} : q ∈ Demand.all ↔ ∃ e : Entry, q ∈ e.demands := by
  constructor
  · intro h
    simp only [Demand.all, List.mem_cons, List.not_mem_nil, or_false] at h
    obtain rfl | rfl | rfl | rfl | rfl | rfl | rfl := h
    · exact ⟨.database, by simp [Entry.demands]⟩
    · exact ⟨.colored, by simp [Entry.demands]⟩
    · exact ⟨.snippetLength, by simp [Entry.demands]⟩
    · exact ⟨.chipLogic, by simp [Entry.demands]⟩
    · exact ⟨.limit, by simp [Entry.demands]⟩
    · exact ⟨.chipLogic, by simp [Entry.demands]⟩
    · exact ⟨.snippetLength, by simp [Entry.demands]⟩
  · rintro ⟨e, h⟩
    cases e <;> simp only [Entry.demands, List.mem_cons, List.not_mem_nil, or_false] at h
    case snippetLength | chipLogic => obtain rfl | rfl := h <;> simp [Demand.all]
    all_goals
      subst h
      simp [Demand.all]

/-! ### Valid documents -/

/-- **A valid document**: the values of the entries that are there are allowed. -/
def IsValid (d : Table) : Prop :=
  ∀ e : Entry, ∀ v ∈ e.value? d, e.Allows v

/-- **Documents with the same entries**, whatever else is in them. -/
def SameEntries (d d' : Table) : Prop :=
  ∀ e : Entry, e.value? d = e.value? d'

/-- **Every section is a table**, if it is there. -/
def HasSections (d : Table) : Prop :=
  ∀ name ∈ sectionNames, isMisplaced d name = false

instance (d : Table) : Decidable (HasSections d) :=
  inferInstanceAs (Decidable (∀ name ∈ sectionNames, _))

variable {d d' : Table} {q : Demand} {fault : Fault}

/-- A demand fails where the value of its entry is there and does not meet it. -/
theorem Demand.fails_eq_false_iff {e : Entry} (hq : q ∈ e.demands) :
    q.fails d = false ↔ ∀ v ∈ e.value? d, q.meets v = true := by
  obtain ⟨hsection, hkey⟩ := Entry.of_mem_demands hq
  rw [Demand.fails, hsection, hkey, Entry.value?]
  cases valueOf? d e.sectionName e.key <;> simp

/-- **A document is valid** when no demand fails. -/
theorem isValid_iff : IsValid d ↔ ∀ q ∈ Demand.all, q.fails d = false := by
  constructor
  · intro h q hq
    obtain ⟨e, he⟩ := Demand.mem_all_iff.mp hq
    exact (Demand.fails_eq_false_iff he).mpr fun v hv => Entry.allows_iff.mp (h e v hv) q he
  · intro h e v hv
    exact Entry.allows_iff.mpr fun q hq =>
      (Demand.fails_eq_false_iff hq).mp (h q (Demand.mem_all_iff.mpr ⟨e, hq⟩)) v hv

/-- **A demand that fails** is on an entry whose value is not allowed, and its fault names that entry. -/
theorem Demand.exists_entry_of_fails (hq : q ∈ Demand.all) (h : q.fails d = true) :
    ∃ (e : Entry) (v : Value) (reason : String),
      e.value? d = some v ∧ ¬e.Allows v ∧ q.fault = .invalid e.name reason := by
  obtain ⟨e, he⟩ := Demand.mem_all_iff.mp hq
  obtain ⟨hsection, hkey⟩ := Entry.of_mem_demands he
  rw [Demand.fails, hsection, hkey, Option.any_eq_true] at h
  obtain ⟨v, hv, hmeets⟩ := h
  refine ⟨e, v, q.reason, hv, fun hallows => ?_, by rw [Demand.fault, hsection, hkey, Entry.name]⟩
  rw [Entry.allows_iff.mp hallows q he] at hmeets
  cases hmeets

/-- The same entries fail the same demands. -/
theorem SameEntries.fails_eq (h : SameEntries d d') (hq : q ∈ Demand.all) : q.fails d = q.fails d' := by
  obtain ⟨e, he⟩ := Demand.mem_all_iff.mp hq
  obtain ⟨hsection, hkey⟩ := Entry.of_mem_demands he
  have hvalue : valueOf? d e.sectionName e.key = valueOf? d' e.sectionName e.key := h e
  rw [Demand.fails, Demand.fails, hsection, hkey, hvalue]

/-! ### The checks of a document with sections -/

/-- A section that is a table is not found to be none. -/
theorem HasSections.isObstructed_eq (h : HasSections d) {name : String} (hname : name ∈ sectionNames)
    (keys : List String) : isObstructed d name keys = false := by
  have hplaced := h name hname
  rw [isMisplaced] at hplaced
  rw [isObstructed]
  cases hget : Table.get? d name with
  | none => rfl
  | some v =>
    rw [hget] at hplaced
    cases v with
    | table entries => rfl
    | _ => cases hplaced

/-- **The checks of a document with sections** are those of its entries. -/
theorem HasSections.checks_eq (h : HasSections d) :
    checks d = [(false, .notASection), (Demand.database.fails d, Demand.database.fault),
      (false, .notASection), (Demand.colored.fails d, Demand.colored.fault),
      (Demand.snippetLength.fails d, Demand.snippetLength.fault), (false, .notASection),
      (Demand.chipLogic.fails d, Demand.chipLogic.fault), (Demand.limit.fails d, Demand.limit.fault)] := by
  rw [checks, h.isObstructed_eq (.head _), h.isObstructed_eq (.tail _ (.head _)),
    h.isObstructed_eq (.tail _ (.tail _ (.head _)))]

/-- **All checks pass** exactly for a valid document. -/
theorem HasSections.isValid_iff (h : HasSections d) :
    IsValid d ↔ firstFault? (checks d) = none ∧ firstFault? (rangeChecks d) = none := by
  rw [Config.isValid_iff, h.checks_eq, firstFault?_eq_none_iff, firstFault?_eq_none_iff, rangeChecks,
    Demand.all]
  simp only [List.forall_mem_cons, List.not_mem_nil, false_imp_iff, forall_true_iff, true_and, and_true]
  tauto

/-- **A check that fails** names an entry whose value is not allowed. -/
theorem HasSections.exists_entry_of_checks (h : HasSections d)
    (hfirst : firstFault? (checks d) = some fault ∨ firstFault? (rangeChecks d) = some fault) :
    ∃ (e : Entry) (v : Value) (reason : String),
      e.value? d = some v ∧ ¬e.Allows v ∧ fault = .invalid e.name reason := by
  have hcomplaint : Complaint d fault := by
    rcases hfirst with hfirst | hfirst
    · obtain rfl | hcomplaint := eq_notASection_or_complaint hfirst
      · -- no section is found not to be one
        have hmem := mem_of_firstFault?_eq_some hfirst
        rw [h.checks_eq] at hmem
        simp [Demand.fault] at hmem
      · exact hcomplaint
    · exact complaint_of_rangeChecks hfirst
  cases hcomplaint with
  | misplaced hname hmisplaced =>
    rw [h _ hname] at hmisplaced
    cases hmisplaced
  | entry hq hfails => exact Demand.exists_entry_of_fails hq hfails

/-! ### Reading and checking a document -/

/-- **Reading a document and checking what was read.** -/
def readDocument (env : Surroundings) (t : Tree) (source : Path) (d : Table) :
    Except Fault (Config × List Warning) := do
  validate env t (← ofDocument env source d)

/-- The path of the database that a document names, or else the default. -/
def databasePath (env : Surroundings) (d : Table) : Path :=
  match Entry.database.value? d with
  | some (.text s) => Path.ofText s
  | _ => defaultDatabase env

/-- **Settings that are those of a document**: each is the value of its entry, or the default where there is
none. The operator is in small letters, the limit zero is none, and the path of the database is resolved. -/
structure Carries (env : Surroundings) (source : Path) (d : Table) (c : Config) : Prop where
  /-- Where the notes are. -/
  database : (databasePath env d).resolve env = .ok c.database
  /-- Whether output is colored. -/
  colored : Entry.colored.value? d = none ∧ c.colored = true
    ∨ Entry.colored.value? d = some (.boolean c.colored)
  /-- How long previews are. -/
  snippetLength : Entry.snippetLength.value? d = none ∧ c.snippetLength = Snippet.defaultLength
    ∨ Entry.snippetLength.value? d = some (.integer c.snippetLength)
  /-- How chips are joined. -/
  chipLogic : Entry.chipLogic.value? d = none ∧ c.chipLogic = "and"
    ∨ ∃ s, Entry.chipLogic.value? d = some (.text s) ∧ c.chipLogic = Text.lowercase s
  /-- How many results are listed. -/
  searchLimit : Entry.limit.value? d = none ∧ c.searchLimit = none
    ∨ ∃ n, Entry.limit.value? d = some (.integer n) ∧ c.searchLimit = if n = 0 then none else some n
  /-- Where the settings come from. -/
  source : c.source = some source

variable {env : Surroundings} {t : Tree} {source : Path}

/-- The settings that stand in a document, by its entries. -/
theorem settings_eq : settings env source d = {
    database := ((Entry.database.value? d).bind fun v => (text? v).map Path.ofText).getD (defaultDatabase env)
    colored := ((Entry.colored.value? d).bind boolean?).getD true
    snippetLength := ((Entry.snippetLength.value? d).bind integer?).getD Snippet.defaultLength
    chipLogic := ((Entry.chipLogic.value? d).bind fun v => (text? v).map Text.lowercase).getD "and"
    searchLimit := ((Entry.limit.value? d).bind limit?).getD none
    source := some source } :=
  rfl

theorem database_settings : (settings env source d).database = databasePath env d := by
  rw [settings_eq, databasePath]
  cases Entry.database.value? d with
  | none => rfl
  | some v => cases v <;> rfl

/-- An entry of a valid document is not there, or its value is allowed and read. -/
theorem IsValid.value?_eq (h : IsValid d) (e : Entry) {α : Type} (read? : Value → Option α) (a : α) :
    (e.value? d = none ∧ ((e.value? d).bind read?).getD a = a)
      ∨ ∃ v, e.value? d = some v ∧ e.Allows v ∧ ((e.value? d).bind read?).getD a = (read? v).getD a := by
  cases hv : e.value? d with
  | none => exact .inl ⟨rfl, rfl⟩
  | some v => exact .inr ⟨v, rfl, h e v hv, rfl⟩

/-- **The settings of a valid document** are its values and the defaults. -/
theorem IsValid.carries (h : IsValid d) {database : Path}
    (hdatabase : (databasePath env d).resolve env = .ok database) :
    Carries env source d { settings env source d with database } where
  database := hdatabase
  colored := by
    obtain hnone | ⟨v, hv, hallows, hread⟩ := h.value?_eq .colored boolean? true
    · exact .inl hnone
    · cases v with
      | boolean b => exact .inr (hv.trans (congrArg (fun b => some (Value.boolean b)) hread.symm))
      | _ => exact hallows.elim
  snippetLength := by
    obtain hnone | ⟨v, hv, hallows, hread⟩ := h.value?_eq .snippetLength integer? Snippet.defaultLength
    · exact .inl hnone
    · cases v with
      | integer n => exact .inr (hv.trans (congrArg (fun n => some (Value.integer n)) hread.symm))
      | _ => exact hallows.elim
  chipLogic := by
    obtain hnone | ⟨v, hv, hallows, hread⟩ :=
      h.value?_eq .chipLogic (fun v => (text? v).map Text.lowercase) "and"
    · exact .inl hnone
    · cases v with
      | text s => exact .inr ⟨s, hv, hread⟩
      | _ => exact hallows.elim
  searchLimit := by
    obtain hnone | ⟨v, hv, hallows, hread⟩ := h.value?_eq .limit limit? none
    · exact .inl hnone
    · cases v with
      | integer n =>
        have hlimit : limit? (.integer n) = some (if n = 0 then none else some n) :=
          if_neg (Int.not_lt.mpr hallows)
        rw [hlimit] at hread
        exact .inr ⟨n, hv, hread⟩
      | _ => exact hallows.elim
  source := rfl

/-- **A valid document** gives its settings, once the path of the database is resolved and looked at. -/
theorem readDocument_of_isValid (h : HasSections d) (hvalid : IsValid d) :
    readDocument env t source d =
      (((databasePath env d).resolve env).mapError .badPath >>= fun database =>
        (t.hasEntry env.here database).mapError .badFile >>= fun isThere =>
          .ok ({ settings env source d with database },
            if isThere then [] else [.noDatabase database.text])) := by
  obtain ⟨hchecks, hranges⟩ := h.isValid_iff.mp hvalid
  have hread : ofDocument env source d = .ok (settings env source d) := by
    rw [ofDocument_eq, passing, hchecks]
  have hpass : passing (rangeChecks d) () = .ok () := by
    rw [passing, hranges]
  rw [readDocument, hread]
  refine (validate_settings t).trans ?_
  rw [hpass, database_settings]
  rfl

/-- **Any other document** gives a fault: one that names an entry whose value is not allowed, or that of a
path that cannot be resolved. -/
theorem readDocument_of_not_isValid (h : HasSections d) (hvalid : ¬IsValid d) :
    ∃ fault, readDocument env t source d = .error fault
      ∧ ((∃ (e : Entry) (v : Value) (reason : String),
            e.value? d = some v ∧ ¬e.Allows v ∧ fault = .invalid e.name reason)
        ∨ ∃ f, (databasePath env d).resolve env = .error f ∧ fault = .badPath f) := by
  rw [readDocument, ofDocument_eq, passing]
  cases hchecks : firstFault? (checks d) with
  | some fault => exact ⟨fault, rfl, .inl (h.exists_entry_of_checks (.inl hchecks))⟩
  | none =>
    obtain ⟨fault, hranges⟩ := Option.ne_none_iff_exists'.mp fun hranges =>
      hvalid (h.isValid_iff.mpr ⟨hchecks, hranges⟩)
    show ∃ fault, validate env t (settings env source d) = .error fault ∧ _
    rw [validate_settings, database_settings]
    -- the ranges are checked after the path has been resolved
    cases hresolve : (databasePath env d).resolve env with
    | error f => exact ⟨_, rfl, .inr ⟨f, rfl, rfl⟩⟩
    | ok database =>
      refine ⟨fault, ?_, .inl (h.exists_entry_of_checks (.inr hranges))⟩
      rw [passing, hranges]
      rfl

/-- **Documents with the same entries are read alike**, whatever else is in them. -/
theorem SameEntries.readDocument_eq (hsame : SameEntries d d') (h : HasSections d) (h' : HasSections d') :
    readDocument env t source d = readDocument env t source d' := by
  have hfails : ∀ q ∈ Demand.all, q.fails d = q.fails d' := fun q hq => hsame.fails_eq hq
  simp only [Demand.all, List.forall_mem_cons] at hfails
  obtain ⟨hdatabase, hcolored, hlength, hlogic, hlimit, hlogicRange, hlengthRange, -⟩ := hfails
  have hchecks : checks d = checks d' := by
    rw [h.checks_eq, h'.checks_eq, hdatabase, hcolored, hlength, hlogic, hlimit]
  have hranges : rangeChecks d = rangeChecks d' := by
    rw [rangeChecks, rangeChecks, hlogicRange, hlengthRange]
  have hsettings : settings env source d = settings env source d' := by
    rw [settings_eq, settings_eq, hsame .database, hsame .colored, hsame .snippetLength, hsame .chipLogic,
      hsame .limit]
  rw [readDocument, readDocument, ofDocument_eq, ofDocument_eq, hchecks, hsettings]

/-- **What reading and checking a document comes to.** -/
inductive Reading (env : Surroundings) (t : Tree) (source : Path) (d : Table) :
    Except Fault (Config × List Warning) → Prop
  /-- The value of an entry is not allowed. -/
  | refused {e : Entry} {v : Value} {reason : String} (hvalue : e.value? d = some v) (hv : ¬e.Allows v) :
      Reading env t source d (.error (.invalid e.name reason))
  /-- The path of the database cannot be resolved. -/
  | noPath {f : PathFault} (hdatabase : (databasePath env d).resolve env = .error f) :
      Reading env t source d (.error (.badPath f))
  /-- The path of the database cannot be looked at. -/
  | longPath {q : Path} (hvalid : IsValid d) (hdatabase : (databasePath env d).resolve env = .ok q)
      (hlook : t.look env.here q = .tooLong) : Reading env t source d (.error (.badFile (.nameTooLong q.text)))
  /-- There are settings. -/
  | loaded {q : Path} {warnings : List Warning} (hvalid : IsValid d)
      (hdatabase : (databasePath env d).resolve env = .ok q) (hlook : t.look env.here q ≠ .tooLong) :
      Reading env t source d (.ok ({ settings env source d with database := q }, warnings))

/-- **A document comes to one of these.** -/
theorem reading_readDocument (h : HasSections d) :
    Reading env t source d (readDocument env t source d) := by
  by_cases hvalid : IsValid d
  · rw [readDocument_of_isValid h hvalid]
    cases hdatabase : (databasePath env d).resolve env with
    | error f => exact .noPath hdatabase
    | ok q =>
      show Reading env t source d ((t.hasEntry env.here q).mapError .badFile >>= _)
      by_cases hlook : t.look env.here q = .tooLong
      · rw [Tree.hasEntry, hlook]
        exact .longPath hvalid hdatabase hlook
      · obtain ⟨isThere, hthere⟩ := exists_hasEntry hlook
        rw [hthere]
        exact .loaded hvalid hdatabase hlook
  · obtain ⟨fault, hread, ⟨e, v, reason, hvalue, hv, rfl⟩ | ⟨f, hf, rfl⟩⟩ :=
      @readDocument_of_not_isValid d env t source h hvalid
    · exact hread ▸ .refused hvalue hv
    · exact hread ▸ .noPath hf

namespace Reading

/-- There are settings exactly when the document is valid and its path can be resolved and looked at. -/
theorem exists_ok_iff {outcome : Except Fault (Config × List Warning)} (h : Reading env t source d outcome) :
    (∃ r, outcome = .ok r) ↔
      IsValid d ∧ ∃ q, (databasePath env d).resolve env = .ok q ∧ t.look env.here q ≠ .tooLong := by
  cases h with
  | refused hvalue hv =>
    refine iff_of_false nofun ?_
    rintro ⟨hvalid, -⟩
    exact hv (hvalid _ _ hvalue)
  | noPath hdatabase =>
    refine iff_of_false nofun ?_
    rintro ⟨-, q, hq, -⟩
    cases hdatabase.symm.trans hq
  | longPath _ hdatabase hlook =>
    refine iff_of_false nofun ?_
    rintro ⟨-, q, hq, hne⟩
    cases hdatabase.symm.trans hq
    exact hne hlook
  | loaded hvalid hdatabase hlook => exact iff_of_true ⟨_, rfl⟩ ⟨hvalid, _, hdatabase, hlook⟩

/-- Settings are those of the document. -/
theorem carries {c : Config} {warnings : List Warning} (h : Reading env t source d (.ok (c, warnings))) :
    Carries env source d c := by
  cases h with
  | loaded hvalid hdatabase _ => exact hvalid.carries hdatabase

/-- A fault names an entry, or is that of the path. -/
theorem fault_cases (h : Reading env t source d (.error fault)) :
    (∃ (e : Entry) (v : Value) (reason : String),
        e.value? d = some v ∧ ¬e.Allows v ∧ fault = .invalid e.name reason)
      ∨ (∃ f, (databasePath env d).resolve env = .error f ∧ fault = .badPath f)
      ∨ IsValid d ∧ ∃ q, (databasePath env d).resolve env = .ok q ∧ t.look env.here q = .tooLong
          ∧ fault = .badFile (.nameTooLong q.text) := by
  cases h with
  | refused hvalue hv => exact .inl ⟨_, _, _, hvalue, hv, rfl⟩
  | noPath hdatabase => exact .inr (.inl ⟨_, hdatabase, rfl⟩)
  | longPath hvalid hdatabase hlook => exact .inr (.inr ⟨hvalid, _, hdatabase, hlook, rfl⟩)

end Reading

/-- **What reading and checking a document gives.** It gives settings exactly when the document is valid and
the path of the database can be resolved and looked at. The settings are then the values of the document and
the defaults. A fault names an entry whose value is not allowed, unless the path cannot be resolved, or the
document is valid and the path cannot be looked at. And nothing else in the document makes a difference. -/
theorem readDocument_iff (h : HasSections d) :
    ((∃ r, readDocument env t source d = .ok r) ↔
        IsValid d ∧ ∃ q, (databasePath env d).resolve env = .ok q ∧ t.look env.here q ≠ .tooLong)
      ∧ (∀ c warnings, readDocument env t source d = .ok (c, warnings) → Carries env source d c)
      ∧ (∀ fault, readDocument env t source d = .error fault →
          (∃ (e : Entry) (v : Value) (reason : String),
              e.value? d = some v ∧ ¬e.Allows v ∧ fault = .invalid e.name reason)
            ∨ (∃ f, (databasePath env d).resolve env = .error f ∧ fault = .badPath f)
            ∨ IsValid d ∧ ∃ q, (databasePath env d).resolve env = .ok q ∧ t.look env.here q = .tooLong
                ∧ fault = .badFile (.nameTooLong q.text))
      ∧ ∀ d', HasSections d' → SameEntries d d' →
          readDocument env t source d' = readDocument env t source d := by
  have hreading : Reading env t source d (readDocument env t source d) := reading_readDocument h
  refine ⟨hreading.exists_ok_iff, fun c warnings hc => ?_, fun fault hfault => ?_,
    fun d' h' hsame => (hsame.readDocument_eq h h').symm⟩
  · rw [hc] at hreading
    exact hreading.carries
  · rw [hfault] at hreading
    exact hreading.fault_cases

/-- An operator in capitals, a limit that is none, and an entry that is not read. -/
def sparseDocument : Table :=
  [("search", .table [("chip_logic", .text "OR"), ("limit", .integer 0), ("mode", .null)])]

/-- The operator is put in small letters, and the rest is what it is by default. -/
theorem readDocument_sparseDocument :
    HasSections sparseDocument
      ∧ ∃ c warnings, readDocument desk (settingsFile "") settingsPath sparseDocument = .ok (c, warnings)
        ∧ c.chipLogic = "or" ∧ c.searchLimit = none ∧ c.colored = true := by
  have h : HasSections sparseDocument := by decide
  have hlower : Text.lowercase "OR" = "or" := by decide +kernel
  have hvalid : IsValid sparseDocument := by
    intro e v hv
    cases e with
    | chipLogic =>
      cases hv
      exact .inr hlower
    | limit =>
      cases hv
      exact Int.le_refl 0
    | database | colored | snippetLength => cases hv
  have hlook : (settingsFile "").look desk.here (defaultDatabase desk) ≠ .tooLong := by
    have habsent : (settingsFile "").look desk.here (defaultDatabase desk) = .absent := by cbv
    intro h
    cases habsent.symm.trans h
  obtain ⟨hloaded, hcarries, -⟩ := @readDocument_iff sparseDocument desk (settingsFile "") settingsPath h
  obtain ⟨⟨c, warnings⟩, hc⟩ := hloaded.mpr ⟨hvalid, defaultDatabase desk, rfl, hlook⟩
  obtain ⟨-, hcolored, -, hlogic, hlimit, -⟩ := hcarries c warnings hc
  refine ⟨h, c, warnings, hc, ?_, ?_, ?_⟩
  · obtain ⟨⟨⟩, -⟩ | ⟨s, hs, hlogic⟩ := hlogic
    cases hs
    exact hlogic.trans hlower
  · obtain ⟨⟨⟩, -⟩ | ⟨n, hn, hlimit⟩ := hlimit
    cases hn
    exact hlimit
  · obtain ⟨-, hcolored⟩ | hcolored := hcolored
    · exact hcolored
    · cases hcolored

/-- The path of a database whose name is longer than a name can be. -/
def longPath : Path :=
  .absolute ["work", longName]

theorem isAbsolute_longPath : longPath.IsAbsolute := by
  refine ⟨rfl, fun n hn => ?_⟩
  obtain rfl | rfl : n = "work" ∨ n = longName := by simpa [longPath, Path.absolute] using hn
  · decide
  · exact isPlain_longName

theorem look_longPath : (settingsFile "").look desk.here longPath = .tooLong := by
  have hsize : longPath.text.utf8ByteSize ≤ maxPathBytes := by decide +kernel
  have hlong : maxNameBytes < longName.utf8ByteSize := by
    rw [utf8ByteSize_longName]
    decide
  have hdirectory : (settingsFile "").follow [] ["work"] = .found ["work"] .directory := by cbv
  rw [Tree.look_eq, if_neg (Nat.not_lt.mpr hsize)]
  show (settingsFile "").follow [] (["work"] ++ [longName]) = _
  rw [Tree.follow_append hdirectory, Tree.follow_cons_of_directory rfl, if_neg isPlain_longName.ne_up,
    if_pos hlong]

/-- **A path that is too long** is resolved and not looked at: the document is valid, and gives a fault that
names no entry. -/
theorem readDocument_longPath :
    let d : Table := [("paths", .table [("database", .text longPath.text)])]
    HasSections d ∧ IsValid d ∧ (databasePath desk d).resolve desk = .ok longPath
      ∧ readDocument desk (settingsFile "") settingsPath d
          = .error (.badFile (.nameTooLong longPath.text)) := by
  intro d
  have h : HasSections d := by simp [HasSections, sectionNames, isMisplaced, Table.get?, d, List.lookup]
  have hvalid : IsValid d := by
    intro e v hv
    cases e with
    | database =>
      cases hv
      trivial
    | chipLogic | limit | colored | snippetLength => cases hv
  have hresolve : (databasePath desk d).resolve desk = .ok longPath := by
    have hread : databasePath desk d = longPath :=
      Path.ofText_text fun n hn => (isAbsolute_longPath.plain n hn).toIsName
    rw [hread, isAbsolute_longPath.resolve]
  refine ⟨h, hvalid, hresolve, ?_⟩
  rw [readDocument_of_isValid h hvalid, hresolve]
  simp only [Except.mapError, bind, Except.bind, Tree.hasEntry, look_longPath]

end NoteSearch.Config
