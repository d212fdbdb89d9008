import NoteSearch.Config.File

/-!
# What a document of settings says

Reading a document is a row of checks, section by section and entry by entry, and the first check that
fails decides. What is asked of a single entry is a `NoteSearch.Config.Demand`: a type, or a range. What is
asked of a section is less than one would think. A table is a section, and a number, a date or a truth value
in its place is found out, but a text or a list is only found out where it would seem to have one of the
keys that are looked for (`NoteSearch.Config.obstructs`); all others are passed over.

`NoteSearch.Config.ofDocument_eq` says what reading gives: the fault of the first check that fails, or else
the settings that stand in the document (`NoteSearch.Config.settings`). `NoteSearch.Config.validate_settings`
says the same of the checks that come after, of the ranges and of the path of the database.
-/

namespace NoteSearch.Config

/-! ### Entries -/

/-- The entries of a section. What is no table has none. -/
def entries (d : Table) (name : String) : Table :=
  match Table.get? d name with
  | some (.table t) => t
  | _ => []

/-- **The value of an entry** of a section, if there is one. -/
def valueOf? (d : Table) (name key : String) : Option Value :=
  Table.get? (entries d name) key

/-- **What is asked of the value of an entry.** -/
structure Demand where
  /-- The section that the entry stands in. -/
  sectionName : String
  /-- The key of the entry. -/
  key : String
  /-- What the user is told when the value is another. -/
  reason : String
  /-- Whether a value is as it is asked for. -/
  meets : Value → Bool

namespace Demand

/-- Whether the entry is there and its value is not as it is asked for. -/
def fails (q : Demand) (d : Table) : Bool :=
  (valueOf? d q.sectionName q.key).any fun v => !q.meets v

/-- The fault of an entry that is not as it is asked for. -/
def fault (q : Demand) : Fault :=
  .invalid (q.sectionName ++ "." ++ q.key) q.reason

/-- The path of the database is a text. -/
def database : Demand :=
  ⟨"paths", "database", "must be a string path", fun v => (text? v).isSome⟩

/-- Whether output is colored is a truth value. -/
def colored : Demand :=
  ⟨"display", "colored_output", "must be a boolean", fun v => (boolean? v).isSome⟩

/-- The length of a preview is a whole number. -/
def snippetLength : Demand :=
  ⟨"display", "snippet_length", "must be an integer", fun v => (integer? v).isSome⟩

/-- The operator between chips is a text. -/
def chipLogic : Demand :=
  ⟨"search", "chip_logic", "must be a string", fun v => (text? v).isSome⟩

/-- The number of results is a whole number that is not negative. -/
def limit : Demand :=
  ⟨"search", "limit", "must be a non-negative integer", fun v => (limit? v).isSome⟩

/-- The operator between chips is one of the two that there are, in any case. -/
def chipLogicRange : Demand :=
  ⟨"search", "chip_logic", "must be 'and' or 'or'",
    fun v => (text? v).all fun s => (Junction.ofName? (Text.lowercase s)).isSome⟩

/-- The length of a preview is positive. -/
def snippetLengthRange : Demand :=
  ⟨"display", "snippet_length", "must be positive", fun v => (integer? v).all (0 < ·)⟩

/-- **All that is asked of entries.** -/
def all : List Demand :=
  [database, colored, snippetLength, chipLogic, limit, chipLogicRange, snippetLengthRange]

end Demand

/-! ### Sections -/

/-- The names of the sections. -/
def sectionNames : List String :=
  ["paths", "display", "search"]

/-- Whether something stands in the place of a section that is no table. -/
def isMisplaced (d : Table) (name : String) : Bool :=
  (Table.get? d name).any fun v => match v with
    | .table _ => false
    | _ => true

/-- Whether a value in the place of a section is found out when the given keys are looked for. -/
def obstructs (keys : List String) : Value → Bool
  | .table _ => false
  | .text s => keys.any (mentionsKey s)
  | .list vs => keys.any fun k => vs.any fun v => match v with
    | .text s => s == k
    | _ => false
  | _ => true

/-- Whether a section is found not to be one. -/
def isObstructed (d : Table) (name : String) (keys : List String) : Bool :=
  (Table.get? d name).any (obstructs keys)

/-! ### Reading -/

/-- What the checks of a document find, in their order: whether each of them fails, and its fault. -/
def checks (d : Table) : List (Bool × Fault) :=
  [(isObstructed d "paths" ["database"], .notASection),
    (Demand.database.fails d, Demand.database.fault),
    (isObstructed d "display" ["colored_output", "snippet_length"], .notASection),
    (Demand.colored.fails d, Demand.colored.fault),
    (Demand.snippetLength.fails d, Demand.snippetLength.fault),
    (isObstructed d "search" ["chip_logic", "limit"], .notASection),
    (Demand.chipLogic.fails d, Demand.chipLogic.fault),
    (Demand.limit.fails d, Demand.limit.fault)]

/-- The first fault of a row of checks. -/
def firstFault? (checks : List (Bool × Fault)) : Option Fault :=
  (checks.find? (·.1)).map (·.2)

/-- What is there when all checks pass, or else the first fault. -/
def passing {α : Type} (checks : List (Bool × Fault)) (a : α) : Except Fault α :=
  match firstFault? checks with
  | some fault => .error fault
  | none => .ok a

/-- One check, and then the others. -/
theorem check_bind {α β : Type} {failed : Bool} {fault : Fault} {a : α} {next : α → Except Fault β}
    {checks : List (Bool × Fault)} {b : β} (h : next a = passing checks b) :
    ((if failed then .error fault else .ok a) >>= next) = passing ((failed, fault) :: checks) b := by
  cases failed with
  | true => rfl
  | false => exact h

theorem firstFault?_eq_none_iff {checks : List (Bool × Fault)} :
    firstFault? checks = none ↔ ∀ c ∈ checks, c.1 = false := by
  simp [firstFault?]

theorem mem_of_firstFault?_eq_some {checks : List (Bool × Fault)} {fault : Fault}
    (h : firstFault? checks = some fault) : (true, fault) ∈ checks := by
  obtain ⟨⟨failed, fault'⟩, hfind, rfl⟩ := Option.map_eq_some_iff.mp h
  obtain rfl : failed = true := List.find?_some hfind
  exact List.mem_of_find?_eq_some hfind

/-- **The settings that stand in a document**, and the defaults for those that do not. -/
def settings (env : Surroundings) (source : Path) (d : Table) : Config where
  database := ((valueOf? d "paths" "database").bind fun v => (text? v).map Path.ofText).getD
    (defaultDatabase env)
  colored := ((valueOf? d "display" "colored_output").bind boolean?).getD true
  snippetLength := ((valueOf? d "display" "snippet_length").bind integer?).getD Snippet.defaultLength
  chipLogic := ((valueOf? d "search" "chip_logic").bind fun v => (text? v).map Text.lowercase).getD "and"
  searchLimit := ((valueOf? d "search" "limit").bind limit?).getD none
  source := some source

/-- A section is refused when it is found not to be one. -/
theorem sectionOf_eq (d : Table) (name : String) (keys : List String) :
    sectionOf d name keys =
      if isObstructed d name keys then .error .notASection else .ok (entries d name) := by
  unfold sectionOf isObstructed entries
  cases Table.get? d name with
  | none => rfl
  | some v => cases v <;> rfl

/-- An entry is refused when there is no reading of its value. -/
theorem entryOr_eq {α : Type} (a : α) (entries : Table) (name key reason : String)
    (read? : Value → Option α) :
    entryOr a entries name key reason read? =
      if (Table.get? entries key).any fun v => !(read? v).isSome then
        .error (.invalid (name ++ "." ++ key) reason)
      else .ok (((Table.get? entries key).bind read?).getD a) := by
  unfold entryOr
  cases Table.get? entries key with
  | none => rfl
  | some v => cases hv : read? v <;> simp [hv]

/-- **Reading a document** gives the first fault, or else the settings that stand in it. -/
theorem ofDocument_eq (env : Surroundings) (source : Path) (d : Table) :
    ofDocument env source d = passing (checks d) (settings env source d) := by
  unfold ofDocument
  simp only [sectionOf_eq, entryOr_eq, Option.isSome_map]
  repeat refine check_bind ?_
  rfl

/-! ### Validation -/

/-- What the checks of ranges find, in their order. -/
def rangeChecks (d : Table) : List (Bool × Fault) :=
  [(Demand.chipLogicRange.fails d, Demand.chipLogicRange.fault),
    (Demand.snippetLengthRange.fails d, Demand.snippetLengthRange.fault)]

variable {env : Surroundings} {source : Path} {d : Table}

/-- The operator between chips is out of range where the document has it so: the default is in range. -/
theorem isNone_ofName?_settings (env : Surroundings) (source : Path) (d : Table) :
    (Junction.ofName? (settings env source d).chipLogic).isNone = Demand.chipLogicRange.fails d := by
  show (Junction.ofName? (((valueOf? d "search" "chip_logic").bind _).getD "and")).isNone
    = (valueOf? d "search" "chip_logic").any _
  cases valueOf? d "search" "chip_logic" with
  | none => rfl
  | some v => cases v <;> simp [Demand.chipLogicRange, text?, Junction.ofName?]

/-- The length of a preview is out of range where the document has it so. -/
theorem snippetLength_settings_le_zero (env : Surroundings) (source : Path) (d : Table) :
    decide ((settings env source d).snippetLength ≤ 0) = Demand.snippetLengthRange.fails d := by
  show decide (((valueOf? d "display" "snippet_length").bind _).getD Snippet.defaultLength ≤ 0)
    = (valueOf? d "display" "snippet_length").any _
  cases valueOf? d "display" "snippet_length" with
  | none => rfl
  | some v =>
    cases v with
    | integer n =>
      show decide (n ≤ 0) = !decide (0 < n)
      rw [← decide_not]
      exact decide_eq_decide.mpr Int.not_lt.symm
    | _ => rfl

/-- **Checking the settings of a document**: the path of the database has to lead somewhere, the values have
to be in range, and the path has to be one that can be looked at. -/
theorem validate_settings (t : Tree) :
    validate env t (settings env source d) =
      (((settings env source d).database.resolve env).mapError .badPath >>= fun database =>
        passing (rangeChecks d) () >>= fun _ =>
          (t.hasEntry env.here database).mapError .badFile >>= fun isThere =>
            .ok ({ settings env source d with database },
              if isThere then [] else [.noDatabase database.text])) := by
  unfold validate
  refine congrArg _ (funext fun database => ?_)
  rw [rangeChecks, ← isNone_ofName?_settings env source d, ← snippetLength_settings_le_zero env source d]
  cases (Junction.ofName? (settings env source d).chipLogic).isNone with
  | true => rfl
  | false =>
    by_cases h : (settings env source d).snippetLength ≤ 0
    · rw [if_neg Bool.false_ne_true, if_pos h, decide_eq_true h]
      rfl
    · rw [if_neg Bool.false_ne_true, if_neg h, decide_eq_false h]
      rfl

end NoteSearch.Config
