import NoteSearch.Proofs.Computation
import NoteSearch.Proofs.Config.Loading
import NoteSearch.Proofs.File.Tree
import NoteSearch.Proofs.Toml.Document

/-!
# Saving settings and loading them again

Whatever file settings are loaded from, they have something in common (`NoteSearch.Config.IsChecked`): the
path of the database is absolute, and all values are in range. The file that is written of such settings
leaves out what is as it would be anyway, and what stands in it is read and found to be in order again
(`NoteSearch.Config.settings_documentOf`, `NoteSearch.Config.firstFault?_checks_documentOf`).

So settings that have been loaded are saved and loaded again (`NoteSearch.Config.save_and_load_iff`), but
for two things that loading them did not depend on. A number with too many digits can be read, when it is
spelled in another base, and not be written. And the path of the database is looked at in the tree as it is
after saving: a name that is too long is not noticed as long as the directory that it would stand in is not
there, and saving may make that directory (`NoteSearch.Config.not_loaded_longSettings`).
-/

namespace NoteSearch.Config

open Toml (Scalar AreWritable IsKey documentOf tableOf writtenOf)

variable {env : Surroundings} {t : Tree} {p : Path} {c c' : Config} {d : Table}

/-! ### Settings that are loaded -/

/-- **Checked settings**: what all settings have in common that are loaded. -/
structure IsChecked (c : Config) : Prop where
  /-- The path of the database is absolute. -/
  database : c.database.IsAbsolute
  /-- The operator between chips has one of its two names. -/
  chipLogic : c.chipLogic = "and" ∨ c.chipLogic = "or"
  /-- The length of a preview is positive. -/
  snippetLength : 0 < c.snippetLength
  /-- The number of results is not limited to zero, but then not limited at all. -/
  searchLimit : ∀ n ∈ c.searchLimit, 0 < n

theorem isSome_ofName?_iff {s : String} : (Junction.ofName? s).isSome = true ↔ s = "and" ∨ s = "or" := by
  unfold Junction.ofName?
  split <;> simp_all

/-- A path that is too long is the only one that cannot be looked at. -/
theorem exists_hasEntry_iff {here : List String} :
    (∃ isThere, t.hasEntry here p = .ok isThere) ↔ t.look here p ≠ .tooLong := by
  refine ⟨fun ⟨isThere, h⟩ hlong => ?_, exists_hasEntry⟩
  rw [Tree.hasEntry, hlong] at h
  cases h

/-- **Checking settings** only changes the path of the database, and passes where all values are in range
and the path can be made absolute and looked at. -/
theorem exists_validate_eq_ok_iff :
    (∃ warnings, validate env t c = .ok (c', warnings)) ↔
      ∃ database, c.database.resolve env = .ok database ∧ (Junction.ofName? c.chipLogic).isSome = true
        ∧ 0 < c.snippetLength ∧ t.look env.here database ≠ .tooLong ∧ c' = { c with database } := by
  unfold validate
  constructor
  -- the path, the operator and the length are checked in this order, and then the path is looked at
  · rintro ⟨warnings, h⟩
    obtain ⟨database, hdatabase, h⟩ := bind_eq_ok_iff.mp h
    split at h
    · cases h
    next hlogic =>
    split at h
    · cases h
    next hlength =>
    obtain ⟨isThere, hthere, h⟩ := bind_eq_ok_iff.mp h
    cases h
    exact ⟨database, mapError_eq_ok_iff.mp hdatabase, by simpa [Option.isSome_iff_ne_none] using hlogic,
      Int.not_le.mp hlength, exists_hasEntry_iff.mp ⟨isThere, mapError_eq_ok_iff.mp hthere⟩, rfl⟩
  · rintro ⟨database, hdatabase, hlogic, hlength, hlook, rfl⟩
    obtain ⟨isThere, hthere⟩ := exists_hasEntry_iff.mpr hlook
    refine ⟨if isThere then [] else [.noDatabase database.text], ?_⟩
    rw [hdatabase]
    show (if (Junction.ofName? c.chipLogic).isNone = true then _
      else if c.snippetLength ≤ 0 then _ else _) = _
    rw [if_neg (by simpa [Option.isSome_iff_ne_none] using hlogic), if_neg (Int.not_le.mpr hlength), hthere]
    rfl

/-- Settings that pass are checked, if the path of the database leads through names. -/
theorem isChecked_of_validate {warnings : List Warning} (hhere : ∀ n ∈ env.here, Path.IsPlain n)
    (hnames : ∀ n ∈ c.database.names, IsName n) (hlimit : ∀ n ∈ c.searchLimit, 0 < n)
    (h : validate env t c = .ok (c', warnings)) : IsChecked c' := by
  obtain ⟨database, hdatabase, hlogic, hlength, -, rfl⟩ := exists_validate_eq_ok_iff.mp ⟨warnings, h⟩
  exact {
    database := Path.isAbsolute_of_resolve hhere hnames hdatabase
    chipLogic := isSome_ofName?_iff.mp hlogic
    snippetLength := hlength
    searchLimit := hlimit }

/-- The path of the database leads through names when nothing is set. -/
theorem isName_of_mem_defaultDatabase {n : String} (h : n ∈ (defaultDatabase env).names) : IsName n := by
  have hall : ∀ n ∈ [".local", "share", "notez", "notez.db"], IsName n := by decide
  obtain hhome | hrest := List.mem_append.mp h
  · exact Path.isName_of_mem_ofText hhome
  · exact hall n hrest

/-- It does so when it stands in a document. -/
theorem isName_of_mem_settings {n : String} (h : n ∈ (settings env p d).database.names) : IsName n := by
  change n ∈ (((valueOf? d "paths" "database").bind fun v => (text? v).map Path.ofText).getD
    (defaultDatabase env)).names at h
  cases hset : (valueOf? d "paths" "database").bind fun v => (text? v).map Path.ofText with
  | none =>
    rw [hset] at h
    exact isName_of_mem_defaultDatabase h
  | some database =>
    rw [hset] at h
    obtain ⟨v, -, hv⟩ := Option.bind_eq_some_iff.mp hset
    obtain ⟨s, -, rfl⟩ := Option.map_eq_some_iff.mp hv
    exact Path.isName_of_mem_ofText h

/-- A limit that stands in a document is positive, since zero sets none. -/
theorem pos_of_mem_searchLimit_settings {n : Int} (h : n ∈ (settings env p d).searchLimit) : 0 < n := by
  change n ∈ ((valueOf? d "search" "limit").bind limit?).getD none at h
  cases hset : (valueOf? d "search" "limit").bind limit? with
  | none =>
    rw [hset] at h
    cases h
  | some limit =>
    rw [hset] at h
    obtain ⟨v, -, hv⟩ := Option.bind_eq_some_iff.mp hset
    obtain rfl : limit = some n := h
    cases v with
    | integer m =>
      rw [limit?] at hv
      split at hv
      · cases hv
      · split at hv <;> cases hv
        omega
    | _ => cases hv

/-- **Settings that are loaded are checked.** -/
theorem isChecked_of_load {path : Option Path} {warnings : List Warning}
    (hhere : ∀ n ∈ env.here, Path.IsPlain n) (h : load env t path = .ok (c, warnings)) : IsChecked c := by
  obtain ⟨p, -, h⟩ := bind_eq_ok_iff.mp h
  have hdefault : ∀ {c' warnings'}, validate env t (default env none) = .ok (c', warnings') →
      IsChecked c' :=
    isChecked_of_validate hhere (fun n hn => isName_of_mem_defaultDatabase hn) nofun
  split at h
  · cases h
  -- the defaults are checked where there is no file, whether its directory is missing or something else
  · obtain ⟨⟨c', warnings'⟩, hvalid, h⟩ := bind_eq_ok_iff.mp h
    cases h
    exact hdefault hvalid
  · obtain ⟨⟨c', warnings'⟩, hvalid, h⟩ := bind_eq_ok_iff.mp h
    cases h
    exact hdefault hvalid
  · cases h
  · cases h
  · split at h
    · cases h
    · cases h
    · next d _ =>
      rw [ofDocument_eq] at h
      obtain ⟨c', hpass, hvalid⟩ := bind_eq_ok_iff.mp h
      rw [passing] at hpass
      split at hpass
      · cases hpass
      cases hpass
      exact isChecked_of_validate hhere (fun n hn => isName_of_mem_settings hn)
        (fun n hn => pos_of_mem_searchLimit_settings hn) hvalid

/-! ### The document that is written -/

/-- The entry of a key, if there is a value for it. -/
def entryOf (key : String) (v : Option Scalar) : List (String × Scalar) :=
  match v with
  | none => []
  | some v => [(key, v)]

/-- The length of a preview is written if it is not the usual one. -/
def lengthToWrite (c : Config) : Option Scalar :=
  if c.snippetLength = Snippet.defaultLength then none else some (.integer c.snippetLength)

/-- The operator between chips is written if it is not `AND`. -/
def logicToWrite (c : Config) : Option Scalar :=
  if c.chipLogic = "and" then none else some (.text c.chipLogic)

/-- What is written of the places of files. -/
def pathEntries (c : Config) : List (String × Scalar) :=
  [("database", .text c.database.text)]

/-- What is written of the output. -/
def displayEntries (c : Config) : List (String × Scalar) :=
  ("colored_output", .boolean c.colored) :: entryOf "snippet_length" c.lengthToWrite

/-- What is written of searching. -/
def searchEntries (c : Config) : List (String × Scalar) :=
  entryOf "chip_logic" c.logicToWrite ++ entryOf "limit" (c.searchLimit.map .integer)

/-- **The sections that are written.** -/
def sections (c : Config) : List (String × List (String × Scalar)) :=
  [("paths", c.pathEntries), ("display", c.displayEntries)]
    ++ if c.searchEntries.isEmpty then [] else [("search", c.searchEntries)]

/-- **The text of a file of settings** is made up of these sections. -/
theorem document_eq (c : Config) :
    c.document = Toml.writeTables ((sections c).map fun x => (x.1, writtenOf x.2)) := by
  have hdisplay : writtenOf c.displayEntries = [("colored_output", Toml.writeBoolean c.colored)]
      ++ if c.snippetLength = Snippet.defaultLength then []
        else [("snippet_length", Toml.writeInteger c.snippetLength)] := by
    rw [displayEntries, lengthToWrite]
    split <;> rfl
  have hsearch : writtenOf c.searchEntries
      = (if c.chipLogic = "and" then [] else [("chip_logic", Toml.writeText c.chipLogic)])
        ++ writtenOf (entryOf "limit" (c.searchLimit.map .integer)) := by
    rw [searchEntries, logicToWrite]
    split <;> rfl
  have hsections : (sections c).map (fun x => (x.1, writtenOf x.2))
      = [("paths", writtenOf c.pathEntries), ("display", writtenOf c.displayEntries)]
        ++ if (writtenOf c.searchEntries).isEmpty then [] else [("search", writtenOf c.searchEntries)] := by
    have hempty : (writtenOf c.searchEntries).isEmpty = c.searchEntries.isEmpty := List.isEmpty_map
    rw [sections, hempty]
    split <;> rfl
  rw [hsections, hdisplay, hsearch, document]
  cases c.searchLimit <;> rfl

/-- A section of the document is one of three. -/
theorem eq_of_mem_sections {x : String × List (String × Scalar)} (h : x ∈ sections c) :
    x = ("paths", c.pathEntries) ∨ x = ("display", c.displayEntries) ∨ x = ("search", c.searchEntries) := by
  obtain h | h := List.mem_append.mp h
  · obtain rfl | rfl : x = ("paths", c.pathEntries) ∨ x = ("display", c.displayEntries) := by simpa using h
    · exact .inl rfl
    · exact .inr (.inl rfl)
  · split at h
    · cases h
    · exact .inr (.inr (List.mem_singleton.mp h))

/-- **An entry that can be written**: its key can stand without quotes, and a number has few enough digits. -/
def IsWritableEntry (e : String × Scalar) : Prop :=
  IsKey e.1 ∧ e.2.isWritten = true

/-- An entry that may be left out can be written if its key and its value can be. -/
theorem isWritableEntry_of_mem_entryOf {key : String} {v : Option Scalar} {e : String × Scalar}
    (hkey : IsKey key) (hv : ∀ w ∈ v, w.isWritten = true) (h : e ∈ entryOf key v) : IsWritableEntry e := by
  cases v with
  | none => cases h
  | some v =>
    obtain rfl := List.mem_singleton.mp h
    exact ⟨hkey, hv v rfl⟩

/-- The keys of an entry that may be left out. -/
theorem map_entryOf_sublist (key : String) (v : Option Scalar) :
    ((entryOf key v).map (·.1)).Sublist [key] := by
  cases v with
  | none => exact List.nil_sublist _
  | some v => exact List.Sublist.refl _

theorem isWritableEntry_of_mem_pathEntries {e : String × Scalar} (he : e ∈ c.pathEntries) :
    IsWritableEntry e := by
  obtain rfl := List.mem_singleton.mp he
  exact ⟨show IsKey "database" by decide, rfl⟩

theorem isWritableEntry_of_mem_displayEntries (h : c.canBeWritten = true) {e : String × Scalar}
    (he : e ∈ c.displayEntries) : IsWritableEntry e := by
  rw [canBeWritten, Bool.and_eq_true, Bool.or_eq_true, decide_eq_true_eq] at h
  obtain rfl | he := List.mem_cons.mp he
  · exact ⟨show IsKey "colored_output" by decide, rfl⟩
  · refine isWritableEntry_of_mem_entryOf (by decide) (fun w hw => ?_) he
    rw [lengthToWrite] at hw
    split at hw
    · cases hw
    · next hne =>
      rw [← Option.some.inj hw]
      exact h.1.resolve_left hne

theorem isWritableEntry_of_mem_searchEntries (h : c.canBeWritten = true) {e : String × Scalar}
    (he : e ∈ c.searchEntries) : IsWritableEntry e := by
  rw [canBeWritten, Bool.and_eq_true] at h
  obtain he | he := List.mem_append.mp he
  · refine isWritableEntry_of_mem_entryOf (by decide) (fun w hw => ?_) he
    rw [logicToWrite] at hw
    split at hw
    · cases hw
    · rw [← Option.some.inj hw]
      rfl
  · refine isWritableEntry_of_mem_entryOf (by decide) (fun w hw => ?_) he
    obtain ⟨n, hn, rfl⟩ := Option.map_eq_some_iff.mp hw
    have hlimit := h.2
    rw [hn] at hlimit
    exact hlimit

/-- No key occurs twice in a section. -/
theorem nodup_keys_of_mem_sections {x : String × List (String × Scalar)} (h : x ∈ sections c) :
    (x.2.map (·.1)).Nodup := by
  obtain rfl | rfl | rfl := eq_of_mem_sections h
  · simp [pathEntries]
  · have hsub := (map_entryOf_sublist "snippet_length" c.lengthToWrite).cons_cons "colored_output"
    exact hsub.nodup (by decide)
  · have hsub := (map_entryOf_sublist "chip_logic" c.logicToWrite).append
      (map_entryOf_sublist "limit" (c.searchLimit.map .integer))
    rw [← List.map_append] at hsub
    exact hsub.nodup (by decide)

/-- No section occurs twice. -/
theorem map_sections_sublist (c : Config) :
    ((sections c).map (·.1)).Sublist ["paths", "display", "search"] := by
  rw [sections]
  split <;> simp

/-- **The sections can be written** if the numbers in them can be. -/
theorem areWritable_sections (h : c.canBeWritten = true) : AreWritable (sections c) where
  name x hx := by
    have hall : ∀ name ∈ ["paths", "display", "search"], IsKey name := by decide
    exact hall x.1 ((map_sections_sublist c).subset (List.mem_map_of_mem hx))
  entry x hx e he := by
    obtain rfl | rfl | rfl := eq_of_mem_sections hx
    · exact isWritableEntry_of_mem_pathEntries he
    · exact isWritableEntry_of_mem_displayEntries h he
    · exact isWritableEntry_of_mem_searchEntries h he
  keys _ hx := nodup_keys_of_mem_sections hx
  names := (map_sections_sublist c).nodup (by decide)

/-! ### The document that is read -/

/-- Values can be looked up before or after they are passed through a function. -/
theorem lookup_map {α β : Type} (f : α → β) (es : List (String × α)) (key : String) :
    (es.map fun e => (e.1, f e.2)).lookup key = (es.lookup key).map f := by
  induction es with
  | nil => rfl
  | cons e es ih =>
    rw [List.map_cons, List.lookup_cons, List.lookup_cons, ih]
    cases key == e.1 <;> rfl

theorem lookup_entryOf (key key' : String) (v : Option Scalar) :
    (entryOf key' v).lookup key = if key == key' then v else none := by
  cases v with
  | none => exact (ite_self none).symm
  | some v =>
    rw [entryOf, List.lookup_cons]
    cases key == key' <;> rfl

/-- What stands in the place of a section is a table. -/
theorem get?_documentOf (ts : List (String × List (String × Scalar))) (name : String) :
    Table.get? (documentOf ts) name = (ts.lookup name).map fun es => .table (tableOf es) :=
  lookup_map (fun es => Value.table (tableOf es)) ts name

/-- **The values of a document** are those that have been written. -/
theorem valueOf?_documentOf (ts : List (String × List (String × Scalar))) (name key : String) :
    valueOf? (documentOf ts) name key = ((ts.lookup name).bind (·.lookup key)).map Scalar.toValue := by
  rw [valueOf?, entries, get?_documentOf]
  cases ts.lookup name with
  | none => rfl
  | some es => exact lookup_map Scalar.toValue es key

theorem isObstructed_documentOf (ts : List (String × List (String × Scalar))) (name : String)
    (keys : List String) : isObstructed (documentOf ts) name keys = false := by
  rw [isObstructed, get?_documentOf]
  cases ts.lookup name <;> rfl

theorem valueOf?_database :
    valueOf? (documentOf (sections c)) "paths" "database" = some (.text c.database.text) := by
  rw [valueOf?_documentOf]
  rfl

theorem valueOf?_colored :
    valueOf? (documentOf (sections c)) "display" "colored_output" = some (.boolean c.colored) := by
  rw [valueOf?_documentOf]
  rfl

theorem valueOf?_snippetLength :
    valueOf? (documentOf (sections c)) "display" "snippet_length" = c.lengthToWrite.map Scalar.toValue := by
  have hlookup : c.displayEntries.lookup "snippet_length" = c.lengthToWrite :=
    lookup_entryOf "snippet_length" "snippet_length" c.lengthToWrite
  rw [valueOf?_documentOf, ← hlookup]
  rfl

/-- A section without entries is as good as none. -/
theorem valueOf?_search (key : String) :
    valueOf? (documentOf (sections c)) "search" key = (c.searchEntries.lookup key).map Scalar.toValue := by
  rw [valueOf?_documentOf, sections]
  split
  · next hempty =>
    rw [List.isEmpty_iff.mp hempty]
    rfl
  · rfl

theorem valueOf?_chipLogic :
    valueOf? (documentOf (sections c)) "search" "chip_logic" = c.logicToWrite.map Scalar.toValue := by
  rw [valueOf?_search, searchEntries, List.lookup_append, lookup_entryOf, lookup_entryOf]
  exact congrArg _ (Option.or_none ..)

theorem valueOf?_limit :
    valueOf? (documentOf (sections c)) "search" "limit"
      = (c.searchLimit.map Scalar.integer).map Scalar.toValue := by
  rw [valueOf?_search, searchEntries, List.lookup_append, lookup_entryOf, lookup_entryOf]
  rfl

/-- **The settings that stand in the document** are those that it was written from, if they are checked. -/
theorem settings_documentOf (h : IsChecked c) :
    settings env p (documentOf (sections c)) = { c with source := some p } := by
  have hdatabase : Path.ofText c.database.text = c.database :=
    Path.ofText_text fun n hn => (h.database.plain n hn).toIsName
  -- what has been left out is what is taken for a missing entry
  have hlength : ((c.lengthToWrite.map Scalar.toValue).bind integer?).getD Snippet.defaultLength
      = c.snippetLength := by
    rw [lengthToWrite]
    split
    · next heq => exact heq.symm
    · rfl
  have hlogic : ((c.logicToWrite.map Scalar.toValue).bind fun v => (text? v).map Text.lowercase).getD "and"
      = c.chipLogic := by
    rw [logicToWrite]
    split
    · next heq => exact heq.symm
    · next hne =>
      rw [h.chipLogic.resolve_left hne]
      decide
  have hlimit : (((c.searchLimit.map Scalar.integer).map Scalar.toValue).bind limit?).getD none
      = c.searchLimit := by
    cases hlimit : c.searchLimit with
    | none => rfl
    | some n =>
      -- a limit of zero would be read as none
      have hpos := h.searchLimit n hlimit
      show (limit? (.integer n)).getD none = some n
      rw [limit?, if_neg (by omega), if_neg (by omega)]
      rfl
  rw [settings, valueOf?_database, valueOf?_colored, valueOf?_snippetLength, valueOf?_chipLogic,
    valueOf?_limit, hlength, hlogic, hlimit]
  exact congrArg (Config.mk · c.colored c.snippetLength c.chipLogic c.searchLimit (some p)) hdatabase

/-- **Nothing is wrong with the document.** -/
theorem firstFault?_checks_documentOf (h : IsChecked c) :
    firstFault? (checks (documentOf (sections c))) = none := by
  have hlength : Demand.snippetLength.fails (documentOf (sections c)) = false := by
    rw [Demand.fails, Demand.snippetLength, valueOf?_snippetLength, lengthToWrite]
    split <;> rfl
  have hlogic : Demand.chipLogic.fails (documentOf (sections c)) = false := by
    rw [Demand.fails, Demand.chipLogic, valueOf?_chipLogic, logicToWrite]
    split <;> rfl
  have hlimit : Demand.limit.fails (documentOf (sections c)) = false := by
    rw [Demand.fails, Demand.limit, valueOf?_limit]
    cases hlimit : c.searchLimit with
    | none => rfl
    | some n =>
      have hpos := h.searchLimit n hlimit
      show (!(limit? (.integer n)).isSome) = false
      rw [limit?, if_neg (by omega)]
      rfl
  have hdatabase : Demand.database.fails (documentOf (sections c)) = false := by
    rw [Demand.fails, Demand.database, valueOf?_database]
    rfl
  have hcolored : Demand.colored.fails (documentOf (sections c)) = false := by
    rw [Demand.fails, Demand.colored, valueOf?_colored]
    rfl
  rw [checks, firstFault?_eq_none_iff, isObstructed_documentOf, isObstructed_documentOf,
    isObstructed_documentOf, hdatabase, hcolored, hlength, hlogic, hlimit]
  simp

/-! ### Saved and loaded -/

section Document

variable {path : Option Path} {place : List String}

/-- **Loading a document that was written** comes to checking the settings that it was written from. -/
theorem load_document (h : IsChecked c) (hwritten : c.canBeWritten = true)
    (hpath : (path.getD (defaultPath env)).resolve env = .ok p)
    (hlook : t.look env.here p = .found place (.text c.document)) :
    load env t path = validate env t { c with source := some p } := by
  rw [load_text hpath hlook, document_eq, Toml.read_writeTables (areWritable_sections hwritten)]
  show passing (checks (documentOf (sections c))) _ >>= validate env t = _
  rw [passing, firstFault?_checks_documentOf h, settings_documentOf h]
  rfl

/-- **They pass again** if the path of the database can be looked at. -/
theorem exists_load_document_iff (h : IsChecked c) (hwritten : c.canBeWritten = true)
    (hpath : (path.getD (defaultPath env)).resolve env = .ok p)
    (hlook : t.look env.here p = .found place (.text c.document)) :
    (∃ warnings, load env t path = .ok ({ c with source := some p }, warnings))
      ↔ t.look env.here c.database ≠ .tooLong := by
  rw [load_document h hwritten hpath hlook, exists_validate_eq_ok_iff]
  constructor
  · rintro ⟨database, hdatabase, -, -, hlook, -⟩
    rw [h.database.resolve] at hdatabase
    rwa [Except.ok.inj hdatabase]
  · intro hlook
    exact ⟨c.database, h.database.resolve, isSome_ofName?_iff.mpr h.chipLogic, h.snippetLength, hlook, rfl⟩

/-- **They are refused** if it cannot. -/
theorem load_document_eq_error (h : IsChecked c) (hwritten : c.canBeWritten = true)
    (hpath : (path.getD (defaultPath env)).resolve env = .ok p)
    (hlook : t.look env.here p = .found place (.text c.document))
    (hlong : t.look env.here c.database = .tooLong) :
    load env t path = .error (.badFile (.nameTooLong c.database.text)) := by
  have hlogic : (Junction.ofName? c.chipLogic).isNone = false :=
    Option.isNone_eq_false_iff.mpr (isSome_ofName?_iff.mpr h.chipLogic)
  rw [load_document h hwritten hpath hlook, validate]
  show ((c.database.resolve env).mapError Fault.badPath >>= _) = _
  rw [h.database.resolve]
  show (if (Junction.ofName? c.chipLogic).isNone = true then _ else if c.snippetLength ≤ 0 then _
    else (t.hasEntry env.here c.database).mapError Fault.badFile >>= _) = _
  rw [hlogic, if_neg Bool.false_ne_true, if_neg (Int.not_le.mpr h.snippetLength), Tree.hasEntry, hlong]
  rfl

end Document

/-- Saving fails where a number has too many digits, and nowhere else once the file can be written. -/
theorem save_eq {path : Path} {t₁ t₂ : Tree} (hpath : path.resolve env = .ok p)
    (hmake : t.makeDirectory env.here p.parent = .ok t₁)
    (hwrite : t₁.write env.here p c.document = .ok t₂) :
    save env t c (some path) = if c.canBeWritten then .ok (p, t₂) else .error .numberTooLong := by
  show ((path.resolve env).mapError Fault.badPath >>= _) = _
  rw [hpath]
  show ((t.makeDirectory env.here p.parent).mapError Fault.badFile >>= _) = _
  rw [hmake]
  show ((t₁.write env.here p c.document).mapError Fault.badFile >>= _) = _
  rw [hwrite]
  rfl

/-- **Settings that have been loaded are saved and loaded again**, from any file and to any file that can be
written: they are as they were, up to the file that they come from, exactly where no number in them has too
many digits and the path of the database can still be looked at when they have been saved. -/
theorem save_and_load_iff {env₀ : Surroundings} {t₀ t₁ t₂ : Tree} {path₀ : Option Path} {path : Path}
    {warnings : List Warning} (hhere : ∀ n ∈ env₀.here, Path.IsPlain n)
    (hload : load env₀ t₀ path₀ = .ok (c, warnings)) (hpath : path.resolve env = .ok p)
    (hmake : t.makeDirectory env.here p.parent = .ok t₁)
    (hwrite : t₁.write env.here p c.document = .ok t₂) :
    (save env t c (some path) = .ok (p, t₂)
        ∧ ∃ warnings', load env t₂ (some path) = .ok ({ c with source := some p }, warnings'))
      ↔ c.canBeWritten = true ∧ t₂.look env.here c.database ≠ .tooLong := by
  have hchecked := isChecked_of_load hhere hload
  obtain ⟨-, place, hlook⟩ := Tree.of_write_eq_ok hwrite
  rw [save_eq hpath hmake hwrite]
  cases hwritten : c.canBeWritten with
  | false => exact iff_of_false (fun h => nomatch h.1) (fun h => nomatch h.1)
  | true => exact and_congr (iff_of_true rfl rfl) (exists_load_document_iff hchecked hwritten hpath hlook)

/-- The file of settings on the desk, and another one in a new directory. -/
def savedFile (content saved : String) : Tree where
  entries := (settingsFile content).entries
    ++ [(["work", "new"], .directory), (["work", "new", "config.toml"], .text saved)]

/-- The path of the other file. -/
def savedPath : Path :=
  .absolute ["work", "new", "config.toml"]

theorem resolve_savedPath : (Path.ofText "new/config.toml").resolve desk = .ok savedPath :=
  rfl

theorem makeDirectory_settingsFile (content : String) :
    (settingsFile content).makeDirectory desk.here savedPath.parent
      = .ok ((settingsFile content).put ["work", "new"] .directory) := by
  cbv

theorem write_settingsFile (content saved : String) :
    ((settingsFile content).put ["work", "new"] .directory).write desk.here savedPath saved
      = .ok (savedFile content saved) := by
  cbv

/-- The directory of the user has a plain name. -/
theorem isPlain_of_mem_desk : ∀ n ∈ desk.here, Path.IsPlain n := by
  decide

/-- Settings that are checked are loaded from the file that is written of them. -/
theorem load_settingsFile (h : IsChecked c) (hwritten : c.canBeWritten = true)
    (hsource : c.source = some settingsPath)
    (hlook : (settingsFile c.document).look desk.here c.database ≠ .tooLong) :
    ∃ warnings, load desk (settingsFile c.document) (some (Path.ofText "config.toml"))
      = .ok (c, warnings) := by
  have hload := (exists_load_document_iff h hwritten resolve_settingsPath (look_settingsFile c.document)).mpr
    hlook
  rwa [← hsource] at hload

/-- Settings with quotes and a line end in the path of the database. -/
def quotedSettings : Config where
  database := .absolute ["work", "my \"notes\"\n.db"]
  colored := false
  snippetLength := 80
  chipLogic := "or"
  searchLimit := some 5
  source := some settingsPath

theorem isChecked_quotedSettings : IsChecked quotedSettings where
  database := by decide
  chipLogic := .inr rfl
  snippetLength := by decide
  searchLimit := by
    rintro _ ⟨⟩
    decide

/-- These settings are loaded, saved in a new directory, and loaded again. -/
theorem save_and_load_quotedSettings :
    ∃ t₀ t₁ t₂ warnings, (∀ n ∈ desk.here, Path.IsPlain n)
      ∧ load desk t₀ (some (Path.ofText "config.toml")) = .ok (quotedSettings, warnings)
      ∧ (Path.ofText "new/config.toml").resolve desk = .ok savedPath
      ∧ t₀.makeDirectory desk.here savedPath.parent = .ok t₁
      ∧ t₁.write desk.here savedPath quotedSettings.document = .ok t₂
      ∧ save desk t₀ quotedSettings (some (Path.ofText "new/config.toml")) = .ok (savedPath, t₂)
      ∧ ∃ warnings', load desk t₂ (some (Path.ofText "new/config.toml"))
          = .ok ({ quotedSettings with source := some savedPath }, warnings') := by
  have hwritten : quotedSettings.canBeWritten = true := by decide
  have hbefore : ∀ content, (settingsFile content).look desk.here quotedSettings.database = .absent := by
    intro content
    cbv
  have hafter : ∀ content saved,
      (savedFile content saved).look desk.here quotedSettings.database = .absent := by
    intro content saved
    cbv
  obtain ⟨warnings, hload⟩ := load_settingsFile isChecked_quotedSettings hwritten rfl (by simp [hbefore])
  have hmake := makeDirectory_settingsFile quotedSettings.document
  have hwrite := write_settingsFile quotedSettings.document quotedSettings.document
  exact ⟨_, _, _, warnings, isPlain_of_mem_desk, hload, resolve_savedPath, hmake, hwrite,
    (save_and_load_iff isPlain_of_mem_desk hload resolve_savedPath hmake hwrite).mpr
      ⟨hwritten, by simp [hafter]⟩⟩

/-! ### Saved and not loaded -/

/-- A name that is longer than a name can be. -/
def longName : String :=
  String.ofList (List.replicate 256 'x')

/-- Settings with such a name in the path of the database, in a directory that is not there. -/
def longSettings : Config where
  database := .absolute ["work", "new", longName]
  source := some settingsPath

theorem utf8ByteSize_longName : longName.utf8ByteSize = 256 := by
  decide +kernel

/-- A text of one character over and over has no other in it. -/
theorem eq_of_mem_toList_replicate {n : Nat} {c d : Char}
    (h : c ∈ (String.ofList (List.replicate n d)).toList) : c = d := by
  rw [String.toList_ofList] at h
  exact List.eq_of_mem_replicate h

/-- It is a name but for its length: those that have a meaning of their own are short. -/
theorem isPlain_longName : Path.IsPlain longName := by
  have hne : ∀ s : String, s.utf8ByteSize ≠ 256 → longName ≠ s := by
    rintro _ hsize rfl
    exact hsize utf8ByteSize_longName
  have hall : ∀ c ∈ longName.toList, c = 'x' := fun _ hc => eq_of_mem_toList_replicate hc
  constructor
  case toIsName =>
    refine ⟨hne "" (by decide), hne "." (by decide), fun c hc => ?_⟩
    obtain rfl := hall c hc
    decide
  case ne_up => exact hne ".." (by decide)
  case no_nul => exact fun hnul => absurd (hall _ hnul) (by decide)

theorem isChecked_longSettings : IsChecked longSettings where
  database := by
    refine ⟨rfl, fun n hn => ?_⟩
    have hnames : n ∈ ["work", "new", longName] := hn
    obtain rfl | rfl | rfl : n = "work" ∨ n = "new" ∨ n = longName := by simpa using hnames
    · decide
    · decide
    · exact isPlain_longName
  chipLogic := .inl rfl
  snippetLength := by decide
  searchLimit := nofun

/-- **Saving makes a directory**, and then a name below it is found to be too long that was not looked at
before: these settings are loaded and saved, and not loaded again. -/
theorem not_loaded_longSettings :
    ∃ t t' warnings, load desk t (some (Path.ofText "config.toml")) = .ok (longSettings, warnings)
      ∧ save desk t longSettings (some (Path.ofText "new/config.toml")) = .ok (savedPath, t')
      ∧ load desk t' (some (Path.ofText "new/config.toml"))
          = .error (.badFile (.nameTooLong longSettings.database.text)) := by
  have hwritten : longSettings.canBeWritten = true := by decide
  have hlong : maxNameBytes < longName.utf8ByteSize := by
    rw [utf8ByteSize_longName]
    decide
  have hsize : longSettings.database.text.utf8ByteSize ≤ maxPathBytes := by decide +kernel
  -- the name is looked at only where its directory is there
  have hbefore : ∀ content, (settingsFile content).look desk.here longSettings.database = .absent := by
    intro content
    rw [Tree.look_eq, if_neg (Nat.not_lt.mpr hsize)]
    rfl
  have hafter : ∀ content saved,
      (savedFile content saved).look desk.here longSettings.database = .tooLong := by
    intro content saved
    have hdirectory : (savedFile content saved).follow [] ["work", "new"]
        = .found ["work", "new"] .directory := by
      cbv
    rw [Tree.look_eq, if_neg (Nat.not_lt.mpr hsize)]
    show (savedFile content saved).follow [] (["work", "new"] ++ [longName]) = _
    rw [Tree.follow_append hdirectory, Tree.follow_cons_of_directory rfl, if_neg isPlain_longName.ne_up,
      if_pos hlong]
  have hmake := makeDirectory_settingsFile longSettings.document
  have hwrite := write_settingsFile longSettings.document longSettings.document
  obtain ⟨warnings, hload⟩ := load_settingsFile isChecked_longSettings hwritten rfl (by simp [hbefore])
  obtain ⟨-, place, hlook⟩ := Tree.of_write_eq_ok hwrite
  refine ⟨_, savedFile longSettings.document longSettings.document, warnings, hload, ?_, ?_⟩
  · rw [save_eq resolve_savedPath hmake hwrite, hwritten]
    rfl
  · exact load_document_eq_error isChecked_longSettings hwritten resolve_savedPath hlook (hafter _ _)

end NoteSearch.Config
