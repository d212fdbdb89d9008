import NoteSearch.Proofs.Command.Exit
import NoteSearch.Proofs.Config.Saving
import NoteSearch.Proofs.Console.Echo

/-!
# What a search lists

The command line answers what the database answers. A search that goes well opens the database of its
settings, asks it for what the command line asks for, and prints the first of the notes that are found: as
lines of numbers, or as an array (`NoteSearch.Command.out_of_search`). What is asked for is
`NoteSearch.Command.SearchRequest.asked`, and what is printed is `NoteSearch.Command.listing`; nothing else
goes to the output, since warnings go to the errors.

An array without members is not printed (`NoteSearch.Command.out_of_search_json_empty`).
-/

namespace NoteSearch.Command

open Text Console

/-! ### The store that is searched -/

variable {s : Settings} {t : Tree} {r : SearchRequest} {store : Store} {notes : List NoteView}

/-- **The store that is opened** at an absolute path is the one that is there, if there is no question mark in
the path. -/
theorem Settings.storeAt?_of_openStore (hhere : ".." ∉ s.surroundings.here)
    (hdatabase : s.config.database.IsAbsolute) (hmark : '?' ∉ s.config.database.text.toList)
    (hopen : s.openStore t = .ok (some (.ok store))) :
    ∃ place e, t.look s.surroundings.here s.config.database = .found place e
      ∧ t.storeAt? place = some store := by
  rw [openStore_eq hdatabase hmark] at hopen
  obtain ⟨isThere, hthere, hopen⟩ := bind_eq_ok_iff.mp hopen
  cases isThere with
  | false => cases hopen
  | true =>
    obtain ⟨place, e, hlook⟩ := Tree.exists_look_of_hasEntry hthere
    obtain ⟨hreached, hget, hplace⟩ := Tree.place_of_look hhere hlook
    obtain ⟨⟨t', d⟩, hplaced, hd⟩ := map_eq_ok_iff.mp (Option.some.inj (Except.ok.inj hopen))
    rw [← hplace] at hplaced
    exact ⟨place, e, hlook, hd ▸ Tree.storeAt?_of_openPlace hreached hget hplaced⟩

namespace SearchRequest

/-- **Notes are found** only in a store that has been opened, and only by the search for what is asked. -/
theorem of_ending_eq_found (h : r.ending s t = .ok (.found notes)) :
    ∃ store, s.openStore t = .ok (some (.ok store))
      ∧ (Database.holding store).search (r.asked s.config) = .ok notes := by
  rw [ending] at h
  split at h
  · cases h
  split at h
  · cases h
  obtain ⟨opened, hopen, h⟩ := bind_eq_ok_iff.mp h
  split at h
  · cases h
  · cases h
  · next store =>
    refine ⟨store, hopen, ?_⟩
    have hanswer : r.answer s.config store = .found notes := Except.ok.inj h
    rw [answer] at hanswer
    split at hanswer
    · cases hanswer
    · split at hanswer
      · cases hanswer
      · next hsearch =>
        cases hanswer
        exact hsearch

end SearchRequest

/-! ### What is printed -/

/-- Whether something is shown page by page. -/
def Print.isPaged : Print → Bool
  | .paged _ _ => true
  | _ => false

/-- **The text of a list of notes**, where it is no table: their numbers, one on each line, or an array. The
list of no notes is empty, and no array either. -/
def listing (c : Config) (format : Format) (notes : List NoteView) : String :=
  if notes.isEmpty then ""
  else match format with
    | .ids => String.join (notes.map fun n => toString n.id ++ "\n")
    | .json => (Json.list (notes.map (noteJson c.snippetLength))).print ++ "\n"
    | .table => ""

/-- The line of a note is its number. -/
theorem idLine_eq (n : NoteView) : idLine n = toString n.id ++ "\n" :=
  echoed_numeral n.id

/-- Notes are listed by one text, if there are any. -/
theorem SearchRequest.listNotices_eq (hformat : r.format ≠ .table) (notes : List NoteView) :
    r.listNotices s notes
      = if notes.isEmpty then [] else [.plain (listing s.config r.format notes)] := by
  unfold listNotices listing
  dsimp only
  split
  · rw [if_neg]
    simp [hformat]
  · cases hcase : r.format with
    | table => exact absurd hcase hformat
    | ids => simp only [funext idLine_eq]
    | json => simp only [Json.echoed_print]

/-- A warning goes to the errors. -/
theorem exists_err_of_mem {warnings : List Config.Warning} {ps : List Print} {p : Print}
    (h : (warningNotices s warnings).mapM (Notice.print s) = .ok ps) (hp : p ∈ ps) :
    ∃ text, p = .err text := by
  obtain ⟨n, hn, hprint⟩ := exists_of_mem_mapM h hp
  rw [warningNotices] at hn
  split at hn
  · cases hn
  · obtain ⟨w, -, rfl⟩ := List.mem_map.mp hn
    obtain ⟨text, -, htext⟩ := bind_eq_ok_iff.mp hprint
    cases htext
    exact ⟨text, rfl⟩

/-- What goes to the errors adds nothing to the output. -/
theorem join_outText {ps : List Print} (h : ∀ p ∈ ps, ∃ text, p = .err text) :
    String.join (ps.map Print.outText) = "" := by
  induction ps with
  | nil => rfl
  | cons p ps ih =>
    rw [List.forall_mem_cons] at h
    obtain ⟨⟨text, rfl⟩, hps⟩ := h
    rw [List.map_cons, String.join_cons, ih hps]
    rfl

/-- **The output of a run that tells of warnings and lists notes** is the list. -/
theorem Course.out_of_outcome {e : Ending} {warnings : List Config.Warning} {o : Outcome}
    (hformat : r.format ≠ .table) (hnotices : e.notices s r = r.listNotices s notes)
    (h : outcome ⟨s, e, warningNotices s warnings ++ e.notices s r⟩ t = .ok o) :
    o.out = listing s.config r.format notes ∧ ∀ p ∈ o.prints, p.isPaged = false := by
  obtain ⟨ps, hps, ho⟩ := bind_eq_ok_iff.mp h
  cases ho
  dsimp only at hps
  -- the warnings come first, and then the list
  rw [hnotices, List.mapM_append] at hps
  obtain ⟨warned, hwarned, hps⟩ := bind_eq_ok_iff.mp hps
  obtain ⟨listed, hlisted, hps⟩ := bind_eq_ok_iff.mp hps
  cases hps
  have herr := fun p hp => exists_err_of_mem (p := p) hwarned hp
  have hlist : String.join (listed.map Print.outText) = listing s.config r.format notes
      ∧ ∀ p ∈ listed, p.isPaged = false := by
    rw [SearchRequest.listNotices_eq hformat] at hlisted
    split at hlisted
    · next hnotes =>
      cases hlisted
      refine ⟨?_, fun p hp => absurd hp List.not_mem_nil⟩
      unfold listing
      rw [if_pos hnotes]
      rfl
    · cases hlisted
      refine ⟨String.join_cons.trans String.append_empty, fun p hp => ?_⟩
      rw [List.mem_singleton.mp hp]
      rfl
  constructor
  · show String.join ((warned ++ listed).map Print.outText) = _
    rw [List.map_append, String.join_append, join_outText herr, String.empty_append]
    exact hlist.1
  · intro p hp
    obtain hp | hp := List.mem_append.mp hp
    · obtain ⟨text, rfl⟩ := herr p hp
      rfl
    · exact hlist.2 p hp

/-! ### The run -/

variable {env : Environment} {words : List String} {g : Given ProgramOption} {c : Config}

/-- **A command line that asks for a search**, and the settings that the search is made with. -/
structure IsSearch (env : Environment) (t : Tree) (words : List String) (g : Given ProgramOption)
    (r : SearchRequest) (c : Config) : Prop where
  /-- The words start with the options of the program. -/
  opening : readOpening env t words = .ok (.given g)
  /-- What comes after them is the command and what it is asked for. -/
  command : ∃ rest, g.operands = "search" :: rest ∧ SearchRequest.ofWords rest = .ok (some r)
  /-- The settings can be loaded, and if the options name a database, it takes the place of theirs. -/
  settings : ∃ loaded warnings warnings',
    Config.load env.surroundings t ((g.last? .config).map Path.ofText) = .ok (loaded, warnings)
      ∧ chooseDatabase env (g.last? .database) loaded warnings = .ok (c, warnings')

/-- The path of the database is absolute, whoever names it. -/
theorem IsSearch.isAbsolute (h : IsSearch env t words g r c)
    (hhere : ∀ n ∈ env.surroundings.here, Path.IsPlain n) : c.database.IsAbsolute := by
  obtain ⟨loaded, warnings, warnings', hload, hchoose⟩ := h.settings
  exact isAbsolute_of_choose hhere hload hchoose

/-- The program takes the course of the search, with these settings. -/
theorem IsSearch.run_of_course (h : IsSearch env t words g r c) :
    ∃ warnings, match r.course (settingsFor env g c) warnings t with
      | .error _ => ∀ o, run env t words ≠ .ok o
      | .ok k => ∃ t', run env t words = k.outcome t' := by
  obtain ⟨rest, hcommand, hrequest⟩ := h.command
  obtain ⟨loaded, warnings, warnings', hload, hchoose⟩ := h.settings
  have hchosen : course env t g r loaded warnings = r.course (settingsFor env g c) warnings' t := by
    rw [course, hchoose]
    rfl
  exact ⟨warnings', hchosen ▸ Command.run_of_course h.opening hcommand hrequest hload⟩

/-- **The run of a search does what its ending says**, after the warnings. -/
theorem IsSearch.run_of_ending {e : Ending} (h : IsSearch env t words g r c)
    (hending : r.ending (settingsFor env g c) t = .ok e) :
    ∃ warnings t', run env t words = Course.outcome ⟨settingsFor env g c, e,
      warningNotices (settingsFor env g c) warnings ++ e.notices (settingsFor env g c) r⟩ t' := by
  obtain ⟨warnings, hcourse⟩ := h.run_of_course
  rw [SearchRequest.course, hending] at hcourse
  exact ⟨warnings, hcourse⟩

/-- A run that ends has an ending. -/
theorem IsSearch.exists_ending {o : Outcome} (h : IsSearch env t words g r c)
    (hrun : run env t words = .ok o) : ∃ e, r.ending (settingsFor env g c) t = .ok e := by
  obtain ⟨warnings, hcourse⟩ := h.run_of_course
  rw [SearchRequest.course] at hcourse
  cases hending : r.ending (settingsFor env g c) t with
  | error fault =>
    rw [hending] at hcourse
    exact absurd hrun (hcourse o)
  | ok e => exact ⟨e, rfl⟩

/-- Only a search that finds something or nothing goes well. -/
theorem Ending.eq_found {e : Ending} (h : e.exit = 0) : ∃ notes, e = .found notes := by
  cases e with
  | found notes => exact ⟨notes, rfl⟩
  | _ => cases h

/-- The first notes are listed, as many as the command line or else the settings allow. -/
theorem SearchRequest.listed_eq (c : Config) (r : SearchRequest) (notes : List NoteView) :
    r.listed c notes = notes.take ((r.limit.or (c.searchLimit.map Int.toNat)).getD notes.length) := by
  have hmax : r.maxNotes c = r.limit.or (c.searchLimit.map Int.toNat) := by
    rw [maxNotes]
    cases r.limit <;> rfl
  rw [listed, hmax]
  cases r.limit.or (c.searchLimit.map Int.toNat) with
  | none => exact List.take_length.symm
  | some n => rfl

/-- **The program prints what the database answers.** A search that goes well, and whose results are not to
be shown as a table, opens the database of the settings, which is the one at their path if there is no
question mark in it. The database is asked for what the command line asks for; of the notes that it finds,
the first are printed, as many as the command line or else the settings allow, and nothing else. -/
theorem out_of_search {o : Outcome} (hsearch : IsSearch env t words g r c)
    (hhere : ∀ n ∈ env.surroundings.here, Path.IsPlain n) (hformat : r.format ≠ .table)
    (hshow : r.showQuery = false) (hverbose : g.has .verbose = false) (hdebug : g.has .debug = false)
    (hrun : run env t words = .ok o) (hexit : o.exit = 0) :
    ∃ store notes, (settingsFor env g c).openStore t = .ok (some (.ok store))
      ∧ ('?' ∉ c.database.text.toList →
          ∃ place e, t.look env.surroundings.here c.database = .found place e
            ∧ t.storeAt? place = some store)
      ∧ (Database.holding store).search (r.asked c) = .ok notes
      ∧ o.out = listing c r.format
          (notes.take ((r.limit.or (c.searchLimit.map Int.toNat)).getD notes.length))
      ∧ ∀ p ∈ o.prints, p.isPaged = false := by
  obtain ⟨ending, hending⟩ := hsearch.exists_ending hrun
  obtain ⟨warnings, t', hcourse⟩ := hsearch.run_of_ending hending
  have houtcome := hcourse.symm.trans hrun
  obtain ⟨notes, rfl⟩ := Ending.eq_found ((Course.exit_of_outcome houtcome).symm.trans hexit)
  obtain ⟨store, hopen, hfound⟩ := SearchRequest.of_ending_eq_found hending
  have hup : ".." ∉ env.surroundings.here := fun hmem => (hhere _ hmem).ne_up rfl
  -- neither the query nor the number of matches is printed
  have hquiet : (settingsFor env g c).verbose = false := by
    rw [settingsFor, hverbose, hdebug]
    rfl
  have hnotices : (Ending.found notes).notices (settingsFor env g c) r
      = r.listNotices (settingsFor env g c) (r.listed c notes) := by
    unfold Ending.notices SearchRequest.foundNotices
    rw [hshow, hquiet]
    rfl
  refine ⟨store, notes, hopen, fun hmark => ?_, hfound, ?_⟩
  · have habsolute := hsearch.isAbsolute hhere
    exact Settings.storeAt?_of_openStore (s := settingsFor env g c) hup habsolute hmark hopen
  rw [← SearchRequest.listed_eq]
  exact Course.out_of_outcome (s := settingsFor env g c) hformat hnotices houtcome

/-! ### A list that is cut short, and an empty one -/

/-- The settings of a search after the options `-q -d notes.db`. -/
def quietConfig : Config :=
  { defaults with database := .absolute ["home", "notes.db"] }

/-- A store with a note that has a tag, two notes in a folder, the first of them pinned, and a last note with
neither. -/
def fourNotes : Store where
  folders := [⟨1, "Home", none⟩]
  tags := [⟨1, "work"⟩]
  notes := [
    ⟨1, "plan", "", none, false, .epoch, .epoch, none⟩,
    ⟨2, "rent", "", some 1, true, .epoch, .epoch, none⟩,
    ⟨3, "milk", "", some 1, false, .epoch, .epoch, none⟩,
    ⟨4, "call", "", none, false, .epoch, .epoch, none⟩]
  links := [⟨1, 1⟩]

/-- The notes that have the tag or are in the folder, as they are shown. -/
def threeViews : List NoteView := [
  ⟨2, "rent", "", true, some "Home", [], .epoch, .epoch⟩,
  ⟨3, "milk", "", false, some "Home", [], .epoch, .epoch⟩,
  ⟨1, "plan", "", false, none, ["work"], .epoch, .epoch⟩]

/-- A search for them, of which no more than two are to be listed. -/
def eitherRequest : SearchRequest where
  tags := ["work"]
  folders := ["home"]
  any := true
  format := .ids
  limit := some 2

/-- The words that ask for it. -/
def eitherWords : List String :=
  ["search", "-t", "work", "-F", "home", "--any", "-l", "2", "-f", "ids"]

theorem isSearch_either : IsSearch atHome (homeWith fourNotes) ("-q" :: "-d" :: "notes.db" :: eitherWords)
    (quietOptions eitherWords) eitherRequest quietConfig where
  opening := rfl
  command := ⟨_, rfl, rfl⟩
  settings := ⟨defaults, defaultWarnings, [.noFile "/home/.config/notez/config.toml"], rfl, rfl⟩

/-- One chip is enough. -/
theorem asked_either :
    eitherRequest.asked quietConfig = some (.or (.leaf (.tag "work")) (.leaf (.folder "home"))) :=
  rfl

/-- All three are found, the pinned one first, and then the one that was added last. -/
theorem search_either :
    (Database.holding fourNotes).search (eitherRequest.asked quietConfig) = .ok threeViews := by
  have hfit : (Expr.or (.leaf (.tag "work")) (.leaf (.folder "home"))).Fitting := fun _ h => nomatch h
  rw [asked_either]
  refine (Database.fetchMatching_ofExpr hfit (Predicate.taken_ofExpr_iff.mpr rfl)).trans ?_
  refine congrArg Except.ok ?_
  cbv

/-- Of three notes that are found by either of two chips, the first two are listed. -/
theorem out_of_search_either :
    ∃ o, IsSearch atHome (homeWith fourNotes) ("-q" :: "-d" :: "notes.db" :: eitherWords)
        (quietOptions eitherWords) eitherRequest quietConfig
      ∧ (∀ n ∈ atHome.surroundings.here, Path.IsPlain n)
      ∧ run atHome (homeWith fourNotes) ("-q" :: "-d" :: "notes.db" :: eitherWords) = .ok o ∧ o.exit = 0
      ∧ (Database.holding fourNotes).search (eitherRequest.asked quietConfig) = .ok threeViews
      ∧ o.out = "2\n3\n" := by
  have hhere : ∀ n ∈ atHome.surroundings.here, Path.IsPlain n := by decide
  have hanswer : eitherRequest.answer quietConfig fourNotes = .found threeViews := by
    unfold SearchRequest.answer
    rw [search_either]
    rfl
  have hending : eitherRequest.ending (settingsFor atHome (quietOptions eitherWords) quietConfig)
      (homeWith fourNotes) = .ok (.found threeViews) :=
    congrArg Except.ok hanswer
  obtain ⟨warnings, t', hcourse⟩ := isSearch_either.run_of_ending hending
  obtain ⟨o, hrun⟩ : ∃ o, run atHome (homeWith fourNotes) ("-q" :: "-d" :: "notes.db" :: eitherWords) = .ok o :=
    ⟨_, hcourse⟩
  have hexit : o.exit = 0 := Course.exit_of_outcome (hcourse.symm.trans hrun)
  obtain ⟨store, notes, hopen, -, hsearch, hout, -⟩ :=
    out_of_search isSearch_either hhere (by decide) rfl rfl rfl hrun hexit
  have hstore : store = fourNotes := (Except.ok.inj (Option.some.inj (Except.ok.inj hopen))).symm
  subst hstore
  have hnotes : notes = threeViews := Except.ok.inj (hsearch.symm.trans search_either)
  refine ⟨o, isSearch_either, hhere, hrun, hexit, search_either, ?_⟩
  rw [hout, hnotes]
  rfl

/-- The words `-q -d notes.db search -f json`. -/
def arrayWords : List String :=
  ["-q", "-d", "notes.db", "search", "-f", "json"]

theorem isSearch_json : IsSearch atHome (homeWith {}) arrayWords (quietOptions ["search", "-f", "json"])
    { format := .json } quietConfig where
  opening := rfl
  command := ⟨["-f", "json"], rfl, rfl⟩
  settings := ⟨defaults, defaultWarnings, [.noFile "/home/.config/notez/config.toml"], rfl, rfl⟩

/-- **An array without members is not printed.** Where no notes are found, nothing is printed at all. -/
theorem out_of_search_json_empty :
    ∃ o, IsSearch atHome (homeWith {}) arrayWords (quietOptions ["search", "-f", "json"])
        { format := .json } quietConfig
      ∧ (homeWith {}).look atHome.surroundings.here quietConfig.database
          = .found ["home", "notes.db"] (.database {})
      ∧ (Database.holding {}).search (SearchRequest.asked quietConfig { format := .json }) = .ok []
      ∧ run atHome (homeWith {}) arrayWords = .ok o ∧ o.exit = 0
      ∧ o.out = "" ∧ (Json.list []).print ++ "\n" = "[]\n" := by
  have hfetch : Store.fetchAll {} = [] := by
    rw [Store.fetchAll, Store.active_eq_notes {} (by decide) (by decide)]
    rfl
  have hfound : (Database.holding {}).search (SearchRequest.asked quietConfig { format := .json })
      = .ok (Store.fetchAll {}) := rfl
  have hending : SearchRequest.ending (settingsFor atHome (quietOptions ["search", "-f", "json"]) quietConfig)
      { format := .json } (homeWith {}) = .ok (.found (Store.fetchAll {})) := rfl
  obtain ⟨warnings, t', hcourse⟩ := isSearch_json.run_of_ending hending
  have hrun : run atHome (homeWith {}) arrayWords = .ok ⟨0, [], t'⟩ := by
    rw [hcourse, hfetch]
    rfl
  exact ⟨_, isSearch_json, rfl, hfound.trans (congrArg Except.ok hfetch), hrun, rfl, rfl, rfl⟩

end NoteSearch.Command
