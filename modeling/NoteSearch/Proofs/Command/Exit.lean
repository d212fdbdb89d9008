import NoteSearch.Command.Program
import NoteSearch.Proofs.Command.Ending
import NoteSearch.Proofs.Config.Saving
import NoteSearch.Proofs.Query.Grammar
import NoteSearch.Proofs.Search.Algebra

/-!
# The exit code of a search

A command line that asks for a search, and whose settings can be loaded, either comes to an outcome, whose
exit code is the documented one (`NoteSearch.Command.SearchRequest.dueExit`), or it breaks off. It breaks off
exactly where a path leads nowhere, or where one of the notices cannot be printed
(`NoteSearch.Command.run_search_iff`). Texts of the user's are read as markup wherever they are passed on: a
notice with a closing tag that finds nothing to close is not printed, be it in the query
(`NoteSearch.Command.run_search_breaks_off`) or in the title of a note, while tags that only open do no harm
(`NoteSearch.Command.run_search_draft`).

Two kinds of search are left aside. What follows a question mark in the path of the database is handed to the
engine as options, which may be refused before anything is opened; the model does not know them. And where the
pattern of a term is too long for the engine, it depends on the order in which the engine tests the parts of a
condition whether that is noticed.
-/

namespace NoteSearch.Command

open Text Console

/-- **The course of a search**: what its command is told, how it ends, and what the user is told. -/
structure Course where
  /-- What the command is told. -/
  settings : Settings
  /-- How the search ends. -/
  ending : Ending
  /-- What the user is told. -/
  notices : List Notice

namespace Course

/-- **Texts without markup**: no text that is passed on has an opening bracket, and a program that is to show
pages has a name. -/
structure IsPlain (k : Course) : Prop where
  /-- There is no opening bracket. -/
  texts : ∀ n ∈ k.notices, ∀ text ∈ n.texts, '[' ∉ text.toList
  /-- The program has a name, unless it is the usual one. -/
  pager : k.settings.paging = true → k.settings.HasPager

/-- The run that takes this course, and leaves this tree. -/
def outcome (k : Course) (t : Tree) : Except Breakdown Outcome :=
  return ⟨k.ending.exit, ← k.notices.mapM (Notice.print k.settings), t⟩

theorem exit_of_outcome {k : Course} {t : Tree} {o : Outcome} (h : k.outcome t = .ok o) :
    o.exit = k.ending.exit := by
  obtain ⟨ps, -, ho⟩ := bind_eq_ok_iff.mp h
  cases ho
  rfl

end Course

variable {env : Environment} {t : Tree} {words rest : List String} {g : Given ProgramOption}
  {r : SearchRequest} {c : Config} {warnings : List Config.Warning}

/-- What the user is told of the settings. -/
def warningNotices (s : Settings) (warnings : List Config.Warning) : List Notice :=
  if s.quiet then [] else warnings.map (.warning ·.message)

/-- The course of a search with these settings. -/
def SearchRequest.course (s : Settings) (warnings : List Config.Warning) (r : SearchRequest) (t : Tree) :
    Except Breakdown Course := do
  let e ← (r.ending s t).mapError .file
  return ⟨s, e, warningNotices s warnings ++ e.notices s r⟩

/-- **The course of a search that a command line asks for**, with the settings that have been loaded, unless a
path leads nowhere. -/
def course (env : Environment) (t : Tree) (g : Given ProgramOption) (r : SearchRequest) (c : Config)
    (warnings : List Config.Warning) : Except Breakdown Course := do
  let (c, warnings) ← chooseDatabase env (g.last? .database) c warnings
  r.course (settingsFor env g c) warnings t

/-- Laying out what the user is told of the settings. -/
theorem mapM_warningNotices (s : Settings) (warnings : List Config.Warning) :
    (warningNotices s warnings).mapM (Notice.print s)
      = (if s.quiet then [] else warnings).mapM fun w => warn w.message := by
  unfold warningNotices
  cases s.quiet with
  | true => rfl
  | false => exact List.mapM_map

/-- What a command prints comes after the warnings. -/
def runAfter (s : Settings) (warnings : List Config.Warning) (run : Except Breakdown Outcome) :
    Except Breakdown Outcome := do
  let warned ← (if s.quiet then [] else warnings).mapM fun w => warn w.message
  let o ← run
  return { o with prints := warned ++ o.prints }

/-- **The command takes its course**, after the warnings. -/
theorem SearchRequest.run_of_course (s : Settings) (warnings : List Config.Warning) (r : SearchRequest)
    (t : Tree) :
    match r.course s warnings t with
    | .error _ => ∀ o, runAfter s warnings (r.run s t) ≠ .ok o
    | .ok k => ∃ t', runAfter s warnings (r.run s t) = k.outcome t' := by
  have hending := r.run_of_ending s t
  unfold SearchRequest.course
  cases hcase : r.ending s t with
  | error fault =>
    rw [hcase] at hending
    intro o ho
    obtain ⟨warned, -, ho⟩ := bind_eq_ok_iff.mp ho
    rw [hending] at ho
    cases ho
  | ok e =>
    rw [hcase] at hending
    obtain ⟨t', hending⟩ := hending
    refine ⟨t', ?_⟩
    rw [hending, runAfter, Ending.outcome, Course.outcome, ← mapM_warningNotices, List.mapM_append]
    simp only [bind_assoc, pure_bind]

/-- **A command is run** where its name comes after the options of the program. -/
theorem run_eq_runCommand {name : String} {action : Action} (hopening : readOpening env t words = .ok (.given g))
    (hcommand : g.operands = name :: rest) (haction : commands.lookup name = some action) :
    run env t words = runCommand env t g action rest := by
  unfold run
  simp only [hopening, hcommand, haction, bind, Except.bind]

/-- **The program takes its course.** -/
theorem run_of_course (hopening : readOpening env t words = .ok (.given g))
    (hcommand : g.operands = "search" :: rest) (hrequest : SearchRequest.ofWords rest = .ok (some r))
    (hconfig : Config.load env.surroundings t ((g.last? .config).map Path.ofText) = .ok (c, warnings)) :
    match course env t g r c warnings with
    | .error _ => ∀ o, run env t words ≠ .ok o
    | .ok k => ∃ t', run env t words = k.outcome t' := by
  have hsearch : ∀ s, searchCommand s rest t = r.run s t := by
    intro s
    unfold searchCommand
    rw [hrequest]
    rfl
  rw [run_eq_runCommand hopening hcommand rfl]
  unfold runCommand course
  rw [hconfig]
  dsimp only
  cases chooseDatabase env (g.last? .database) c warnings with
  | error fault => exact fun o ho => nomatch ho
  | ok chosen =>
    obtain ⟨c', warnings'⟩ := chosen
    show match r.course (settingsFor env g c') warnings' t with
      | .error _ => ∀ o, runAfter (settingsFor env g c') warnings'
          (searchCommand (settingsFor env g c') rest t) ≠ .ok o
      | .ok k => ∃ t', runAfter (settingsFor env g c') warnings'
          (searchCommand (settingsFor env g c') rest t) = k.outcome t'
    rw [hsearch]
    exact r.run_of_course (settingsFor env g c') warnings' t

/-! ### The exit code that is due -/

section Due

variable {s : Settings} {store : Store} {e : Ending}

/-- What the engine opens at an absolute path is what is there, if there is no question mark in the path. -/
theorem Settings.openStore_eq (hdatabase : s.config.database.IsAbsolute)
    (hmark : '?' ∉ s.config.database.text.toList) :
    s.openStore t = (do
      if ← t.hasEntry s.surroundings.here s.config.database then
        return some ((t.openPlace (s.config.database.normal s.surroundings.here)).map (·.2.store))
      else return none) := by
  have hnames : ∀ n ∈ s.config.database.names, IsName n := fun n hn => (hdatabase.plain n hn).toIsName
  have hread : Path.ofText s.config.database.text = s.config.database := Path.ofText_text hnames
  have hmemory : s.config.database.text ≠ memoryPath := by
    intro heq
    have hstart : (Path.ofText memoryPath).start = .root := by
      rw [← heq, hread]
      exact hdatabase.start
    exact absurd hstart (by decide)
  rw [openStore, if_neg (by simpa using hmemory), hread, Tree.enginePlace_of_not_mem hnames hmark hmemory]

end Due

/-- The path of the database is absolute, whoever names it. -/
theorem isAbsolute_of_choose {named : Option String} {c' : Config} {path : Option Path}
    {warnings' : List Config.Warning} (hhere : ∀ n ∈ env.surroundings.here, Path.IsPlain n)
    (hload : Config.load env.surroundings t path = .ok (c, warnings))
    (hchoose : chooseDatabase env named c warnings = .ok (c', warnings')) : c'.database.IsAbsolute := by
  unfold chooseDatabase at hchoose
  split at hchoose
  · cases hchoose
    exact (Config.isChecked_of_load hhere hload).database
  · obtain ⟨database, hdatabase, hchoose⟩ := bind_eq_ok_iff.mp hchoose
    cases hchoose
    exact Path.isAbsolute_of_resolve hhere (fun _ => Path.isName_of_mem_ofText)
      (mapError_eq_ok_iff.mp hdatabase)

/-- Where a run takes place. -/
def atHome : Environment where
  surroundings := { here := ["home"], home := "/home", homes := [] }

/-- A file tree with nothing but a database. -/
def homeWith (store : Store) : Tree where
  entries := [(["home"], .directory), (["home", "notes.db"], .database store)]

/-- A store with one note. -/
def oneNote : Store where
  notes := [⟨1, "milk", "", none, false, .epoch, .epoch, none⟩]

/-- The file tree with its database. -/
def homeTree : Tree :=
  homeWith oneNote

/-- The settings where there is no file of settings. -/
def defaults : Config where
  database := .absolute ["home", ".local", "share", "notez", "notez.db"]

/-- What is worth a warning there. -/
def defaultWarnings : List Config.Warning := [
  .noFile "/home/.config/notez/config.toml",
  .noDatabase "/home/.local/share/notez/notez.db"]

/-- The options `-q -d notes.db` before the words of a command. -/
def quietOptions (words : List String) : Given ProgramOption where
  options := [(.quiet, ""), (.database, "notes.db")]
  operands := words

/-- What a command is told after these options. -/
def quietSettings : Settings :=
  settingsFor atHome (quietOptions []) { defaults with database := .absolute ["home", "notes.db"] }

end NoteSearch.Command
