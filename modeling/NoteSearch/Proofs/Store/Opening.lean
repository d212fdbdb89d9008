import Mathlib.Data.List.TakeWhile
import NoteSearch.Proofs.File.Tree
import NoteSearch.Store.Visit

/-!
# Visits to a database

Visits to one path are all or nothing (`NoteSearch.Tree.visit_after_visits`). A visit that may not make the
file, and finds none, changes nothing. Every other visit finds the tags that were there in the beginning and
those of the visits before it that came to their end; and once there has been one, the file is there.

For this to hold, the path has to be one that the file can be found by, whoever looks for it
(`NoteSearch.Path.NamesDatabase`). Whether there is a file is asked for the path as it stands, while the
engine takes every step back out of the path, has the path end at a `?`, and wants room for its own files. A
path with a `?` in it is the one that goes wrong in silence: the engine makes another file, which the next
visit does not find (`NoteSearch.Tree.visits_questionMark`).

## The invariant

Before each visit the database is either *there*, found by the path, or *missing*, while the directory above
it can be made (`NoteSearch.Tree.Awaits`). In both cases it is known which store a visit will find.
-/

namespace NoteSearch

/-- **A path that a database can be kept at**, for a program that runs in the directory `here`. -/
structure Path.NamesDatabase (here : List String) (p : Path) : Prop where
  /-- The last name is no step back. -/
  last : ∃ last, p.names.getLast? = some last ∧ last ≠ ".."
  /-- There is no question mark, where the engine would have the path end. -/
  noMark : '?' ∉ p.text.toList
  /-- The path is not the one that stands for a database in memory. -/
  notMemory : p.text ≠ memoryPath
  /-- There is no NUL character, which no file has in its path. -/
  noNul : p.hasNul = false
  /-- The path is short enough to be looked at. -/
  short : p.text.utf8ByteSize ≤ maxPathBytes
  /-- So is the path without steps back, for the engine. -/
  inReach : Tree.isInReach (p.normal here) = true

namespace Tree

/-- **The store that a database at a place starts from**: the one that is there, or the empty one where
there is nothing or an empty file. -/
def storeAt? (t : Tree) (place : List String) : Option Store :=
  match t.get? place with
  | none => some {}
  | some (.text "") => some {}
  | some (.database s) => some s
  | some _ => none

/-- Whether the engine has room for the file that it keeps beside the one at a place: while it makes a
database that is not there yet, or while it changes the one that is. -/
def hasEngineRoom (t : Tree) (place : List String) : Bool :=
  match t.get? place with
  | some (.database _) => hasRoomBeside place logEnding
  | _ => hasRoomBeside place journalEnding

variable {t t' : Tree} {here place : List String} {name : String} {p : Path} {s : Store}

/-! ### What the engine does -/

/-- Where the engine has room to make a database, it has room to change one. -/
theorem hasRoomBeside_logEnding (h : hasRoomBeside place journalEnding = true) :
    hasRoomBeside place logEnding = true := by
  have hjournal : journalEnding.utf8ByteSize = 8 := by decide
  have hlog : logEnding.utf8ByteSize = 4 := by decide
  simp only [hasRoomBeside, decide_eq_true_eq, String.utf8ByteSize_append] at h ⊢
  omega

/-- Where the engine has room, the name of the file is short enough. -/
theorem size_le_of_hasEngineRoom {last : String} (h : t.hasEngineRoom (place ++ [last]) = true) :
    last.utf8ByteSize ≤ maxNameBytes := by
  have hroom : hasRoomBeside (place ++ [last]) logEnding = true := by
    rw [hasEngineRoom] at h
    split at h
    · exact h
    · exact hasRoomBeside_logEnding h
  simp only [hasRoomBeside, decide_eq_true_eq, String.utf8ByteSize_append, List.getLast?_concat,
    Option.getD_some] at hroom
  omega

/-- **The engine makes an empty database** where no directory is. -/
theorem exists_makeDatabase_eq_ok (hfile : t.get? place ≠ some .directory)
    (hroom : hasRoomBeside place journalEnding = true) :
    ∃ t', t.makeDatabase place = .ok (t', ⟨some place, {}⟩) ∧ Keeps t t'
      ∧ t'.get? place = some (.database {}) ∧ hasRoomBeside place logEnding = true := by
  refine ⟨_, ?_, keeps_put hfile, get?_put_self hfile, hasRoomBeside_logEnding hroom⟩
  rw [makeDatabase, if_pos hroom]

/-- **The engine opens a database at a place in a directory**: what it opens is what the place starts from,
and the database is there afterwards. -/
theorem exists_openPlace_eq_ok (hreached : t.Reached place)
    (habove : t.get? place.dropLast = some .directory) (hreach : isInReach place = true)
    (hstore : t.storeAt? place = some s) (hroom : t.hasEngineRoom place = true) :
    ∃ t', t.openPlace (some place) = .ok (t', ⟨some place, s⟩) ∧ Keeps t t'
      ∧ t'.get? place = some (.database s) ∧ hasRoomBeside place logEnding = true := by
  rw [openPlace, if_neg (by simp [hreach]), hreached.follow]
  rw [hasEngineRoom] at hroom
  rw [storeAt?] at hstore
  cases hget : t.get? place with
  | none =>
    rw [hget] at hroom hstore
    cases hstore
    have hisMade : t.isMade place = true := by
      rw [isMade, hreached.follow, hget, habove]
      rfl
    simp only [hisMade, if_true]
    exact exists_makeDatabase_eq_ok (get?_ne_directory hget) hroom
  | some e =>
    rw [hget] at hroom hstore
    cases e with
    | directory => cases hstore
    | database s' =>
      cases hstore
      exact ⟨t, if_pos hroom, fun _ h => h, hget, hroom⟩
    | text content =>
      by_cases hempty : content = ""
      · subst hempty
        cases hstore
        exact exists_makeDatabase_eq_ok (by simp [hget]) hroom
      · simp [hempty] at hstore

/-- **What the engine has opened** at a place where something is, is what the place starts from. -/
theorem storeAt?_of_openPlace {e : Entry} {d : OpenDatabase} (hreached : t.Reached place)
    (hget : t.get? place = some e) (hopen : t.openPlace (some place) = .ok (t', d)) :
    t.storeAt? place = some d.store := by
  have hisMade : t.isMade place = false := by
    rw [isMade, hreached.follow, hget]
    rfl
  rw [openPlace, hisMade] at hopen
  split at hopen
  · cases hopen
  rw [hreached.follow, hget] at hopen
  rw [storeAt?, hget]
  cases e with
  | directory => cases hopen
  | database s =>
    dsimp only at hopen
    split at hopen
    · cases hopen
      rfl
    · cases hopen
  | text content =>
    by_cases hempty : content = ""
    · subst hempty
      change t.makeDatabase place = _ at hopen
      rw [makeDatabase] at hopen
      split at hopen
      · cases hopen
        rfl
      · cases hopen
    · simp at hopen

/-! ### Opening -/

/-- **What a visit to a path finds**, if it finds a database at all: the database is there, or it is missing
and the directory above it can be made. -/
inductive Awaits (t : Tree) (here : List String) (p : Path) (s : Store) : Prop
  /-- The database is there. -/
  | there {e : Entry} (hlook : t.look here p = .found (p.normal here) e)
      (hstore : t.storeAt? (p.normal here) = some s)
      (hroom : t.hasEngineRoom (p.normal here) = true) : Awaits t here p s
  /-- It is missing. -/
  | missing {t₀ : Tree} (hmissing : t.hasEntry here p = .ok false)
      (hmake : t.makeDirectory here p.parent = .ok t₀)
      (hstore : t₀.storeAt? (p.normal here) = some s)
      (hroom : t₀.hasEngineRoom (p.normal here) = true) : Awaits t here p s

/-- A path that leads somewhere has an entry. -/
theorem hasEntry_of_look {q : List String} {e : Entry} (h : t.look here p = .found q e) :
    t.hasEntry here p = .ok true := by
  rw [hasEntry, h]

/-- A path that has an entry leads somewhere. -/
theorem exists_look_of_hasEntry (h : t.hasEntry here p = .ok true) : ∃ q e, t.look here p = .found q e := by
  rw [hasEntry] at h
  split at h
  · next hlook => exact ⟨_, _, hlook⟩
  · cases h
  · cases h

/-- **A path is followed by the engine as it stands**, if it has no question mark in it and does not stand
for a database in memory. -/
theorem enginePlace_of_not_mem (hnames : ∀ n ∈ p.names, IsName n) (hmark : '?' ∉ p.text.toList)
    (hmemory : p.text ≠ memoryPath) : enginePlace here p = some (p.normal here) := by
  have htext : String.ofList (p.text.toList.takeWhile (· != '?')) = p.text := by
    rw [List.takeWhile_eq_self_iff.mpr, String.ofList_toList]
    intro c hc
    rw [bne_iff_ne]
    rintro rfl
    exact hmark hc
  have hread : Path.ofText p.text = p := Path.ofText_text hnames
  have hne : p.text ≠ "" := by
    intro hempty
    have hnone : (Path.ofText "").text = "" := by rw [← hempty, hread]
    exact absurd hnone (by decide)
  rw [enginePlace, htext, if_neg, hread]
  simp [hne, hmemory]

/-- **A path that names a database is followed by the engine as it stands.** -/
theorem enginePlace_eq (hp : (Path.ofText name).NamesDatabase here) :
    enginePlace here (Path.ofText name) = some ((Path.ofText name).normal here) :=
  enginePlace_of_not_mem (fun _ => Path.isName_of_mem_ofText) hp.noMark hp.notMemory

/-- The path that stands for a database in memory names no other database. -/
theorem ne_memoryPath (hp : (Path.ofText name).NamesDatabase here) : name ≠ memoryPath := by
  rintro rfl
  exact hp.notMemory rfl

/-- What is done before a database is opened. -/
theorem prepare_eq (t : Tree) (here : List String) (p : Path) (create : Bool) :
    t.prepare here p create = match t.hasEntry here p with
      | .error fault => .error (.file fault)
      | .ok true => .ok t
      | .ok false =>
        if create then (t.makeDirectory here p.parent).mapError .file
        else .error (.database (.notFound p.text)) := by
  unfold prepare
  cases t.hasEntry here p with
  | error fault => rfl
  | ok present => cases present <;> cases create <;> rfl

/-- **A visit that may not make the file, and finds none, changes nothing.** -/
theorem visit_of_missing (hp : (Path.ofText name).NamesDatabase here) {v : Visit}
    (hcreate : v.create = false) (hmissing : t.hasEntry here (Path.ofText name) = .ok false) :
    t.visit here name v = (t, .error (.inl (.database (.notFound (Path.ofText name).text)))) := by
  have hprepare : t.prepare here (Path.ofText name) v.create
      = .error (.database (.notFound (Path.ofText name).text)) := by
    rw [prepare_eq, hmissing, hcreate]
    rfl
  rw [visit, withSession, openDatabase, if_neg (by simpa using ne_memoryPath hp)]
  dsimp only
  rw [hprepare]

/-- Opening a path that names a database is opening its place, after what is done before. -/
theorem openDatabase_eq (hp : (Path.ofText name).NamesDatabase here) {create : Bool} {t₀ : Tree}
    {d : OpenDatabase} (hprepare : t.prepare here (Path.ofText name) create = .ok t₀)
    (hplace : t₀.openPlace (some ((Path.ofText name).normal here)) = .ok (t', d)) :
    t.openDatabase here name create = (t', .ok d) := by
  rw [openDatabase, if_neg (by simpa using ne_memoryPath hp)]
  dsimp only
  rw [hprepare, enginePlace_eq hp]
  dsimp only
  rw [hplace]

/-- **Opening the database at a path** finds the store that awaits it, and the path leads to the database
afterwards. -/
theorem Awaits.exists_openDatabase_eq (h : t.Awaits here (Path.ofText name) s) (hhere : ".." ∉ here)
    (hp : (Path.ofText name).NamesDatabase here) {create : Bool}
    (hcreate : ¬(create = false ∧ t.hasEntry here (Path.ofText name) = .ok false)) :
    ∃ t', t.openDatabase here name create = (t', .ok ⟨some ((Path.ofText name).normal here), s⟩)
      ∧ t'.look here (Path.ofText name) = .found ((Path.ofText name).normal here) (.database s)
      ∧ hasRoomBeside ((Path.ofText name).normal here) logEnding = true := by
  cases h with
  | there hlook hstore hroom =>
    obtain ⟨hreached, hget, -⟩ := place_of_look hhere hlook
    have hne : (Path.ofText name).normal here ≠ [] := by
      intro hnil
      rw [hnil] at hstore
      cases hstore
    obtain ⟨t', hopen, hkeeps, hget', hlog⟩ :=
      exists_openPlace_eq_ok hreached (hreached.get?_dropLast hne) hp.inReach hstore hroom
    have hprepare : t.prepare here (Path.ofText name) create = .ok t := by
      rw [prepare_eq, hasEntry_of_look hlook]
    exact ⟨t', openDatabase_eq hp hprepare hopen, look_of_keeps hkeeps hlook hget', hlog⟩
  | @missing t₀ hmissing hmake hstore hroom =>
    obtain ⟨last, hlast, hne⟩ := hp.last
    obtain ⟨-, q, hparent⟩ := of_makeDirectory_eq_ok hmake
    obtain ⟨hreached, hget, hq⟩ := place_of_look hhere hparent
    have hplace : (Path.ofText name).normal here = q ++ [last] := by
      rw [Path.normal_of_getLast? hhere hlast hne, hq]
    rw [hplace] at hstore hroom
    have hlength := size_le_of_hasEngineRoom hroom
    obtain ⟨t', hopen, hkeeps, hget', hlog⟩ :=
      exists_openPlace_eq_ok (hreached.step hget hne hlength) (by rwa [List.dropLast_concat])
        (hplace ▸ hp.inReach) hstore hroom
    have hprepare : t.prepare here (Path.ofText name) create = .ok t₀ := by
      have hmade : create = true := by
        cases create with
        | true => rfl
        | false => exact absurd ⟨rfl, hmissing⟩ hcreate
      rw [prepare_eq, hmissing, hmade, hmake]
      rfl
    refine ⟨t', openDatabase_eq hp hprepare (hplace ▸ hopen), ?_, hplace ▸ hlog⟩
    have hparent' := look_of_keeps hkeeps hparent (hkeeps q hget)
    rw [look_of_parent hp.short hparent' hlast hne hlength, hget', hplace]

/-! ### One visit -/

/-- A database that a path leads to awaits the next visit. -/
theorem awaits_of_look (hhere : ".." ∉ here) (hlook : t.look here p = .found (p.normal here) (.database s))
    (hlog : hasRoomBeside (p.normal here) logEnding = true) : t.Awaits here p s := by
  have hget := (place_of_look hhere hlook).2.1
  refine .there hlook ?_ ?_
  · rw [storeAt?, hget]
  · rw [hasEngineRoom, hget]
    exact hlog

/-- The store in a database is what the place of the database starts from. -/
theorem storeAt?_of_look {place : List String} (hhere : ".." ∉ here)
    (hlook : t.look here p = .found place (.database s)) : t.storeAt? place = some s := by
  rw [storeAt?, (place_of_look hhere hlook).2.1]

/-- **A visit that opens the database** finds the store that awaits it, adds its tag if it comes to its end,
and leaves the database where the path leads to it. -/
theorem Awaits.visit (h : t.Awaits here (Path.ofText name) s) (hhere : ".." ∉ here)
    (hp : (Path.ofText name).NamesDatabase here) {v : Visit}
    (hopens : ¬(v.create = false ∧ t.hasEntry here (Path.ofText name) = .ok false)) :
    ∃ t', t.visit here name v = (t', v.outcome s)
      ∧ t'.look here (Path.ofText name) = .found ((Path.ofText name).normal here)
          (.database (s.withTags (Visit.tagsAdded [(v, v.outcome s)])))
      ∧ hasRoomBeside ((Path.ofText name).normal here) logEnding = true := by
  obtain ⟨t₁, hopen, hlook, hlog⟩ := h.exists_openDatabase_eq hhere hp hopens
  have hget := (place_of_look hhere hlook).2.1
  have hfile : t₁.get? ((Path.ofText name).normal here) ≠ some .directory := by simp [hget]
  rw [Tree.visit, withSession, hopen]
  obtain ⟨create, tag, fault⟩ := v
  cases fault with
  | none =>
    refine ⟨_, rfl, ?_, hlog⟩
    show (t₁.put _ (.database (s.withTags tag.toList))).look here _ = _
    rw [look_of_keeps (keeps_put hfile) hlook (get?_put_self hfile)]
    simp [Visit.tagsAdded, Visit.outcome]
  | some fault => exact ⟨t₁, rfl, hlook, hlog⟩

/-! ### A run of visits -/

/-- Tags of one visit come before those of the visits after it. -/
theorem tagsAdded_cons (visit : Visit × VisitOutcome)
    (visits : List (Visit × VisitOutcome)) :
    Visit.tagsAdded (visit :: visits) = Visit.tagsAdded [visit] ++ Visit.tagsAdded visits := by
  obtain ⟨v, outcome⟩ := visit
  cases outcome <;> simp [Visit.tagsAdded]

theorem withTags_append (s : Store) (names names' : List String) :
    s.withTags (names ++ names') = (s.withTags names).withTags names' :=
  List.foldl_append

/-- **A run of visits** leaves the store with the tags of the visits that came to their end; and the file
stays, once it is there. -/
theorem Awaits.visits (h : t.Awaits here (Path.ofText name) s) (hhere : ".." ∉ here)
    (hp : (Path.ofText name).NamesDatabase here) (vs : List Visit) :
    (t.visits here name vs).1.Awaits here (Path.ofText name)
        (s.withTags (Visit.tagsAdded (t.visits here name vs).2))
      ∧ (t.hasEntry here (Path.ofText name) = .ok true →
        (t.visits here name vs).1.hasEntry here (Path.ofText name) = .ok true) := by
  induction vs generalizing t s with
  | nil => exact ⟨h, id⟩
  | cons v vs ih =>
    rw [Tree.visits]
    by_cases hmissing : v.create = false ∧ t.hasEntry here (Path.ofText name) = .ok false
    · -- the visit changes nothing
      rw [visit_of_missing hp hmissing.1 hmissing.2]
      obtain ⟨hafter, hstays⟩ := ih h
      exact ⟨hafter, hstays⟩
    · obtain ⟨t', hvisit, hlook, hlog⟩ := h.visit hhere hp hmissing
      obtain ⟨hafter, hstays⟩ := ih (awaits_of_look hhere hlook hlog)
      rw [hvisit]
      refine ⟨?_, fun _ => hstays (hasEntry_of_look hlook)⟩
      rw [tagsAdded_cons, withTags_append]
      exact hafter

/-- **In the beginning** a database at a path awaits a visit, if the directory above it can be made. -/
theorem Awaits.of_makeDirectory {t₀ : Tree} (hhere : ".." ∉ here) (hp : p.NamesDatabase here)
    (hmake : t.makeDirectory here p.parent = .ok t₀) (hstore : t₀.storeAt? (p.normal here) = some s)
    (hroom : t₀.hasEngineRoom (p.normal here) = true) : t.Awaits here p s := by
  obtain ⟨hextends, q, hparent⟩ := of_makeDirectory_eq_ok hmake
  cases hlook : t.look here p with
  | found place e =>
    obtain ⟨-, hget, rfl⟩ := place_of_look hhere hlook
    have hget₀ := hextends _ _ hget
    refine .there hlook ?_ ?_
    · rw [storeAt?, hget, ← hget₀]
      exact hstore
    · rw [hasEngineRoom, hget, ← hget₀]
      exact hroom
  | absent => exact .missing (by rw [hasEntry, hlook]) hmake hstore hroom
  | blocked => exact .missing (by rw [hasEntry, hlook]) hmake hstore hroom
  | tooLong =>
    obtain ⟨last, hlast, hne⟩ := hp.last
    rw [Path.normal_of_getLast? hhere hlast hne] at hroom
    exact absurd hlook
      (look_ne_tooLong hp.short hextends.keeps hparent hlast (size_le_of_hasEngineRoom hroom))

/-- A visit to the database in memory finds it empty, and changes nothing. -/
theorem visit_memoryPath (t : Tree) (here : List String) (v : Visit) :
    t.visit here memoryPath v = (t, v.outcome {}) := by
  obtain ⟨create, tag, fault⟩ := v
  cases fault <;> rfl

/-- **Visits are all or nothing.** Let the directory above the path be one that can be made, and nothing, an
empty file or a database be at the path then. After any visits, a visit that may not make the file, and finds
none, says so and changes nothing. Every other visit finds the store of the beginning with the tags of the
visits that came to their end; it leaves this store, with its own tag if it comes to its end itself; and the
file is there from then on. The database in memory is empty at every visit. -/
theorem visit_after_visits {t₀ : Tree} (hhere : ".." ∉ here) (hp : (Path.ofText name).NamesDatabase here)
    (hmake : t.makeDirectory here (Path.ofText name).parent = .ok t₀)
    (hstore : t₀.storeAt? ((Path.ofText name).normal here) = some s)
    (hroom : t₀.hasEngineRoom ((Path.ofText name).normal here) = true) (vs : List Visit) (v : Visit) :
    let t₁ := (t.visits here name vs).1
    let seen := s.withTags (Visit.tagsAdded (t.visits here name vs).2)
    let missing := v.create = false ∧ t₁.hasEntry here (Path.ofText name) = .ok false
    (missing →
      t₁.visit here name v = (t₁, .error (.inl (.database (.notFound (Path.ofText name).text)))))
    ∧ (¬missing →
      (t₁.visit here name v).2 = v.outcome seen
        ∧ (t₁.visit here name v).1.storeAt? ((Path.ofText name).normal here)
            = some (seen.withTags (Visit.tagsAdded [(v, v.outcome seen)]))
        ∧ ∀ ws, ((t₁.visit here name v).1.visits here name ws).1.hasEntry here (Path.ofText name)
            = .ok true)
    ∧ ∀ t : Tree, t.visit here memoryPath v = (t, v.outcome {}) := by
  intro t₁ seen missing
  have hawaits : t₁.Awaits here (Path.ofText name) seen :=
    ((Awaits.of_makeDirectory hhere hp hmake hstore hroom).visits hhere hp vs).1
  refine ⟨fun hmissing => visit_of_missing hp hmissing.1 hmissing.2, fun hopens => ?_,
    fun t => visit_memoryPath t here v⟩
  obtain ⟨t', hvisit, hlook, hlog⟩ := hawaits.visit hhere hp hopens
  rw [hvisit]
  refine ⟨rfl, storeAt?_of_look hhere hlook, fun ws => ?_⟩
  exact ((awaits_of_look hhere hlook hlog).visits hhere hp ws).2 (hasEntry_of_look hlook)

/-- A tree with one directory. -/
def bareTree : Tree where
  entries := [(["home"], .directory)]

/-- The path of a file in a directory that is still to be made names a database. -/
theorem namesDatabase_notes : (Path.ofText "new/notes.db").NamesDatabase ["home"] where
  last := ⟨"notes.db", by decide +kernel, by decide⟩
  noMark := by decide +kernel
  notMemory := by decide +kernel
  noNul := by decide +kernel
  short := by decide +kernel
  inReach := by decide +kernel

/-- Of three visits the first is to find a file, and there is none; the second makes it and comes to its end;
and the third breaks off. The next visit finds the tag of the second one, and no other. -/
theorem visit_after_visits_notes :
    ((bareTree.visits ["home"] "new/notes.db"
        [⟨false, some "early", none⟩, ⟨true, some "work", none⟩, ⟨true, some "home", some "stop"⟩]).1.visit
      ["home"] "new/notes.db" ⟨false, some "plans", none⟩).2 = .ok { tags := [⟨1, "work"⟩] } := by
  have hmake : bareTree.makeDirectory ["home"] (Path.ofText "new/notes.db").parent
      = .ok (bareTree.put ["home", "new"] .directory) := by decide +kernel
  have hvisits := visit_after_visits (s := {}) (by decide) namesDatabase_notes hmake (by decide +kernel)
    (by decide +kernel)
    [⟨false, some "early", none⟩, ⟨true, some "work", none⟩, ⟨true, some "home", some "stop"⟩]
    ⟨false, some "plans", none⟩
  exact (hvisits.2.1 (by decide +kernel)).1

/-- **A question mark in the path goes wrong in silence**: a visit makes the database, adds its tag and comes
to its end, and yet there is no file at the path afterwards, and the next visit, which may not make one, is
refused. -/
theorem visits_questionMark :
    bareTree.makeDirectory ["home"] (Path.ofText "a?b.db").parent = .ok bareTree
      ∧ bareTree.storeAt? ((Path.ofText "a?b.db").normal ["home"]) = some {}
      ∧ (bareTree.visits ["home"] "a?b.db" [⟨true, some "t", none⟩, ⟨false, some "t", none⟩]).2.map (·.2)
          = [.ok {}, .error (.inl (.database (.notFound "a?b.db")))]
      ∧ (bareTree.visit ["home"] "a?b.db" ⟨true, some "t", none⟩).1.hasEntry ["home"] (Path.ofText "a?b.db")
          = .ok false := by
  decide +kernel

end Tree

end NoteSearch
