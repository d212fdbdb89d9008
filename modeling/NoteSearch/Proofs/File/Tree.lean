import NoteSearch.File.Tree
import NoteSearch.Proofs.Computation
import NoteSearch.Proofs.File.Path

/-!
# Following paths in a file tree

A path is followed from directory to directory, so where it leads depends on the directories on the way and
on the entry at its end, and on nothing else. A change of the tree that keeps all directories
(`NoteSearch.Tree.Keeps`) keeps the way of every path that leads somewhere
(`NoteSearch.Tree.follow_of_keeps`); making directories and writing files are such changes.

A path that leads somewhere leads to the place that its names spell when every step back is taken back
(`NoteSearch.Tree.place_of_look`), and that place is reached without any step back as well
(`NoteSearch.Tree.Reached`). This is why a file is found under both of its names, the one that it was asked
for by and the one that it is opened by.
-/

namespace NoteSearch.Tree

variable {t t' : Tree} {place q : List String} {e e' : Entry} {ns ms : List String} {n : String}

/-! ### Entries -/

theorem lookup_cons_eq {entries : List (List String × Entry)} :
    ((place, e) :: entries).lookup q = if q = place then some e else entries.lookup q := by
  by_cases h : q = place
  · simp [h]
  · rw [List.lookup_cons, beq_eq_false_iff_ne.mpr h, if_neg h]

/-- Replacing the entry at one place leaves the others alone. -/
theorem lookup_replaced_of_ne {entries : List (List String × Entry)} (h : q ≠ place) :
    (entries.map fun x => if x.1 == place then (place, e) else x).lookup q = entries.lookup q := by
  induction entries with
  | nil => rfl
  | cons x entries ih =>
    obtain ⟨k, v⟩ := x
    rw [List.map_cons]
    by_cases hk : k = place
    · rw [if_pos (beq_iff_eq.mpr hk), lookup_cons_eq, lookup_cons_eq, if_neg h, if_neg (hk ▸ h), ih]
    · rw [if_neg (by simpa using hk), lookup_cons_eq, lookup_cons_eq, ih]

/-- Replacing the entry at a place that has one puts the new one there. -/
theorem lookup_replaced_self {entries : List (List String × Entry)}
    (h : entries.any (·.1 == place) = true) :
    (entries.map fun x => if x.1 == place then (place, e) else x).lookup place = some e := by
  induction entries with
  | nil => cases h
  | cons x entries ih =>
    obtain ⟨k, v⟩ := x
    rw [List.map_cons]
    by_cases hk : k = place
    · rw [if_pos (beq_iff_eq.mpr hk), lookup_cons_eq, if_pos rfl]
    · have hrest : entries.any (·.1 == place) = true := by simpa [hk] using h
      rw [if_neg (by simpa using hk), lookup_cons_eq, if_neg (Ne.symm hk), ih hrest]

/-- **What is at which place when an entry has been put somewhere.** -/
theorem get?_put (hne : place ≠ []) : (t.put place e).get? q = if q = place then some e else t.get? q := by
  by_cases hq : q = []
  · subst hq
    rw [if_neg (Ne.symm hne)]
    rfl
  · simp only [get?, put, List.isEmpty_iff, hq, if_false]
    split
    · next hany =>
      by_cases heq : q = place
      · rw [heq, if_pos rfl, lookup_replaced_self hany]
      · rw [if_neg heq, lookup_replaced_of_ne heq]
    · next hnone =>
      rw [List.lookup_append, lookup_cons_eq]
      by_cases heq : q = place
      · subst heq
        have habsent : t.entries.lookup q = none := by
          rw [List.lookup_eq_none_iff]
          intro x hx
          rw [bne_iff_ne]
          rintro rfl
          exact hnone (List.any_eq_true.mpr ⟨x, hx, beq_self_eq_true _⟩)
        rw [habsent, if_pos rfl, if_pos rfl, Option.none_or]
      · rw [if_neg heq, if_neg heq, List.lookup_nil, Option.or_none]

/-! ### Following names -/

/-- **A place that is reached** without any step back: all places above it are directories, and the names
in it are short enough. -/
inductive Reached (t : Tree) : List String → Prop
  /-- The root. -/
  | root : Reached t []
  /-- A place in a directory that is reached. -/
  | step {place : List String} {n : String} (hplace : Reached t place)
      (hdirectory : t.get? place = some .directory) (hne : n ≠ "..")
      (hsize : n.utf8ByteSize ≤ maxNameBytes) : Reached t (place ++ [n])

/-- A place that is reached is in a directory, if it is not the root. -/
theorem Reached.get?_dropLast (h : t.Reached place) (hne : place ≠ []) :
    t.get? place.dropLast = some .directory := by
  cases h with
  | root => exact absurd rfl hne
  | step _ hdirectory _ _ =>
    rw [List.dropLast_concat]
    exact hdirectory

/-- No name leads to the entry where one is. -/
theorem follow_nil_eq_found_iff :
    t.follow place [] = .found q e ↔ q = place ∧ t.get? place = some e := by
  rw [follow]
  cases t.get? place with
  | none => simp
  | some e' =>
    rw [Destination.found.injEq, Option.some.injEq]
    exact and_congr_left fun _ => eq_comm

/-- A name leads on from a directory. -/
theorem follow_cons_of_directory (h : t.get? place = some .directory) :
    t.follow place (n :: ns) =
      if n = ".." then t.follow place.dropLast ns
      else if maxNameBytes < n.utf8ByteSize then .tooLong else t.follow (place ++ [n]) ns := by
  rw [follow, h]
  simp only [beq_iff_eq]

/-- Only from a directory does a name lead to anything. -/
theorem directory_of_follow_cons (h : t.follow place (n :: ns) = .found q e) :
    t.get? place = some .directory := by
  rw [follow] at h
  split at h
  · cases h
  · next hd => exact hd
  · cases h

/-- **Following some names after others** goes on from where those lead. -/
theorem follow_append (h : t.follow place ns = .found q .directory) :
    t.follow place (ns ++ ms) = t.follow q ms := by
  induction ns generalizing place with
  | nil =>
    obtain ⟨rfl, -⟩ := follow_nil_eq_found_iff.mp h
    rfl
  | cons n ns ih =>
    have hd := directory_of_follow_cons h
    rw [follow_cons_of_directory hd] at h
    rw [List.cons_append, follow_cons_of_directory hd]
    split at h
    · next hstep => rw [if_pos hstep, ih h]
    · next hstep =>
      rw [if_neg hstep]
      split at h
      · cases h
      · next hsize => rw [if_neg hsize, ih h]

/-- **Where names lead**: to a place that is reached, the one that they spell when every step back is taken
back. -/
theorem of_follow_eq_found (hplace : t.Reached place) (h : t.follow place ns = .found q e) :
    t.Reached q ∧ t.get? q = some e ∧ q = Path.normalNames place.reverse ns := by
  induction ns generalizing place with
  | nil =>
    obtain ⟨rfl, hget⟩ := follow_nil_eq_found_iff.mp h
    exact ⟨hplace, hget, by rw [Path.normalNames, List.reverse_reverse]⟩
  | cons n ns ih =>
    have hd := directory_of_follow_cons h
    rw [follow_cons_of_directory hd] at h
    rw [Path.normalNames]
    split at h
    · next hstep =>
      -- the place above one that is reached is reached
      have habove : t.Reached place.dropLast := by
        cases hplace with
        | root => exact .root
        | step hplace _ _ _ =>
          rw [List.dropLast_concat]
          exact hplace
      obtain ⟨hreached, hget, hq⟩ := ih habove h
      refine ⟨hreached, hget, ?_⟩
      rw [hq, if_pos (beq_iff_eq.mpr hstep), List.drop_one, ← List.tail_reverse]
    · next hstep =>
      split at h
      · cases h
      · next hsize =>
        obtain ⟨hreached, hget, hq⟩ := ih (.step hplace hd hstep (Nat.le_of_not_lt hsize)) h
        refine ⟨hreached, hget, ?_⟩
        rw [hq, if_neg (by simpa using hstep), List.reverse_append, List.reverse_singleton,
          List.singleton_append]

/-- **The names of a place that is reached lead to it.** -/
theorem Reached.follow (h : t.Reached place) :
    t.follow [] place = match t.get? place with
      | some e => .found place e
      | none => .absent := by
  induction h with
  | root => rfl
  | @step place n _ hd hne hsize ih =>
    have hfound : t.follow [] place = .found place .directory := by
      rw [ih, hd]
    rw [follow_append hfound, follow_cons_of_directory hd, if_neg hne, if_neg (Nat.not_lt.mpr hsize)]
    rfl

/-! ### Changes of the tree -/

/-- **A change keeps the directories** if they are all there after it. -/
def Keeps (t t' : Tree) : Prop :=
  ∀ q, t.get? q = some .directory → t'.get? q = some .directory

/-- **A change only adds** if everything is after it as it was before. -/
def Extends (t t' : Tree) : Prop :=
  ∀ q e, t.get? q = some e → t'.get? q = some e

theorem Extends.refl : Extends t t :=
  fun _ _ h => h

theorem Extends.trans {t'' : Tree} (h : Extends t t') (h' : Extends t' t'') : Extends t t'' :=
  fun q e hq => h' q e (h q e hq)

theorem Extends.keeps (h : Extends t t') : Keeps t t' :=
  fun q => h q .directory

theorem ne_nil_of_get?_ne (h : t.get? place ≠ some .directory) : place ≠ [] := by
  rintro rfl
  exact h rfl

theorem get?_ne_directory (h : t.get? place = none) : t.get? place ≠ some .directory := by
  rw [h]
  exact (Option.some_ne_none _).symm

/-- Putting an entry where no directory is keeps the directories. -/
theorem keeps_put (h : t.get? place ≠ some .directory) : Keeps t (t.put place e) := by
  intro q hq
  rw [get?_put (ne_nil_of_get?_ne h), if_neg, hq]
  rintro rfl
  exact h hq

/-- Putting an entry where none is only adds. -/
theorem extends_put (h : t.get? place = none) : Extends t (t.put place e) := by
  intro q e' hq
  rw [get?_put (ne_nil_of_get?_ne (get?_ne_directory h)), if_neg, hq]
  rintro rfl
  rw [h] at hq
  cases hq

/-- An entry that has been put somewhere is there. -/
theorem get?_put_self (h : t.get? place ≠ some .directory) : (t.put place e).get? place = some e := by
  rw [get?_put (ne_nil_of_get?_ne h), if_pos rfl]

/-- **What a way depends on**: where the directories are kept, the same names lead to the same place. -/
theorem follow_of_keeps (hkeeps : Keeps t t') (h : t.follow place ns = .found q e)
    (hq : t'.get? q = some e') : t'.follow place ns = .found q e' := by
  induction ns generalizing place with
  | nil =>
    obtain ⟨rfl, -⟩ := follow_nil_eq_found_iff.mp h
    exact follow_nil_eq_found_iff.mpr ⟨rfl, hq⟩
  | cons n ns ih =>
    have hd := directory_of_follow_cons h
    rw [follow_cons_of_directory hd] at h
    rw [follow_cons_of_directory (hkeeps place hd)]
    split at h
    · next hstep => rw [if_pos hstep, ih h]
    · next hstep =>
      rw [if_neg hstep]
      split at h
      · cases h
      · next hsize => rw [if_neg hsize, ih h]

/-- Where the directories are kept, names that are too long stay in the way. -/
theorem follow_eq_tooLong_of_keeps (hkeeps : Keeps t t') (h : t.follow place ns = .tooLong) :
    t'.follow place ns = .tooLong := by
  induction ns generalizing place with
  | nil =>
    rw [follow] at h
    split at h <;> cases h
  | cons n ns ih =>
    have hd : t.get? place = some .directory := by
      rw [follow] at h
      split at h
      · cases h
      · next hd => exact hd
      · cases h
    rw [follow_cons_of_directory hd] at h
    rw [follow_cons_of_directory (hkeeps place hd)]
    split at h
    · next hstep => rw [if_pos hstep, ih h]
    · next hstep =>
      rw [if_neg hstep]
      split at h
      · next hlong => rw [if_pos hlong]
      · next hsize => rw [if_neg hsize, ih h]

/-- A name that is too long is the last one, or one before it. -/
theorem follow_concat_eq_tooLong (h : t.follow place (ns ++ [n]) = .tooLong) :
    t.follow place ns = .tooLong ∨ maxNameBytes < n.utf8ByteSize := by
  induction ns generalizing place with
  | nil =>
    rw [List.nil_append, follow] at h
    split at h
    · cases h
    · split at h
      · rw [follow] at h
        split at h <;> cases h
      · split at h
        · next hlong => exact .inr hlong
        · rw [follow] at h
          split at h <;> cases h
    · cases h
  | cons m ns ih =>
    rw [List.cons_append, follow] at h
    rw [follow]
    split at h
    · cases h
    · split at h
      · next hstep =>
        rw [if_pos hstep]
        exact ih h
      · next hstep =>
        rw [if_neg hstep]
        split at h
        · next hlong =>
          rw [if_pos hlong]
          exact .inl rfl
        · next hsize =>
          rw [if_neg hsize]
          exact ih h
    · cases h

/-! ### Looking along a path -/

variable {here : List String} {p : Path} {last : String}

theorem look_eq :
    t.look here p = if maxPathBytes < p.text.utf8ByteSize then .tooLong else t.follow [] (p.route here) := by
  obtain ⟨start, names⟩ := p
  rw [look]
  cases start <;> rfl

/-- A path that leads somewhere is followed. -/
theorem look_eq_found_iff :
    t.look here p = .found q e ↔
      p.text.utf8ByteSize ≤ maxPathBytes ∧ t.follow [] (p.route here) = .found q e := by
  rw [look_eq]
  split
  · next hlong => exact ⟨fun h => (nomatch h), fun h => absurd h.1 (Nat.not_le.mpr hlong)⟩
  · next hshort => exact ⟨fun h => ⟨Nat.le_of_not_lt hshort, h⟩, And.right⟩

/-- **Where a path leads**: to the place that is left of it when every step back is taken back. -/
theorem place_of_look (hhere : ".." ∉ here) (h : t.look here p = .found q e) :
    t.Reached q ∧ t.get? q = some e ∧ q = p.normal here := by
  rw [Path.normal_eq hhere]
  exact of_follow_eq_found .root (look_eq_found_iff.mp h).2

/-- Where the directories are kept, a path leads where it led before. -/
theorem look_of_keeps (hkeeps : Keeps t t') (h : t.look here p = .found q e)
    (hq : t'.get? q = some e') : t'.look here p = .found q e' := by
  obtain ⟨hsize, hfollow⟩ := look_eq_found_iff.mp h
  exact look_eq_found_iff.mpr ⟨hsize, follow_of_keeps hkeeps hfollow hq⟩

/-- **A name in a directory**: what a path leads to is in the directory above it. -/
theorem look_of_parent (hsize : p.text.utf8ByteSize ≤ maxPathBytes)
    (hparent : t.look here p.parent = .found place .directory) (hlast : p.names.getLast? = some last)
    (hne : last ≠ "..") (hlength : last.utf8ByteSize ≤ maxNameBytes) :
    t.look here p = match t.get? (place ++ [last]) with
      | some e => .found (place ++ [last]) e
      | none => .absent := by
  obtain ⟨-, hfollow⟩ := look_eq_found_iff.mp hparent
  obtain ⟨-, hd, -⟩ := of_follow_eq_found .root hfollow
  rw [look_eq, if_neg (Nat.not_lt.mpr hsize), Path.route_of_getLast? hlast, follow_append hfollow,
    follow_cons_of_directory hd, if_neg hne, if_neg (Nat.not_lt.mpr hlength)]
  rfl

/-- **A name that is missing in a directory** is no step back, is short enough, and is missing there. -/
theorem missing_of_look (habsent : t.look here p = .absent)
    (hparent : t.look here p.parent = .found place .directory)
    (hlast : p.names.getLast? = some last) :
    p.text.utf8ByteSize ≤ maxPathBytes ∧ last ≠ ".." ∧ last.utf8ByteSize ≤ maxNameBytes
      ∧ t.get? (place ++ [last]) = none := by
  have hsize : p.text.utf8ByteSize ≤ maxPathBytes := by
    refine Nat.le_of_not_lt fun hlong => ?_
    rw [look_eq, if_pos hlong] at habsent
    cases habsent
  obtain ⟨-, hfollow⟩ := look_eq_found_iff.mp hparent
  obtain ⟨hreached, hd, -⟩ := of_follow_eq_found .root hfollow
  have hname := habsent
  rw [look_eq, if_neg (Nat.not_lt.mpr hsize), Path.route_of_getLast? hlast, follow_append hfollow,
    follow_cons_of_directory hd] at hname
  split at hname
  · -- the directory above one that is there is there, too
    cases hreached with
    | root => cases hname
    | step _ habove _ _ =>
      rw [List.dropLast_concat, follow, habove] at hname
      cases hname
  · next hne =>
    split at hname
    · cases hname
    · next hlength =>
      refine ⟨hsize, hne, Nat.le_of_not_lt hlength, ?_⟩
      rw [follow] at hname
      split at hname
      · cases hname
      · assumption

/-- **An entry that is put where one is missing** is found by the same path. -/
theorem look_put_missing (habsent : t.look here p = .absent)
    (hparent : t.look here p.parent = .found place .directory)
    (hlast : p.names.getLast? = some last) :
    t.get? (place ++ [last]) = none
      ∧ (t.put (place ++ [last]) e).look here p = .found (place ++ [last]) e := by
  obtain ⟨hsize, hne, hlength, hnone⟩ := missing_of_look habsent hparent hlast
  refine ⟨hnone, ?_⟩
  have hkeeps : Keeps t (t.put (place ++ [last]) e) := (extends_put hnone).keeps
  have hd := (of_follow_eq_found .root (look_eq_found_iff.mp hparent).2).2.1
  have hparent' := look_of_keeps hkeeps hparent (hkeeps place hd)
  rw [look_of_parent hsize hparent' hlast hne hlength, get?_put_self (get?_ne_directory hnone)]

/-- **A path that is short enough can be looked at**, if the path to the directory above it can be. -/
theorem look_ne_tooLong (hsize : p.text.utf8ByteSize ≤ maxPathBytes) (hkeeps : Keeps t t')
    (hparent : t'.look here p.parent = .found place .directory)
    (hlast : p.names.getLast? = some last) (hlength : last.utf8ByteSize ≤ maxNameBytes) :
    t.look here p ≠ .tooLong := by
  rw [look_eq, if_neg (Nat.not_lt.mpr hsize), Path.route_of_getLast? hlast]
  intro hlong
  obtain hbefore | hname := follow_concat_eq_tooLong hlong
  · have hfound := (look_eq_found_iff.mp hparent).2
    rw [follow_eq_tooLong_of_keeps hkeeps hbefore] at hfound
    cases hfound
  · exact absurd hlength (Nat.not_le.mpr hname)

/-! ### Making directories and writing -/

/-- **Making a directory** only adds to the tree, and the directory is there afterwards. -/
theorem of_makeOne_eq_ok (h : t.makeOne here p = .ok t') :
    Extends t t' ∧ ∃ q, t'.look here p = .found q .directory := by
  rw [makeOne] at h
  split at h
  · cases h
  · cases h
  · cases h
  · next habsent =>
    split at h
    · next hparent hlast =>
      cases h
      obtain ⟨hnone, hfound⟩ := look_put_missing habsent hparent hlast
      exact ⟨extends_put hnone, _, hfound⟩
    · cases h

/-- So does making it unless it is there. -/
theorem of_makeOneUnlessThere_eq_ok (h : t.makeOneUnlessThere here p = .ok t') :
    Extends t t' ∧ ∃ q, t'.look here p = .found q .directory := by
  rw [makeOneUnlessThere] at h
  split at h
  · next hthere =>
    cases h
    refine ⟨.refl, ?_⟩
    rw [hasDirectory] at hthere
    split at hthere
    · exact ⟨_, by assumption⟩
    · cases hthere
  · exact of_makeOne_eq_ok h

/-- So does making it with the directories above it. -/
theorem of_makeFirst_eq_ok {count : Nat} (h : t.makeFirst here p count = .ok t') :
    Extends t t'
      ∧ ∃ q, t'.look here { p with names := p.names.take count } = .found q .directory := by
  induction count generalizing t' with
  | zero => exact of_makeOneUnlessThere_eq_ok h
  | succ count ih =>
    rw [makeFirst] at h
    split at h
    · obtain ⟨t₁, hfirst, hrest⟩ := bind_eq_ok_iff.mp h
      obtain ⟨hextends, -⟩ := ih hfirst
      obtain ⟨hextends', hfound⟩ := of_makeOneUnlessThere_eq_ok hrest
      exact ⟨hextends.trans hextends', hfound⟩
    · exact of_makeOneUnlessThere_eq_ok h

/-- **Making a directory with all directories above it** only adds to the tree, and the directory is there
afterwards. -/
theorem of_makeDirectory_eq_ok (h : t.makeDirectory here p = .ok t') :
    Extends t t' ∧ ∃ q, t'.look here p = .found q .directory := by
  have hmade := of_makeFirst_eq_ok h
  rw [List.take_length] at hmade
  exact hmade

/-- **Writing a text** keeps the directories, and the text is found by the same path. -/
theorem of_write_eq_ok {content : String} (h : t.write here p content = .ok t') :
    Keeps t t' ∧ ∃ q, t'.look here p = .found q (.text content) := by
  rw [write] at h
  split at h
  · cases h
  · next place e' hnot hfound =>
    cases h
    have hget := (of_follow_eq_found .root (look_eq_found_iff.mp hfound).2).2.1
    have hfile : t.get? place ≠ some .directory := by
      rw [hget]
      exact fun heq => hnot (Option.some.inj heq)
    have hkeeps : Keeps t (t.put place (.text content)) := keeps_put hfile
    exact ⟨hkeeps, place, look_of_keeps hkeeps hfound (get?_put_self hfile)⟩
  · cases h
  · cases h
  · next habsent =>
    split at h
    · next hparent hlast =>
      cases h
      obtain ⟨hnone, hfound⟩ := look_put_missing habsent hparent hlast
      exact ⟨(extends_put hnone).keeps, _, hfound⟩
    · cases h

end NoteSearch.Tree
