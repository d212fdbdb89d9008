import NoteSearch.File.Path
import NoteSearch.Proofs.Computation
import NoteSearch.Proofs.Text.Split

/-!
# Texts and names of paths

A path that is read from a text leads through names that are worth their name (`NoteSearch.IsName`): what
would lead nowhere has been dropped. Such a path is written and read without loss
(`NoteSearch.Path.ofText_text`). Followed with every `..` taken back (`NoteSearch.Path.normal`), it leads
through some of the same names, and `..` is not among them. So a path becomes absolute when it is resolved
(`NoteSearch.Path.isAbsolute_of_resolve`), and stays what it is from then on
(`NoteSearch.Path.IsAbsolute.resolve`).
-/

namespace NoteSearch

/-- **A name that a path leads through**: it is not empty and not `.`, and has no slash in it. -/
structure IsName (n : String) : Prop where
  /-- It is not empty. -/
  ne_empty : n ≠ ""
  /-- It is not a dot. -/
  ne_dot : n ≠ "."
  /-- There is no slash in it. -/
  no_slash : ∀ c ∈ n.toList, (c == '/') = false

theorem isName_iff {n : String} :
    IsName n ↔ n ≠ "" ∧ n ≠ "." ∧ n.toList.all (fun c => !(c == '/')) = true := by
  rw [List.all_eq_true]
  simp only [Bool.not_eq_true']
  exact ⟨fun h => ⟨h.ne_empty, h.ne_dot, h.no_slash⟩, fun ⟨hempty, hdot, hslash⟩ => ⟨hempty, hdot, hslash⟩⟩

instance (n : String) : Decidable (IsName n) :=
  decidable_of_iff _ isName_iff.symm

namespace Path

/-! ### Written and read -/

/-- A path that is read leads through names. -/
theorem isName_of_mem_ofText {s n : String} (h : n ∈ (ofText s).names) : IsName n := by
  obtain ⟨piece, hpiece, rfl⟩ := List.mem_map.mp h
  obtain ⟨hmem, hkept⟩ := List.mem_filter.mp hpiece
  rw [Bool.and_eq_true, bne_iff_ne, bne_iff_ne] at hkept
  refine ⟨fun heq => hkept.1 ?_, fun heq => hkept.2 ?_, ?_⟩
  · simpa using congrArg String.toList heq
  · simpa using congrArg String.toList heq
  · rw [String.toList_ofList]
    exact Text.separates_of_mem_splitAt hmem

variable {names : List String}

/-- The characters of a name do not start with a slash. -/
theorem IsName.exists_cons {n : String} (h : IsName n) : ∃ c cs, n.toList = c :: cs ∧ c ≠ '/' := by
  cases hcs : n.toList with
  | nil => exact absurd (String.toList_eq_nil_iff.mp hcs) h.ne_empty
  | cons c cs => exact ⟨c, cs, rfl, by simpa using h.no_slash c (hcs ▸ List.mem_cons_self)⟩

/-- Names that are joined by slashes are taken apart again. -/
theorem splitAt_names (hne : names ≠ []) (h : ∀ n ∈ names, IsName n) :
    ((Text.splitAt (· == '/') (String.intercalate "/" names).toList).filter
      fun n => n != [] && n != ['.']).map String.ofList = names := by
  have hpieces : Text.splitAt (· == '/') (['/'].intercalate (names.map String.toList))
      = names.map String.toList := by
    refine Text.splitAt_intercalate rfl (by simpa using hne) fun piece hpiece => ?_
    obtain ⟨n, hn, rfl⟩ := List.mem_map.mp hpiece
    exact (h n hn).no_slash
  have hkept : ∀ piece ∈ names.map String.toList, (piece != [] && piece != ['.']) = true := by
    intro piece hpiece
    obtain ⟨n, hn, rfl⟩ := List.mem_map.mp hpiece
    rw [Bool.and_eq_true, bne_iff_ne, bne_iff_ne]
    refine ⟨fun hnil => (h n hn).ne_empty (String.toList_eq_nil_iff.mp hnil), fun hdot => ?_⟩
    exact (h n hn).ne_dot (String.toList_inj.mp hdot)
  rw [String.toList_intercalate, show "/".toList = ['/'] from rfl, hpieces,
    List.filter_eq_self.mpr hkept, List.map_map]
  simp [Function.comp_def]

/-- A slash in front does not add to the names. -/
theorem filter_splitAt_slash (cs : List Char) :
    ((Text.splitAt (· == '/') ('/' :: cs)).filter fun n => n != [] && n != ['.'])
      = (Text.splitAt (· == '/') cs).filter fun n => n != [] && n != ['.'] := by
  rfl

/-- Nor does what a path starts with. -/
theorem filter_splitAt_startText (start : Start) (cs : List Char) :
    ((Text.splitAt (· == '/') ((startText start).toList ++ cs)).filter fun n => n != [] && n != ['.'])
      = (Text.splitAt (· == '/') cs).filter fun n => n != [] && n != ['.'] := by
  cases start with
  | here => rfl
  | root => exact filter_splitAt_slash cs
  | doubleRoot => exact (filter_splitAt_slash ('/' :: cs)).trans (filter_splitAt_slash cs)

/-- The number of slashes in front says where a path starts. -/
theorem startOf_append {start : Start} {c : Char} {cs : List Char} (hc : c ≠ '/') :
    startOf ((startText start).toList ++ c :: cs) = start := by
  cases start <;> simp [startText, startOf, hc]

/-- **A path that is written is read again.** -/
theorem ofText_text {p : Path} (h : ∀ n ∈ p.names, IsName n) : ofText p.text = p := by
  obtain ⟨start, names⟩ := p
  cases names with
  | nil => cases start <;> rfl
  | cons n ns =>
    obtain ⟨c, cs, hn, hc⟩ := IsName.exists_cons (h n List.mem_cons_self)
    have hsplit := splitAt_names (List.cons_ne_nil n ns) h
    -- the first character of the names is no slash, so it is clear where the path starts
    obtain ⟨rest, hjoined⟩ : ∃ rest, (String.intercalate "/" (n :: ns)).toList = c :: rest := by
      rw [String.toList_intercalate, List.map_cons, hn]
      cases ns with
      | nil => exact ⟨cs, by simp⟩
      | cons m ms => exact ⟨_, by rw [List.map_cons, List.intercalate_cons_cons]; rfl⟩
    have htext : (⟨start, n :: ns⟩ : Path).text.toList
        = (startText start).toList ++ (String.intercalate "/" (n :: ns)).toList := by
      simp [text]
    rw [ofText, htext, hjoined, startOf_append hc, ← hjoined]
    exact congrArg (Path.mk start)
      ((congrArg _ (filter_splitAt_startText start _)).trans hsplit)

/-! ### Followed with every step back taken -/

variable {back ns ms here : List String} {n : String} {p : Path}

/-- Names that follow others are followed from where those lead. -/
theorem normalNames_append :
    normalNames back (ns ++ ms) = normalNames (normalNames back ns).reverse ms := by
  induction ns generalizing back with
  | nil => rw [List.nil_append, normalNames, List.reverse_reverse]
  | cons n ns ih =>
    rw [List.cons_append, normalNames, normalNames]
    split
    · exact ih
    · exact ih

/-- Without a step back, names are followed as they are. -/
theorem normalNames_of_not_mem (h : ".." ∉ ns) : normalNames back ns = back.reverse ++ ns := by
  induction ns generalizing back with
  | nil => rw [normalNames, List.append_nil]
  | cons n ns ih =>
    rw [List.mem_cons, not_or] at h
    rw [normalNames, if_neg (by simpa using Ne.symm h.1), ih h.2, List.reverse_cons, List.append_assoc,
      List.singleton_append]

/-- **What a path leads along** are names that it starts from, and names of its own that are no step
back. -/
theorem mem_of_mem_normalNames (h : n ∈ normalNames back ns) : n ∈ back ∨ n ∈ ns ∧ n ≠ ".." := by
  induction ns generalizing back with
  | nil =>
    rw [normalNames, List.mem_reverse] at h
    exact .inl h
  | cons m ns ih =>
    rw [normalNames] at h
    split at h
    · obtain hback | ⟨hmem, hne⟩ := ih h
      · exact .inl (List.mem_of_mem_drop hback)
      · exact .inr ⟨List.mem_cons_of_mem m hmem, hne⟩
    · next hstep =>
      obtain hback | ⟨hmem, hne⟩ := ih h
      · obtain rfl | hback := List.mem_cons.mp hback
        · exact .inr ⟨List.mem_cons_self, by simpa using hstep⟩
        · exact .inl hback
      · exact .inr ⟨List.mem_cons_of_mem m hmem, hne⟩

/-- The names that lead along a path from the root. -/
def route (here : List String) (p : Path) : List String :=
  match p.start with
  | .here => here ++ p.names
  | _ => p.names

/-- **Where a path leads along** is what its route comes to, from a directory without steps back. -/
theorem normal_eq (hhere : ".." ∉ here) : p.normal here = normalNames [] (p.route here) := by
  obtain ⟨start, names⟩ := p
  cases start with
  | here =>
    show normalNames here.reverse names = normalNames [] (here ++ names)
    rw [normalNames_append, normalNames_of_not_mem hhere, List.reverse_nil, List.nil_append]
  | root => rfl
  | doubleRoot => rfl

/-- The last name of a path is the last name of its route. -/
theorem route_of_getLast? {last : String} (hlast : p.names.getLast? = some last) :
    p.route here = p.parent.route here ++ [last] := by
  obtain ⟨start, names⟩ := p
  obtain ⟨init, rfl⟩ := List.getLast?_eq_some_iff.mp hlast
  rw [parent, List.dropLast_concat]
  cases start with
  | here => exact (List.append_assoc here init [last]).symm
  | root => rfl
  | doubleRoot => rfl

/-- The directory above a name is what the path without the name leads to. -/
theorem normal_of_getLast? {last : String} (hhere : ".." ∉ here)
    (hlast : p.names.getLast? = some last) (hne : last ≠ "..") :
    p.normal here = p.parent.normal here ++ [last] := by
  rw [normal_eq hhere, normal_eq hhere, route_of_getLast? hlast, normalNames_append,
    normalNames_of_not_mem (by simpa using Ne.symm hne), List.reverse_reverse]

/-! ### Absolute paths -/

/-- **A name that an absolute path leads through**: it is no step back, and has no NUL character in it. -/
structure IsPlain (n : String) : Prop extends IsName n where
  /-- It is no step back. -/
  ne_up : n ≠ ".."
  /-- There is no NUL character in it. -/
  no_nul : '\x00' ∉ n.toList

instance (n : String) : Decidable (IsPlain n) :=
  decidable_of_iff (IsName n ∧ n ≠ ".." ∧ '\x00' ∉ n.toList)
    ⟨fun ⟨hname, hup, hnul⟩ => ⟨hname, hup, hnul⟩, fun ⟨hname, hup, hnul⟩ => ⟨hname, hup, hnul⟩⟩

/-- **A path that is absolute**: it starts at the root, and no name in it is a step back. -/
structure IsAbsolute (p : Path) : Prop where
  /-- It starts at the root. -/
  start : p.start = .root
  /-- Its names are plain. -/
  plain : ∀ n ∈ p.names, IsPlain n

instance (p : Path) : Decidable (IsAbsolute p) :=
  decidable_of_iff (p.start = .root ∧ ∀ n ∈ p.names, IsPlain n)
    ⟨fun ⟨hstart, hplain⟩ => ⟨hstart, hplain⟩, fun ⟨hstart, hplain⟩ => ⟨hstart, hplain⟩⟩

/-- An absolute path is not changed when it is made absolute. -/
theorem IsAbsolute.resolve {env : Surroundings} (h : IsAbsolute p) : p.resolve env = .ok p := by
  obtain ⟨start, names⟩ := p
  obtain rfl : start = .root := h.start
  have hnul : hasNul ⟨.root, names⟩ = false := by
    rw [hasNul, List.any_eq_false]
    intro n hn
    rw [List.contains_iff_mem]
    exact (h.plain n hn).no_nul
  have hback : ".." ∉ names := fun hmem => (h.plain _ hmem).ne_up rfl
  have hnormal : normal env.here ⟨.root, names⟩ = names := normalNames_of_not_mem hback
  show (if hasNul ⟨.root, names⟩ = true then Except.error _ else .ok (absolute (normal env.here _))) = _
  rw [hnul, if_neg Bool.false_ne_true, hnormal]
  rfl

/-- A home directory in front of a path does not take away from its names being names. -/
theorem isName_of_mem_expandHome {env : Surroundings} {p' : Path} (hp : ∀ n ∈ p.names, IsName n)
    (h : p.expandHome env = .ok p') : ∀ n ∈ p'.names, IsName n := by
  rw [expandHome] at h
  split at h
  · next n ns _ hnames =>
    split at h
    · split at h
      · next home _ =>
        cases h
        rintro m hm
        obtain hhome | hrest := List.mem_append.mp hm
        · exact isName_of_mem_ofText hhome
        · exact hp m (hnames ▸ List.mem_cons_of_mem n hrest)
      · cases h
    · cases h
      exact hp
  · cases h
    exact hp

/-- **A path of names becomes absolute**, where the program runs in a directory of plain names. -/
theorem isAbsolute_of_resolve {env : Surroundings} {q : Path} (hhere : ∀ n ∈ env.here, IsPlain n)
    (hp : ∀ n ∈ p.names, IsName n) (h : p.resolve env = .ok q) : IsAbsolute q := by
  obtain ⟨p', hexpand, h⟩ := bind_eq_ok_iff.mp h
  split at h
  · cases h
  next hnul =>
  cases h
  refine ⟨rfl, fun n hn => ?_⟩
  have hup : ".." ∉ env.here := fun hmem => (hhere _ hmem).ne_up rfl
  have hroute : n ∈ normalNames [] (p'.route env.here) := normal_eq hup ▸ hn
  obtain hnone | ⟨hmem, hne⟩ := mem_of_mem_normalNames hroute
  · cases hnone
  -- the name is one of the directory or one of the path
  obtain hdir | hname : n ∈ env.here ∨ n ∈ p'.names := by
    rw [route] at hmem
    split at hmem
    · exact List.mem_append.mp hmem
    · exact .inr hmem
  · exact hhere n hdir
  · refine ⟨isName_of_mem_expandHome hp hexpand n hname, hne, fun hzero => hnul ?_⟩
    rw [hasNul, List.any_eq_true]
    exact ⟨n, hname, List.contains_iff_mem.mpr hzero⟩

end Path

end NoteSearch
