import NoteSearch.Proofs.Text.Split
import NoteSearch.Proofs.Toml.Scalar

/-!
# Documents that are written and read

A document is written table by table, and each table is its header and a line for each entry. It is read
again (`NoteSearch.Toml.read_writeScalars`) if no name of a table and no key in a table occurs twice, and if
all of them can stand without quotes.

A line is read whatever lines come after it, so the document is read line by line
(`NoteSearch.Toml.Reads`); what has to be known of the draft in between is that it holds the tables that
were read before, and that they are all that is declared (`NoteSearch.Toml.Draft.Holds`).
-/

namespace NoteSearch.Toml

open NoteSearch.Config (Value Table)

/-! ### Keys -/

/-- **A key that can stand without quotes.** -/
structure IsKey (k : String) : Prop where
  /-- It is not empty. -/
  ne_nil : k.toList ≠ []
  /-- Its characters can stand without quotes. -/
  bare : ∀ c ∈ k.toList, isBare c = true

theorem isKey_iff {k : String} : IsKey k ↔ k.toList ≠ [] ∧ k.toList.all isBare = true := by
  rw [List.all_eq_true]
  exact ⟨fun h => ⟨h.ne_nil, h.bare⟩, fun ⟨hne, hbare⟩ => ⟨hne, hbare⟩⟩

instance (k : String) : Decidable (IsKey k) :=
  decidable_of_iff _ isKey_iff.symm

variable {k : String} {cs rest : List Char} {c : Char}

/-- A character that can stand without quotes is no other one. -/
theorem ne_of_isBare {d : Char} (h : isBare c = true) (hd : isBare d = false) : c ≠ d := by
  rintro rfl
  rw [h] at hd
  cases hd

/-- A key starts with a character that can stand without quotes. -/
theorem IsKey.exists_cons (h : IsKey k) : ∃ c cs, k.toList = c :: cs ∧ isBare c = true := by
  obtain ⟨c, cs, hcons⟩ := List.exists_cons_of_ne_nil h.ne_nil
  exact ⟨c, cs, hcons, h.bare c (hcons ▸ List.mem_cons_self)⟩

/-- A run of characters that belong to a key ends where one does not. -/
theorem span_isBare (rest : List Char) (h : ∀ c ∈ cs, isBare c = true) (hc : isBare c = false) :
    (cs ++ c :: rest).takeWhile isBare = cs ∧ (cs ++ c :: rest).dropWhile isBare = c :: rest := by
  constructor
  · rw [List.takeWhile_append_of_pos h, List.takeWhile_cons_of_neg (by simp [hc]), List.append_nil]
  · rw [List.dropWhile_append_of_pos h, List.dropWhile_cons_of_neg (by simp [hc])]

/-- A key is read up to the first character that does not belong to it. -/
theorem keyPart_append (h : IsKey k) (hc : isBare c = false) :
    keyPart (k.toList ++ c :: rest) = .ok (k, c :: rest) := by
  obtain ⟨d, ds, hcons, hd⟩ := h.exists_cons
  obtain ⟨htake, hdrop⟩ := span_isBare rest h.bare hc
  rw [keyPart.eq_def]
  split
  · next heq =>
    rw [hcons] at heq
    exact absurd (List.cons.inj heq).1 (ne_of_isBare hd (by decide))
  · next heq =>
    rw [hcons] at heq
    exact absurd (List.cons.inj heq).1 (ne_of_isBare hd (by decide))
  · simp only [htake, hdrop]
    rw [if_neg (by simpa using h.ne_nil), String.ofList_toList]

/-- **A key is read**, with the spaces after it, where no dot follows. -/
theorem key_append (h : IsKey k) (hc : isBare c = false)
    (hdot : ∀ cs, skipSpaces (c :: rest) ≠ '.' :: cs) :
    key (k.toList ++ c :: rest) = .ok ([k], skipSpaces (c :: rest)) := by
  rw [key, keyParts, keyPart_append h hc]
  -- by `hdot` there is no further part
  simp only [bind, Except.bind]
  rfl

/-- There are no spaces before a character that is none. -/
theorem skipSpaces_cons (h : isSpace c = false) : skipSpaces (c :: cs) = c :: cs :=
  List.dropWhile_cons_of_neg (by simp [h])

/-- There are no spaces before a key. -/
theorem IsKey.skipSpaces (h : IsKey k) : skipSpaces (k.toList ++ cs) = k.toList ++ cs := by
  obtain ⟨c, ds, hcons, hc⟩ := h.exists_cons
  rw [hcons, List.cons_append, skipSpaces_cons]
  rw [isSpace, Bool.or_eq_false_iff, beq_eq_false_iff_ne, beq_eq_false_iff_ne]
  exact ⟨ne_of_isBare hc (by decide), ne_of_isBare hc (by decide)⟩

/-! ### Lines -/

/-- **The header of a table** is read. -/
theorem readLine_header (d : Draft) (h : IsKey k) :
    readLine d ('[' :: (k.toList ++ ']' :: '\n' :: rest))
      = (d.atHeader.openTable [k]).map fun d => (d, '\n' :: rest) := by
  have hkey : key (skipSpaces (k.toList ++ ']' :: '\n' :: rest)) = .ok ([k], ']' :: '\n' :: rest) := by
    rw [h.skipSpaces]
    exact key_append h (by decide) (by rintro _ ⟨⟩)
  obtain ⟨c, cs, hcons, hc⟩ := h.exists_cons
  rw [readLine.eq_def]
  split
  · next heq =>
    rw [hcons] at heq
    exact absurd (List.cons.inj (List.cons.inj heq).2).1 (ne_of_isBare hc (by decide))
  · next heq =>
    rw [← (List.cons.inj heq).2, hkey]
    show (d.atHeader.openTable [k] >>= _) = _
    cases d.atHeader.openTable [k] <;> rfl
  · next heq => exact absurd (List.cons.inj heq).1 (by decide)
  · next hbracket _ => exact absurd rfl (hbracket _)

/-- **The line of an entry** is read. -/
theorem readLine_entry (d : Draft) (h : IsKey k) {v : Scalar} (hv : v.isWritten = true) :
    readLine d (k.toList ++ ' ' :: '=' :: ' ' :: (v.write ++ '\n' :: rest))
      = (d.give [k] v.toValue).map fun d => (d, '\n' :: rest) := by
  have hkey : key (k.toList ++ ' ' :: '=' :: ' ' :: (v.write ++ '\n' :: rest))
      = .ok ([k], '=' :: ' ' :: (v.write ++ '\n' :: rest)) :=
    key_append h (by decide) (by rintro _ ⟨⟩)
  have hvalue : value (skipSpaces (' ' :: (v.write ++ '\n' :: rest))) = .ok (v.toValue, '\n' :: rest) := by
    obtain ⟨c, cs, hcons, -, -, hc⟩ := v.exists_write_eq_cons
    have hskip : skipSpaces (' ' :: (v.write ++ '\n' :: rest)) = v.write ++ '\n' :: rest := by
      rw [hcons]
      exact skipSpaces_cons hc
    rw [hskip, Scalar.value_write hv]
  obtain ⟨c, cs, hcons, hc⟩ := h.exists_cons
  rw [readLine.eq_def]
  split
  · next heq =>
    rw [hcons] at heq
    exact absurd (List.cons.inj heq).1 (ne_of_isBare hc (by decide))
  · next heq =>
    rw [hcons] at heq
    exact absurd (List.cons.inj heq).1 (ne_of_isBare hc (by decide))
  · next heq =>
    rw [hcons] at heq
    exact absurd (List.cons.inj heq).1 (ne_of_isBare hc (by decide))
  · rw [hkey]
    show Except.bind (value (skipSpaces (' ' :: (v.write ++ '\n' :: rest)))) _ = _
    rw [hvalue]
    show (d.give [k] v.toValue >>= _) = _
    cases d.give [k] v.toValue <;> rfl

/-! ### The draft -/

/-- **A draft holds tables** that were read before: they are all that it knows of. -/
structure Draft.Holds (d : Draft) (t : Table) : Prop where
  /-- They are what has been read. -/
  table : d.table = t
  /-- Nothing will be declared at the next header. -/
  pending : d.pending = []
  /-- Nothing is closed. -/
  closed : d.closed = []
  /-- What is declared is one of them. -/
  declared : ∀ key ∈ d.declared, ∃ e ∈ t, key = [e.1]

variable {d : Draft} {t u : Table} {name : String} {v : Value}

/-- A key that is not in a table has no value in it. -/
theorem get?_eq_none (h : k ∉ t.map (·.1)) : Table.get? t k = none := by
  rw [Table.get?, List.lookup_eq_none_iff]
  intro e he
  rw [bne_iff_ne]
  rintro rfl
  exact h (List.mem_map_of_mem he)

/-- The value of the last key of a table. -/
theorem get?_concat (h : k ∉ t.map (·.1)) : Table.get? (t ++ [(k, v)]) k = some v := by
  have hnone : List.lookup k t = none := get?_eq_none h
  rw [Table.get?, List.lookup_append, hnone]
  simp

/-- A key that is not in a table is added at its end. -/
theorem set_of_not_mem (h : k ∉ t.map (·.1)) : Table.set t k v = t ++ [(k, v)] := by
  rw [Table.set, if_neg]
  rw [List.any_eq_true]
  rintro ⟨e, he, heq⟩
  exact h (eq_of_beq heq ▸ List.mem_map_of_mem he)

/-- The value of the last key of a table is replaced. -/
theorem set_concat {w : Value} (h : k ∉ t.map (·.1)) :
    Table.set (t ++ [(k, v)]) k w = t ++ [(k, w)] := by
  rw [Table.set, if_pos (by simp)]
  rw [List.map_append]
  have hkeep : (t.map fun e => if e.1 == k then (k, w) else e) = t := by
    refine (List.map_congr_left fun e he => ?_).trans (List.map_id t)
    refine if_neg fun heq => h ?_
    exact eq_of_beq heq ▸ List.mem_map_of_mem he
  rw [hkeep]
  simp

/-- **The header of a new table** opens it. -/
theorem Draft.Holds.openTable (h : d.Holds t) (hname : name ∉ t.map (·.1)) :
    ∃ d', d.atHeader.openTable [name] = .ok d' ∧ d'.Holds (t ++ [(name, .table [])])
      ∧ d'.header = [name] := by
  have hdeclared : d.atHeader.declared.contains [name] = false := by
    rw [Draft.atHeader, h.pending, List.nil_append]
    rw [← Bool.not_eq_true, List.contains_iff_mem]
    intro hmem
    obtain ⟨e, he, heq⟩ := h.declared _ hmem
    cases heq
    exact hname (List.mem_map_of_mem he)
  have hclosed : d.atHeader.isClosed [name] = false := by
    show d.closed.any _ = false
    rw [h.closed, List.any_nil]
  have hchange : changeWithin? true some [name] d.atHeader.table = some (t ++ [(name, .table [])]) := by
    show changeWithin? true some [name] d.table = _
    rw [h.table, changeWithin?, get?_eq_none hname]
    exact congrArg some (set_of_not_mem hname)
  have hopen : d.atHeader.openTable [name] = .ok { d.atHeader with
      table := t ++ [(name, .table [])]
      header := [name]
      declared := [name] :: d.atHeader.declared } := by
    rw [Draft.openTable, hdeclared, hclosed, hchange]
    rfl
  refine ⟨_, hopen, ⟨rfl, rfl, h.closed, ?_⟩, rfl⟩
  rintro key hkey
  obtain rfl | hmem := List.mem_cons.mp hkey
  · exact ⟨(name, .table []), by simp, rfl⟩
  · rw [Draft.atHeader, h.pending] at hmem
    obtain ⟨e, he, heq⟩ := h.declared key hmem
    exact ⟨e, List.mem_append_left _ he, heq⟩

/-- **The line of a new entry** adds it to the table of the latest header. -/
theorem Draft.Holds.give (h : d.Holds (t ++ [(name, .table u)])) (hheader : d.header = [name])
    (hname : name ∉ t.map (·.1)) (hk : k ∉ u.map (·.1)) (hv : Toml.isClosed v = false) :
    ∃ d', d.give [k] v = .ok d' ∧ d'.Holds (t ++ [(name, .table (u ++ [(k, v)]))])
      ∧ d'.header = [name] := by
  have hclosed : d.isClosed [name] = false := by
    rw [Draft.isClosed, h.closed, List.any_nil]
  have hadd : addWithin? true [name, k] v d.table = some (t ++ [(name, .table (u ++ [(k, v)]))]) := by
    show changeWithin? true (addKey? k v) [name] d.table = _
    rw [h.table, changeWithin?, get?_concat hname]
    show (addKey? k v u >>= _) = _
    rw [addKey?, get?_eq_none hk, set_of_not_mem hk]
    exact congrArg some (set_concat hname)
  have hgive : d.give [k] v = .ok { d with table := t ++ [(name, .table (u ++ [(k, v)]))] } := by
    rw [Draft.give, hheader]
    show (if d.isClosed [name] = true then _ else _) = _
    rw [hclosed, if_neg Bool.false_ne_true, hv]
    show Draft.withTable _ (addWithin? true [name, k] v d.table) = _
    rw [hadd]
    rfl
  refine ⟨_, hgive, ⟨rfl, h.pending, h.closed, ?_⟩, hheader⟩
  intro key hkey
  obtain ⟨e, he, rfl⟩ := h.declared key hkey
  obtain he | he := List.mem_append.mp he
  · exact ⟨e, List.mem_append_left _ he, rfl⟩
  · rw [List.mem_singleton.mp he]
    exact ⟨_, List.mem_append_right _ (List.mem_singleton.mpr rfl), rfl⟩

/-! ### All lines -/

/-- **A table is read from the lines that are left**, whatever number of lines is allowed for, as long as
there are not fewer than there can be. -/
def Reads (d : Draft) (cs : List Char) (t : Table) : Prop :=
  ∀ fuel, cs.length < fuel → ∃ d', readLines fuel d cs = .ok d' ∧ d'.table = t

variable {d' : Draft}

/-- Nothing more is read where no line is left. -/
theorem reads_nil (d : Draft) : Reads d [] d.table := by
  intro fuel hfuel
  cases fuel with
  | zero => exact absurd hfuel (Nat.not_lt_zero _)
  | succ fuel => exact ⟨d, rfl, rfl⟩

/-- An empty line is passed over. -/
theorem Reads.blank (h : Reads d cs t) : Reads d ('\n' :: cs) t := by
  intro fuel hfuel
  cases fuel with
  | zero => exact absurd hfuel (Nat.not_lt_zero _)
  | succ fuel => exact h fuel (Nat.lt_of_succ_lt_succ hfuel)

/-- **A line is read, and then the others.** -/
theorem Reads.line {line : List Char} (h : Reads d' cs t) (hne : line = c :: rest)
    (hspace : isSpace c = false) (hend : c ≠ '\n')
    (hline : readLine d (line ++ '\n' :: cs) = .ok (d', '\n' :: cs)) :
    Reads d (line ++ '\n' :: cs) t := by
  intro fuel hfuel
  cases fuel with
  | zero => exact absurd hfuel (Nat.not_lt_zero _)
  | succ fuel =>
    have hless : cs.length < fuel := by
      rw [List.length_append, List.length_cons] at hfuel
      omega
    obtain ⟨d'', hread, htable⟩ := h fuel hless
    refine ⟨d'', ?_, htable⟩
    have hskip : skipSpaces (line ++ '\n' :: cs) = line ++ '\n' :: cs := by
      rw [hne]
      exact skipSpaces_cons hspace
    rw [readLines, hskip]
    split
    · next heq =>
      rw [hne] at heq
      cases heq
    · next heq =>
      rw [hne] at heq
      exact absurd (List.cons.inj heq).1 hend
    · rw [hline]
      exact hread

/-- A key starts its line: what stands there is no space and no end of a line. -/
theorem IsKey.exists_start (h : IsKey k) :
    ∃ c cs, k.toList = c :: cs ∧ isSpace c = false ∧ c ≠ '\n' := by
  obtain ⟨c, cs, hcons, hc⟩ := h.exists_cons
  refine ⟨c, cs, hcons, ?_, ne_of_isBare hc (by decide)⟩
  rw [isSpace, Bool.or_eq_false_iff, beq_eq_false_iff_ne, beq_eq_false_iff_ne]
  exact ⟨ne_of_isBare hc (by decide), ne_of_isBare hc (by decide)⟩

/-! ### Tables of scalars -/

/-- The table that scalars with keys make up. -/
def tableOf (es : List (String × Scalar)) : Table :=
  es.map fun e => (e.1, e.2.toValue)

/-- How they are written. -/
def writtenOf (es : List (String × Scalar)) : List (String × List Char) :=
  es.map fun e => (e.1, e.2.write)

/-- A key, its value and the end of the line, as they are written. -/
theorem writeEntry_append (k : String) (v cs : List Char) :
    writeEntry k v ++ cs = (k.toList ++ ' ' :: '=' :: ' ' :: v) ++ '\n' :: cs := by
  simp [writeEntry]

/-- **The lines of entries** are read into the table of the latest header. -/
theorem reads_entries {es : List (String × Scalar)} {r : Table}
    (h : d.Holds (t ++ [(name, .table u)])) (hheader : d.header = [name]) (hname : name ∉ t.map (·.1))
    (heach : ∀ e ∈ es, IsKey e.1 ∧ e.2.isWritten = true)
    (hkeys : (u.map (·.1) ++ es.map (·.1)).Nodup)
    (hrest : ∀ d : Draft, d.Holds (t ++ [(name, .table (u ++ tableOf es))]) → Reads d rest r) :
    Reads d ((writtenOf es).flatMap (fun e => writeEntry e.1 e.2) ++ rest) r := by
  induction es generalizing d u with
  | nil =>
    refine hrest d ?_
    rw [tableOf, List.map_nil, List.append_nil]
    exact h
  | cons e es ih =>
    obtain ⟨k, v⟩ := e
    rw [List.forall_mem_cons] at heach
    obtain ⟨⟨hk, hv⟩, hmore⟩ := heach
    have hnew : k ∉ u.map (·.1) := fun hmem =>
      (List.nodup_append.mp hkeys).2.2 k hmem k (by simp) rfl
    obtain ⟨d', hgive, hholds, hheader'⟩ := h.give hheader hname hnew v.isClosed_toValue
    have hnext := ih hholds hheader' hmore (by simpa using hkeys)
      fun d hd => hrest d (by simpa [tableOf] using hd)
    -- the line of the entry, and the lines after it
    obtain ⟨c, cs, hcons, hspace, hend⟩ := hk.exists_start
    rw [writtenOf, List.map_cons, List.flatMap_cons, List.append_assoc, writeEntry_append]
    refine hnext.line (by rw [hcons]; rfl) hspace hend ?_
    rw [List.append_assoc]
    show readLine d (k.toList ++ ' ' :: '=' :: ' ' :: (v.write ++ '\n' :: _)) = _
    rw [readLine_entry d hk hv, hgive]
    rfl

/-- A header, and the lines of the table, as they are written. -/
theorem writeTable_append (name : String) (entries : List (String × List Char)) (cs : List Char) :
    writeTable name entries ++ cs
      = ('[' :: (name.toList ++ [']'])) ++ '\n' :: (entries.flatMap (fun e => writeEntry e.1 e.2) ++ cs) := by
  simp [writeTable]

/-- **A table that is written** is read again, header and entries. -/
theorem reads_table (rest : List Char) {es : List (String × Scalar)} {r : Table} (h : d.Holds t)
    (hname : name ∉ t.map (·.1)) (hkey : IsKey name)
    (heach : ∀ e ∈ es, IsKey e.1 ∧ e.2.isWritten = true) (hkeys : (es.map (·.1)).Nodup)
    (hrest : ∀ d : Draft, d.Holds (t ++ [(name, .table (tableOf es))]) → Reads d rest r) :
    Reads d (writeTable name (writtenOf es) ++ rest) r := by
  obtain ⟨d', hopen, hholds, hheader⟩ := h.openTable hname
  have hentries := reads_entries (u := []) hholds hheader hname heach (by simpa using hkeys)
    (by simpa using hrest)
  rw [writeTable_append]
  refine hentries.line rfl (by decide) (by decide) ?_
  rw [List.cons_append, List.append_assoc]
  show readLine d ('[' :: (name.toList ++ ']' :: '\n' :: _)) = _
  rw [readLine_header d hkey, hopen]
  rfl

/-! ### Documents -/

/-- **Tables that can be written**: their names and their keys can stand without quotes, and no name and no
key in a table occurs twice. -/
structure AreWritable (ts : List (String × List (String × Scalar))) : Prop where
  /-- Every name can stand without quotes. -/
  name : ∀ x ∈ ts, IsKey x.1
  /-- So can every key, and every number has few enough digits. -/
  entry : ∀ x ∈ ts, ∀ e ∈ x.2, IsKey e.1 ∧ e.2.isWritten = true
  /-- No key occurs twice in a table. -/
  keys : ∀ x ∈ ts, (x.2.map (·.1)).Nodup
  /-- No name occurs twice. -/
  names : (ts.map (·.1)).Nodup

/-- The document that tables make up. -/
def documentOf (ts : List (String × List (String × Scalar))) : Table :=
  ts.map fun x => (x.1, .table (tableOf x.2))

/-- **Tables that are written** are read again. -/
theorem reads_tables {ts : List (String × List (String × Scalar))} (h : d.Holds t)
    (hts : AreWritable ts) (hnew : ∀ x ∈ ts, x.1 ∉ t.map (·.1)) :
    Reads d (['\n'].intercalate (ts.map fun x => writeTable x.1 (writtenOf x.2))) (t ++ documentOf ts) := by
  induction ts generalizing d t with
  | nil =>
    have hnil := reads_nil d
    rw [h.table] at hnil
    simpa [documentOf] using hnil
  | cons x ts ih =>
    obtain ⟨hfresh, hnames⟩ := List.nodup_cons.mp hts.names
    have hrest : AreWritable ts := {
      name := fun y hy => hts.name y (List.mem_cons_of_mem x hy)
      entry := fun y hy => hts.entry y (List.mem_cons_of_mem x hy)
      keys := fun y hy => hts.keys y (List.mem_cons_of_mem x hy)
      names := hnames }
    have hstillNew : ∀ y ∈ ts, y.1 ∉ (t ++ [(x.1, Value.table (tableOf x.2))]).map (·.1) := by
      intro y hy hmem
      rw [List.map_append, List.mem_append] at hmem
      obtain hold | hlast := hmem
      · exact hnew y (List.mem_cons_of_mem x hy) hold
      · rw [List.map_singleton, List.mem_singleton] at hlast
        exact hfresh (List.mem_map.mpr ⟨y, hy, hlast⟩)
    have hmore := fun d (hd : Draft.Holds d (t ++ [(x.1, .table (tableOf x.2))])) => ih hd hrest hstillNew
    have hdocument : t ++ documentOf (x :: ts) = t ++ [(x.1, .table (tableOf x.2))] ++ documentOf ts := by
      simp [documentOf]
    have htable := fun rest => reads_table rest (r := t ++ documentOf (x :: ts)) h
      (hnew x List.mem_cons_self) (hts.name x List.mem_cons_self) (hts.entry x List.mem_cons_self)
      (hts.keys x List.mem_cons_self)
    rw [hdocument] at htable ⊢
    cases ts with
    | nil =>
      rw [List.map_singleton, List.intercalate_singleton, ← List.append_nil (writeTable _ _)]
      exact htable [] hmore
    | cons y ts =>
      rw [List.map_cons, List.map_cons, List.intercalate_cons_cons, List.append_assoc, List.singleton_append]
      exact htable _ fun d hd => (hmore d hd).blank

/-- A text without carriage returns is left as it is. -/
theorem unifyLineEnds_of_not_mem (h : '\r' ∉ cs) : unifyLineEnds cs = cs := by
  induction cs with
  | nil => rfl
  | cons c cs ih =>
    rw [List.mem_cons, not_or] at h
    rw [unifyLineEnds, ih h.2]
    rintro _ rfl
    exact absurd rfl h.1

/-- A key has no carriage return in it. -/
theorem IsKey.not_mem (h : IsKey k) : '\r' ∉ k.toList :=
  fun hmem => nomatch h.bare _ hmem

/-- Tables that are written have no carriage return in them. -/
theorem not_mem_writeTables {ts : List (String × List (String × Scalar))} (hts : AreWritable ts) :
    '\r' ∉ ['\n'].intercalate (ts.map fun x => writeTable x.1 (writtenOf x.2)) := by
  refine Text.not_mem_intercalate (by decide) fun piece hpiece => ?_
  obtain ⟨x, hx, rfl⟩ := List.mem_map.mp hpiece
  have hname := (hts.name x hx).not_mem
  have hentries : ∀ e ∈ x.2, '\r' ∉ writeEntry e.1 e.2.write := by
    intro e he
    have hkey := (hts.entry x hx e he).1.not_mem
    simp [writeEntry, hkey, e.2.not_mem_write]
  simp only [writeTable, writtenOf, List.cons_append, List.mem_cons, List.mem_append, List.flatMap_map,
    List.mem_flatMap]
  rintro (h | h | h | h | ⟨e, he, h⟩)
  · cases h
  · exact hname h
  · cases h
  · cases h
  · exact hentries e he h

/-- **A document that is written is read again.** -/
theorem read_writeTables {ts : List (String × List (String × Scalar))} (hts : AreWritable ts) :
    read (writeTables (ts.map fun x => (x.1, writtenOf x.2))) = .ok (documentOf ts) := by
  have hchars : (writeTables (ts.map fun x => (x.1, writtenOf x.2))).toList
      = ['\n'].intercalate (ts.map fun x => writeTable x.1 (writtenOf x.2)) := by
    rw [writeTables, String.toList_ofList, List.map_map]
    rfl
  have hreads := reads_tables (d := {}) (t := []) ⟨rfl, rfl, rfl, by simp⟩ hts (by simp)
  obtain ⟨d, hread, htable⟩ := hreads _ (Nat.lt_succ_self _)
  rw [read, hchars, unifyLineEnds_of_not_mem (not_mem_writeTables hts), hread]
  exact congrArg Except.ok htable

end NoteSearch.Toml
