import NoteSearch.Command.Filters
import NoteSearch.Proofs.Command.Exit
import NoteSearch.Proofs.Console.Echo
import NoteSearch.Proofs.Query.RoundTrip
import NoteSearch.Proofs.Query.Spans
import NoteSearch.Proofs.Search.Algebra
import NoteSearch.Proofs.Text.Split

/-!
# Pasting a filter into a query

The plain list of filters is made of queries, one for each tag and each folder, so that any line of it can be
taken as it is and searched for. This works for a name that a query can spell and that is echoed unchanged on
one line (`NoteSearch.Command.Filter.IsPasteable`), and there every line finds the notes that carry the tag, or
are filed in the folder. It does not work for the others: the query language has no escapes, so a name with a
quote in it, or an empty one, is written in a way that reads as something else; a name with a line break takes
more than one line; and of a name with a terminal code the echo leaves the code out. The list can be pasted line
by line exactly when no such name is in it (`NoteSearch.Command.filtersCommand_plain_iff`).
-/

namespace NoteSearch.Command

open Text Console
open Console.Style (escape)

/-! ### The lines of an output -/

/-- The lines of a text that need not end in a line break. -/
def linesOf (x : String) : List String :=
  (splitAt (· == '\n') x.toList).map String.ofList

/-- **The lines that are printed**, each of them ended by a line break. -/
def printedLines (x : String) : List String :=
  (linesOf x).dropLast

theorem linesOf_ne_nil (x : String) : linesOf x ≠ [] := by
  obtain ⟨piece, pieces, h⟩ := exists_splitAt_eq_cons (· == '\n') x.toList
  simp [linesOf, h]

/-- A text without a line break is one line. -/
theorem linesOf_of_not_mem {x : String} (h : '\n' ∉ x.toList) : linesOf x = [x] := by
  have hno : ∀ c ∈ x.toList, (c == '\n') = false := by
    rintro c hc
    exact beq_eq_false_iff_ne.mpr fun heq => h (heq ▸ hc)
  rw [linesOf, splitAt_of_no_separator hno, List.map_singleton, String.ofList_toList]

/-- **One line has no line break in it.** -/
theorem length_linesOf_eq_one_iff {x : String} : (linesOf x).length = 1 ↔ '\n' ∉ x.toList := by
  constructor
  · intro h hmem
    rw [linesOf, List.length_map] at h
    exact absurd (separates_of_length_splitAt h _ hmem) (by decide)
  · intro h
    rw [linesOf_of_not_mem h]
    rfl

/-- **What is printed line by line** has the lines of each text, one text after the other. -/
theorem printedLines_join (texts : List String) :
    printedLines (String.join (texts.map (· ++ "\n"))) = texts.flatMap linesOf := by
  induction texts with
  | nil => rfl
  | cons x texts ih =>
    rw [List.map_cons, String.join_cons, List.flatMap_cons, ← ih, printedLines, printedLines]
    have hbreak : linesOf (x ++ "\n" ++ String.join (texts.map (· ++ "\n")))
        = linesOf x ++ linesOf (String.join (texts.map (· ++ "\n"))) := by
      rw [linesOf, linesOf, linesOf, ← List.map_append, String.append_assoc, String.toList_append,
        String.toList_append]
      exact congrArg _ (splitAt_append_separator rfl _ _)
    rw [hbreak, List.dropLast_append_of_ne_nil (linesOf_ne_nil _)]

section Pieces

variable {α β : Type} {pieces : α → List β} {xs : List α}

/-- Each member adds at least one piece. -/
theorem length_le_length_flatMap (h : ∀ x, pieces x ≠ []) : xs.length ≤ (xs.flatMap pieces).length := by
  induction xs with
  | nil => exact Nat.le_refl 0
  | cons x xs ih =>
    have hx : 0 < (pieces x).length := List.length_pos_iff.mpr (h x)
    rw [List.flatMap_cons, List.length_append, List.length_cons]
    omega

/-- **There are as many pieces as members** exactly when each member is one piece. -/
theorem length_flatMap_eq_length_iff (h : ∀ x, pieces x ≠ []) :
    (xs.flatMap pieces).length = xs.length ↔ ∀ x ∈ xs, (pieces x).length = 1 := by
  induction xs with
  | nil => simp
  | cons x xs ih =>
    have hx : 0 < (pieces x).length := List.length_pos_iff.mpr (h x)
    have hxs : xs.length ≤ (xs.flatMap pieces).length := length_le_length_flatMap h
    rw [List.forall_mem_cons, ← ih, List.flatMap_cons, List.length_append, List.length_cons]
    omega

end Pieces

section Texts

variable {texts : List String}

/-- **There are as many lines as texts** exactly when no text has a line break in it. -/
theorem length_printedLines_join_iff :
    (printedLines (String.join (texts.map (· ++ "\n")))).length = texts.length
      ↔ ∀ x ∈ texts, '\n' ∉ x.toList := by
  rw [printedLines_join, length_flatMap_eq_length_iff linesOf_ne_nil]
  exact forall₂_congr fun x _ => length_linesOf_eq_one_iff

/-- The lines are then the texts. -/
theorem printedLines_join_of_not_mem (h : ∀ x ∈ texts, '\n' ∉ x.toList) :
    printedLines (String.join (texts.map (· ++ "\n"))) = texts := by
  rw [printedLines_join, List.flatMap_congr (g := fun x => [x]) fun x hx => linesOf_of_not_mem (h x hx)]
  exact List.flatMap_singleton' texts

end Texts

/-! ### Filters -/

/-- **All filters of a store**: its tags and then its folders, each in the order of a list. -/
def allFilters (store : Store) : List Filter :=
  store.listTags.map (⟨.tag, ·⟩) ++ store.listFolders.map (⟨.folder, ·⟩)

namespace Filter

variable {f : Filter}

/-- What is echoed of a filter. -/
def echo (f : Filter) : String :=
  String.ofList (withoutCodes f.text.toList)

/-- **A filter that can be pasted**: its name is not empty, and there is no quote, no line break and no code for
the terminal in it. -/
structure IsPasteable (f : Filter) : Prop where
  /-- The name is not empty. -/
  ne_empty : f.name ≠ ""
  /-- There is no quote, which would end the name. -/
  quote : '"' ∉ f.name.toList
  /-- There is no line break, which would end the line. -/
  lineBreak : '\n' ∉ f.name.toList
  /-- There is no code, which would not be echoed. -/
  code : ¬HasCode f.name.toList

/-- **What a filter is for**: the notes with a tag, or in a folder, of its name in either case. -/
def Selects (f : Filter) (v : NoteView) : Prop :=
  match f.kind with
  | .tag => ∃ name ∈ v.tags, foldCase name = foldCase f.name
  | .folder => ∃ name ∈ v.folder, foldCase name = foldCase f.name

/-- What is looked for is what the expression says of a note. -/
theorem selects_iff {v : NoteView} :
    f.Selects v ↔ (Predicate.ofExpr (f.kind.expr f.name)).test v = true := by
  obtain ⟨kind, name⟩ := f
  cases kind with
  | tag => simp [Selects, FilterKind.expr, Predicate.ofExpr, Predicate.ofLeaf, Leaf.test]
  | folder =>
    simp [Selects, FilterKind.expr, Predicate.ofExpr, Predicate.ofLeaf, Leaf.test, Option.any_eq_true]

instance (f : Filter) (v : NoteView) : Decidable (f.Selects v) :=
  decidable_of_iff _ selects_iff.symm

/-- **A filter is written as a key and the name**, in quotes where it needs them. -/
theorem exists_text_eq (f : Filter) : ∃ before after, f.text.toList = before ++ f.name.toList ++ after
    ∧ escape ∉ before ∧ '\n' ∉ before ∧ (after = [] ∨ after = ['"']) := by
  obtain ⟨kind, name⟩ := f
  obtain ⟨quotes, hquotes, hname⟩ : ∃ quotes, (quotes = [] ∨ quotes = ['"']) ∧
      renderName name = quotes ++ name.toList ++ quotes := by
    unfold renderName
    split
    · exact ⟨['"'], Or.inr rfl, rfl⟩
    · exact ⟨[], Or.inl rfl, (List.append_nil _).symm⟩
  obtain ⟨key, htext, hescape, hbreak⟩ : ∃ key : List Char,
      (Filter.text ⟨kind, name⟩).toList = key ++ renderName name ∧ escape ∉ key ∧ '\n' ∉ key := by
    cases kind with
    | tag => exact ⟨"tag:".toList, String.toList_ofList, by decide, by decide⟩
    | folder => exact ⟨"folder:".toList, String.toList_ofList, by decide, by decide⟩
  refine ⟨key ++ quotes, quotes, ?_, ?_, ?_, hquotes⟩
  · rw [htext, hname]
    simp only [List.append_assoc]
  · rw [List.mem_append, not_or]
    exact ⟨hescape, by rcases hquotes with rfl | rfl <;> decide⟩
  · rw [List.mem_append, not_or]
    exact ⟨hbreak, by rcases hquotes with rfl | rfl <;> decide⟩

/-- Written as a query, a name is on one line exactly when it is one. -/
theorem lineBreak_mem_text : '\n' ∈ f.text.toList ↔ '\n' ∈ f.name.toList := by
  obtain ⟨before, after, htext, -, hbreak, rfl | rfl⟩ := f.exists_text_eq <;> rw [htext] <;> simp [hbreak]

/-- No code is written where there is none in the name. -/
theorem hasCode_text_iff : HasCode f.text.toList ↔ HasCode f.name.toList := by
  obtain ⟨before, after, htext, hescape, -, rfl | rfl⟩ := f.exists_text_eq
  · rw [htext, List.append_nil, hasCode_append_iff hescape]
  · rw [htext, hasCode_concat_iff (by decide), hasCode_append_iff hescape]

/-- The escape characters of a filter are those of its name. -/
theorem count_text : f.text.toList.count escape = f.name.toList.count escape := by
  obtain ⟨before, after, htext, hescape, -, hafter⟩ := f.exists_text_eq
  have hnone : after.count escape = 0 := by rcases hafter with rfl | rfl <;> decide
  rw [htext, List.count_append, List.count_append, List.count_eq_zero.mpr hescape, hnone]
  omega

/-- The echo of a filter has the line breaks of its name. -/
theorem lineBreak_mem_echo : '\n' ∈ f.echo.toList ↔ '\n' ∈ f.name.toList := by
  rw [echo, String.toList_ofList, lineBreak_mem_withoutCodes, lineBreak_mem_text]

/-- The query language can spell a name that is not empty and has no quote in it. -/
theorem spellable_iff : (f.kind.expr f.name).Spellable ↔ f.name ≠ "" ∧ '"' ∉ f.name.toList := by
  obtain ⟨kind, name⟩ := f
  cases kind <;> simp [FilterKind.expr, Expr.Spellable, Expr.leaves, Leaf.Spellable]

/-- **A filter is read back** exactly when its name can be spelled. -/
theorem ofText?_text_eq_some_iff :
    Expr.ofText? f.text = some (f.kind.expr f.name) ↔ f.name ≠ "" ∧ '"' ∉ f.name.toList :=
  ⟨fun h => spellable_iff.mp (spellable_of_ofText? h), fun h => ofText?_text (spellable_iff.mpr h)⟩

/-- **What is read as a filter** names it in full, with every escape character of the name. -/
theorem count_name_le_of_ofText? {line : String} (h : Expr.ofText? line = some (f.kind.expr f.name)) :
    f.name.toList.count escape ≤ line.toList.count escape := by
  obtain ⟨kind, name⟩ := f
  obtain ⟨l, hl, hleaf⟩ : ∃ l : Leaf, (l = .tag name ∨ l = .folder name) ∧ kind.expr name = .leaf l := by
    cases kind with
    | tag => exact ⟨_, Or.inl rfl, rfl⟩
    | folder => exact ⟨_, Or.inr rfl, rfl⟩
  have htoken : .leaf l ∈ tokens line := leaf_mem_tokens_of_ofText? h (by rw [hleaf]; exact List.mem_singleton_self l)
  obtain ⟨p, rest, hspells, hp⟩ := (pieced_scan line.toList).exists_spells_of_mem htoken
  exact ((hspells.name_within hl).trans hp).sublist.count_le escape

/-- **A filter can be pasted** exactly when its echo is one line and reads as the filter. If there is a code in
the name, the echo has fewer escape characters than the name, so it cannot be read as the name. -/
theorem isPasteable_iff :
    f.IsPasteable ↔ Expr.ofText? f.echo = some (f.kind.expr f.name) ∧ '\n' ∉ f.echo.toList := by
  rw [lineBreak_mem_echo]
  constructor
  · rintro ⟨hne, hquote, hbreak, hcode⟩
    have hecho : f.echo = f.text := by
      rw [echo, withoutCodes_of_not_hasCode (mt hasCode_text_iff.mp hcode), String.ofList_toList]
    exact ⟨hecho ▸ ofText?_text_eq_some_iff.mpr ⟨hne, hquote⟩, hbreak⟩
  · rintro ⟨hread, hbreak⟩
    have hcode : ¬HasCode f.name.toList := fun hcode => by
      have hlost := count_withoutCodes_lt (hasCode_text_iff.mpr hcode)
      have hkept := count_name_le_of_ofText? hread
      rw [echo, String.toList_ofList] at hkept
      rw [count_text] at hlost
      omega
    obtain ⟨hne, hquote⟩ := spellable_iff.mp (spellable_of_ofText? hread)
    exact ⟨hne, hquote, hbreak, hcode⟩

/-- The database replies to a filter with the notes that it is for. -/
theorem answer_replies_eq {store : Store} (hs : store.Keyed) (f : Filter) (n : Note) :
    (f.kind.expr f.name).condition.answer (store.replies n) = decide (f.Selects (store.view n)) := by
  refine Eq.trans ?_ ((Bool.decide_congr selects_iff).trans Bool.decide_eq_true).symm
  obtain ⟨kind, name⟩ := f
  cases kind with
  | tag => exact hs.linksTag_eq name
  | folder => exact hs.linksFolder_eq name

/-- **Searching for a filter** finds the notes that it is for, in the order of every list. -/
theorem search_expr {store : Store} (hs : store.Keyed) (f : Filter) :
    (Database.holding store).search (some (f.kind.expr f.name))
      = .ok (store.fetchAll.filter fun v => f.Selects v) := by
  have hfit : (f.kind.expr f.name).Fitting := by
    -- a filter has no term
    cases f.kind <;> exact fun term h => by cases List.mem_singleton.mp h
  have htaken : (Predicate.ofExpr (f.kind.expr f.name)).Taken :=
    Predicate.taken_ofExpr_iff.mpr (by cases f.kind <;> rfl)
  refine (Database.fetchMatching_ofExpr hfit htaken).trans ?_
  exact congrArg Except.ok (Store.filter_fetchAll fun n _ => (answer_replies_eq hs f n).symm).symm

end Filter

/-! ### The plain list -/

variable {s : Settings} {t : Tree} {store : Store}

/-- **The plain list of filters**: a line for each of them, if the database can be opened. -/
theorem exists_filtersCommand_plain (hopen : s.openStore t = .ok (some (.ok store))) :
    ∃ o, filtersCommand s ["--plain"] t = .ok o ∧ o.exit = exitSuccess
      ∧ o.out = String.join (((allFilters store).map Filter.echo).map (· ++ "\n")) := by
  have hrequest : FiltersRequest.ofWords ["--plain"] = .ok (some { plain := true }) := rfl
  have hfilters : ({ plain := true } : FiltersRequest).filters store = allFilters store := by
    show store.listTags.map _ ++ (store.listFolders.map _ ++ []) = _
    rw [List.append_nil]
    rfl
  have hrun := SearchRequest.withDatabase_eq s {} t ({ plain := true } : FiltersRequest).filters
    (({ plain := true } : FiltersRequest).report s)
  rw [hopen] at hrun
  obtain ⟨t', hrun⟩ := hrun
  refine ⟨⟨exitSuccess, [.out (String.join ((allFilters store).map Filter.line))], t'⟩, ?_, rfl, ?_⟩
  · rw [filtersCommand, hrequest]
    refine Eq.trans ?_ (hfilters ▸ hrun)
    rfl
  · rw [List.map_map]
    exact String.join_cons.trans String.append_empty

/-- **Filters are read back from their lines** exactly when each of them can be pasted: a name with a line break
makes more lines than there are filters. -/
theorem map_ofText?_printedLines_iff {fs : List Filter} :
    (printedLines (String.join ((fs.map Filter.echo).map (· ++ "\n")))).map Expr.ofText?
        = fs.map (fun f => some (f.kind.expr f.name))
      ↔ ∀ f ∈ fs, f.IsPasteable := by
  constructor
  · intro h
    have hlength := congrArg List.length h
    rw [List.length_map, List.length_map, ← List.length_map (f := Filter.echo),
      length_printedLines_join_iff] at hlength
    rw [printedLines_join_of_not_mem hlength, List.map_map, List.map_inj_left] at h
    rw [List.forall_mem_map] at hlength
    exact fun f hf => Filter.isPasteable_iff.mpr ⟨h f hf, hlength f hf⟩
  · intro h
    have hpaste := fun f hf => Filter.isPasteable_iff.mp (h f hf)
    rw [printedLines_join_of_not_mem (List.forall_mem_map.mpr fun f hf => (hpaste f hf).2), List.map_map,
      List.map_inj_left]
    exact fun f hf => (hpaste f hf).1

/-- **The plain list can be pasted line by line** exactly when each name in it can be: it has as many lines
as there are filters exactly when no name has a line break in it, and the lines are read back as the filters
exactly when, besides, no name is empty or has a quote or a code in it. Whatever is read back as a filter finds the
notes that it is for. -/
theorem filtersCommand_plain_iff (hopen : s.openStore t = .ok (some (.ok store))) (hs : store.Keyed) :
    ∃ o, filtersCommand s ["--plain"] t = .ok o ∧ o.exit = exitSuccess
      ∧ ((printedLines o.out).length = store.listTags.length + store.listFolders.length
          ↔ ∀ f ∈ allFilters store, '\n' ∉ f.name.toList)
      ∧ ((printedLines o.out).map Expr.ofText?
            = store.listTags.map (fun name => some (.leaf (.tag name)))
              ++ store.listFolders.map (fun name => some (.leaf (.folder name)))
          ↔ ∀ f ∈ allFilters store, f.IsPasteable)
      ∧ ∀ (f : Filter) line, Expr.ofText? line = some (f.kind.expr f.name) →
          (Database.holding store).search (Expr.ofText? line)
            = .ok (store.fetchAll.filter fun v => f.Selects v) := by
  obtain ⟨o, hrun, hexit, hout⟩ := exists_filtersCommand_plain hopen
  have hcount : store.listTags.length + store.listFolders.length
      = ((allFilters store).map Filter.echo).length := by
    simp [allFilters]
  have hexprs : store.listTags.map (fun name => some (Expr.leaf (.tag name)))
        ++ store.listFolders.map (fun name => some (Expr.leaf (.folder name)))
      = (allFilters store).map fun f => some (f.kind.expr f.name) := by
    rw [allFilters, List.map_append, List.map_map, List.map_map]
    rfl
  refine ⟨o, hrun, hexit, ?_, ?_, fun f line h => ?_⟩
  · rw [hout, hcount, length_printedLines_join_iff, List.forall_mem_map]
    exact forall₂_congr fun f _ => not_congr Filter.lineBreak_mem_echo
  · rw [hout, hexprs]
    exact map_ofText?_printedLines_iff
  · rw [h]
    exact f.search_expr hs

/-- A note that is filed, and has a tag of this name. -/
def labelled (tag : String) : Store where
  folders := [⟨1, "Home", none⟩]
  tags := [⟨1, tag⟩]
  notes := [⟨1, "milk", "", some 1, false, .epoch, .epoch, none⟩]
  links := [⟨1, 1⟩]

/-- The note as it is shown. -/
def labelledView (tag : String) : NoteView :=
  ⟨1, "milk", "", false, some "Home", [tag], .epoch, .epoch⟩

theorem keyed_labelled (tag : String) : (labelled tag).Keyed :=
  ⟨by simp [labelled], by simp [labelled], by simp [labelled]⟩

theorem allFilters_labelled (tag : String) :
    allFilters (labelled tag) = [⟨.tag, tag⟩, ⟨.folder, "Home"⟩] := by
  rw [allFilters, Store.listTags, Store.listFolders]
  simp [labelled]

theorem active_labelled (tag : String) : (labelled tag).active = (labelled tag).notes := by
  refine (labelled tag).active_eq_notes ?_ (List.pairwise_singleton _ _)
  intro n hn
  cases List.mem_singleton.mp hn
  rfl

theorem fetchAll_labelled (tag : String) : (labelled tag).fetchAll = [labelledView tag] := by
  have htags : nameSet ((labelled tag).tagNames 1) = [tag] := by
    show nameSet [tag] = _
    rw [nameSet, List.mergeSort_singleton]
    rfl
  rw [Store.fetchAll, active_labelled]
  exact congrArg (fun tags => [NoteView.mk 1 "milk" "" false (some "Home") tags .epoch .epoch]) htags

/-- A name with a blank in it is quoted, and its line finds the note. -/
theorem filtersCommand_plain_coOp :
    let store := labelled "Co Op"
    quietSettings.openStore (homeWith store) = .ok (some (.ok store)) ∧ store.Keyed
      ∧ ∃ o, filtersCommand quietSettings ["--plain"] (homeWith store) = .ok o
        ∧ (printedLines o.out).map Expr.ofText?
            = [some (.leaf (.tag "Co Op")), some (.leaf (.folder "Home"))]
        ∧ (Database.holding store).search (Expr.ofText? "tag:\"Co Op\"") = .ok [labelledView "Co Op"] := by
  intro store
  have hopen : quietSettings.openStore (homeWith store) = .ok (some (.ok store)) := rfl
  obtain ⟨o, hrun, -, -, hlines, hsearch⟩ := filtersCommand_plain_iff hopen (keyed_labelled "Co Op")
  have hpaste : ∀ f ∈ allFilters store, f.IsPasteable := by
    rw [allFilters_labelled, List.forall_mem_cons, List.forall_mem_singleton]
    exact ⟨⟨by decide, by decide, by decide, not_hasCode_of_not_mem (by decide)⟩,
      ⟨by decide, by decide, by decide, not_hasCode_of_not_mem (by decide)⟩⟩
  have hread : Expr.ofText? "tag:\"Co Op\"" = some (.leaf (.tag "Co Op")) :=
    Filter.ofText?_text_eq_some_iff (f := ⟨.tag, "Co Op"⟩).mpr ⟨by decide, by decide⟩
  refine ⟨hopen, keyed_labelled _, o, hrun, (hlines.mpr hpaste).trans ?_, ?_⟩
  · simp [store, labelled, Store.listTags, Store.listFolders]
  · rw [hsearch ⟨.tag, "Co Op"⟩ _ hread, fetchAll_labelled]
    rfl

/-- **A name with a quote in it** is written as a query that asks for something else: for another tag, and a
word. The note that carries the tag is not found. -/
theorem filtersCommand_plain_quote :
    let store := labelled "a\"b"
    quietSettings.openStore (homeWith store) = .ok (some (.ok store)) ∧ store.Keyed
      ∧ ∃ o, filtersCommand quietSettings ["--plain"] (homeWith store) = .ok o
        ∧ printedLines o.out = ["tag:\"a\"b\"", "folder:Home"]
        ∧ store.listTags = ["a\"b"] ∧ store.fetchAll = [labelledView "a\"b"]
        ∧ Expr.ofText? "tag:\"a\"b\"" = some (.and (.leaf (.tag "a")) (.leaf (.text "b")))
        ∧ Expr.ofText? "tag:\"a\"b\"" ≠ some (.leaf (.tag "a\"b"))
        ∧ (Database.holding store).search (Expr.ofText? "tag:\"a\"b\"") = .ok [] := by
  intro store
  have hopen : quietSettings.openStore (homeWith store) = .ok (some (.ok store)) := rfl
  obtain ⟨o, hrun, -, hout⟩ := exists_filtersCommand_plain hopen
  have htokens : tokens "tag:\"a\"b\"" = [.leaf (.tag "a")] ++ [.leaf (.text "b")] := by decide +kernel
  have hread : Expr.ofText? "tag:\"a\"b\"" = some (.and (.leaf (.tag "a")) (.leaf (.text "b"))) := by
    rw [Expr.ofText?, htokens]
    exact Grammar.Derives.ofTokens? (.conjunction (.juxtapose (.operand (.plain (.leaf (.tag "a"))))
      (.plain (.leaf (.text "b"))) (by decide)))
  have hfit : (Expr.and (.leaf (.tag "a")) (.leaf (.text "b"))).Fitting := by
    intro term h
    simp only [Expr.leaves, List.mem_append, List.mem_singleton, reduceCtorEq, false_or] at h
    cases h
    unfold Like.Fitting
    decide
  refine ⟨hopen, keyed_labelled _, o, hrun, ?_, ?_, fetchAll_labelled _, hread, ?_, ?_⟩
  · rw [hout, printedLines_join, allFilters_labelled]
    decide +kernel
  · simp [store, labelled, Store.listTags]
  · rw [hread]
    decide
  · rw [hread]
    refine (Database.fetchMatching_ofExpr hfit (Predicate.taken_ofExpr_iff.mpr rfl)).trans ?_
    rw [active_labelled]
    decide +kernel

end NoteSearch.Command
