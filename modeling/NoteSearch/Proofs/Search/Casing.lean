import Mathlib.Data.String.Basic
import NoteSearch.Proofs.Query.Casing
import NoteSearch.Proofs.Query.Grammar
import NoteSearch.Proofs.Search.Lowering
import NoteSearch.Proofs.Search.Pattern

/-!
# A search in another case

The database compares names and holds texts against patterns in either case. So a condition tests a row the
same way when the case of its names and terms is folded (`NoteSearch.Condition.test_folded`), and it is as
large as before: folding changes no length and no shape (`NoteSearch.Condition.accept_folded`). A predicate
built from an expression is built from the folded expression in the same way.

Together with `NoteSearch.ofText?_foldCase` this is the whole way from what is typed to what is found: two
queries that differ in case are both readable or both not, ask for the same up to case, and find the same
(`NoteSearch.ofText?_and_search_of_foldCase_eq`).
-/

namespace NoteSearch

open Text

/-! ### Patterns -/

namespace Like

/-- A piece of a pattern with the case of its character folded. -/
def Piece.folded : Piece → Piece
  | .char c => .char c.toLower
  | p => p

/-- **Folded pieces fit the same texts.** -/
theorem fits_map_folded (ps : List Piece) (cs : List Char) :
    fits (ps.map Piece.folded) cs = fits ps cs := by
  induction ps generalizing cs with
  | nil => rfl
  | cons p ps ih =>
    cases p with
    | anyRun => exact congrArg (anySuffix · cs) (funext ih)
    | anyChar =>
      cases cs with
      | nil => rfl
      | cons c cs => exact ih cs
    | char k =>
      cases cs with
      | nil => rfl
      | cons c cs =>
        show (c.toLower == k.toLower.toLower && _) = (c.toLower == k.toLower && _)
        rw [toLower_toLower, ih]

/-- A character that is special is so in either case: it is no letter. -/
theorem isSpecial_toLower (c : Char) : isSpecial c.toLower = isSpecial c :=
  apply_toLower (by decide) c

/-- A piece before the pieces of a pattern. -/
theorem map_cons_folded (p : Piece) (ps : Option (List Piece)) :
    (ps.map (List.map Piece.folded)).map (p.folded :: ·)
      = (ps.map (p :: ·)).map (List.map Piece.folded) := by
  cases ps <;> rfl

/-- **A folded pattern has folded pieces.** -/
theorem pieces?_map_toLower (cs : List Char) :
    pieces? (cs.map Char.toLower) = (pieces? cs).map (List.map Piece.folded) := by
  fun_induction pieces? cs with
  | case1 => rfl
  | case2 c cs ih =>
    show (pieces? (cs.map Char.toLower)).map ((Piece.char c).folded :: ·) = _
    rw [ih, map_cons_folded]
  | case3 => rfl
  | case4 cs ih =>
    show (pieces? (cs.map Char.toLower)).map (Piece.anyRun.folded :: ·) = _
    rw [ih, map_cons_folded]
  | case5 cs ih =>
    show (pieces? (cs.map Char.toLower)).map (Piece.anyChar.folded :: ·) = _
    rw [ih, map_cons_folded]
  | case6 c cs hmarked hmark hpercent hunder ih =>
    have hslash : c ≠ '/' := by
      rintro rfl
      cases cs with
      | nil => exact hmark rfl rfl
      | cons d ds => exact hmarked d ds rfl rfl
    have hc : isSpecial c = false := by
      simp only [isSpecial, Bool.or_eq_false_iff, beq_eq_false_iff_ne]
      exact ⟨⟨hslash, hpercent⟩, hunder⟩
    rw [List.map_cons, pieces?_cons_of_not_special ((isSpecial_toLower c).trans hc), ih]
    exact map_cons_folded (.char c) (pieces? cs)

/-- What a comparison reads of a character in another case is what it reads of it, in that case. -/
theorem seen_toLower (c : Char) : seen c.toLower = (seen c).toLower := by
  rcases toLower_eq_self_or_mem_capitals c with hc | hc
  · rw [hc, seen]
    split
    · rfl
    · exact hc.symm
  · have hall : capitals.all (fun d => seen d.toLower == (seen d).toLower) = true := by decide
    exact eq_of_beq (List.all_eq_true.mp hall c hc)

theorem visible_map_toLower (cs : List Char) :
    visible (cs.map Char.toLower) = (visible cs).map Char.toLower := by
  rw [visible, takeWhile_map_toLower (toLower_bne (by decide) rfl), List.map_map, visible,
    List.map_map]
  exact List.map_congr_left fun c _ => seen_toLower c

/-- Folding the case changes no length. -/
theorem utf8ByteSize_map_toLower (cs : List Char) :
    (String.ofList (cs.map Char.toLower)).utf8ByteSize = (String.ofList cs).utf8ByteSize := by
  induction cs with
  | nil => rfl
  | cons c cs ih =>
    have hsize : c.toLower.utf8Size = c.utf8Size := apply_toLower (by decide) c
    rw [List.map_cons, String.utf8ByteSize_ofList, String.utf8ByteSize_ofList, String.utf8Len_cons,
      String.utf8Len_cons, hsize, ← String.utf8ByteSize_ofList, ih, String.utf8ByteSize_ofList]

/-- **A text is held against a pattern in either case.** -/
theorem test_map_toLower (pattern cs : List Char) :
    test (pattern.map Char.toLower) cs = test pattern cs := by
  rw [test, test, utf8ByteSize_map_toLower, visible_map_toLower, pieces?_map_toLower, Option.any_map]
  simp only [fits_map_folded]

/-- The pattern of a term in another case is its pattern, in that case. -/
theorem containing_map_toLower (term : List Char) :
    containing (term.map Char.toLower) = (containing term).map Char.toLower := by
  have hmarked : marked (term.map Char.toLower) = (marked term).map Char.toLower := by
    rw [marked, marked, List.flatMap_map, List.map_flatMap]
    refine congrArg (term.flatMap ·) (funext fun c => ?_)
    show (if isSpecial c.toLower then _ else _) = (if isSpecial c then _ else _ : List Char).map _
    rw [isSpecial_toLower]
    split <;> rfl
  show '%' :: (marked _ ++ ['%']) = '%' :: (marked term ++ ['%']).map Char.toLower
  rw [hmarked, List.map_append]
  rfl

end Like

/-! ### Conditions -/

namespace Condition

/-- **A condition up to case**: with the case of its names and terms folded. -/
def folded : Condition → Condition
  | constant value => constant value
  | carries name => carries (foldCase name)
  | filedIn name => filedIn (foldCase name)
  | mentions term => mentions (foldCase term)
  | pinnedIs flag => pinnedIs flag
  | and l r => and l.folded r.folded
  | or l r => or l.folded r.folded
  | not c => not c.folded

theorem condition_folded (l : Leaf) : l.folded.condition = l.condition.folded := by
  cases l <;> rfl

theorem folded_neg (c : Condition) : c.neg.folded = c.folded.neg := by
  cases c <;> rfl

/-- Names are the same in either case. -/
theorem sameName_foldCase (a b : String) : sameName a (foldCase b) = sameName a b := by
  rw [sameName, foldCase_foldCase, sameName]

/-- A term is looked for in either case. -/
theorem testTerm_foldCase (n : Note) (term : String) : testTerm n (foldCase term) = testTerm n term := by
  simp only [testTerm, toList_foldCase, Like.containing_map_toLower, Like.test_map_toLower]

/-- **A condition tests a row in either case.** -/
theorem test_folded (s : Store) (n : Note) (c : Condition) : c.folded.test s n = c.test s n := by
  induction c with
  | constant value => rfl
  | carries name => simp only [folded, test, linksTag, sameName_foldCase]
  | filedIn name => simp only [folded, test, linksFolder, sameName_foldCase]
  | mentions term => exact testTerm_foldCase n term
  | pinnedIs flag => rfl
  | and l r ihl ihr => simp only [folded, test, ihl, ihr]
  | or l r ihl ihr => simp only [folded, test, ihl, ihr]
  | not c ih => simp only [folded, test, ih]

/-! ### How large a condition is -/

theorem load_folded (j : Joint) (c : Condition) : c.folded.load j = c.load j := by
  induction c generalizing j with
  | and l r ihl ihr => simp only [folded, load, ihl, ihr]
  | or l r ihl ihr => simp only [folded, load, ihl, ihr]
  | not c ih => simp only [folded, load, ih]
  | _ => rfl

theorem heightOn_folded (j : Joint) (chain : Option Nat) (c : Condition) :
    c.folded.heightOn j chain = c.heightOn j chain := by
  induction c generalizing j chain with
  | and l r ihl ihr => simp only [folded, heightOn, ihl, ihr]
  | or l r ihl ihr => simp only [folded, heightOn, ihl, ihr]
  | not c ih => simp only [folded, heightOn, ih]
  | _ => rfl

theorem innerHeight_folded (c : Condition) : c.folded.innerHeight = c.innerHeight := by
  induction c with
  | and l r ihl ihr => simp only [folded, innerHeight, ihl, ihr]
  | or l r ihl ihr => simp only [folded, innerHeight, ihl, ihr]
  | not c ih => simp only [folded, innerHeight, ih]
  | _ => rfl

/-- **The engine takes a condition in either case**, or in neither. -/
theorem accept_folded (c : Condition) : c.folded.accept = c.accept := by
  have hstack : c.folded.stackHeight = c.stackHeight := by
    rw [stackHeight, load_folded, stackHeight]
  have htree : c.folded.treeHeight = c.treeHeight := by
    rw [treeHeight, heightOn_folded, innerHeight_folded, treeHeight]
  rw [accept, hstack, htree, accept]

end Condition

/-! ### Searching -/

/-- The condition of an expression in another case is its condition, in that case. -/
theorem Expr.condition_folded (e : Expr) : e.folded.condition = e.condition.folded := by
  induction e with
  | leaf l => exact Condition.condition_folded l
  | and l r ihl ihr => exact congrArg₂ Condition.and ihl ihr
  | or l r ihl ihr => exact congrArg₂ Condition.or ihl ihr
  | not e ih => exact (congrArg Condition.neg ih).trans (Condition.folded_neg e.condition).symm

namespace Database

/-- **A search finds the same in either case.** -/
theorem search_folded (d : Database) (e : Expr) : d.search (some e.folded) = d.search (some e) := by
  have htest (s : Store) : e.condition.folded.test s = e.condition.test s :=
    funext fun n => Condition.test_folded s n e.condition
  simp only [search_some, Expr.condition_folded, Condition.accept_folded, Store.fetchWhere, htest]

end Database

/-- **Case makes no difference**, from the query that is typed to the notes that are found. Of two queries
that are equal up to the case of ASCII letters, one can be read exactly when the other can. They then ask for
the same, up to the case of names and terms, and every database answers both with the same notes, or
neither. -/
theorem ofText?_and_search_of_foldCase_eq {query query' : String}
    (h : foldCase query = foldCase query') :
    (Expr.ofText? query = none ↔ Expr.ofText? query' = none) ∧
      ∀ e e', Expr.ofText? query = some e → Expr.ofText? query' = some e' →
        e.folded = e'.folded ∧
          ∀ (d : Database) (notes : List NoteView),
            d.search (some e) = .ok notes ↔ d.search (some e') = .ok notes := by
  have hexpr : (Expr.ofText? query).map Expr.folded = (Expr.ofText? query').map Expr.folded := by
    rw [← ofText?_foldCase, ← ofText?_foldCase, h]
  refine ⟨?_, fun e e' he he' => ?_⟩
  · rw [← Option.map_eq_none_iff (f := Expr.folded), hexpr, Option.map_eq_none_iff]
  · rw [he, he', Option.map_some, Option.map_some] at hexpr
    have hfolded := Option.some.inj hexpr
    refine ⟨hfolded, fun d notes => ?_⟩
    rw [← d.search_folded e, ← d.search_folded e', hfolded]

/-- An operator, a key, a quoted name, a term and the pinned state, all in another case, and one `AND` left
out. -/
theorem ofText?_and_search_of_foldCase_eq_mixed :
    let query := "TAG:\"Co Op\" And NOT ÉTÉ-Trip Pinned:TRUE"
    let query' := "tag:\"cO oP\" aND Not ÉtÉ-tRIP pinned:true"
    foldCase query = foldCase query' ∧
      ∃ e e', Expr.ofText? query = some e ∧ Expr.ofText? query' = some e' ∧ e ≠ e' ∧
        e.folded = e'.folded ∧
          ∀ (d : Database) (notes : List NoteView),
            d.search (some e) = .ok notes ↔ d.search (some e') = .ok notes := by
  intro query query'
  let spelled (name term : String) : List Token :=
    [.leaf (.tag name), .and, .not, .leaf (.text term), .leaf (.pinned true)]
  let built (name term : String) : Expr :=
    .and (.and (.leaf (.tag name)) (.not (.leaf (.text term)))) (.leaf (.pinned true))
  have hread (name term : String) : Expr.ofTokens? (spelled name term) = some (built name term) :=
    Grammar.Derives.ofTokens? (.conjunction (.juxtapose
      (.conjoin (.operand (.plain (.leaf _))) (.negated (.leaf _))) (.plain (.leaf _)) (by decide)))
  have hquery : Expr.ofText? query = some (built "Co Op" "ÉTÉ-Trip") := by
    have hscan : tokens query = spelled "Co Op" "ÉTÉ-Trip" := by decide +kernel
    rw [Expr.ofText?, hscan, hread]
  have hquery' : Expr.ofText? query' = some (built "cO oP" "ÉtÉ-tRIP") := by
    have hscan : tokens query' = spelled "cO oP" "ÉtÉ-tRIP" := by decide +kernel
    rw [Expr.ofText?, hscan, hread]
  have hsame : foldCase query = foldCase query' := by decide +kernel
  obtain ⟨hfolded, hsearch⟩ :=
    (ofText?_and_search_of_foldCase_eq hsame).2 _ _ hquery hquery'
  exact ⟨hsame, _, _, hquery, hquery', by decide, hfolded, hsearch⟩

end NoteSearch
