import NoteSearch.Console.Columns

/-!
# Tables

A table has a head and rows, in boxes with a heavy frame around the head. Its columns are as wide as their
cells want, or narrower where there is no room for that (`NoteSearch.Console.columnWidths`). In a colored
table each piece of a line is painted in the style of its column, with the styles of its own on top; the
frame is plain. A cell that has fewer lines than its row is filled with blank lines, each of them one piece.
-/

namespace NoteSearch.Console

open Text

/-- **A cell that is ready to be written**: the pieces of each of its lines. -/
structure Cell where
  /-- The lines. -/
  lines : List (List Piece)
  /-- Its style. -/
  style : Style
  /-- Its width, with the spaces around it. -/
  width : Nat
  deriving Repr, Inhabited

namespace Cell

/-- A cell of a column of a width. A column that is no wider than the spaces around its cells
shows no text. -/
def ofText (c : Column) (style : String) (width : Nat) (t : Marked) : Except StyleFault Cell := do
  let inside := width - padding
  let lines := if inside == 0 then [] else t.layOut c.side c.breakable inside
  let lines ← lines.mapM fun line =>
    return .spaces 1 :: fillPieces inside (← line.pieces) ++ [.spaces 1]
  return ⟨lines, ← Style.named style, width⟩

/-- A line of a cell; below its last line a cell is blank. -/
def line (c : Cell) (i : Nat) : List Piece :=
  ((c.lines[i]?).getD [.spaces c.width]).map fun p => { p with style := p.style.onTopOf c.style }

end Cell

/-- A part of the frame. -/
def framePiece (cs : List Char) : Piece :=
  ⟨cs, .plain⟩

/-- A line of the frame. -/
def ruleLine (first rule separator last : Char) (widths : List Nat) : List Piece :=
  [framePiece
    (first :: [separator].intercalate (widths.map fun w => List.replicate w rule) ++ [last])]

/-- The lines of a row. -/
def rowLines (bar : Char) (cells : List Cell) : List (List Piece) :=
  let height := (cells.map (·.lines.length)).foldl max 1
  (List.range height).map fun i => framePiece [bar] :: cells.flatMap fun c => c.line i ++ [framePiece [bar]]

/-- A line of a table as it is written. What is beyond the end of a line of the terminal is not. -/
def writtenLine (colored : Bool) (line : List Piece) : List Char :=
  (cutPieces Marked.consoleWidth line).flatMap (fun p => if colored then p.style.paint p.chars else p.chars)
    ++ ['\n']

/-- The rows of a table of `count` rows that is given by its columns. -/
def rowsOfColumns (count : Nat) (columns : List (List α)) : List (List α) :=
  columns.foldr (List.zipWith (· :: ·)) (List.replicate count [])

/-- The name of the style of a head. -/
def headStyle : String := "bold"

/-- **A table** of `count` rows, of which each column is given with its cells. -/
def table (colored : Bool) (count : Nat) (columns : List (Column × List Marked)) :
    Except StyleFault String := do
  let heading := fun c : Column => Marked.mk c.heading.toList []
  let widths := columnWidths (columns.map fun (c, cells) => (c, heading c :: cells))
  let sized := columns.zip widths
  let head ← sized.mapM fun ((c, _), w) => Cell.ofText c headStyle w (heading c)
  let body ← sized.mapM fun ((c, cells), w) => cells.mapM (Cell.ofText c c.style w)
  let lines := ruleLine '┏' '━' '┳' '┓' widths :: rowLines '┃' head
    ++ ruleLine '┡' '━' '╇' '┩' widths :: (rowsOfColumns count body).flatMap (rowLines '│')
    ++ [ruleLine '└' '─' '┴' '┘' widths]
  return String.ofList (lines.flatMap (writtenLine colored))

/-- A table of texts with markup. -/
def tableOfMarkup (colored : Bool) (columns : List Column) (rows : List (List String)) :
    Except MarkupFault String := do
  let columns ← columns.zipIdx.mapM fun (c, i) => do
    let cells ← (rows.filterMap (·[i]?)).mapM fun cell => Marked.ofMarkup cell.toList
    return (c, cells)
  (table colored rows.length columns).mapError .style

end NoteSearch.Console
