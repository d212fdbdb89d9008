/-!
# Pages of a database file

A database file is a sequence of pages of one size. A table is a tree of pages: its leaves hold the rows,
each under its number and in the order of the numbers, and the pages above them say where the leaves are.
A row that is too long for its page goes on in a chain of further pages.

A row is a record: first the code of every value, which gives its type and its width, and then the values.
Numbers in a page have their highest byte first. In a short number, every byte but the last carries seven
bits and a mark that more follow.
-/

namespace NoteSearch

/-- **A value of a row.** -/
inductive Datum
  /-- Nothing. -/
  | null
  /-- A whole number. -/
  | integer (n : Int)
  /-- A text. -/
  | text (s : String)
  /-- Anything else. -/
  | other
  deriving DecidableEq, Repr, Inhabited

/-- **A row**, with its number. -/
structure Row where
  /-- The number. -/
  id : Nat
  /-- The values. -/
  data : List Datum
  deriving DecidableEq, Repr, Inhabited

namespace Page

/-! ### Numbers -/

/-- The number whose bytes are given, the highest first. -/
def bigEndian (bytes : List UInt8) : Nat :=
  bytes.foldl (fun n b => 256 * n + b.toNat) 0

/-- How many numbers can be written with so many bytes. -/
def capacity : Nat → Nat
  | 0 => 1
  | width + 1 => 256 * capacity width

/-- The whole number whose bytes are given, the highest first, and of which the highest bit is the sign. -/
def signed (bytes : List UInt8) : Int :=
  let n := bigEndian bytes
  if 2 * n < capacity bytes.length then n else (n : Int) - capacity bytes.length

/-- The number of `width` bytes at an offset of a page. -/
def numberAt (page : List UInt8) (offset width : Nat) : Nat :=
  bigEndian ((page.drop offset).take width)

/-- A short number that goes on after `value`, and what follows it. At most `count` bytes carry seven bits;
one after them carries eight. -/
def readShortFrom (value : Nat) : Nat → List UInt8 → Option (Nat × List UInt8)
  | _, [] => none
  | 0, b :: bs => some (256 * value + b.toNat, bs)
  | count + 1, b :: bs =>
    if b.toNat < 128 then some (128 * value + b.toNat, bs)
    else readShortFrom (128 * value + (b.toNat - 128)) count bs

/-- **Reading a short number.** -/
def readShort (bytes : List UInt8) : Option (Nat × List UInt8) :=
  readShortFrom 0 8 bytes

/-! ### Records -/

/-- The width of the value of a code. -/
def codeWidth (code : Nat) : Nat :=
  if code ≤ 4 then code
  else if code = 5 then 6
  else if code ≤ 7 then 8
  else if code ≤ 11 then 0
  else (code - 12) / 2

/-- The value of a code, from its bytes. -/
def datum (code : Nat) (bytes : List UInt8) : Datum :=
  if code = 0 then .null
  else if code ≤ 6 then .integer (signed bytes)
  else if code = 8 then .integer 0
  else if code = 9 then .integer 1
  else if 13 ≤ code && code % 2 = 1 then
    match String.fromUTF8? ⟨bytes.toArray⟩ with
    | some s => .text s
    | none => .other
  else .other

/-- The codes at the start of a record, at most `count` of them. -/
def readCodes : Nat → List UInt8 → List Nat
  | 0, _ => []
  | count + 1, bytes =>
    match readShort bytes with
    | none => []
    | some (code, bytes) => code :: readCodes count bytes

/-- The values of the given codes. -/
def readData : List Nat → List UInt8 → List Datum
  | [], _ => []
  | code :: codes, bytes =>
    datum code (bytes.take (codeWidth code)) :: readData codes (bytes.drop (codeWidth code))

/-- **Reading a record.** -/
def readRecord (bytes : List UInt8) : Option (List Datum) := do
  let (headerSize, afterSize) ← readShort bytes
  let header := afterSize.take (headerSize + afterSize.length - bytes.length)
  return readData (readCodes header.length header) (bytes.drop headerSize)

end Page

/-! ### Files -/

/-- **A database file.** -/
structure DatabaseFile where
  /-- What is in it. -/
  bytes : ByteArray
  /-- The size of a page. -/
  pageSize : Nat
  /-- How many bytes of a page are used. -/
  usable : Nat

namespace DatabaseFile

open Page

/-- What a database file starts with. -/
def magic : List UInt8 :=
  "SQLite format 3\x00".toUTF8.toList

/-- The database file of the given bytes, if they are one: it starts as every database file does, its pages
are not too small, and its texts are in UTF-8. -/
def ofBytes? (bytes : ByteArray) : Option DatabaseFile :=
  let header := (bytes.extract 0 100).toList
  let size := numberAt header 16 2
  let pageSize := if size = 1 then 65536 else size
  let usable := pageSize - numberAt header 20 1
  if magic.isPrefixOf header && 480 ≤ usable && numberAt header 56 4 = 1 then
    some ⟨bytes, pageSize, usable⟩
  else none

/-- The page of a number; the first one has the number one. -/
def page (f : DatabaseFile) (number : Nat) : List UInt8 :=
  (f.bytes.extract ((number - 1) * f.pageSize) (number * f.pageSize)).toList

/-- How many bytes of a row are in its leaf, when it is `size` bytes long. -/
def leafBytes (f : DatabaseFile) (size : Nat) : Nat :=
  let most := f.usable - 35
  let least := (f.usable - 12) * 32 / 255 - 23
  let fitting := least + (size - least) % (f.usable - 4)
  if size ≤ most then size else if fitting ≤ most then fitting else least

/-- The last `missing` bytes of a row, in a chain of at most `pages` pages. -/
def chain (f : DatabaseFile) (missing : Nat) : Nat → Nat → List UInt8
  | 0, _ => []
  | pages + 1, number =>
    let page := f.page number
    let part := (page.drop 4).take (min missing (f.usable - 4))
    part ++ f.chain (missing - part.length) pages (numberAt page 0 4)

/-- The row of a cell of a leaf. -/
def leafRow? (f : DatabaseFile) (cell : List UInt8) : Option Row := do
  let (size, cell) ← readShort cell
  let (id, cell) ← readShort cell
  let inLeaf := f.leafBytes size
  let missing := size - inLeaf
  let rest := f.chain missing ((missing + f.usable - 5) / (f.usable - 4)) (numberAt cell inLeaf 4)
  return ⟨id, ← readRecord (cell.take inLeaf ++ rest)⟩

/-- **The rows of a table** whose tree starts at a page and has less than `depth` levels. -/
def rows? (f : DatabaseFile) : Nat → Nat → Option (List Row)
  | 0, _ => none
  | depth + 1, number =>
    let page := f.page number
    let start := if number = 1 then 100 else 0
    let count := numberAt page (start + 3) 2
    let cell := fun first i => page.drop (numberAt page (start + first + 2 * i) 2)
    match numberAt page start 1 with
    | 13 => (List.range count).mapM fun i => f.leafRow? (cell 8 i)
    | 5 => do
      let below ← (List.range count).mapM fun i => f.rows? depth (bigEndian ((cell 12 i).take 4))
      let last ← f.rows? depth (numberAt page (start + 8) 4)
      return below.flatten ++ last
    | _ => none

/-- The page that the tree of a table starts at, if a row of the catalogue says so. -/
def rootOf? (name : String) (r : Row) : Option Nat :=
  match r.data with
  | [.text "table", .text n, _, .integer root, _] => if n = name then some root.toNat else none
  | _ => none

/-- The greatest number of levels of a tree. -/
def maxDepth : Nat := 20

/-- **The rows of the table of a name**, which has none when it is not there. The first page starts the tree
of a catalogue of all tables. -/
def table? (f : DatabaseFile) (name : String) : Option (List Row) := do
  let catalogue ← f.rows? maxDepth 1
  match catalogue.findSome? (rootOf? name) with
  | some root => f.rows? maxDepth root
  | none => some []

end DatabaseFile

end NoteSearch
