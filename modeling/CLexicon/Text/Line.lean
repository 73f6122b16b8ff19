import CLexicon.Text.Encoding

/-!
# Lines and columns

Where a byte offset lies in a text, for people to read.

* `LineTable.ofText`: the byte offsets at which the lines of a text start;
* `LineTable.lineOf`, `LineTable.position`: the line, and the line and column,
  of an offset, both counted from one;
* `LineTable.lineText?`: a line without what ends it;
* `textLines`: a text cut into its lines.
-/

namespace CLexicon.Text

/-- Where the lines of a text start: ascending byte offsets, the first of them
zero. The empty table belongs to no text. -/
structure LineTable where
  starts : List Nat := []
  deriving DecidableEq, Repr

/-- A position in a text as people count: line and column from one. -/
structure Position where
  line : Nat
  column : Nat
  deriving DecidableEq, Repr

/-- The offsets just after each line feed, where the first byte has offset
`offset`. -/
def lineStartsAfter (offset : Nat) : List UInt8 → List Nat
  | [] => []
  | b :: rest =>
    if b = 0x0A then (offset + 1) :: lineStartsAfter (offset + 1) rest
    else lineStartsAfter (offset + 1) rest

namespace LineTable

/-- The line table of a text. -/
def ofText (text : String) : LineTable :=
  ⟨0 :: lineStartsAfter 0 (bytes text)⟩

/-- The line that holds a byte offset: the last one that starts at or before
it. An offset past the end is on the last line. -/
def lineOf (table : LineTable) (offset : Nat) : Nat :=
  max 1 (table.starts.countP (· ≤ offset))

/-- The line and column of a byte offset. The column counts characters from
the start of the line, and an offset inside a character has column one. -/
def position (table : LineTable) (text : String) (offset : Nat) : Position :=
  let line := table.lineOf offset
  let start := (table.starts[line - 1]?).getD 0
  let stop := min offset text.utf8ByteSize
  let before := (slice? text start stop).getD ""
  ⟨line, before.length + 1⟩

/-- A line without the line feeds and carriage returns that end it. -/
def lineText? (table : LineTable) (text : String) (line : Nat) :
    Option String := do
  if line = 0 then none
  let start ← table.starts[line - 1]?
  let stop := (table.starts[line]?).getD text.utf8ByteSize
  let withEnd ← slice? text start stop
  let isLineEnd := fun c : Char => c = '\n' || c = '\r'
  some (String.ofList (withEnd.toList.reverse.dropWhile isLineEnd).reverse)

end LineTable

/-- A line that a line feed ended, without a carriage return before it. -/
def withoutReturn (line : List Char) : List Char :=
  if line.getLast? = some '\r' then line.dropLast else line

/-- The lines of a text. A line feed, or a carriage return and a line feed,
ends a line; the last line may be without an end. -/
def textLines (text : String) : List String :=
  let pieces := text.toList.splitOn '\n'
  let ended := pieces.dropLast.map withoutReturn
  let unended := pieces.getLast?.toList.filter (· ≠ [])
  (ended ++ unended).map String.ofList

end CLexicon.Text
