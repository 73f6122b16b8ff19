import CLexicon.Scan.Lexeme

/-!
# Cursors

A `Cursor` is a place in a source text: how many bytes lie before it, and the
bytes from there on. All of its moves go forward, and none goes past the end.

* `Cursor.current`, `Cursor.ahead`: the bytes at the cursor and behind it.
  Past the end, and only there or at a zero byte of the text, they read as
  zero, so `Cursor.isAtEnd` is what tells the end;
* `Cursor.advanceBy`: the move that all others are made of.
-/

namespace CLexicon

/-- A place in a source text. -/
structure Cursor where
  /-- The number of bytes before the cursor. -/
  position : Nat
  /-- The bytes from the cursor on. -/
  rest : List UInt8
  deriving DecidableEq, Repr

namespace Cursor

/-- The cursor at the start of a source text. -/
def ofText (text : String) : Cursor :=
  ⟨0, Text.bytes text⟩

/-- The length of the source text. -/
def sourceLength (cursor : Cursor) : Nat :=
  cursor.position + cursor.rest.length

/-- The byte so many places behind the cursor, and zero past the end. -/
def ahead (cursor : Cursor) (distance : Nat) : UInt8 :=
  (cursor.rest[distance]?).getD 0

/-- The byte at the cursor, and zero at the end. -/
def current (cursor : Cursor) : UInt8 :=
  cursor.ahead 0

/-- Whether all bytes lie before the cursor. -/
def isAtEnd (cursor : Cursor) : Bool :=
  cursor.rest.isEmpty

/-- The cursor so many bytes further on, or at the end if that is nearer. -/
def advanceBy (cursor : Cursor) (distance : Nat) : Cursor :=
  ⟨cursor.position + (cursor.rest.take distance).length,
   cursor.rest.drop distance⟩

/-- The cursor one byte further on. -/
def advance (cursor : Cursor) : Cursor :=
  cursor.advanceBy 1

/-- The cursor one character further on. -/
def advanceChar (cursor : Cursor) : Cursor :=
  cursor.advanceBy (Text.charWidth cursor.current)

/-- The cursor at the next byte that is not of a class. -/
def skipWhile (cursor : Cursor) (isMember : UInt8 → Bool) : Cursor :=
  cursor.advanceBy (cursor.rest.takeWhile isMember).length

/-- The cursor at the next line feed. -/
def skipLine (cursor : Cursor) : Cursor :=
  cursor.advanceBy (lineLength cursor.rest)

/-- The cursor at the next byte that needs a closer look within a literal. -/
def skipPlain (cursor : Cursor) (quote : UInt8) : Cursor :=
  cursor.advanceBy (plainLength quote cursor.rest)

/-- The cursor behind the next `*/`, and whether there is one. -/
def skipComment (cursor : Cursor) : Bool × Cursor :=
  match commentEnd? cursor.rest with
  | some length => (true, cursor.advanceBy length)
  | none => (false, cursor.advanceBy cursor.rest.length)

/-- The cursor behind the blanks. -/
def skipBlanks (cursor : Cursor) : Cursor :=
  cursor.advanceBy (blankLength cursor.rest)

theorem length_advanceBy_lt {cursor : Cursor} {distance : Nat}
    (notAtEnd : cursor.rest ≠ []) (h : 0 < distance) :
    (cursor.advanceBy distance).rest.length < cursor.rest.length := by
  have := List.length_pos_iff.mpr notAtEnd
  simp only [advanceBy, List.length_drop]
  omega

end Cursor

end CLexicon
