/-!
# Classes of bytes

The bytes that mean something in C source text, and the classes of bytes that
tokens are made of. All of them are ASCII.
-/

namespace CLexicon.Byte

/-- Line feed, which ends a line. -/
abbrev lineFeed : UInt8 := 0x0A

/-- Carriage return, which ends a line together with a line feed. -/
abbrev carriageReturn : UInt8 := 0x0D

/-- The double quote. -/
abbrev doubleQuote : UInt8 := 0x22

/-- The single quote. -/
abbrev singleQuote : UInt8 := 0x27

/-- The asterisk. -/
abbrev star : UInt8 := 0x2A

/-- The full stop. -/
abbrev dot : UInt8 := 0x2E

/-- The slash. -/
abbrev slash : UInt8 := 0x2F

/-- The backslash. -/
abbrev backslash : UInt8 := 0x5C

/-- Space, tab, vertical tab and form feed. -/
def isBlank (b : UInt8) : Bool :=
  b = 0x20 || b = 0x09 || b = 0x0B || b = 0x0C

/-- The decimal digits. -/
def isDigit (b : UInt8) : Bool :=
  0x30 ≤ b && b ≤ 0x39

/-- The ASCII letters. -/
def isLetter (b : UInt8) : Bool :=
  0x41 ≤ b && b ≤ 0x5A || 0x61 ≤ b && b ≤ 0x7A

/-- What a word starts with: a letter or the underscore. -/
def isWordStart (b : UInt8) : Bool :=
  isLetter b || b = 0x5F

/-- What a word goes on with: a letter, a digit or the underscore. -/
def isWord (b : UInt8) : Bool :=
  isWordStart b || isDigit b

/-- What a number goes on with, signs apart. -/
def isNumber (b : UInt8) : Bool :=
  isWord b || b = dot

/-- The letters that a sign may follow in a number: `e`, `E`, `p`, `P`. -/
def isExponent (b : UInt8) : Bool :=
  b = 0x65 || b = 0x45 || b = 0x70 || b = 0x50

/-- Plus and minus. -/
def isSign (b : UInt8) : Bool :=
  b = 0x2B || b = 0x2D

/-- The two quotes. -/
def isQuote (b : UInt8) : Bool :=
  b = doubleQuote || b = singleQuote

/-- What stops the plain part of a literal with this quote: the quote, a
backslash, a line feed or a carriage return. -/
def stopsLiteral (quote b : UInt8) : Bool :=
  b = quote || b = backslash || b = lineFeed || b = carriageReturn

end CLexicon.Byte
