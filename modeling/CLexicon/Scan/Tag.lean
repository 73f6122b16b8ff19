/-!
# Kinds of tokens

What a scanner can tell about a piece of source text without a catalogue. A
defect is a kind of its own, so scanning never stops early.
-/

namespace CLexicon

/-- The kind of a token. -/
inductive Tag where
  /-- A letter or underscore, followed by letters, digits and underscores. -/
  | word
  /-- A number as the preprocessor sees it, such as `42`, `.5`, `1e+10`. -/
  | number
  /-- A string literal that is closed. -/
  | string
  /-- A character constant that is closed. -/
  | char
  /-- The longest operator that is there. -/
  | operator
  /-- The text of a directive behind its `#` or `%:`. -/
  | directiveBody
  /-- Spaces, tabs, form feeds and carriage returns within a line. -/
  | blank
  /-- A line feed, or a carriage return and a line feed. -/
  | newline
  /-- A comment from `//` to the end of the line. -/
  | lineComment
  /-- A comment between `/*` and `*/`. -/
  | blockComment
  /-- A comment from `/*` to the end of the text. -/
  | openComment
  /-- A string literal that the line or the text ends. -/
  | openString
  /-- A character constant that the line or the text ends. -/
  | openChar
  /-- A character that starts no token. -/
  | unknown
  /-- The end of the text. -/
  | endOfText
  deriving DecidableEq, Repr

namespace Tag

/-- All kinds of tokens. -/
def all : List Tag :=
  [word, number, string, char, operator, directiveBody, blank, newline,
   lineComment, blockComment, openComment, openString, openChar, unknown,
   endOfText]

/-- The number of a kind. Words and literals start at 0, punctuation at 16,
trivia at 32, and defects at 240; the end of the text is 255. -/
def toNat : Tag → Nat
  | word => 0
  | number => 1
  | string => 2
  | char => 3
  | operator => 16
  | directiveBody => 17
  | blank => 32
  | newline => 33
  | lineComment => 34
  | blockComment => 35
  | openComment => 240
  | openString => 241
  | openChar => 242
  | unknown => 243
  | endOfText => 255

/-- The words for a kind. -/
def name : Tag → String
  | word => "identifier"
  | number => "number"
  | string => "string literal"
  | char => "character constant"
  | operator => "punctuator"
  | directiveBody => "directive body"
  | blank => "whitespace"
  | newline => "newline"
  | lineComment => "line comment"
  | blockComment => "block comment"
  | openComment => "unterminated block comment"
  | openString => "unterminated string literal"
  | openChar => "unterminated character constant"
  | unknown => "unknown character"
  | endOfText => "end of input"

/-- Whether a token is blank space or a closed comment. -/
def isTrivia : Tag → Bool
  | blank | newline | lineComment | blockComment => true
  | _ => false

/-- Whether a token is a defect. -/
def isError (tag : Tag) : Bool :=
  240 ≤ tag.toNat && tag ≠ endOfText

end Tag

/-- A token: its kind and its length in bytes. It starts where the token
before it ends. -/
structure Token where
  tag : Tag
  length : Nat
  deriving DecidableEq, Repr

end CLexicon
