/-!
# Warning codes

Every defect that can be reported has a code. The first digit tells where it
comes from: `W1` codes come from a catalogue, `W2` codes from a source text.

* `Code.printed`, `Code.name`, `Code.description`: its three written forms;
* `Code.parse?`: the code that a text names.
-/

namespace CLexicon

/-- The code of a defect. -/
inductive Code where
  /-- A redirect points at an entry that does not exist. -/
  | danglingRedirect
  /-- Redirects point at each other. -/
  | redirectCycle
  /-- An entry repeats the id of another entry. -/
  | conflictingDuplicate
  /-- Two entries of one category share a spelling. -/
  | shadowedSpelling
  /-- An entry could not be repaired. -/
  | malformedEntry
  /-- A block comment is not closed. -/
  | unterminatedComment
  /-- A string or character literal is not closed. -/
  | unterminatedLiteral
  deriving DecidableEq, Repr, Hashable

namespace Code

/-- All codes, in the order of their printed forms. -/
def all : List Code :=
  [danglingRedirect, redirectCycle, conflictingDuplicate, shadowedSpelling,
   malformedEntry, unterminatedComment, unterminatedLiteral]

/-- The code as it is printed. -/
def printed : Code → String
  | danglingRedirect => "W1001"
  | redirectCycle => "W1002"
  | conflictingDuplicate => "W1003"
  | shadowedSpelling => "W1004"
  | malformedEntry => "W1005"
  | unterminatedComment => "W2001"
  | unterminatedLiteral => "W2002"

/-- The name of the defect. -/
def name : Code → String
  | danglingRedirect => "DanglingRedirect"
  | redirectCycle => "RedirectCycle"
  | conflictingDuplicate => "ConflictingDuplicate"
  | shadowedSpelling => "ShadowedSpelling"
  | malformedEntry => "MalformedEntry"
  | unterminatedComment => "UnterminatedComment"
  | unterminatedLiteral => "UnterminatedLiteral"

/-- What the defect is, in one line. -/
def description : Code → String
  | danglingRedirect =>
    "a redirect stub points at an entry id that does not exist"
  | redirectCycle =>
    "redirect stubs point at each other without reaching an entry"
  | conflictingDuplicate =>
    "an entry repeats another entry's canonical id and spelling"
  | shadowedSpelling =>
    "two entries of the same category share one spelling"
  | malformedEntry =>
    "an entry was dropped because it could not be repaired"
  | unterminatedComment =>
    "a block comment is not closed before the end of input"
  | unterminatedLiteral =>
    "a string or character literal is not closed"

/-- Whether the defect is one of a catalogue. -/
def isCatalogue : Code → Bool
  | danglingRedirect | redirectCycle | conflictingDuplicate
  | shadowedSpelling | malformedEntry => true
  | unterminatedComment | unterminatedLiteral => false

/-- Whether the defect is one of a source text. -/
def isLexical (code : Code) : Bool :=
  !code.isCatalogue

/-- A text with its ASCII letters in upper case. -/
def upperCase (text : String) : List Char :=
  text.toList.map Char.toUpper

/-- The code that a text names: by the printed form, in which the case of
ASCII letters does not matter, or by the exact name. -/
def parse? (text : String) : Option Code :=
  all.find? fun code =>
    upperCase text = code.printed.toList || text = code.name

end Code

end CLexicon
