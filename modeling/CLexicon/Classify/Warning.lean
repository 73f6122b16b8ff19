import CLexicon.Report.Diagnostic
import CLexicon.Scan.Tag

/-!
# Warnings about source text

A comment or a literal that is not closed is a token like any other, and
brings a warning with it.
-/

namespace CLexicon

/-- What was left open. -/
inductive Unclosed where
  | comment
  | string
  | char
  deriving DecidableEq, Repr

namespace Unclosed

/-- What a token leaves open. -/
def ofTag? : Tag → Option Unclosed
  | .openComment => some comment
  | .openString => some string
  | .openChar => some char
  | _ => none

/-- The code for what was left open. -/
def code : Unclosed → Code
  | comment => .unterminatedComment
  | string | char => .unterminatedLiteral

/-- The message for what was left open. -/
def message : Unclosed → String
  | comment => "unterminated block comment"
  | string => "unterminated string literal"
  | char => "unterminated character constant"

/-- What is said at the place itself. -/
def labelMessage : Unclosed → String
  | comment => "comment starts here"
  | string => "missing closing `\"`"
  | char => "missing closing `'`"

/-- What there is to add. -/
def notes : Unclosed → List String
  | comment => ["the rest of the input was read as comment text"]
  | string => ["string literals cannot span lines without a trailing `\\`"]
  | char => []

/-- The warning about something left open at a span. -/
def toDiagnostic (unclosed : Unclosed) (span : Span) : Diagnostic :=
  { code := unclosed.code
    message := unclosed.message
    labels := [⟨span, unclosed.labelMessage⟩]
    notes := unclosed.notes }

end Unclosed

end CLexicon
