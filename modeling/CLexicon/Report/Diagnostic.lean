import CLexicon.Report.Code
import CLexicon.Span

/-!
# Diagnostics

A `Diagnostic` is one reported defect: a code, how severe it is, a message,
the places it is about, and notes. Diagnostics of a catalogue have no places,
those of a source text have one.
-/

namespace CLexicon

/-- How severe a diagnostic is. -/
inductive Severity where
  | error
  | warning
  deriving DecidableEq, Repr

/-- The word for a severity. -/
def Severity.name : Severity → String
  | .error => "error"
  | .warning => "warning"

/-- A place in the source text, and what is to be said about it. -/
structure Label where
  span : Span
  message : String
  deriving DecidableEq, Repr

/-- One reported defect. -/
structure Diagnostic where
  code : Code
  severity : Severity := .warning
  message : String := ""
  labels : List Label := []
  notes : List String := []
  deriving DecidableEq, Repr

namespace Diagnostic

/-- The same diagnostic, reported as an error. -/
def asError (diagnostic : Diagnostic) : Diagnostic :=
  { diagnostic with severity := .error }

/-- Whether the diagnostic is reported as an error. -/
def isError (diagnostic : Diagnostic) : Bool :=
  diagnostic.severity = .error

/-- The first place that the diagnostic is about. -/
def primarySpan? (diagnostic : Diagnostic) : Option Span :=
  diagnostic.labels.head?.map Label.span

/-- Where the first place starts, and zero for a diagnostic without one. -/
def sortKey (diagnostic : Diagnostic) : Nat :=
  (diagnostic.primarySpan?.map Span.start).getD 0

/-- The diagnostic in one line. -/
def headline (diagnostic : Diagnostic) : String :=
  diagnostic.severity.name ++ " [" ++ diagnostic.code.printed ++ "]: " ++
    diagnostic.message

end Diagnostic

end CLexicon
