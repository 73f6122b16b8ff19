import CLexicon.Report.Diagnostic
import CLexicon.Text.Line

/-!
# Reports on a terminal

How diagnostics are shown to people. A report is a list of `Piece`s, each with
the style it may be shown in; only `render` knows of colours.

* `allPieces`: diagnostics, with their places and notes;
* `summaryPieces`: how many errors and warnings there were;
* `render`: the pieces as text, with escape sequences or without.
-/

namespace CLexicon

/-- When a report is coloured. -/
inductive ColorMode where
  /-- On a terminal only. -/
  | auto
  | always
  | never
  deriving DecidableEq, Repr

/-- Whether a report is coloured, given whether it goes to a terminal. -/
def ColorMode.usesColor (mode : ColorMode) (isTerminal : Bool) : Bool :=
  match mode with
  | .auto => isTerminal
  | .always => true
  | .never => false

namespace Report

/-- How a piece of a report may be set off. -/
inductive Style where
  | error
  | warning
  | bold
  deriving DecidableEq, Repr

/-- The escape sequence that starts a style. -/
def Style.opening : Style → String
  | .error => "\x1b[1;31m"
  | .warning => "\x1b[1;33m"
  | .bold => "\x1b[1m"

/-- The escape sequence that ends every style. -/
def closing : String :=
  "\x1b[0m"

/-- The style for a severity. -/
def Style.ofSeverity : Severity → Style
  | .error => .error
  | .warning => .warning

/-- A piece of a report: a text, and the style it may be shown in. -/
structure Piece where
  text : String
  style : Option Style := none
  deriving DecidableEq, Repr

/-- A piece as it is written. -/
def Piece.render (color : Bool) (piece : Piece) : String :=
  match color, piece.style with
  | true, some style => style.opening ++ piece.text ++ closing
  | _, _ => piece.text

/-- A report as it is written. -/
def render (color : Bool) (pieces : List Piece) : String :=
  String.join (pieces.map (Piece.render color))

/-- The source text that the places of a report lie in. -/
structure Source where
  path : String
  text : String
  lines : Text.LineTable

/-- A source text under its path. -/
def Source.ofText (path text : String) : Source :=
  ⟨path, text, Text.LineTable.ofText text⟩

/-- Where a label points: at path, line and column of the source text, or at
byte offsets when there is none. -/
def labelPlace (source : Option Source) (label : Label) : String :=
  match source with
  | some source =>
    let start := source.lines.position source.text label.span.start
    source.path ++ ":" ++ toString start.line ++ ":" ++ toString start.column
  | none => label.span.render

/-- The line of the source text in which a label starts. -/
def labelLine? (source : Option Source) (label : Label) :
    Option String := do
  let source ← source
  source.lines.lineText? source.text (source.lines.lineOf label.span.start)

/-- The lines for one label: the place and the message, and below them the
line of the source text. -/
def labelPieces (source : Option Source) (severity : Severity)
    (label : Label) : List Piece :=
  [{ text := "  --> " },
   { text := labelPlace source label ++ ": " },
   { text := label.message, style := some (.ofSeverity severity) },
   { text := "\n" }] ++
  match labelLine? source label with
  | some line => [{ text := "   | " ++ line ++ "\n" }]
  | none => []

/-- The line for one note. -/
def notePieces (note : String) : List Piece :=
  [{ text := "  = " },
   { text := "note", style := some .bold },
   { text := ": " ++ note ++ "\n" }]

/-- The lines for one diagnostic. -/
def diagnosticPieces (source : Option Source) (diagnostic : Diagnostic) :
    List Piece :=
  let style := Style.ofSeverity diagnostic.severity
  [{ text := diagnostic.severity.name, style := some style },
   { text := "[" ++ diagnostic.code.printed ++ "]", style := some .bold },
   { text := ": " ++ diagnostic.message ++ "\n" }] ++
  diagnostic.labels.flatMap (labelPieces source diagnostic.severity) ++
  diagnostic.notes.flatMap notePieces

/-- The lines for all diagnostics, in order. -/
def allPieces (source : Option Source) (diagnostics : List Diagnostic) :
    List Piece :=
  diagnostics.flatMap (diagnosticPieces source)

/-- The line that counts the diagnostics of one severity, if there are any. -/
def countPieces (severity : Severity) (count : Nat) : List Piece :=
  if count = 0 then []
  else
    let plural := if count = 1 then "" else "s"
    [{ text := severity.name, style := some (.ofSeverity severity) },
     { text := ": " ++ toString count ++ " " ++ severity.name ++ plural ++
         " emitted\n" }]

/-- How many errors and how many warnings there were. -/
def summaryPieces (diagnostics : List Diagnostic) : List Piece :=
  let errors := diagnostics.countP Diagnostic.isError
  let warnings := diagnostics.countP fun d => d.severity = .warning
  countPieces .error errors ++ countPieces .warning warnings

end Report

end CLexicon
