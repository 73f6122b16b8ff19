import CLexicon.Classify.ClassifiedSpan
import CLexicon.Classify.Warning
import CLexicon.Lexicon
import CLexicon.Report.Queue
import CLexicon.Scan.Scanner

/-!
# Classifying source text

A `Lexer` goes through a source text and tells for each token what it is,
with the help of a lexicon. Warnings collect inside it until they are taken.

* `classify`: the span of a token, and the entry that the lexicon has for it;
* `Lexer.next`, `Lexer.takeDiagnostics`: going on, and taking the warnings;
* `lex`: all spans of a text, and all warnings about it.
-/

namespace CLexicon

/-- How a source text is scanned. -/
structure ScanOptions where
  /-- Whether the text of a directive is one span. -/
  foldDirectives : Bool := true
  /-- Whether spans of blank space are given. -/
  keepWhitespace : Bool := true
  /-- The most warnings that are kept; zero is no limit. -/
  warningLimit : Nat := 0
  deriving DecidableEq, Repr

/-- The options for a scan without spans of blank space. -/
def ScanOptions.significant : ScanOptions :=
  { keepWhitespace := false }

/-- What a token is. A word is a keyword if the lexicon has it as one, and an
identifier otherwise. -/
def classify (lexicon : Lexicon) (tag : Tag) (text : String) (span : Span) :
    ClassifiedSpan :=
  match tag with
  | .word =>
    match lexicon.lookupIn? .keyword text with
    | some entry => ⟨span, .keyword, some entry⟩
    | none => ⟨span, .identifier, lexicon.lookupIn? .identifier text⟩
  | .operator =>
    match lexicon.lookupIn? .operator text with
    | some entry => ⟨span, .operator, some entry⟩
    | none => ⟨span, .other, none⟩
  | tag => ⟨span, .ofTag tag, none⟩

/-- A place in a source text, with the warnings about what lies before it. -/
structure Lexer where
  lexicon : Lexicon
  scanner : Scanner
  keepWhitespace : Bool
  warnings : Queue

namespace Lexer

/-- The lexer at the start of a source text. -/
def ofText (lexicon : Lexicon) (source : String) (options : ScanOptions) :
    Lexer where
  lexicon
  scanner :=
    { table := lexicon.operatorTable
      foldDirectives := options.foldDirectives
      cursor := Cursor.ofText source }
  keepWhitespace := options.keepWhitespace
  warnings := { policy := ⟨options.warningLimit, false⟩ }

/-- The span of a token that is next. -/
def tokenSpan (lexer : Lexer) (token : Token) : Span :=
  let start := lexer.scanner.cursor.position
  ⟨start, start + token.length⟩

/-- What a token that is next is. -/
def classifyToken (lexer : Lexer) (token : Token) : ClassifiedSpan :=
  let text := Text.ofBytes (lexer.scanner.cursor.rest.take token.length)
  classify lexer.lexicon token.tag text (lexer.tokenSpan token)

/-- The lexer behind a token that is next, with the warning that it brings. -/
def behind (lexer : Lexer) (token : Token) : Lexer :=
  { lexer with
    scanner := lexer.scanner.behind token
    warnings :=
      match Unclosed.ofTag? token.tag with
      | some unclosed =>
        (lexer.warnings.push
          (unclosed.toDiagnostic (lexer.tokenSpan token))).2
      | none => lexer.warnings }

/-- The next span, and the lexer behind it. Spans of blank space are passed
over unless they are kept. -/
def next (lexer : Lexer) : Option ClassifiedSpan × Lexer :=
  if _notDone : lexer.scanner.cursor.isAtEnd then (none, lexer)
  else
    let token := lexer.scanner.peek
    let classified := lexer.classifyToken token
    if classified.kind = .whitespace ∧ !lexer.keepWhitespace then
      next (lexer.behind token)
    else
      (some classified, lexer.behind token)
termination_by lexer.scanner.cursor.rest.length
decreasing_by exact Scanner.length_behind_peek_lt _notDone

/-- Going on leaves less of the text. -/
theorem length_next_lt {lexer after : Lexer} {classified : ClassifiedSpan}
    (h : lexer.next = (some classified, after)) :
    after.scanner.cursor.rest.length <
      lexer.scanner.cursor.rest.length := by
  fun_induction next lexer with
  | case1 => cases h
  | case2 lexer notDone _ _ _ ih =>
    exact Nat.lt_trans (ih h) (Scanner.length_behind_peek_lt notDone)
  | case3 lexer notDone _ _ _ =>
    obtain ⟨_, rfl⟩ := Prod.mk.inj h
    exact Scanner.length_behind_peek_lt notDone

/-- All spans that are left, and the lexer at the end. -/
def run (lexer : Lexer) : List ClassifiedSpan × Lexer :=
  match _next : lexer.next with
  | (none, last) => ([], last)
  | (some classified, after) =>
    let (spans, last) := run after
    (classified :: spans, last)
termination_by lexer.scanner.cursor.rest.length
decreasing_by exact length_next_lt _next

/-- The warnings that wait, in source order, and the lexer without them. -/
def takeDiagnostics (lexer : Lexer) : List Diagnostic × Lexer :=
  let (taken, warnings) := lexer.warnings.flush
  (taken, { lexer with warnings })

/-- The number of warnings that the limit turned away. -/
def droppedWarnings (lexer : Lexer) : Nat :=
  lexer.warnings.dropped

/-- The span that holds an offset, found by going no further than needed. -/
def seek (lexer : Lexer) (offset : Nat) : Option ClassifiedSpan :=
  match _next : lexer.next with
  | (none, _) => none
  | (some classified, after) =>
    if offset < classified.span.start then none
    else if classified.span.contains offset then some classified
    else seek after offset
termination_by lexer.scanner.cursor.rest.length
decreasing_by exact length_next_lt _next

end Lexer

/-- All that is found in a source text: its spans in source order, and the
warnings about it. -/
structure Classification where
  spans : List ClassifiedSpan := []
  diagnostics : List Diagnostic := []
  deriving DecidableEq, Repr

namespace Classification

/-- The spans that are not blank space. -/
def significant (found : Classification) : List ClassifiedSpan :=
  found.spans.filter (·.kind ≠ .whitespace)

/-- The spans that stand for an entry. -/
def catalogued (found : Classification) : List ClassifiedSpan :=
  found.spans.filter (·.entry.isSome)

/-- The span that holds an offset. -/
def spanAt? (found : Classification) (offset : Nat) : Option ClassifiedSpan :=
  CLexicon.spanAt? found.spans offset

/-- Whether there are warnings. -/
def hasWarnings (found : Classification) : Bool :=
  !found.diagnostics.isEmpty

end Classification

/-- Classifies all of a source text. -/
def lex (lexicon : Lexicon) (source : String) (options : ScanOptions := {}) :
    Classification :=
  let (spans, last) := (Lexer.ofText lexicon source options).run
  ⟨spans, last.takeDiagnostics.1⟩

end CLexicon
