import CLexicon.Scan.Cursor
import CLexicon.Scan.LexemeLength

/-!
# Scanning

A `Scanner` cuts a source text into tokens. Comments and literals are whole
tokens, so no operator is found inside them. From token to token it remembers
only what it knows of the line: whether a `#` would start a directive, and
whether the text of a directive is due.

* `Scanner.next`: the next token, and the scanner behind it;
* `Scanner.tokens`: all tokens up to the end of the text.
-/

namespace CLexicon

/-- What is known of the line. -/
structure LineState where
  /-- Whether nothing but trivia has come on the line. -/
  atStart : Bool := true
  /-- Whether the line is a directive. -/
  inDirective : Bool := false
  deriving DecidableEq, Repr

/-- The spellings that start a directive: `#` and its digraph `%:`. -/
def directiveMarks : List (List UInt8) :=
  [[0x23], [0x25, 0x3A]]

/-- What is known of the line after a token with these bytes. -/
def LineState.after (line : LineState) (foldDirectives : Bool) (tag : Tag)
    (bytes : List UInt8) : LineState :=
  if tag = .newline then {}
  else if tag.isTrivia then line
  else
    let startsDirective :=
      foldDirectives && line.atStart && tag = .operator &&
        directiveMarks.contains bytes
    ⟨false, line.inDirective || startsDirective⟩

/-- A place in a source text, with what is known of the line there. -/
structure Scanner where
  table : OperatorTable
  /-- Whether the text of a directive is one token. -/
  foldDirectives : Bool := true
  cursor : Cursor
  line : LineState := {}

namespace Scanner

/-- The next token. -/
def peek (scanner : Scanner) : Token :=
  lexeme scanner.table scanner.line.inDirective scanner.cursor.rest

/-- The scanner behind a token that is next. -/
def behind (scanner : Scanner) (token : Token) : Scanner :=
  { scanner with
    cursor := scanner.cursor.advanceBy token.length
    line := scanner.line.after scanner.foldDirectives token.tag
      (scanner.cursor.rest.take token.length) }

/-- The next token, and the scanner behind it. At the end of the text the
scanner stays where it is. -/
def next (scanner : Scanner) : Token × Scanner :=
  let token := scanner.peek
  if scanner.cursor.isAtEnd then (token, scanner)
  else (token, scanner.behind token)

theorem length_behind_peek_lt {scanner : Scanner}
    (h : ¬scanner.cursor.isAtEnd) :
    (scanner.behind scanner.peek).cursor.rest.length <
      scanner.cursor.rest.length := by
  have notAtEnd : scanner.cursor.rest ≠ [] := by
    simpa [Cursor.isAtEnd] using h
  exact Cursor.length_advanceBy_lt notAtEnd (lexeme_pos _ _ notAtEnd)

/-- All tokens up to the end of the text, and the scanner there. -/
def run (scanner : Scanner) : List Token × Scanner :=
  if _notDone : scanner.cursor.isAtEnd then ([], scanner)
  else
    let token := scanner.peek
    let (tokens, last) := run (scanner.behind token)
    (token :: tokens, last)
termination_by scanner.cursor.rest.length
decreasing_by exact length_behind_peek_lt _notDone

/-- All tokens up to the end of the text. -/
def tokens (scanner : Scanner) : List Token :=
  scanner.run.1

end Scanner

end CLexicon
