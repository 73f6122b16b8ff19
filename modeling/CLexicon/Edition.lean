import CLexicon.Catalogue.Normalize
import CLexicon.Classify.Lexer

/-!
# Editions

An `Edition` is a lexicon with the issues of the catalogue that it was made
from. A `Session` works with one edition at a time: loading another catalogue
puts a new edition, with the next number, in its place, and whoever holds the
old one goes on with it.
-/

namespace CLexicon

/-- A lexicon, and what was wrong with its catalogue. -/
structure Edition where
  lexicon : Lexicon
  issues : List Issue
  /-- Zero for the first edition of a session, one more for each that follows.
  -/
  number : Nat := 0

namespace Edition

/-- The edition of a catalogue that was put in order. -/
def ofNormalized (normalized : Normalized) (number : Nat := 0) : Edition :=
  ⟨Lexicon.ofCatalogue normalized.catalogue, normalized.report, number⟩

/-- The issues as warnings, in their order. -/
def diagnostics (edition : Edition) : List Diagnostic :=
  edition.issues.map Issue.toDiagnostic

/-- Classifies all of a source text. -/
def classify (edition : Edition) (source : String) (options : ScanOptions) :
    Classification :=
  lex edition.lexicon source options

/-- The span of a source text that holds an offset. The text is scanned no
further than needed. -/
def spanAt? (edition : Edition) (source : String) (offset : Nat)
    (options : ScanOptions) : Option ClassifiedSpan :=
  (Lexer.ofText edition.lexicon source options).seek offset

end Edition

/-- Work with one edition at a time. -/
structure Session where
  edition : Edition
  options : ScanOptions := {}

namespace Session

/-- A session with the edition of a catalogue that was put in order. -/
def ofNormalized (normalized : Normalized) (options : ScanOptions := {}) :
    Session :=
  ⟨Edition.ofNormalized normalized, options⟩

/-- The session with the next edition in place. -/
def reload (session : Session) (normalized : Normalized) : Session :=
  { session with
    edition := Edition.ofNormalized normalized (session.edition.number + 1) }

/-- Classifies all of a source text. -/
def classify (session : Session) (source : String) : Classification :=
  session.edition.classify source session.options

/-- Classifies all of a source text but its blank space. -/
def classifySignificant (session : Session) (source : String) :
    Classification :=
  session.edition.classify source
    { session.options with keepWhitespace := false }

/-- The span of a source text that holds an offset. -/
def spanAt? (session : Session) (source : String) (offset : Nat) :
    Option ClassifiedSpan :=
  session.edition.spanAt? source offset session.options

/-- The entry that a spelling leads to, in the first category that has one. -/
def lookup? (session : Session) (spelling : String) : Option Entry :=
  session.edition.lexicon.lookup? spelling

/-- The entry that a spelling leads to in one category. -/
def lookupIn? (session : Session) (category : Category) (spelling : String) :
    Option Entry :=
  session.edition.lexicon.lookupIn? category spelling

/-- The entry with an id. -/
def entry? (session : Session) (id : String) : Option Entry :=
  session.edition.lexicon.entry? id

/-- What was wrong with the catalogue, as warnings. -/
def report (session : Session) : List Diagnostic :=
  session.edition.diagnostics

end Session

end CLexicon
