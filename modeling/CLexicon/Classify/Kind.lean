import CLexicon.Scan.Tag

/-!
# Kinds of spans

What a piece of source text is for a reader of it. `Kind.isCatalogued` tells
which kinds may come with an entry of a catalogue.
-/

namespace CLexicon

/-- What a span of source text is. -/
inductive Kind where
  | keyword
  | operator
  | identifier
  | number
  | stringLiteral
  | charLiteral
  | comment
  | whitespace
  /-- The text of a directive. -/
  | directive
  /-- A block comment that runs to the end of the text. -/
  | unterminatedComment
  /-- A literal that the line or the text cuts off. -/
  | unterminatedLiteral
  /-- A character that starts no token. -/
  | other
  deriving DecidableEq, Repr

namespace Kind

/-- All kinds of spans. -/
def all : List Kind :=
  [keyword, operator, identifier, number, stringLiteral, charLiteral, comment,
   whitespace, directive, unterminatedComment, unterminatedLiteral, other]

/-- The name of a kind. -/
def name : Kind → String
  | keyword => "keyword"
  | operator => "operator"
  | identifier => "identifier"
  | number => "number"
  | stringLiteral => "string_literal"
  | charLiteral => "char_literal"
  | comment => "comment"
  | whitespace => "whitespace"
  | directive => "directive"
  | unterminatedComment => "unterminated_comment"
  | unterminatedLiteral => "unterminated_literal"
  | other => "other"

/-- Whether spans of a kind may come with an entry. -/
def isCatalogued : Kind → Bool
  | keyword | operator | identifier => true
  | _ => false

/-- The kind of the spans of tokens for which no catalogue is asked. -/
def ofTag : Tag → Kind
  | .word => identifier
  | .operator => operator
  | .number => number
  | .string => stringLiteral
  | .char => charLiteral
  | .directiveBody => directive
  | .blank | .newline => whitespace
  | .lineComment | .blockComment => comment
  | .openComment => unterminatedComment
  | .openString | .openChar => unterminatedLiteral
  | .unknown | .endOfText => other

end Kind

end CLexicon
