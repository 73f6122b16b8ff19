/-!
# Token categories

Which part of the C grammar a token belongs to, and which spellings a category
admits: `Category.accepts`.
-/

namespace CLexicon

/-- The part of the C grammar that a token belongs to. -/
inductive Category where
  | keyword
  | operator
  | identifier
  deriving DecidableEq, Repr, Hashable

namespace Category

/-- All categories, in the order in which a lookup tries them. -/
def all : List Category :=
  [keyword, operator, identifier]

/-- The name of a category. -/
def name : Category → String
  | keyword => "keyword"
  | operator => "operator"
  | identifier => "identifier"

/-- The category of a name. -/
def ofName? (name : String) : Option Category :=
  all.find? fun category => category.name = name

/-- Whether a character can start a word. -/
def isWordStart (c : Char) : Bool :=
  c.isAlpha || c = '_'

/-- Whether a character can go on in a word. -/
def isWordChar (c : Char) : Bool :=
  c.isAlphanum || c = '_'

/-- A word is an ASCII letter or underscore, followed by ASCII letters, digits
and underscores. -/
def isWord : List Char → Bool
  | [] => false
  | c :: rest => isWordStart c && rest.all isWordChar

/-- Whether a character is ASCII punctuation. -/
def isPunctuation (c : Char) : Bool :=
  '!' ≤ c && c ≤ '~' && !c.isAlphanum

/-- A run of punctuation is one or more ASCII punctuation characters. -/
def isPunctuationRun (spelling : List Char) : Bool :=
  !spelling.isEmpty && spelling.all isPunctuation

/-- Whether a spelling can be one of a token of the category: keywords and
identifiers are words, and operators are runs of punctuation. -/
def accepts (category : Category) (spelling : String) : Bool :=
  match category with
  | keyword | identifier => isWord spelling.toList
  | operator => isPunctuationRun spelling.toList

end Category

end CLexicon
