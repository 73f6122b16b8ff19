import CLexicon.Catalogue.Entry
import CLexicon.Operators.Digraph
import CLexicon.Operators.Trie
import CLexicon.Text.Encoding
import Std.Data.HashMap

/-!
# The lexicon

A `Lexicon` answers questions about the entries of a catalogue. It holds a
table of spellings for each category, and a trie of the operator spellings.

* `Lexicon.lookupIn?`, `Lexicon.lookup?`: the entry that a spelling leads to.
  The spelling of an entry itself goes before an alias, and an earlier entry
  before a later one;
* `Lexicon.operatorAt?`: the longest operator at a place of some bytes;
* `Lexicon.operatorTable`: the operators as a scanner sees them.
-/

namespace CLexicon

/-- The entries that the spellings of one category lead to. -/
abbrev SpellingTable := Std.HashMap String Entry

namespace SpellingTable

/-- The spellings of a category with their entries, those that count more
first: the spellings of its own entries, then the aliases written under it. -/
def pairs (catalogue : Catalogue) (category : Category) :
    List (String × Entry) :=
  (catalogue.ofCategory category).map (fun entry => (entry.spelling, entry)) ++
  catalogue.entries.flatMap fun entry =>
    (entry.aliasesIn category).map fun spelling => (spelling, entry)

/-- The table in which each spelling leads to the first entry it is paired
with. -/
def ofPairs (pairs : List (String × Entry)) : SpellingTable :=
  pairs.foldl (fun table (spelling, entry) => table.insertIfNew spelling entry)
    ∅

private theorem getElem?_foldl (pairs : List (String × Entry))
    (table : SpellingTable) (spelling : String) :
    (pairs.foldl (fun table (spelling, entry) =>
      table.insertIfNew spelling entry) table)[spelling]? =
      (table[spelling]?).or (pairs.lookup spelling) := by
  induction pairs generalizing table with
  | nil => simp
  | cons pair rest ih =>
    rw [List.foldl_cons, ih, Std.HashMap.getElem?_insertIfNew,
      List.lookup_cons]
    by_cases same : pair.1 = spelling
    · by_cases isThere : spelling ∈ table <;> simp [same, isThere]
    · have : (spelling == pair.1) = false := by simp [Ne.symm same]
      simp [same, this]

/-- A spelling leads to the first entry it is paired with. -/
theorem getElem?_ofPairs (pairs : List (String × Entry)) (spelling : String) :
    (ofPairs pairs)[spelling]? = pairs.lookup spelling := by
  rw [ofPairs, getElem?_foldl]
  simp

/-- The table of a category. -/
def ofCatalogue (catalogue : Catalogue) (category : Category) :
    SpellingTable :=
  ofPairs (pairs catalogue category)

end SpellingTable

/-- A catalogue, with tables for its spellings. -/
structure Lexicon where
  catalogue : Catalogue
  keywords : SpellingTable
  identifiers : SpellingTable
  operators : SpellingTable
  trie : Trie Entry

namespace Lexicon

/-- The operator spellings of an entry: its own, if it is an operator, and the
aliases written as operators. -/
def operatorSpellings (entry : Entry) : List String :=
  (if entry.category = .operator then [entry.spelling] else []) ++
    entry.aliasesIn .operator

/-- All operator spellings of a catalogue with the entries that the table of
operators has for them, entry by entry. -/
def operatorPairs (catalogue : Catalogue) (operators : SpellingTable) :
    List (List UInt8 × Entry) :=
  catalogue.entries.flatMap fun entry =>
    (operatorSpellings entry).map fun spelling =>
      (Text.bytes spelling, (operators[spelling]?).getD entry)

/-- The lexicon of a catalogue. -/
def ofCatalogue (catalogue : Catalogue) : Lexicon :=
  let operators := SpellingTable.ofCatalogue catalogue .operator
  { catalogue
    keywords := SpellingTable.ofCatalogue catalogue .keyword
    identifiers := SpellingTable.ofCatalogue catalogue .identifier
    operators
    trie := Trie.ofList (operatorPairs catalogue operators) }

/-- The entry that a spelling leads to in one category. -/
def lookupIn? (lexicon : Lexicon) (category : Category) (spelling : String) :
    Option Entry :=
  match category with
  | .keyword => lexicon.keywords[spelling]?
  | .operator => lexicon.operators[spelling]?
  | .identifier => lexicon.identifiers[spelling]?

/-- The entry that a spelling leads to, in the first category that has one. -/
def lookup? (lexicon : Lexicon) (spelling : String) : Option Entry :=
  Category.all.findSome? fun category => lexicon.lookupIn? category spelling

/-- The longest operator spelling at an offset of some bytes, as its entry and
length. -/
def operatorAt? (lexicon : Lexicon) (buffer : List UInt8) (offset : Nat) :
    Option (Entry × Nat) :=
  if offset ≤ buffer.length then
    lexicon.trie.longestMatch? (buffer.drop offset)
  else
    none

/-- The operators as a scanner sees them. -/
def operatorTable (lexicon : Lexicon) : OperatorTable :=
  lexicon.trie.toTable

/-- The operator that a digraph means. -/
def digraphEntry? (lexicon : Lexicon) (spelling : String) : Option Entry := do
  lexicon.lookupIn? .operator (← digraphMeaning? spelling)

/-- The entry with an id. -/
def entry? (lexicon : Lexicon) (id : String) : Option Entry :=
  lexicon.catalogue.get? id

end Lexicon

end CLexicon
