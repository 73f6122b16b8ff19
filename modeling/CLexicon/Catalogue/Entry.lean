import CLexicon.Catalogue.Category

/-!
# Catalogue entries

An `Entry` is one token of a catalogue after its items were put in order, and
an `Alias` another spelling that leads to it.

* `Entry.answersTo`, `Entry.aliasesIn`: the spellings of an entry;
* `Entry.headline`: an entry in one line;
* `Catalogue`: the entries in their order, with `Catalogue.get?` by id.
-/

namespace CLexicon

/-- Another spelling of an entry. It keeps the category that it was written
under, which may differ from that of the entry. -/
structure Alias where
  spelling : String
  category : Category
  deriving DecidableEq, Repr, Hashable

/-- One token of a catalogue. -/
structure Entry where
  /-- The id, unique within the catalogue. -/
  id : String
  /-- The id as the item had it. It differs from `id` only where items with
  other spellings share it. -/
  rawId : String
  spelling : String
  category : Category
  description : String
  sample : Option String := none
  aliases : List Alias := []
  deriving DecidableEq, Repr

namespace Entry

/-- The aliases that were written under a category. -/
def aliasesIn (entry : Entry) (category : Category) : List String :=
  (entry.aliases.filter (·.category = category)).map Alias.spelling

/-- Whether a spelling is the entry's own or one of its aliases. -/
def answersTo (entry : Entry) (spelling : String) : Bool :=
  entry.spelling = spelling ||
    entry.aliases.any fun a => a.spelling = spelling

/-- Whether the entry's own spelling is this one, in this category. -/
def isSpelled (entry : Entry) (category : Category) (spelling : String) :
    Bool :=
  entry.category = category && entry.spelling = spelling

/-- The entry in one line. -/
def headline (entry : Entry) : String :=
  entry.category.name ++ " `" ++ entry.spelling ++ "` (" ++ entry.id ++ ")"

end Entry

/-- The entries of a catalogue in their order. -/
structure Catalogue where
  entries : List Entry := []
  deriving DecidableEq, Repr

namespace Catalogue

/-- The entry with an id. -/
def get? (catalogue : Catalogue) (id : String) : Option Entry :=
  catalogue.entries.find? (·.id = id)

/-- The entries of a category, in their order. -/
def ofCategory (catalogue : Catalogue) (category : Category) : List Entry :=
  catalogue.entries.filter (·.category = category)

end Catalogue

end CLexicon
