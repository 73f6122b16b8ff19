import CLexicon.Catalogue.RawItem

/-!
# Layout of texts

How the longer texts of the dictionary are written down: `paragraph` joins
pieces of prose, and `lines` joins lines of code.
-/

namespace CLexicon.Dictionary

/-- Pieces of prose as one text. -/
def paragraph (pieces : List String) : String :=
  String.intercalate " " pieces

/-- Lines of code as one text. -/
def lines (pieces : List String) : String :=
  String.intercalate "\n" pieces

end CLexicon.Dictionary
