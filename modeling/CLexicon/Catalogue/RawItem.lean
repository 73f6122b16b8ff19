import CLexicon.Catalogue.Category

/-!
# Raw catalogue items

A `RawItem` is one item of a catalogue as it was written. Nothing about it is
checked: ids may repeat, tokens may carry backticks and blanks, and a
description may be nothing but an anchor that points at another item.
-/

namespace CLexicon

/-- One item of a catalogue as it was written. -/
structure RawItem where
  id : String
  token : String
  category : Category
  description : String := ""
  sample : Option String := none
  deriving DecidableEq, Repr

end CLexicon
