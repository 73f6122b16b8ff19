import CLexicon.Dictionary.Constants
import CLexicon.Dictionary.FunctionsAToC
import CLexicon.Dictionary.FunctionsDToK
import CLexicon.Dictionary.FunctionsLToR
import CLexicon.Dictionary.FunctionsSToW
import CLexicon.Dictionary.Keywords
import CLexicon.Dictionary.Operators
import CLexicon.Dictionary.Threads

/-!
# The dictionary of C

The raw items of the catalogue that is used where no other is given:
keywords, operators, and the identifiers of the standard library.
-/

namespace CLexicon

/-- The raw items of the dictionary of C, in its order. -/
def dictionary : List RawItem :=
  Dictionary.keywords ++ Dictionary.operators ++
  Dictionary.functionsAToC ++ Dictionary.functionsDToK ++
  Dictionary.functionsLToR ++ Dictionary.functionsSToW ++
  Dictionary.threads ++ Dictionary.constants

end CLexicon
