/-!
# Digraphs

Six operators of C are other spellings of punctuators: `<:` means `[`. A
digraph is matched like any operator; `digraphMeaning?` tells what it means.
-/

namespace CLexicon

/-- The digraphs of C, each with the punctuator that it means. -/
def digraphs : List (String × String) :=
  [("<:", "["), (":>", "]"), ("<%", "\x7b"), ("%>", "\x7d"), ("%:", "#"),
   ("%:%:", "##")]

/-- The punctuator that a digraph means. -/
def digraphMeaning? (spelling : String) : Option String :=
  digraphs.lookup spelling

end CLexicon
