import CLexicon.Text.Blank

/-!
# Anchors

Some items describe nothing: their description is an HTML anchor such as
`<a id="TARGET"></a>`, which points at the item to read instead.

* `Anchor.target?`: the target of a description that is an anchor and nothing
  else. The id stands between double or single quotes, and blanks may stand
  around the anchor, around the parts of its start tag, and around the id.
-/

namespace CLexicon.Anchor

open Text

/-- Whether a character may enclose an id. -/
def isQuote (c : Char) : Bool :=
  c = '"' || c = '\''

/-- Reads an id between two equal quotes. Gives the id without blank ends,
which must not be empty, and what follows the closing quote. -/
def quotedId? : List Char → Option (List Char × List Char)
  | [] => none
  | quote :: rest =>
    let inside := rest.takeWhile (· ≠ quote)
    let target := trim inside
    match rest.dropWhile (· ≠ quote) with
    | [] => none
    | _ :: afterQuote =>
      if isQuote quote && target ≠ [] then some (target, afterQuote) else none

/-- Reads an anchor, blanks around it included, that is all of the text. -/
def read? (text : List Char) : Option (List Char) := do
  let rest ← after? ['<', 'a'] (trim text)
  if !rest.head?.any isBlank then none
  let rest ← after? ['i', 'd'] (trimStart rest)
  let rest ← after? ['='] (trimStart rest)
  let (target, rest) ← quotedId? (trimStart rest)
  let rest ← after? ['>'] (trimStart rest)
  let rest ← after? ['<', '/', 'a', '>'] (trimStart rest)
  if trim rest = [] then some target else none

/-- The target of a description that is an anchor and nothing else. -/
def target? (description : String) : Option String :=
  (read? description.toList).map String.ofList

end CLexicon.Anchor
