import CLexicon.Catalogue.Anchor
import CLexicon.Catalogue.Entry
import CLexicon.Catalogue.Issue
import CLexicon.Catalogue.RawItem

/-!
# Repairing items

The first step from raw items to entries looks at each item alone.

* `spellings` reads the spellings off a token: blanks and backticks around it
  are dropped, and an operator such as `[ ]` may be cut into its parts;
* `repair` accepts an item as a `Candidate` for an entry, or as a `Stub` that
  only points at another id, or tells the `Defect` that forbids both.
-/

namespace CLexicon

/-- How a catalogue is put in order. -/
structure NormalizeOptions where
  /-- Whether a description that is an anchor makes its item a redirect. -/
  recognizeAnchors : Bool := true
  /-- Whether an operator token such as `[ ]` is cut into its parts. -/
  splitPairs : Bool := true
  /-- What joins id and spelling where items of several spellings share an
  id. -/
  idSeparator : Char := '/'
  deriving DecidableEq, Repr

/-- An accepted item that will be an entry, unless its id is taken. -/
structure Candidate where
  index : Nat
  rawId : String
  spelling : String
  category : Category
  description : String
  sample : Option String
  aliases : List Alias
  deriving DecidableEq, Repr

/-- An accepted item that only points at the id `target`. -/
structure Stub where
  index : Nat
  rawId : String
  spelling : String
  category : Category
  target : String
  deriving DecidableEq, Repr

/-- What an item becomes when looked at alone. -/
inductive Repaired where
  | candidate (candidate : Candidate)
  | stub (stub : Stub)
  | malformed (index : Nat) (rawId spelling : String) (defect : Defect)
  deriving DecidableEq, Repr

namespace Repair

open Text

/-- A token without the backticks that enclose it, and without the blanks
inside them. A backtick on one side only stays. -/
def withoutBackticks (token : List Char) : List Char :=
  match token with
  | '`' :: rest =>
    if rest.getLast? = some '`' then trim rest.dropLast else token
  | _ => token

/-- The first part of an operator token of several parts, and the parts that
differ from it. There must be one that does, and each must be a run of
punctuation. -/
def pairParts? (token : List Char) : Option (List Char × List (List Char)) :=
  match words token with
  | [] => none
  | first :: rest =>
    let others := rest.filter (· ≠ first)
    if others ≠ [] ∧ (first :: others).all Category.isPunctuationRun then
      some (first, others)
    else
      none

/-- The token of an item as it will be spelled, if it is not cut. -/
def bareToken (item : RawItem) : List Char :=
  withoutBackticks (trim item.token.toList)

/-- The spelling of an item, and its further spellings if its token is cut
into parts. -/
def spellings (options : NormalizeOptions) (item : RawItem) :
    String × List String :=
  let token := bareToken item
  let parts :=
    if options.splitPairs ∧ item.category = .operator then pairParts? token
    else none
  match parts with
  | some (first, others) => (String.ofList first, others.map String.ofList)
  | none => (String.ofList token, [])

/-- The target of an item that is a redirect. -/
def target? (options : NormalizeOptions) (item : RawItem) : Option String :=
  if options.recognizeAnchors then Anchor.target? (trimmed item.description)
  else none

/-- The sample of an item, unless it is blank. -/
def sample? (item : RawItem) : Option String :=
  item.sample.filter fun text => trim text.toList ≠ []

end Repair

open Text Repair in
/-- What the item at an index becomes when looked at alone. Of several
defects the first of these counts: no id, no spelling, a spelling of no use
in the category, no description. -/
def repair (options : NormalizeOptions) (index : Nat) (item : RawItem) :
    Repaired :=
  let rawId := trimmed item.id
  let (spelling, others) := spellings options item
  let description := trimmed item.description
  if rawId = "" then
    .malformed index rawId (String.ofList (bareToken item)) .missingId
  else if spelling = "" then
    .malformed index rawId spelling .emptySpelling
  else if !item.category.accepts spelling then
    .malformed index rawId spelling .invalidSpelling
  else
    match target? options item with
    | some target =>
      .stub { index, rawId, spelling, category := item.category, target }
    | none =>
      if description = "" then
        .malformed index rawId spelling .emptyDescription
      else
        .candidate
          { index, rawId, spelling, category := item.category, description,
            sample := sample? item,
            aliases := others.map fun other => ⟨other, .operator⟩ }

end CLexicon
