import CLexicon.Catalogue.RawItem
import CLexicon.Json.Reader

/-!
# Catalogue documents

The raw items of a catalogue come from a JSON document of one of two layouts:
an array of items, or an object whose `sections` are groups of items. The
items keep the order of the document.

* `RawItem.ofJson?`: an item, written as an object or as an array of its
  fields in order;
* `Document.items?`: the items of a document;
* `Document.read`: the items of a document given as text.

Members of unknown names are skipped, and no known name may repeat.
-/

namespace CLexicon

/-- Why a text gives no raw items. -/
inductive DocumentError where
  /-- The text is not JSON. -/
  | malformed
  /-- The text is JSON of another shape. -/
  | unknownShape
  deriving DecidableEq, Repr

/-- The words for an error. -/
def DocumentError.message : DocumentError → String
  | malformed => "invalid catalogue JSON: the text is not well-formed"
  | unknownShape =>
    "invalid catalogue JSON: data did not match any variant of " ++
      "untagged enum RawDocument"

namespace Json

/-- The values of the members with a name. -/
def membersNamed (members : List (String × Json)) (name : String) :
    List Json :=
  (members.filter (·.1 = name)).map Prod.snd

/-- Reads the member with a name. It must be there, and only once. -/
def required? {α : Type} (members : List (String × Json)) (name : String)
    (read? : Json → Option α) : Option α :=
  match membersNamed members name with
  | [value] => read? value
  | _ => none

/-- Reads the member with a name, or takes `absent` where there is none. It
must not be there twice. -/
def optional? {α : Type} (members : List (String × Json)) (name : String)
    (read? : Json → Option α) (absent : α) : Option α :=
  match membersNamed members name with
  | [] => some absent
  | [value] => read? value
  | _ => none

/-- Reads a text that may be null. -/
def nullableText? : Json → Option (Option String)
  | null => some none
  | string text => some (some text)
  | _ => none

end Json

/-- The category that a value names: by its name, or as an object that has the
name with null for its only member. -/
def Category.ofJson? : Json → Option Category
  | .string name => ofName? name
  | .object [(name, .null)] => ofName? name
  | _ => none

namespace RawItem

/-- The item with these members. -/
def ofMembers? (members : List (String × Json)) : Option RawItem := do
  let id ← Json.required? members "id" Json.text?
  let token ← Json.required? members "token" Json.text?
  let category ← Json.required? members "type" Category.ofJson?
  let description ← Json.optional? members "description" Json.text? ""
  let sample ← Json.optional? members "example" Json.nullableText? none
  some { id, token, category, description, sample }

/-- The item with these fields: id, token, category, and then description and
sample, which may be left off. -/
def ofFields? (fields : List Json) : Option RawItem := do
  match fields with
  | id :: token :: category :: rest =>
    let id ← id.text?
    let token ← token.text?
    let category ← Category.ofJson? category
    match rest with
    | [] => some { id, token, category }
    | [description] =>
      some { id, token, category, description := ← description.text? }
    | [description, sample] =>
      let description ← description.text?
      let sample ← sample.nullableText?
      some { id, token, category, description, sample }
    | _ => none
  | _ => none

/-- The item that a value stands for. -/
def ofJson? : Json → Option RawItem
  | .object members => ofMembers? members
  | .array fields => ofFields? fields
  | _ => none

/-- The items that the values of an array stand for. -/
def listOfJson? (value : Json) : Option (List RawItem) := do
  (← value.items?).mapM ofJson?

end RawItem

namespace Document

/-- The items of one section, written as an object or as an array of title and
items. -/
def sectionItems? : Json → Option (List RawItem)
  | .object members => do
    let _ ← Json.optional? members "title" Json.text? ""
    Json.required? members "items" RawItem.listOfJson?
  | .array [title, items] => do
    let _ ← title.text?
    RawItem.listOfJson? items
  | _ => none

/-- The items of the sections of an array, section after section. -/
def sectionsItems? (value : Json) : Option (List RawItem) := do
  return (← (← value.items?).mapM sectionItems?).flatten

/-- The items of a document of either layout. -/
def items? : Json → Option (List RawItem)
  | .array items => items.mapM RawItem.ofJson?
  | .object members => do
    let _ ← Json.optional? members "title" Json.text? ""
    Json.required? members "sections" sectionsItems?
  | _ => none

/-- The items of a document given as text. The first value of the text is
judged before what stands behind it. -/
def read (text : String) : Except DocumentError (List RawItem) :=
  match Json.read? text.toList with
  | none => .error .malformed
  | some (value, rest) =>
    match items? value with
    | none => .error .unknownShape
    | some items => if Json.isDone rest then .ok items else .error .malformed

end Document

end CLexicon
