import CLexicon.Json.Token

/-!
# Reading JSON

Reads one JSON value off the front of a text. The reader goes from token to
token and keeps the containers that are open in a list, innermost first, so
`Json.read?` needs no recursion on the value. It refuses a text that opens too
many containers inside each other: `Reader.depthLimit`.

`Json.isDone` tells whether only white space is left.
-/

namespace CLexicon.Json

/-- A container that is open, with what it holds so far, the last first. An
object also keeps the name of the member that is being read. -/
inductive Frame where
  | array (items : List Json)
  | object (members : List (String × Json)) (name : String)
  deriving Repr

/-- What may come next in the text. -/
inductive Due where
  /-- A value. -/
  | value
  /-- A value, or the end of the array that has just been opened. -/
  | firstItem
  /-- The name of a member. -/
  | name
  /-- The name of a member, or the end of the object that has just been
  opened. -/
  | firstName
  /-- The colon behind a name. -/
  | colon
  /-- A comma or the end of the innermost container. -/
  | more
  deriving DecidableEq, Repr

/-- How far reading has come. -/
inductive Reader where
  | waiting (frames : List Frame) (due : Due)
  | finished (value : Json)
  deriving Repr

namespace Reader

/-- The number of containers that cannot be open at once. -/
def depthLimit : Nat := 128

/-- The reader at the start of a text. -/
def start : Reader :=
  waiting [] .value

/-- A value has been read. -/
def give (value : Json) : List Frame → Reader
  | [] => finished value
  | .array items :: frames => waiting (.array (value :: items) :: frames) .more
  | .object members name :: frames =>
    waiting (.object ((name, value) :: members) name :: frames) .more

/-- A container is opened. -/
def openFrame? (frame : Frame) (due : Due) (frames : List Frame) :
    Option Reader :=
  if frames.length + 1 < depthLimit then some (waiting (frame :: frames) due)
  else none

/-- A value is due. -/
def beginValue? (frames : List Frame) : Token → Option Reader
  | .value value => some (give value frames)
  | .openArray => openFrame? (.array []) .firstItem frames
  | .openObject => openFrame? (.object [] "") .firstName frames
  | _ => none

/-- The name of a member is due. -/
def beginMember? : List Frame → Token → Option Reader
  | .object members _ :: frames, .value (.string name) =>
    some (waiting (.object members name :: frames) .colon)
  | _, _ => none

/-- The innermost container ends. -/
def close? : List Frame → Token → Option Reader
  | .array items :: frames, .closeArray =>
    some (give (.array items.reverse) frames)
  | .object members _ :: frames, .closeObject =>
    some (give (.object members.reverse) frames)
  | _, _ => none

/-- The innermost container goes on. -/
def goOn? : List Frame → Token → Option Reader
  | .array items :: frames, .comma =>
    some (waiting (.array items :: frames) .value)
  | .object members name :: frames, .comma =>
    some (waiting (.object members name :: frames) .name)
  | _, _ => none

/-- The reader after one more token. -/
def step? (frames : List Frame) (due : Due) (token : Token) :
    Option Reader :=
  match due with
  | .value => beginValue? frames token
  | .firstItem => (close? frames token).or (beginValue? frames token)
  | .name => beginMember? frames token
  | .firstName => (close? frames token).or (beginMember? frames token)
  | .colon =>
    match token with
    | .colon => some (waiting frames .value)
    | _ => none
  | .more => (close? frames token).or (goOn? frames token)

/-- Reads on until the value is complete. Gives the value and the text behind
it. -/
def run? (reader : Reader) (text : List Char) :
    Option (Json × List Char) :=
  match reader with
  | finished value => some (value, text)
  | waiting frames due =>
    match _next : Token.next? text with
    | none => none
    | some (token, rest) =>
      match step? frames due token with
      | none => none
      | some reader => run? reader rest
termination_by text.length
decreasing_by exact Token.length_of_next? _next

end Reader

/-- Reads the JSON value at the front of a text. Gives the value and the text
behind it. -/
def read? (text : List Char) : Option (Json × List Char) :=
  Reader.start.run? text

/-- Whether nothing but white space is left of a text. -/
def isDone (text : List Char) : Bool :=
  text.all Token.isSpace

end CLexicon.Json
