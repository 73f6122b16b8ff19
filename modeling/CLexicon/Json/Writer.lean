import CLexicon.Json.Value

/-!
# Writing JSON

Writes a value over several lines: two blanks of indent for each level, a
container of nothing as `[]` or `{}`. Only what must be escaped in a string is
escaped.
-/

namespace CLexicon.Json

/-- A lowercase hexadecimal digit. -/
def hexDigit (n : Nat) : Char :=
  ((Nat.toDigits 16 (n % 16)).head?).getD '0'

/-- A character as it stands in a string. -/
def escapedChar (c : Char) : List Char :=
  match c with
  | '"' => ['\\', '"']
  | '\\' => ['\\', '\\']
  | '\x08' => ['\\', 'b']
  | '\x0C' => ['\\', 'f']
  | '\n' => ['\\', 'n']
  | '\r' => ['\\', 'r']
  | '\t' => ['\\', 't']
  | c =>
    if c < ' ' then
      ['\\', 'u', '0', '0', hexDigit (c.toNat / 16), hexDigit c.toNat]
    else
      [c]

/-- A string between its quotes. -/
def writtenString (text : String) : String :=
  String.ofList ('"' :: text.toList.flatMap escapedChar ++ ['"'])

/-- The start of a new line at a level. -/
def newLine (level : Nat) : String :=
  String.ofList ('\n' :: List.replicate (2 * level) ' ')

/-- Parts between brackets, each on a line of its own. -/
def bracketed (level : Nat) (opening closing : String)
    (parts : List String) : String :=
  if parts = [] then opening ++ closing
  else
    opening ++ newLine (level + 1) ++
      String.intercalate ("," ++ newLine (level + 1)) parts ++
      newLine level ++ closing

mutual

/-- A value as it is written at a level. -/
def writeAt (level : Nat) : Json → String
  | null => "null"
  | bool value => if value then "true" else "false"
  | number literal => literal
  | string text => writtenString text
  | array items => bracketed level "[" "]" (writeItems (level + 1) items)
  | object members =>
    bracketed level "\x7b" "\x7d" (writeMembers (level + 1) members)

/-- The items of an array as they are written. -/
def writeItems (level : Nat) : List Json → List String
  | [] => []
  | item :: rest => writeAt level item :: writeItems level rest

/-- The members of an object as they are written. -/
def writeMembers (level : Nat) : List (String × Json) → List String
  | [] => []
  | (name, value) :: rest =>
    (writtenString name ++ ": " ++ writeAt level value) ::
      writeMembers level rest

end

/-- A value over several lines. -/
def write (value : Json) : String :=
  writeAt 0 value

end CLexicon.Json
