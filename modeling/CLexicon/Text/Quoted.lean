import CLexicon.Text.Printable

/-!
# Quoted texts

How a piece of source is shown in one line: between double quotes, with an
escape for each character that could not be read back off a terminal.

* `escaped`: one character as it stands inside the quotes;
* `quoted`: a whole text with its quotes.
-/

namespace CLexicon.Text

/-- The code point of a character in lowercase hexadecimal digits, as
`\u{...}`. -/
def codePointEscape (c : Char) : List Char :=
  ['\\', 'u', '{'] ++ Nat.toDigits 16 c.toNat ++ ['}']

/-- A character as it stands inside double quotes. -/
def escaped (c : Char) : List Char :=
  match c with
  | '\x00' => ['\\', '0']
  | '\t' => ['\\', 't']
  | '\n' => ['\\', 'n']
  | '\r' => ['\\', 'r']
  | '"' => ['\\', '"']
  | '\\' => ['\\', '\\']
  | c =>
    if extendsGrapheme c || !isPrintable c then codePointEscape c else [c]

/-- A text between double quotes, with its characters escaped. -/
def quoted (text : String) : String :=
  String.ofList ('"' :: text.toList.flatMap escaped ++ ['"'])

end CLexicon.Text
