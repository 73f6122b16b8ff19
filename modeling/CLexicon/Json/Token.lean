import CLexicon.Json.Number
import CLexicon.Json.Value
import CLexicon.Text.Blank

/-!
# JSON tokens

Reading one token off the front of a JSON text.

* `Token.next?`: the token after any white space, with the text behind it;
* `Token.length_of_next?`: that text is shorter than what was read from.

In a string, a `\u` escape stands for one UTF-16 code unit. Two of them that
form a surrogate pair are one character, and one that is only half of a pair
makes the text no JSON.
-/

namespace CLexicon.Json

/-- A piece of the inside of a string: a character, or a code unit from a `\u`
escape. -/
inductive StringUnit where
  | char (c : Char)
  | code (unit : Nat)
  deriving DecidableEq, Repr

namespace StringUnit

/-- The value of a hexadecimal digit. -/
def hexDigit? (c : Char) : Option Nat :=
  if '0' ≤ c ∧ c ≤ '9' then some (c.toNat - '0'.toNat)
  else if 'a' ≤ c ∧ c ≤ 'f' then some (c.toNat - 'a'.toNat + 10)
  else if 'A' ≤ c ∧ c ≤ 'F' then some (c.toNat - 'A'.toNat + 10)
  else none

/-- The code unit of four hexadecimal digits. -/
def hexCode? (a b c d : Char) : Option StringUnit := do
  let a ← hexDigit? a
  let b ← hexDigit? b
  let c ← hexDigit? c
  let d ← hexDigit? d
  some (.code (((a * 16 + b) * 16 + c) * 16 + d))

/-- The character for the letter of a short escape. -/
def shortEscape? (c : Char) : Option StringUnit :=
  match c with
  | '"' => some (.char '"')
  | '\\' => some (.char '\\')
  | '/' => some (.char '/')
  | 'b' => some (.char '\x08')
  | 'f' => some (.char '\x0C')
  | 'n' => some (.char '\n')
  | 'r' => some (.char '\r')
  | 't' => some (.char '\t')
  | _ => none

/-- The character of a code unit that is no half of a pair. -/
def char? (unit : Nat) : Option Char :=
  if unit < 0xD800 ∨ 0xDFFF < unit then some (Char.ofNat unit) else none

/-- The character of a surrogate pair. -/
def pair? (high low : Nat) : Option Char :=
  if 0xD800 ≤ high ∧ high ≤ 0xDBFF ∧ 0xDC00 ≤ low ∧ low ≤ 0xDFFF then
    some (Char.ofNat (0x10000 + (high - 0xD800) * 0x400 + (low - 0xDC00)))
  else
    none

/-- The characters that the units of a string stand for. -/
def join? : List StringUnit → Option (List Char)
  | [] => some []
  | .char c :: rest => (join? rest).map (c :: ·)
  | .code high :: .code low :: rest =>
    match char? high with
    | some c => (join? (.code low :: rest)).map (c :: ·)
    | none => do
      let c ← pair? high low
      (join? rest).map (c :: ·)
  | .code unit :: rest => do
    let c ← char? unit
    (join? rest).map (c :: ·)

end StringUnit

/-- A token of JSON text. Strings, numbers and the three words are values. -/
inductive Token where
  | openArray
  | closeArray
  | openObject
  | closeObject
  | comma
  | colon
  | value (value : Json)
  deriving Repr

namespace Token

/-- Whether a character is white space between tokens. -/
def isSpace (c : Char) : Bool :=
  c = ' ' || c = '\t' || c = '\n' || c = '\r'

/-- Puts a unit, if there is one, in front of the units read behind it. -/
def consUnit? (unit : Option StringUnit)
    (behind : Option (List StringUnit × List Char)) :
    Option (List StringUnit × List Char) := do
  let unit ← unit
  let behind ← behind
  some (unit :: behind.1, behind.2)

/-- Reads the inside of a string and its closing quote. Control characters
must be escaped. -/
def stringUnits? : List Char → Option (List StringUnit × List Char)
  | '"' :: rest => some ([], rest)
  | '\\' :: 'u' :: a :: b :: c :: d :: rest =>
    consUnit? (StringUnit.hexCode? a b c d) (stringUnits? rest)
  | '\\' :: c :: rest =>
    consUnit? (StringUnit.shortEscape? c) (stringUnits? rest)
  | c :: rest =>
    if c < ' ' then none else consUnit? (some (.char c)) (stringUnits? rest)
  | [] => none

/-- Reads a string whose opening quote has been read. -/
def string? (text : List Char) : Option (Token × List Char) := do
  let (units, rest) ← stringUnits? text
  let chars ← StringUnit.join? units
  some (.value (.string (String.ofList chars)), rest)

/-- Reads a number. Its value must fit a float. -/
def number? (text : List Char) : Option (Token × List Char) := do
  let (_, rest) ← (NumberLiteral.scan? text).filter (·.1.inRange)
  let literal := text.take (text.length - rest.length)
  some (.value (Json.number (String.ofList literal)), rest)

/-- Reads the rest of a word whose first letter has been read. -/
def word? (letters : List Char) (value : Json) (text : List Char) :
    Option (Token × List Char) :=
  (Text.after? letters text).map fun rest => (.value value, rest)

/-- Reads a token that starts with this character. -/
def start? (c : Char) (rest : List Char) : Option (Token × List Char) :=
  match c with
  | '[' => some (.openArray, rest)
  | ']' => some (.closeArray, rest)
  | '{' => some (.openObject, rest)
  | '}' => some (.closeObject, rest)
  | ',' => some (.comma, rest)
  | ':' => some (.colon, rest)
  | '"' => string? rest
  | 'n' => word? ['u', 'l', 'l'] .null rest
  | 't' => word? ['r', 'u', 'e'] (.bool true) rest
  | 'f' => word? ['a', 'l', 's', 'e'] (.bool false) rest
  | _ => number? (c :: rest)

/-- Reads the token at the front of a text, after any white space. -/
def next? (text : List Char) : Option (Token × List Char) :=
  match text.dropWhile isSpace with
  | [] => none
  | c :: rest => start? c rest

/-! ## The rest is shorter -/

theorem eq_of_consUnit? {unit : Option StringUnit}
    {behind : Option (List StringUnit × List Char)}
    {units : List StringUnit} {rest : List Char}
    (h : consUnit? unit behind = some (units, rest)) :
    ∃ others, behind = some (others, rest) := by
  simp only [consUnit?, Option.bind_eq_bind, Option.bind_eq_some_iff] at h
  obtain ⟨_, _, ⟨others, _⟩, isBehind, same⟩ := h
  cases same
  exact ⟨others, isBehind⟩

theorem length_of_stringUnits? {text rest : List Char}
    {units : List StringUnit} (h : stringUnits? text = some (units, rest)) :
    rest.length < text.length := by
  fun_induction stringUnits? text generalizing units with
  | case1 tail =>
    cases h
    simp
  | case2 a b c d tail ih =>
    obtain ⟨_, isBehind⟩ := eq_of_consUnit? h
    have := ih isBehind
    simp only [List.length_cons]
    omega
  | case3 c tail _ ih =>
    obtain ⟨_, isBehind⟩ := eq_of_consUnit? h
    have := ih isBehind
    simp only [List.length_cons]
    omega
  | case4 => cases h
  | case5 c tail _ _ _ _ ih =>
    obtain ⟨_, isBehind⟩ := eq_of_consUnit? h
    have := ih isBehind
    simp only [List.length_cons]
    omega
  | case6 => cases h

theorem length_of_number? {text rest : List Char} {token : Token}
    (h : number? text = some (token, rest)) : rest.length < text.length := by
  simp only [number?, Option.bind_eq_bind, Option.bind_eq_some_iff] at h
  obtain ⟨⟨_, _⟩, isNumber, same⟩ := h
  cases same
  exact NumberLiteral.length_of_scan? (Option.eq_some_of_filter_eq_some isNumber)

theorem length_of_string? {text rest : List Char} {token : Token}
    (h : string? text = some (token, rest)) : rest.length < text.length := by
  simp only [string?, Option.bind_eq_bind, Option.bind_eq_some_iff] at h
  obtain ⟨⟨_, _⟩, isString, _, _, same⟩ := h
  cases same
  exact length_of_stringUnits? isString

theorem length_of_word? {letters text rest : List Char} {value : Json}
    {token : Token} (h : word? letters value text = some (token, rest)) :
    rest.length ≤ text.length := by
  obtain ⟨_, isRest, same⟩ := Option.map_eq_some_iff.mp h
  cases same
  rw [Text.after?_eq_some_iff.mp isRest, List.length_append]
  omega

theorem length_of_start? {c : Char} {text rest : List Char} {token : Token}
    (h : start? c text = some (token, rest)) :
    rest.length < (c :: text).length := by
  rw [List.length_cons]
  unfold start? at h
  split at h
  case h_1 | h_2 | h_3 | h_4 | h_5 | h_6 => cases h; omega
  case h_7 => have := length_of_string? h; omega
  case h_8 | h_9 | h_10 => have := length_of_word? h; omega
  case h_11 => simpa using length_of_number? h

theorem length_of_next? {text rest : List Char} {token : Token}
    (h : next? text = some (token, rest)) : rest.length < text.length := by
  have trimmed := (List.dropWhile_suffix isSpace (l := text)).length_le
  unfold next? at h
  split at h
  · cases h
  · next heq =>
    rw [heq] at trimmed
    exact Nat.lt_of_lt_of_le (length_of_start? h) trimmed

end Token

end CLexicon.Json
