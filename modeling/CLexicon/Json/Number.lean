/-!
# JSON numbers

Reading a number off the front of a text, and whether its value fits a double
precision float.

* `NumberLiteral.scan?`: the longest number at the front of a text;
* `NumberLiteral.inRange`: whether the value has a finite float.

A value is taken as a significand times a power of ten. The significand is
made of as many of the leading digits as fit 64 bits; the digits behind them
only move the power.
-/

namespace CLexicon.Json

/-- A number as it is written: the digits before the point, those behind it,
and the exponent. -/
structure NumberLiteral where
  whole : List Char
  fraction : List Char
  exponentNegative : Bool
  exponent : List Char
  deriving DecidableEq, Repr

namespace NumberLiteral

/-- The value of decimal digits. -/
def value (digits : List Char) : Nat :=
  digits.foldl (fun total c => total * 10 + (c.toNat - '0'.toNat)) 0

/-- Reads one digit or more. -/
def digits? (text : List Char) : Option (List Char × List Char) :=
  let found := text.takeWhile Char.isDigit
  if found = [] then none else some (found, text.dropWhile Char.isDigit)

/-- Reads the digits before the point: a zero alone, or digits that do not
start with one. -/
def whole? (text : List Char) : Option (List Char × List Char) :=
  (digits? text).filter fun (found, _) =>
    found.head? ≠ some '0' || found.length = 1

/-- Reads a point with the digits behind it, if there is a point. -/
def fraction? (text : List Char) : Option (List Char × List Char) :=
  match text with
  | '.' :: rest => digits? rest
  | _ => some ([], text)

/-- Reads a minus, if there is one. -/
def minus (text : List Char) : Bool × List Char :=
  match text with
  | '-' :: rest => (true, rest)
  | _ => (false, text)

/-- Reads a sign, if there is one. Whether it was a minus is the first answer.
-/
def sign (text : List Char) : Bool × List Char :=
  match text with
  | '+' :: rest => (false, rest)
  | _ => minus text

/-- Reads an exponent, if there is one. -/
def exponent? (text : List Char) : Option ((Bool × List Char) × List Char) :=
  match text with
  | c :: rest =>
    if c = 'e' ∨ c = 'E' then
      (digits? (sign rest).2).map fun (found, afterDigits) =>
        (((sign rest).1, found), afterDigits)
    else
      some ((false, []), text)
  | [] => some ((false, []), text)

/-- Reads the number at the front of a text. -/
def scan? (text : List Char) : Option (NumberLiteral × List Char) := do
  let (whole, rest) ← whole? (minus text).2
  let (fraction, rest) ← fraction? rest
  let ((exponentNegative, exponent), rest) ← exponent? rest
  some ({ whole, fraction, exponentNegative, exponent }, rest)

/-- Takes digits into a significand as long as it fits 64 bits. Gives the
significand and the number of digits that were left out. -/
def significand (start : Nat) : List Char → Nat × Nat
  | [] => (start, 0)
  | c :: rest =>
    let next := start * 10 + (c.toNat - '0'.toNat)
    if next < 2 ^ 64 then significand next rest else (start, rest.length + 1)

/-- Whether a significand times a power of ten is a finite float. -/
def fits (significand : Nat) (power : Int) : Bool :=
  if significand = 0 ∨ power < 0 then true
  else if power ≤ 308 then
    let product :=
      Float.ofNat significand * Float.ofScientific 1 false power.toNat
    product.isFinite
  else false

/-- Whether the value of a number fits a float. -/
def inRange (number : NumberLiteral) : Bool :=
  let (front, leftOut) := significand 0 number.whole
  let (all, leftOutBehind) := significand front number.fraction
  let taken := number.fraction.length - leftOutBehind
  let power := (leftOut : Int) - taken
  let exponent := value number.exponent
  if exponent ≥ 0x80000000 then
    all = 0 || number.exponentNegative
  else if number.exponentNegative then
    fits all (power - exponent)
  else
    fits all (power + exponent)

/-! ## The rest is shorter -/

theorem length_of_digits? {text found rest : List Char}
    (h : digits? text = some (found, rest)) : rest.length < text.length := by
  unfold digits? at h
  dsimp only at h
  split at h
  · cases h
  · next nonempty =>
    cases h
    have split := congrArg List.length
      (List.takeWhile_append_dropWhile (p := Char.isDigit) (l := text))
    rw [List.length_append] at split
    have := List.length_pos_iff.mpr nonempty
    omega

theorem length_of_whole? {text found rest : List Char}
    (h : whole? text = some (found, rest)) : rest.length < text.length :=
  length_of_digits? (Option.eq_some_of_filter_eq_some h)

theorem length_of_fraction? {text found rest : List Char}
    (h : fraction? text = some (found, rest)) :
    rest.length ≤ text.length := by
  unfold fraction? at h
  split at h
  · have := length_of_digits? h
    simp only [List.length_cons]
    omega
  · cases h
    exact Nat.le_refl _

theorem length_of_minus (text : List Char) :
    (minus text).2.length ≤ text.length := by
  unfold minus
  split <;> simp

theorem length_of_sign (text : List Char) :
    (sign text).2.length ≤ text.length := by
  unfold sign
  split
  · simp
  · exact length_of_minus text

theorem length_of_exponent? {text rest : List Char}
    {found : Bool × List Char}
    (h : exponent? text = some (found, rest)) :
    rest.length ≤ text.length := by
  unfold exponent? at h
  split at h
  · next c tail =>
    split at h
    · obtain ⟨⟨_, _⟩, isDigits, same⟩ := Option.map_eq_some_iff.mp h
      have := length_of_digits? isDigits
      have := length_of_sign tail
      cases same
      simp only [List.length_cons]
      omega
    · cases h
      exact Nat.le_refl _
  · cases h
    exact Nat.le_refl _

theorem length_of_scan? {text rest : List Char} {number : NumberLiteral}
    (h : scan? text = some (number, rest)) : rest.length < text.length := by
  unfold scan? at h
  simp only [Option.bind_eq_bind, Option.bind_eq_some_iff, Option.some.injEq,
    Prod.mk.injEq] at h
  obtain ⟨⟨_, _⟩, isWhole, ⟨_, _⟩, isFraction, ⟨_, _⟩, isExponent, _, rfl⟩ := h
  have := length_of_whole? isWhole
  have := length_of_fraction? isFraction
  have := length_of_exponent? isExponent
  have := length_of_minus text
  simp only at *
  omega

end NumberLiteral

end CLexicon.Json
