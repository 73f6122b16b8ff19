import CLexicon.Proofs.Scan.Cuts

/-!
# Shapes of tokens

What numbers, comments and blank space are, said without the functions that
measure them, and that these functions find them.

* `IsNumber`: the numbers of the preprocessor, as the C grammar builds them.
  `isNumber_numberLength` and `IsNumber.length_le`: a number is read to the end
  of the longest one that is there.
* `commentEnd?_eq_some_iff` and `commentEnd?_eq_none_iff`: the first `*/` ends a
  comment.
* `BlankAt` and `IsBlankRun`: the places of blank space, and a run of them that
  goes on at neither end.
-/

namespace CLexicon

/-! ## Numbers -/

/-- The numbers of the preprocessor.  A number starts with a digit, or with a
dot and a digit, and goes on with bytes of numbers and with signs that follow an
exponent letter. -/
inductive IsNumber : List UInt8 → Prop where
  | digit {d} (hdigit : Byte.isDigit d) : IsNumber [d]
  | dotDigit {d} (hdigit : Byte.isDigit d) : IsNumber [Byte.dot, d]
  | more {text b} (htext : IsNumber text) (hb : Byte.isNumber b) : IsNumber (text ++ [b])
  | sign {text e s} (htext : IsNumber text) (he : Byte.isExponent e)
      (hs : Byte.isSign s) : IsNumber (text ++ [e, s])

/-- How a number goes on behind its first byte, read from the left. -/
inductive NumberTail : List UInt8 → Prop where
  | nil : NumberTail []
  | more {b tail} (hb : Byte.isNumber b) (htail : NumberTail tail) : NumberTail (b :: tail)
  | sign {e s tail} (he : Byte.isExponent e) (hs : Byte.isSign s)
      (htail : NumberTail tail) : NumberTail (e :: s :: tail)

theorem Byte.isNumber_of_isDigit {b : UInt8} (h : Byte.isDigit b) : Byte.isNumber b := by
  simp [Byte.isNumber, Byte.isWord, h]

theorem Byte.not_isNumber_of_isSign {b : UInt8} (h : Byte.isSign b) : ¬Byte.isNumber b := by
  simp only [Byte.isSign, Bool.or_eq_true, decide_eq_true_eq] at h
  rcases h with rfl | rfl <;> decide

theorem Byte.not_isExponent_of_isDigit {b : UInt8} (h : Byte.isDigit b) :
    ¬Byte.isExponent b := by
  intro hexponent
  simp only [Byte.isExponent, Bool.or_eq_true, decide_eq_true_eq] at hexponent
  rcases hexponent with ((rfl | rfl) | rfl) | rfl <;> cases h

namespace NumberTail

variable {text tail input : List UInt8}

theorem append (htext : NumberTail text) (htail : NumberTail tail) :
    NumberTail (text ++ tail) := by
  induction htext with
  | nil => exact htail
  | more hb _ ih => exact .more hb ih
  | sign he hs _ ih => exact .sign he hs ih

/-- Behind a digit, a number goes on as it does behind its first byte. -/
theorem of_cons_digit {d : UInt8} (hdigit : Byte.isDigit d) (h : NumberTail (d :: tail)) :
    NumberTail tail := by
  cases h with
  | more _ htail => exact htail
  | sign he => exact absurd he (Byte.not_isExponent_of_isDigit hdigit)

/-- No sign comes first. -/
theorem eq_nil_of_isSign {s : UInt8} {rest : List UInt8} (hs : Byte.isSign s)
    (h : NumberTail tail) (hbegins : tail <+: s :: rest) : tail = [] := by
  cases h with
  | nil => rfl
  | more hb =>
    obtain ⟨rfl, -⟩ := List.cons_prefix_cons.mp hbegins
    exact absurd hb (Byte.not_isNumber_of_isSign hs)
  | sign he =>
    obtain ⟨rfl, -⟩ := List.cons_prefix_cons.mp hbegins
    exact absurd (Byte.isNumber_of_isExponent he) (Byte.not_isNumber_of_isSign hs)

/-- The bytes that a number is read to go on with are such bytes. -/
theorem take_numberLength (input : List UInt8) :
    NumberTail (input.take (numberLength input)) := by
  fun_induction numberLength input with
  | case1 => exact .nil
  | case2 b hnumber => exact .more hnumber .nil
  | case3 => exact .nil
  | case4 b sign rest hsign ih => exact .sign hsign.1 hsign.2 ih
  | case5 b sign rest _ hnumber ih => exact .more hnumber ih
  | case6 => exact .nil

/-- A number is not read to go on for fewer bytes than it could. -/
theorem length_le (htext : NumberTail text) (hbegins : text <+: input) :
    text.length ≤ numberLength input := by
  fun_induction numberLength input generalizing text with
  | case1 =>
    rw [List.prefix_nil.mp hbegins]
    exact Nat.le_refl _
  | case2 b hnumber => exact hbegins.length_le
  | case3 b hnumber =>
    cases htext with
    | nil => exact Nat.zero_le _
    | more hb =>
      obtain ⟨rfl, -⟩ := List.cons_prefix_cons.mp hbegins
      exact absurd hb hnumber
    | sign => simp [List.cons_prefix_cons] at hbegins
  | case4 b sign rest hsign ih =>
    cases htext with
    | nil => exact Nat.zero_le _
    | more hb htail =>
      obtain ⟨-, htailBegins⟩ := List.cons_prefix_cons.mp hbegins
      obtain rfl := htail.eq_nil_of_isSign hsign.2 htailBegins
      exact Nat.succ_le_succ (Nat.zero_le _)
    | sign _ _ htail =>
      obtain ⟨-, htailBegins⟩ := List.cons_prefix_cons.mp hbegins
      obtain ⟨-, htailBegins⟩ := List.cons_prefix_cons.mp htailBegins
      exact Nat.succ_le_succ (Nat.succ_le_succ (ih htail htailBegins))
  | case5 b sign rest hnot hnumber ih =>
    cases htext with
    | nil => exact Nat.zero_le _
    | more _ htail =>
      exact Nat.succ_le_succ (ih htail (List.cons_prefix_cons.mp hbegins).2)
    | sign he hs =>
      obtain ⟨rfl, htailBegins⟩ := List.cons_prefix_cons.mp hbegins
      obtain ⟨rfl, -⟩ := List.cons_prefix_cons.mp htailBegins
      exact absurd ⟨he, hs⟩ hnot
  | case6 b sign rest hnot hnumber =>
    cases htext with
    | nil => exact Nat.le_refl _
    | more hb =>
      obtain ⟨rfl, -⟩ := List.cons_prefix_cons.mp hbegins
      exact absurd hb hnumber
    | sign he =>
      obtain ⟨rfl, -⟩ := List.cons_prefix_cons.mp hbegins
      exact absurd (Byte.isNumber_of_isExponent he) hnumber

end NumberTail

theorem IsNumber.append {text tail : List UInt8} (htext : IsNumber text)
    (htail : NumberTail tail) : IsNumber (text ++ tail) := by
  induction htail generalizing text with
  | nil => rwa [List.append_nil]
  | @more b tail hb _ ih =>
    rw [← List.singleton_append, ← List.append_assoc]
    exact ih (htext.more hb)
  | @sign e s tail he hs _ ih =>
    rw [show e :: s :: tail = [e, s] ++ tail from rfl, ← List.append_assoc]
    exact ih (htext.sign he hs)

/-- The start of a number stays one when more bytes follow. -/
theorem numberStart_append {first : UInt8} {tail : List UInt8} (more : List UInt8)
    (hstart : Byte.isDigit first ∨ first = Byte.dot ∧ tail.head?.any Byte.isDigit) :
    Byte.isDigit first ∨ first = Byte.dot ∧ (tail ++ more).head?.any Byte.isDigit := by
  refine hstart.imp_right fun hdot => ⟨hdot.1, ?_⟩
  cases tail with
  | nil => cases hdot.2
  | cons => exact hdot.2

/-- A number of the grammar has a start, and each step lengthens its tail. -/
theorem IsNumber.exists_tail {text : List UInt8} (htext : IsNumber text) :
    ∃ first tail, text = first :: tail ∧
      (Byte.isDigit first ∨ first = Byte.dot ∧ tail.head?.any Byte.isDigit) ∧
      NumberTail tail := by
  induction htext with
  | digit hdigit => exact ⟨_, [], rfl, Or.inl hdigit, .nil⟩
  | dotDigit hdigit =>
    exact ⟨_, _, rfl, Or.inr ⟨rfl, hdigit⟩, .more (Byte.isNumber_of_isDigit hdigit) .nil⟩
  | more _ hb ih =>
    obtain ⟨first, tail, rfl, hstart, htail⟩ := ih
    exact ⟨first, _, rfl, numberStart_append _ hstart, htail.append (.more hb .nil)⟩
  | sign _ he hs ih =>
    obtain ⟨first, tail, rfl, hstart, htail⟩ := ih
    exact ⟨first, _, rfl, numberStart_append _ hstart, htail.append (.sign he hs .nil)⟩

/-- The numbers of the grammar are those that are read from the left. -/
theorem isNumber_iff {b : UInt8} {rest : List UInt8} :
    IsNumber (b :: rest) ↔
      (Byte.isDigit b ∨ b = Byte.dot ∧ rest.head?.any Byte.isDigit) ∧ NumberTail rest := by
  constructor
  · intro hnumber
    obtain ⟨first, tail, heq, hgiven⟩ := hnumber.exists_tail
    obtain ⟨rfl, rfl⟩ := List.cons.inj heq
    exact hgiven
  · intro hgiven
    obtain ⟨hdigit | ⟨rfl, hnext⟩, htail⟩ := hgiven
    · exact (IsNumber.digit hdigit).append htail
    · cases rest with
      | nil => cases hnext
      | cons d tail => exact (IsNumber.dotDigit hnext).append (htail.of_cons_digit hnext)

/-- What is read as a number is one. -/
theorem isNumber_numberLength {b : UInt8} {rest : List UInt8}
    (hstart : Byte.isDigit b ∨ b = Byte.dot ∧ rest.head?.any Byte.isDigit) :
    IsNumber ((b :: rest).take (numberLength rest + 1)) := by
  rw [List.take_succ_cons, isNumber_iff]
  refine ⟨hstart.imp_right fun hdot => ⟨hdot.1, ?_⟩, .take_numberLength rest⟩
  cases rest with
  | nil => cases hdot.2
  | cons d tail =>
    -- the digit behind the dot belongs to the number
    have hnumber : NumberTail [d] := .more (Byte.isNumber_of_isDigit hdot.2) .nil
    have hpos : 1 ≤ numberLength (d :: tail) := hnumber.length_le ⟨tail, rfl⟩
    obtain ⟨length, hlength⟩ := Nat.exists_eq_add_one.mpr hpos
    rw [hlength, List.take_succ_cons]
    exact hdot.2

/-- No number that is there is longer than the one that is read. -/
theorem IsNumber.length_le {b : UInt8} {rest text : List UInt8} (h : IsNumber text)
    (hbegins : text <+: b :: rest) : text.length ≤ numberLength rest + 1 := by
  cases text with
  | nil => exact Nat.zero_le _
  | cons first tail =>
    obtain ⟨-, htail⟩ := List.cons_prefix_cons.mp hbegins
    exact Nat.succ_le_succ ((isNumber_iff.mp h).2.length_le htail)

/-! ## Comments -/

/-- The bytes that close a comment stand at a place. -/
def StarSlashAt (input : List UInt8) (place : Nat) : Prop :=
  [Byte.star, Byte.slash] <+: input.drop place

section Comments

variable {input : List UInt8}

theorem starSlashAt_zero_iff {b : UInt8} {rest : List UInt8} :
    StarSlashAt (b :: rest) 0 ↔ b = Byte.star ∧ rest.head? = some Byte.slash := by
  unfold StarSlashAt
  rw [List.drop_zero, List.cons_prefix_cons, List.singleton_prefix_iff_head?_eq_some,
    eq_comm (a := b)]

theorem commentEnd?_eq_none_iff :
    commentEnd? input = none ↔ ∀ place, ¬StarSlashAt input place := by
  induction input with
  | nil => simp [commentEnd?, StarSlashAt]
  | cons b rest ih =>
    rw [← Nat.and_forall_add_one, starSlashAt_zero_iff, commentEnd?]
    split
    · rename_i hclose
      simp [hclose]
    · rename_i hclose
      rw [Option.map_eq_none_iff, ih]
      exact (and_iff_right hclose).symm

/-- A comment ends behind the first star that a slash follows. -/
theorem commentEnd?_eq_some_iff {length : Nat} :
    commentEnd? input = some length ↔
      ∃ place, length = place + 2 ∧ StarSlashAt input place ∧
        ∀ other, StarSlashAt input other → place ≤ other := by
  induction input generalizing length with
  | nil => simp [commentEnd?, StarSlashAt]
  | cons b rest ih =>
    rw [commentEnd?]
    split
    · rename_i hclose
      have hhere : StarSlashAt (b :: rest) 0 := starSlashAt_zero_iff.mpr hclose
      constructor
      · intro hgiven
        obtain rfl := Option.some.inj hgiven
        exact ⟨0, rfl, hhere, fun _ _ => Nat.zero_le _⟩
      · intro hgiven
        obtain ⟨place, rfl, -, hfirst⟩ := hgiven
        rw [Nat.le_zero.mp (hfirst 0 hhere)]
    · rename_i hclose
      simp only [Option.map_eq_some_iff, ih]
      constructor
      · intro hgiven
        obtain ⟨_, ⟨place, rfl, hplace, hfirst⟩, rfl⟩ := hgiven
        refine ⟨place + 1, rfl, hplace, fun other hother => ?_⟩
        cases other with
        | zero => exact absurd (starSlashAt_zero_iff.mp hother) hclose
        | succ other => exact Nat.succ_le_succ (hfirst other hother)
      · intro hgiven
        obtain ⟨place, rfl, hplace, hfirst⟩ := hgiven
        cases place with
        | zero => exact absurd (starSlashAt_zero_iff.mp hplace) hclose
        | succ place =>
          exact ⟨place + 2, ⟨place, rfl, hplace,
            fun other hother => Nat.le_of_succ_le_succ (hfirst (other + 1) hother)⟩, rfl⟩

end Comments

/-! ## Blank space -/

/-- Blank space stands at a place: a blank byte, or a carriage return that no
line feed follows. -/
def BlankAt (source : List UInt8) (place : Nat) : Prop :=
  ∃ b, source[place]? = some b ∧
    (Byte.isBlank b ∨ b = Byte.carriageReturn ∧ source[place + 1]? ≠ some Byte.lineFeed)

/-- The places from `start` to `stop` are blank space, and neither the place
before them nor the place behind them is. -/
structure IsBlankRun (source : List UInt8) (start stop : Nat) : Prop where
  nonempty : start < stop
  blank : ∀ place, start ≤ place → place < stop → BlankAt source place
  before : ∀ place, place + 1 = start → ¬BlankAt source place
  behind : ¬BlankAt source stop

section Blanks

variable {input : List UInt8}

theorem blankAt_zero_iff {b : UInt8} {rest : List UInt8} :
    BlankAt (b :: rest) 0 ↔
      Byte.isBlank b ∨ b = Byte.carriageReturn ∧ rest.head? ≠ some Byte.lineFeed := by
  simp [BlankAt, List.head?_eq_getElem?]

theorem blankAt_append {front : List UInt8} {place : Nat} :
    BlankAt (front ++ input) (front.length + place) ↔ BlankAt input place := by
  unfold BlankAt
  rw [Nat.add_assoc, List.getElem?_append_right (Nat.le_add_right _ _),
    List.getElem?_append_right (Nat.le_add_right _ _), Nat.add_sub_cancel_left,
    Nat.add_sub_cancel_left]

theorem blankAt_drop {front place : Nat} :
    BlankAt (input.drop front) place ↔ BlankAt input (front + place) := by
  unfold BlankAt
  rw [List.getElem?_drop, List.getElem?_drop, Nat.add_assoc]

theorem blankLength_pos_iff : 0 < blankLength input ↔ BlankAt input 0 := by
  cases input with
  | nil => simp [blankLength, BlankAt]
  | cons b rest =>
    rw [blankAt_zero_iff, blankLength]
    split
    · rename_i hblank
      exact iff_of_true (Nat.succ_pos _) hblank
    · rename_i hblank
      exact iff_of_false (Nat.lt_irrefl 0) hblank

theorem blankAt_of_lt_blankLength {place : Nat} (h : place < blankLength input) :
    BlankAt input place := by
  induction input generalizing place with
  | nil => cases h
  | cons b rest ih =>
    rw [blankLength] at h
    split at h
    · rename_i hblank
      cases place with
      | zero => exact blankAt_zero_iff.mpr hblank
      | succ place =>
        rw [← List.singleton_append, Nat.add_comm]
        exact blankAt_append.mpr (ih (Nat.lt_of_succ_lt_succ h))
    · cases h

theorem not_blankAt_blankLength (input : List UInt8) : ¬BlankAt input (blankLength input) := by
  induction input with
  | nil => simp [BlankAt]
  | cons b rest ih =>
    rw [blankLength]
    split
    · rw [← List.singleton_append, Nat.add_comm]
      exact mt blankAt_append.mp ih
    · rename_i hblank
      exact mt blankAt_zero_iff.mp hblank

end Blanks

end CLexicon
