import CLexicon.Proofs.Lexicon.Operators
import CLexicon.Proofs.Operators.Insertions

/-!
# Operators by number

A trie of operators may hold numbers instead of entries: the entries are in a list, and a
number is a place in the list.  Such a table is filled spelling by spelling.  A spelling that
already has a number is passed over, and any other one is given the next number, of 32 bits.
The matches are those of a trie that holds the entries themselves.

* `SlotTable`: the trie of numbers and the list, with what they are asked.
* `SlotTable.Represents`: the invariant.  Each number is a place in the list, and the value
  in that place is the one that a trie of values has for the spelling.  `Represents.add` is
  one spelling more, `Represents.addAll` any number of them.
* `SlotTable.Represents.longestMatch?_eq`, `SlotTable.Represents.toTable_longest?_eq`: what
  a match is, and what a scanner sees of it.
* `Lexicon.operatorAt?_eq_slotTable`, `Lexicon.longest?_eq_slotTable`: the operators of a
  lexicon.
-/

namespace CLexicon

variable {α : Type u}

/-- A trie of numbers, with the list of the values that they stand for. -/
structure SlotTable (α : Type u) where
  trie : Trie UInt32 := .empty
  values : List α := []

namespace SlotTable

/-- The value that a number stands for. -/
def value? (table : SlotTable α) (slot : UInt32) : Option α :=
  table.values[slot.toNat]?

/-- The value of a spelling. -/
def get? (table : SlotTable α) (spelling : List UInt8) : Option α :=
  (table.trie.get? spelling).bind table.value?

/-- The value and length of the longest spelling that the input starts with. -/
def longestMatch? (table : SlotTable α) (input : List UInt8) : Option (α × Nat) :=
  (table.trie.longestMatch? input).bind fun (slot, length) =>
    (table.value? slot).map fun value => (value, length)

/-- The table with the next number for a spelling, unless the spelling has one.  The empty
spelling never has one, and still uses up a place in the list. -/
def add (table : SlotTable α) (pair : List UInt8 × α) : SlotTable α :=
  if (table.trie.get? pair.1).isSome then table
  else
    { trie := table.trie.insert (UInt32.ofNat table.values.length) pair.1
      values := table.values ++ [pair.2] }

/-- The table of a list of spellings with their values. -/
def ofList (pairs : List (List UInt8 × α)) : SlotTable α :=
  pairs.foldl add {}

/-- A table gives the answers of a trie of values. -/
structure Represents (table : SlotTable α) (trie : Trie α) : Prop where
  /-- A number that was given is a place in the list. -/
  lt_length : ∀ spelling slot, table.trie.get? spelling = some slot →
    slot.toNat < table.values.length
  get?_eq : ∀ spelling, table.get? spelling = trie.get? spelling

variable {table : SlotTable α} {trie : Trie α}

theorem length_add_le (table : SlotTable α) (pair : List UInt8 × α) :
    (table.add pair).values.length ≤ table.values.length + 1 := by
  unfold add
  split
  · omega
  · simp

theorem add_of_free {spelling : List UInt8} (h : table.trie.get? spelling = none) (value : α) :
    table.add (spelling, value) =
      { trie := table.trie.insert (UInt32.ofNat table.values.length) spelling
        values := table.values ++ [value] } := by
  rw [add, if_neg (by simp [h])]

namespace Represents

theorem empty : ({} : SlotTable α).Represents .empty where
  lt_length spelling slot h := by
    rw [Trie.get?_empty] at h
    cases h
  get?_eq spelling := by
    rw [get?, Trie.get?_empty, Trie.get?_empty]
    rfl

/-- Each number that was given stands for a value. -/
theorem exists_value (h : table.Represents trie) {spelling : List UInt8} {slot : UInt32}
    (hslot : table.trie.get? spelling = some slot) :
    ∃ value, table.value? slot = some value ∧ trie.get? spelling = some value := by
  have hlt := h.lt_length spelling slot hslot
  have hvalue : table.value? slot = some table.values[slot.toNat] :=
    List.getElem?_eq_getElem hlt
  refine ⟨table.values[slot.toNat], hvalue, ?_⟩
  rw [← h.get?_eq, get?, hslot]
  exact hvalue

/-- The spellings that have a number are those that have a value. -/
theorem get?_isSome_iff (h : table.Represents trie) (spelling : List UInt8) :
    (table.trie.get? spelling).isSome ↔ (trie.get? spelling).isSome := by
  cases hslot : table.trie.get? spelling with
  | none =>
    have hnone : trie.get? spelling = none := by
      rw [← h.get?_eq, get?, hslot]
      rfl
    rw [hnone]
    rfl
  | some slot =>
    obtain ⟨value, -, hvalue⟩ := h.exists_value hslot
    rw [hvalue]
    rfl

section Free

variable {spelling : List UInt8}

/-- The next number is a place in the list as soon as its value is there. -/
theorem lt_length_add (h : table.Represents trie) (hroom : table.values.length < UInt32.size)
    (hfree : table.trie.get? spelling = none) {value : α} {other : List UInt8} {slot : UInt32}
    (hslot : (table.add (spelling, value)).trie.get? other = some slot) :
    slot.toNat < (table.add (spelling, value)).values.length := by
  have hnumber : (UInt32.ofNat table.values.length).toNat = table.values.length :=
    UInt32.toNat_ofNat_of_lt' hroom
  rw [add_of_free hfree] at hslot ⊢
  rw [Trie.get?_insert, Option.or_eq_some_iff] at hslot
  show slot.toNat < (table.values ++ [value]).length
  rw [List.length_append, List.length_singleton]
  rcases hslot with hold | ⟨-, hnew⟩
  · have hlt := h.lt_length other slot hold
    omega
  · obtain ⟨-, hsome⟩ := Option.ite_none_right_eq_some.mp hnew
    obtain rfl := Option.some.inj hsome
    omega

/-- The free spelling has its value, and every other one has what it had. -/
theorem get?_add (h : table.Represents trie) (hroom : table.values.length < UInt32.size)
    (hfree : table.trie.get? spelling = none) (value : α) (other : List UInt8) :
    (table.add (spelling, value)).get? other =
      (table.get? other).or (if other = spelling ∧ spelling ≠ [] then some value else none) := by
  have hnumber : (UInt32.ofNat table.values.length).toNat = table.values.length :=
    UInt32.toNat_ofNat_of_lt' hroom
  rw [add_of_free hfree]
  show ((table.trie.insert _ spelling).get? other).bind
    (fun slot => (table.values ++ [value])[slot.toNat]?) = _
  rw [Trie.get?_insert, get?]
  cases hother : table.trie.get? other with
  | some slot =>
    -- an old number stands for what it stood for before
    obtain ⟨found, hfound, -⟩ := h.exists_value hother
    have hsame : (table.values ++ [value])[slot.toNat]? = table.value? slot :=
      List.getElem?_append_left (h.lt_length other slot hother)
    simp [hsame, hfound]
  | none =>
    have hlast : (table.values ++ [value])[table.values.length]? = some value := by simp
    by_cases hnew : other = spelling ∧ spelling ≠ []
    · simp only [Option.none_or, if_pos hnew, Option.bind_some, Option.bind_none, hnumber, hlast]
    · simp only [Option.none_or, if_neg hnew, Option.bind_none]

end Free

/-- One spelling more, as long as its number fits 32 bits. -/
theorem add (h : table.Represents trie) (hroom : table.values.length < UInt32.size)
    (pair : List UInt8 × α) : (table.add pair).Represents (trie.insert pair.2 pair.1) := by
  obtain ⟨spelling, value⟩ := pair
  cases hspelling : table.trie.get? spelling with
  | some slot =>
    have htaken : (table.trie.get? spelling).isSome := by rw [hspelling]; rfl
    rw [SlotTable.add, if_pos htaken,
      Trie.insert_of_get?_isSome _ ((h.get?_isSome_iff _).mp htaken)]
    exact h
  | none =>
    constructor
    · intro other slot hslot
      exact h.lt_length_add hroom hspelling hslot
    · intro other
      rw [h.get?_add hroom hspelling, h.get?_eq, ← Trie.get?_insert]

/-- Any number of spellings more, as long as there are numbers enough. -/
theorem addAll (pairs : List (List UInt8 × α)) {table : SlotTable α} {trie : Trie α}
    (h : table.Represents trie)
    (hroom : table.values.length + pairs.length ≤ UInt32.size) :
    (pairs.foldl SlotTable.add table).Represents
      (pairs.foldl (fun trie (spelling, added) => trie.insert added spelling) trie) := by
  induction pairs generalizing table trie with
  | nil => exact h
  | cons pair pairs ih =>
    rw [List.length_cons] at hroom
    have hadded := length_add_le table pair
    have hstep := h.add (by omega) pair
    rw [List.foldl_cons, List.foldl_cons]
    exact ih hstep (by omega)

theorem longestMatch?_isSome_iff (h : table.Represents trie) (input : List UInt8) :
    (table.trie.longestMatch? input).isSome ↔ (trie.longestMatch? input).isSome := by
  rw [Trie.longestMatch?_isSome_iff, Trie.longestMatch?_isSome_iff]
  exact exists_congr fun spelling => and_congr_right fun _ => h.get?_isSome_iff spelling

/-- A match has the value and the length that a trie of values finds. -/
theorem longestMatch?_eq (h : table.Represents trie) (input : List UInt8) :
    table.longestMatch? input = trie.longestMatch? input := by
  unfold SlotTable.longestMatch?
  cases hmatch : table.trie.longestMatch? input with
  | none =>
    have hnone : trie.longestMatch? input = none := by
      rw [← Option.not_isSome_iff_eq_none, ← h.longestMatch?_isSome_iff, hmatch]
      simp
    rw [hnone]
    rfl
  | some found =>
    obtain ⟨slot, length⟩ := found
    obtain ⟨hle, hslot, hlongest⟩ := Trie.longestMatch?_eq_some_iff.mp hmatch
    obtain ⟨value, hvalue, htrie⟩ := h.exists_value hslot
    have hfound : trie.longestMatch? input = some (value, length) := by
      refine Trie.longestMatch?_eq_some_iff.mpr ⟨hle, htrie, ?_⟩
      intro spelling hbegins hsome
      exact hlongest spelling hbegins ((h.get?_isSome_iff spelling).mpr hsome)
    rw [hfound]
    simp [hvalue]

/-- A scanner sees the same lengths. -/
theorem toTable_longest?_eq (h : table.Represents trie) (input : List UInt8) :
    table.trie.toTable.longest? input = trie.toTable.longest? input := by
  show (table.trie.longestMatch? input).map Prod.snd = (trie.longestMatch? input).map Prod.snd
  rw [← h.longestMatch?_eq, SlotTable.longestMatch?]
  cases hmatch : table.trie.longestMatch? input with
  | none => rfl
  | some found =>
    obtain ⟨slot, length⟩ := found
    obtain ⟨value, hvalue, -⟩ := h.exists_value (Trie.get?_take_of_longestMatch? hmatch)
    simp [hvalue]

end Represents

/-- A table that is filled from a list represents the trie that is filled from it. -/
theorem represents_ofList {pairs : List (List UInt8 × α)}
    (hroom : pairs.length ≤ UInt32.size) : (ofList pairs).Represents (Trie.ofList pairs) :=
  Represents.empty.addAll pairs (by simpa using hroom)

/-- A repeated spelling takes no number, and the empty one takes one that nothing leads to. -/
example :
    let table := ofList [([0x3C], "first"), ([], "empty"), ([0x3C], "again"), ([0x3E], "last")]
    table.values = ["first", "empty", "last"] ∧ table.trie.get? [0x3E] = some 2 := by
  decide

end SlotTable

namespace Lexicon

/-- The operators of a catalogue by number, entry by entry. -/
def slotTable (catalogue : Catalogue) : SlotTable Entry :=
  .ofList (operatorPairs catalogue (SpellingTable.ofCatalogue catalogue .operator))

variable {catalogue : Catalogue}

theorem length_operatorPairs (operators : SpellingTable) :
    (operatorPairs catalogue operators).length = catalogue.operatorSpellings.length := by
  simp [operatorPairs, Catalogue.operatorSpellings, List.length_flatMap]

theorem represents_slotTable (hroom : catalogue.operatorSpellings.length ≤ UInt32.size) :
    (slotTable catalogue).Represents (ofCatalogue catalogue).trie :=
  SlotTable.represents_ofList (by rwa [length_operatorPairs])

/-- The operator at an offset is the one whose number the trie of numbers finds there. -/
theorem operatorAt?_eq_slotTable (hroom : catalogue.operatorSpellings.length ≤ UInt32.size)
    (buffer : List UInt8) (offset : Nat) :
    (ofCatalogue catalogue).operatorAt? buffer offset =
      if offset ≤ buffer.length then (slotTable catalogue).longestMatch? (buffer.drop offset)
      else none := by
  rw [operatorAt?, (represents_slotTable hroom).longestMatch?_eq]

/-- What a scanner sees of the operators is what it sees of their numbers. -/
theorem longest?_eq_slotTable (hroom : catalogue.operatorSpellings.length ≤ UInt32.size)
    (input : List UInt8) :
    (ofCatalogue catalogue).operatorTable.longest? input =
      (slotTable catalogue).trie.toTable.longest? input :=
  ((represents_slotTable hroom).toTable_longest?_eq input).symm

end Lexicon

end CLexicon
