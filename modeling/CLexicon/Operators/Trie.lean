import CLexicon.Operators.Table

/-!
# Tries

A `Trie` maps spellings, read as bytes, to values. The first value that is
inserted for a spelling stays, and the empty spelling is never in it.

* `Trie.insert`, `Trie.get?`: filling it and asking it;
* `Trie.longestMatch?`: the longest spelling that some bytes start with, as
  its value and length. The walk goes down as far as the bytes allow and
  remembers the last value that it passed;
* `Trie.nodeCount`: how many different beginnings its spellings have.
-/

namespace CLexicon

/-- The nodes below one point of a trie. Each node stands for one more byte,
holds the value of the spelling that ends there, if one does, and leads to the
nodes below it and to its siblings. -/
inductive Trie (α : Type u) where
  | empty
  | node (byte : UInt8) (value : Option α) (below siblings : Trie α)
  deriving Repr

namespace Trie

variable {α : Type u}

/-- The value of a spelling. -/
def get? : Trie α → List UInt8 → Option α
  | _, [] => none
  | empty, _ => none
  | node byte value below siblings, b :: rest =>
    if b = byte then
      if rest = [] then value else below.get? rest
    else
      siblings.get? (b :: rest)

/-- The trie of one spelling, or the empty one for the empty spelling. -/
def single (added : α) : List UInt8 → Trie α
  | [] => empty
  | [b] => node b (some added) empty empty
  | b :: rest => node b none (single added rest) empty

/-- The trie with a value for one more spelling, unless it has a value for it
already. -/
def insert (added : α) : Trie α → List UInt8 → Trie α
  | trie, [] => trie
  | empty, spelling => single added spelling
  | node byte value below siblings, b :: rest =>
    if b = byte then
      if rest = [] then node byte (value.or (some added)) below siblings
      else node byte value (below.insert added rest) siblings
    else
      node byte value below (siblings.insert added (b :: rest))

/-- Whether inserting a value for a spelling would change the trie. -/
def isFree (trie : Trie α) (spelling : List UInt8) : Bool :=
  spelling ≠ [] && (trie.get? spelling).isNone

/-- The number of nodes: one for each different beginning of a spelling. -/
def size : Trie α → Nat
  | empty => 0
  | node _ _ below siblings => 1 + below.size + siblings.size

/-- The number of nodes, together with the one point above them all. -/
def nodeCount (trie : Trie α) : Nat :=
  trie.size + 1

/-- The value and length of the longest spelling that the input starts with.
-/
def longestMatch? : Trie α → List UInt8 → Option (α × Nat)
  | _, [] => none
  | empty, _ => none
  | node byte value below siblings, b :: rest =>
    if b = byte then
      ((below.longestMatch? rest).map fun (found, length) =>
        (found, length + 1)).or (value.map fun here => (here, 1))
    else
      siblings.longestMatch? (b :: rest)

/-- The trie of a list of spellings with their values. -/
def ofList (pairs : List (List UInt8 × α)) : Trie α :=
  pairs.foldl (fun trie (spelling, added) => trie.insert added spelling) empty

/-! ## Values after insertion -/

theorem get?_nil (trie : Trie α) : trie.get? [] = none := by
  cases trie <;> rfl

theorem get?_empty (spelling : List UInt8) :
    (empty : Trie α).get? spelling = none := by
  cases spelling <;> rfl

/-- A trie of one spelling has a value for that spelling alone. -/
theorem get?_single (added : α) (spelling other : List UInt8) :
    (single added spelling).get? other =
      if other = spelling ∧ spelling ≠ [] then some added else none := by
  induction spelling generalizing other with
  | nil => simp [single, get?_empty]
  | cons b rest ih =>
    cases other with
    | nil => simp [get?_nil]
    | cons c tail =>
      cases rest with
      | nil =>
        by_cases h : c = b <;> by_cases ht : tail = [] <;>
          simp [single, get?, h, ht, get?_empty]
      | cons d rest =>
        by_cases h : c = b
        · by_cases ht : tail = []
          · simp [single, get?, h, ht]
          · simp [single, get?, h, ht, ih]
        · simp [single, get?, h]

/-- Inserting changes the value of one spelling, and only if that has none. -/
theorem get?_insert (added : α) (trie : Trie α) (spelling other : List UInt8) :
    (trie.insert added spelling).get? other =
      (trie.get? other).or
        (if other = spelling ∧ spelling ≠ [] then some added else none) := by
  induction trie generalizing spelling other with
  | empty =>
    cases spelling with
    | nil => simp [insert, get?_empty]
    | cons b rest => simp [insert, get?_single, get?_empty]
  | node byte value below siblings belowIH siblingsIH =>
    cases spelling with
    | nil => simp [insert]
    | cons b rest =>
      cases other with
      | nil => simp [get?_nil]
      | cons c tail =>
        by_cases here : b = byte
        · subst here
          by_cases last : rest = []
          · subst last
            by_cases h : c = b
            · by_cases ht : tail = [] <;> simp [insert, get?, h, ht]
            · simp [insert, get?, h]
          · by_cases h : c = b
            · by_cases ht : tail = []
              · simp [insert, get?, h, ht, last, Ne.symm last]
              · simp [insert, get?, h, ht, last, belowIH]
            · simp [insert, get?, h, last]
        · by_cases h : c = byte
          · have : ¬ byte = b := fun e => here e.symm
            by_cases ht : tail = [] <;> simp [insert, get?, h, ht, here, this]
          · simp [insert, get?, h, here, siblingsIH]

/-! ## The table of a trie -/

/-- A match is not empty and lies within the input. -/
theorem length_of_longestMatch? {trie : Trie α} {input : List UInt8}
    {found : α} {length : Nat}
    (h : trie.longestMatch? input = some (found, length)) :
    0 < length ∧ length ≤ input.length := by
  induction trie generalizing input found length with
  | empty => cases input <;> cases h
  | node byte value below siblings belowIH siblingsIH =>
    cases input with
    | nil => cases h
    | cons b rest =>
      rw [longestMatch?] at h
      split at h
      · rw [Option.or_eq_some_iff] at h
        simp only [Option.map_eq_some_iff, Prod.mk.injEq] at h
        rw [List.length_cons]
        rcases h with ⟨⟨_, inner⟩, isMatch, _, rfl⟩ | ⟨_, _, _, _, rfl⟩
        · have := belowIH isMatch
          simp only
          omega
        · omega
      · exact siblingsIH h

/-- The table of the spellings of a trie. -/
def toTable (trie : Trie α) : OperatorTable where
  longest? input := (trie.longestMatch? input).map Prod.snd
  longest?_pos h := by
    obtain ⟨⟨_, _⟩, isMatch, rfl⟩ := Option.map_eq_some_iff.mp h
    exact (length_of_longestMatch? isMatch).1
  longest?_le h := by
    obtain ⟨⟨_, _⟩, isMatch, rfl⟩ := Option.map_eq_some_iff.mp h
    exact (length_of_longestMatch? isMatch).2

end Trie

end CLexicon
