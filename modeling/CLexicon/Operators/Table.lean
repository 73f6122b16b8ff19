/-!
# Operator tables

An `OperatorTable` answers one question: how long is the longest operator
spelling that some bytes start with? It is all that a scanner needs to know of
operators.

* `OperatorTable.ofSpellings`: the table of a list of spellings;
* `longestSpelling?`: its answer, the greatest length among the spellings
  that the bytes start with.
-/

namespace CLexicon

/-- A set of operator spellings, as the length of the longest of them that
some bytes start with. No spelling is empty, and none is longer than the bytes
that start with it. -/
structure OperatorTable where
  longest? : List UInt8 → Option Nat
  longest?_pos : ∀ {input length}, longest? input = some length → 0 < length
  longest?_le :
    ∀ {input length}, longest? input = some length → length ≤ input.length

namespace OperatorTable

/-- The length of the longest spelling that the input starts with. Empty
spellings do not count. -/
def longestSpelling? (spellings : List (List UInt8)) (input : List UInt8) :
    Option Nat :=
  ((spellings.filter fun s => s ≠ [] ∧ s.isPrefixOf input).map
    List.length).max?

theorem exists_of_longestSpelling? {spellings : List (List UInt8)}
    {input : List UInt8} {length : Nat}
    (h : longestSpelling? spellings input = some length) :
    ∃ spelling ∈ spellings,
      spelling ≠ [] ∧ spelling <+: input ∧ spelling.length = length := by
  have isLength := List.max?_mem h
  simp only [List.mem_map, List.mem_filter] at isLength
  obtain ⟨spelling, ⟨isMember, fits⟩, same⟩ := isLength
  have fits := of_decide_eq_true fits
  exact ⟨spelling, isMember, fits.1,
    List.isPrefixOf_iff_prefix.mp fits.2, same⟩

/-- The table of a list of spellings. -/
def ofSpellings (spellings : List (List UInt8)) : OperatorTable where
  longest? := longestSpelling? spellings
  longest?_pos h := by
    obtain ⟨_, _, nonempty, _, rfl⟩ := exists_of_longestSpelling? h
    exact List.length_pos_iff.mpr nonempty
  longest?_le h := by
    obtain ⟨_, _, _, fits, rfl⟩ := exists_of_longestSpelling? h
    exact fits.length_le

end OperatorTable

end CLexicon
