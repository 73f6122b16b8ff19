import CLexicon.Operators.Trie

/-!
# Longest matches of a trie

The walk of `Trie.longestMatch?` goes down a trie byte by byte and remembers
the last value it passed.  This module says what it finds in terms of
`Trie.get?` alone, so that no later proof looks at nodes.

* `longestMatch?_eq_some_iff`: a match is the value of a beginning of the
  input, and no longer beginning has a value.
* `longestMatch?_isSome_iff`: there is a match as soon as some beginning of the
  input has a value.
* `get?_ofList`: a trie that is filled from a list gives a spelling the first
  value that the list has for it.
-/

namespace CLexicon.Trie

variable {α : Type u}

/-! ## What a match is -/

/-- A match is a beginning of the input, and its value is the one that the
trie has for this beginning. -/
theorem get?_take_of_longestMatch? {trie : Trie α} {input : List UInt8}
    {found : α} {length : Nat}
    (h : trie.longestMatch? input = some (found, length)) :
    trie.get? (input.take length) = some found := by
  induction trie generalizing input found length with
  | empty => cases input <;> cases h
  | node byte value below siblings belowIH siblingsIH =>
    cases input with
    | nil => cases h
    | cons b rest =>
      have hpos := (length_of_longestMatch? h).1
      obtain ⟨length, rfl⟩ : ∃ n, length = n + 1 := ⟨length - 1, by omega⟩
      rw [longestMatch?] at h
      rw [List.take_succ_cons, get?]
      split at h
      · rename_i hbyte
        rw [if_pos hbyte]
        rw [Option.or_eq_some_iff] at h
        simp only [Option.map_eq_some_iff, Prod.mk.injEq] at h
        rcases h with ⟨⟨_, inner⟩, hinner, rfl, hlen⟩ | ⟨_, here, hhere, rfl, hlen⟩
        · obtain rfl : inner = length := by omega
          have hdeeper := belowIH hinner
          rw [if_neg, hdeeper]
          intro hnil
          rw [hnil, get?_nil] at hdeeper
          cases hdeeper
        · obtain rfl : length = 0 := by omega
          rw [List.take_zero, if_pos rfl, hhere]
      · rename_i hbyte
        rw [if_neg hbyte]
        exact siblingsIH h

/-- A beginning of the input that has a value is matched, unless a longer one
is. -/
theorem exists_longestMatch?_of_get? {trie : Trie α} {input spelling : List UInt8}
    {value : α} (hvalue : trie.get? spelling = some value)
    (hstarts : spelling <+: input) :
    ∃ found length, trie.longestMatch? input = some (found, length) ∧
      spelling.length ≤ length := by
  induction trie generalizing input spelling with
  | empty => rw [get?_empty] at hvalue; cases hvalue
  | node byte here below siblings belowIH siblingsIH =>
    cases spelling with
    | nil => rw [get?_nil] at hvalue; cases hvalue
    | cons b tail =>
      obtain ⟨rest, rfl⟩ := hstarts
      rw [List.cons_append, longestMatch?]
      rw [get?] at hvalue
      split at hvalue
      · rename_i hbyte
        rw [if_pos hbyte]
        split at hvalue
        · rename_i htail
          subst htail hvalue
          cases hbelow : below.longestMatch? ([] ++ rest) with
          | none => exact ⟨value, 1, by simp, by simp⟩
          | some inner => exact ⟨inner.1, inner.2 + 1, by simp, by simp⟩
        · obtain ⟨found, length, hfound, hle⟩ :=
            belowIH hvalue (List.prefix_append tail rest)
          refine ⟨found, length + 1, by rw [hfound]; rfl, ?_⟩
          simp only [List.length_cons]
          omega
      · rename_i hbyte
        rw [if_neg hbyte]
        exact siblingsIH hvalue (List.prefix_append (b :: tail) rest)

/-- A match is a beginning of the input that has a value, and none that is
longer has one. -/
theorem longestMatch?_eq_some_iff {trie : Trie α} {input : List UInt8}
    {found : α} {length : Nat} :
    trie.longestMatch? input = some (found, length) ↔
      length ≤ input.length ∧ trie.get? (input.take length) = some found ∧
        ∀ spelling, spelling <+: input → (trie.get? spelling).isSome →
          spelling.length ≤ length := by
  constructor
  · intro h
    refine ⟨(length_of_longestMatch? h).2, get?_take_of_longestMatch? h, ?_⟩
    intro spelling hstarts hsome
    obtain ⟨value, hvalue⟩ := Option.isSome_iff_exists.mp hsome
    obtain ⟨_, _, hmatch, hle⟩ := exists_longestMatch?_of_get? hvalue hstarts
    rw [h] at hmatch
    obtain ⟨_, rfl⟩ := Prod.mk.inj (Option.some.inj hmatch)
    exact hle
  · intro hgiven
    obtain ⟨hlen, hvalue, hlongest⟩ := hgiven
    obtain ⟨other, longer, hmatch, hle⟩ :=
      exists_longestMatch?_of_get? hvalue (List.take_prefix length input)
    have hother := get?_take_of_longestMatch? hmatch
    have hbound := hlongest _ (List.take_prefix longer input) (by rw [hother]; rfl)
    have hlonger := (length_of_longestMatch? hmatch).2
    rw [List.length_take_of_le hlonger] at hbound
    rw [List.length_take_of_le hlen] at hle
    obtain rfl : longer = length := by omega
    rw [hvalue] at hother
    rw [hmatch, Option.some.inj hother]

/-- There is a match where a beginning of the input has a value. -/
theorem longestMatch?_isSome_iff {trie : Trie α} {input : List UInt8} :
    (trie.longestMatch? input).isSome ↔
      ∃ spelling, spelling <+: input ∧ (trie.get? spelling).isSome := by
  constructor
  · intro h
    obtain ⟨⟨found, length⟩, hmatch⟩ := Option.isSome_iff_exists.mp h
    refine ⟨input.take length, List.take_prefix _ _, ?_⟩
    rw [get?_take_of_longestMatch? hmatch]
    rfl
  · intro hgiven
    obtain ⟨spelling, hstarts, hsome⟩ := hgiven
    obtain ⟨value, hvalue⟩ := Option.isSome_iff_exists.mp hsome
    obtain ⟨_, _, hmatch, _⟩ := exists_longestMatch?_of_get? hvalue hstarts
    rw [hmatch]
    rfl

/-! ## Filling a trie from a list -/

private theorem get?_foldl_insert (pairs : List (List UInt8 × α)) (trie : Trie α)
    (spelling : List UInt8) :
    (pairs.foldl (fun trie (spelling, added) => trie.insert added spelling)
        trie).get? spelling =
      (trie.get? spelling).or
        (if spelling = [] then none else pairs.lookup spelling) := by
  induction pairs generalizing trie with
  | nil => simp
  | cons pair rest ih =>
    rw [List.foldl_cons, ih, get?_insert, Option.or_assoc, List.lookup_cons]
    congr 1
    by_cases hnil : spelling = []
    · subst hnil
      rw [if_neg (fun h => h.2 h.1.symm)]
      simp
    · by_cases hsame : spelling = pair.1
      · subst hsame
        simp [hnil]
      · have hbeq : (spelling == pair.1) = false := by simp [hsame]
        simp [hnil, hsame, hbeq]

/-- A spelling has the first value that the list has for it.  The empty
spelling has none. -/
theorem get?_ofList (pairs : List (List UInt8 × α)) (spelling : List UInt8) :
    (ofList pairs).get? spelling =
      if spelling = [] then none else pairs.lookup spelling := by
  rw [ofList, get?_foldl_insert, get?_empty, Option.none_or]

end CLexicon.Trie
