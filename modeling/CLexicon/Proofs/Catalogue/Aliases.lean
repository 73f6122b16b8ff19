import CLexicon.Proofs.Catalogue.Ids

/-!
# Aliases that repeat

An entry has aliases from two sides: the further parts of a token that is cut, and
the spellings of the redirects that reach it.  A redirect adds no alias that is
there already, so none repeats because of it (`one_lt_count_addAlias` for one
alias, `one_lt_count_addStubs` for all).  The parts of a token are compared with
the first one only, so a part that repeats does so among the aliases too
(`one_lt_count_candidateOf`).

`repeated_aliases` says of every entry which of its aliases repeat, and so when
they form a set.  `repeatedPart` is a token whose entry has an alias twice.
-/

namespace CLexicon

open Text Repair

/-! ## Aliases from redirects -/

namespace Entry

variable {entry : Entry} {a : Alias}

/-- No alias repeats because one more is added. -/
theorem one_lt_count_addAlias {added : Alias} :
    1 < (entry.addAlias added).aliases.count a ↔ 1 < entry.aliases.count a := by
  unfold addAlias
  split
  · rfl
  rename_i hnew
  have hmissing : added ∉ entry.aliases := fun h => hnew (Or.inr h)
  show 1 < (entry.aliases ++ [added]).count a ↔ _
  rw [List.count_append]
  by_cases hsame : added = a
  · have hzero : entry.aliases.count a = 0 := List.count_eq_zero.mpr (hsame ▸ hmissing)
    have hone : [added].count a = 1 := by simp [hsame]
    omega
  · have hzero : [added].count a = 0 := by simp [hsame]
    omega

/-- No alias repeats because of the redirects that reach an entry. -/
theorem one_lt_count_addStubs {stubs : List Stub} :
    1 < (entry.addStubs stubs).aliases.count a ↔ 1 < entry.aliases.count a := by
  induction stubs generalizing entry with
  | nil => rfl
  | cons stub stubs ih => exact ih.trans one_lt_count_addAlias

end Entry

/-! ## Aliases from tokens -/

section Tokens

variable {options : NormalizeOptions} {item : RawItem}

/-- The further parts of a token are those that differ from the first. -/
theorem filter_words_of_pairParts? {token first : List Char} {others : List (List Char)}
    (h : pairParts? token = some (first, others)) :
    (words token).filter (· ≠ first) = others := by
  unfold pairParts? at h
  split at h
  · cases h
  rename_i head rest hwords
  dsimp only at h
  split at h
  · obtain ⟨rfl, rfl⟩ := Prod.mk.inj (Option.some.inj h)
    rw [hwords]
    exact List.filter_cons_of_neg (by simp)
  · cases h

/-- The token of an item is cut into its parts, or it is spelled as it stands. -/
theorem spellings_cases (options : NormalizeOptions) (item : RawItem) :
    (∃ first others, pairParts? (bareToken item) = some (first, others) ∧
      spellings options item = (String.ofList first, others.map String.ofList) ∧
      tokenSpellings options item = (words (bareToken item)).map String.ofList) ∨
    spellings options item = (String.ofList (bareToken item), []) ∧
      tokenSpellings options item = [String.ofList (bareToken item)] := by
  unfold spellings tokenSpellings
  dsimp only
  by_cases hsplit : options.splitPairs = true ∧ item.category = .operator
  · rw [if_pos hsplit]
    cases hparts : pairParts? (bareToken item) with
    | none => exact Or.inr ⟨rfl, by simp⟩
    | some parts =>
      exact Or.inl ⟨parts.1, parts.2, rfl, rfl, if_pos ⟨hsplit.1, hsplit.2, rfl⟩⟩
  · rw [if_neg hsplit]
    exact Or.inr ⟨rfl, if_neg fun h => hsplit ⟨h.1, h.2.1⟩⟩

/-- The further spellings of an item are those of its token that differ from the
first, as often as the token has them. -/
theorem filter_tokenSpellings :
    (tokenSpellings options item).filter (· ≠ (spellings options item).1) =
      (spellings options item).2 := by
  rcases spellings_cases options item with ⟨first, others, hparts, hspellings, htoken⟩ |
    ⟨hspellings, htoken⟩
  · rw [hspellings, htoken, List.filter_map, ← filter_words_of_pairParts? hparts]
    apply congrArg (List.map String.ofList)
    apply List.filter_congr
    intro part _
    simp [String.ofList_inj]
  · rw [hspellings, htoken]
    simp

/-- The aliases that an item brings repeat as the parts of its token do. -/
theorem one_lt_count_candidateOf (index : Nat) {a : Alias} :
    1 < (candidateOf options index item).aliases.count a ↔
      a.category = .operator ∧ a.spelling ≠ (spellings options item).1 ∧
        1 < (tokenSpellings options item).count a.spelling := by
  have hinjective : Function.Injective fun other : String => (⟨other, .operator⟩ : Alias) :=
    fun _ _ h => (Alias.mk.inj h).1
  show 1 < ((spellings options item).2.map fun other => ⟨other, .operator⟩).count a ↔ _
  obtain ⟨spelling, category⟩ := a
  by_cases hcategory : category = .operator
  · subst hcategory
    rw [List.count_map_of_injective _ _ hinjective, ← filter_tokenSpellings]
    by_cases hfirst : spelling = (spellings options item).1
    · simp [List.count_eq_zero.mpr, hfirst]
    · rw [List.count_filter (by simpa using hfirst)]
      simp [hfirst]
  · have hzero : ((spellings options item).2.map fun other =>
        (⟨other, .operator⟩ : Alias)).count ⟨spelling, category⟩ = 0 := by
      rw [List.count_eq_zero, List.mem_map]
      intro hgiven
      obtain ⟨other, -, heq⟩ := hgiven
      exact hcategory (Alias.mk.inj heq).2.symm
    simp [hzero, hcategory]

end Tokens

/-! ## All entries -/

/-- An alias of an entry repeats exactly if it is an operator, and the token of the
item that became the entry has it more than once among the parts that differ from
the first.  So the aliases of an entry form a set exactly if no such part repeats,
whichever redirects reach the entry. -/
theorem repeated_aliases (raw : List RawItem) (options : NormalizeOptions) :
    List.Forall₂ (fun entry place =>
        entry.FilledFrom (candidateOf options place.2 place.1) ∧
        (∀ a, 1 < entry.aliases.count a ↔
          a.category = .operator ∧ a.spelling ≠ entry.spelling ∧
            1 < (tokenSpellings options place.1).count a.spelling) ∧
        (entry.aliases.Nodup ↔ ∀ spelling, spelling ≠ entry.spelling →
          (tokenSpellings options place.1).count spelling ≤ 1))
      (normalize raw options).catalogue.entries (entryItems options raw) := by
  rw [entries_eq_map_acceptedItems, ← entryItems_eq_filter, List.forall₂_map_left_iff,
    List.forall₂_same]
  intro place _
  generalize mergedInto raw options (claimantAt options raw place).toEntry = stubs
  have hfilled : ((claimantAt options raw place).toEntry.addStubs stubs).FilledFrom
      (candidateOf options place.2 place.1) :=
    (Claimant.filledFrom_toEntry (claimantAt options raw place)).addStubs stubs
  have hrepeats : ∀ a, 1 < ((claimantAt options raw place).toEntry.addStubs
      stubs).aliases.count a ↔
        a.category = .operator ∧ a.spelling ≠ (spellings options place.1).1 ∧
          1 < (tokenSpellings options place.1).count a.spelling :=
    fun a => Entry.one_lt_count_addStubs.trans (one_lt_count_candidateOf place.2)
  have hspelling : ((claimantAt options raw place).toEntry.addStubs stubs).spelling =
      (spellings options place.1).1 := hfilled.spelling
  rw [hspelling]
  refine ⟨hfilled, hrepeats, ?_⟩
  rw [List.nodup_iff_count_le_one]
  constructor
  · intro hset spelling hother
    by_contra htwice
    have hcount := (hrepeats ⟨spelling, .operator⟩).mpr
      ⟨rfl, hother, Nat.lt_of_not_le htwice⟩
    exact Nat.not_lt_of_le (hset _) hcount
  · intro hparts a
    by_contra htwice
    obtain ⟨-, hother, hcount⟩ := (hrepeats a).mp (Nat.lt_of_not_le htwice)
    exact Nat.not_lt_of_le (hparts a.spelling hother) hcount

/-- Parentheses with the closing one twice. -/
def repeatedPart : List RawItem :=
  [{ id := "op-call", token := "( ) )", category := .operator,
     description := "Calls a function." }]

/-- The part that repeats is an alias twice. -/
theorem repeated_part_is_alias_twice :
    ∃ entry ∈ (normalize repeatedPart).catalogue.entries,
      entry.aliases = [⟨")", .operator⟩, ⟨")", .operator⟩] ∧ ¬entry.aliases.Nodup := by
  let entry : Entry := ⟨"op-call", "op-call", "(", .operator, "Calls a function.", none,
    [⟨")", .operator⟩, ⟨")", .operator⟩]⟩
  have hentries : (normalize repeatedPart).catalogue.entries = [entry] := by decide +kernel
  exact ⟨entry, by simp [hentries], rfl, by decide⟩

end CLexicon
