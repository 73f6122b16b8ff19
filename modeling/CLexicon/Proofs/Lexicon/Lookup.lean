import CLexicon.Lexicon
import CLexicon.Proofs.Catalogue.Merge

/-!
# Looking up spellings

The table of a category is filled with pairs of a spelling and an entry, and
the first pair of a spelling counts.  `lookupIn?_eq_lookup` says this of all
three tables at once, and `mem_pairs` says which pairs there are: an entry is
paired with the spellings that it carries in the category.  So a spelling is
found exactly where some entry carries it (`lookupIn?_isSome_iff`), and leads
to an entry that does (`carries_of_lookupIn?`).
-/

namespace CLexicon

/-- What is found in a list of pairs is in it. -/
theorem mem_of_lookup_eq_some {α β : Type} [BEq α] [LawfulBEq α] {key : α} {value : β}
    {pairs : List (α × β)} (h : pairs.lookup key = some value) :
    (key, value) ∈ pairs := by
  obtain ⟨before, behind, rfl, -⟩ := List.lookup_eq_some_iff.mp h
  exact List.mem_append_right _ List.mem_cons_self

namespace SpellingTable

/-- An entry is paired with each spelling that it carries in the category. -/
theorem mem_pairs {catalogue : Catalogue} {category : Category} {spelling : String}
    {entry : Entry} :
    (spelling, entry) ∈ pairs catalogue category ↔
      entry ∈ catalogue.entries ∧ entry.Carries category spelling := by
  unfold pairs Catalogue.ofCategory Entry.Carries
  rw [List.mem_append, and_or_left, Entry.isSpelled_iff]
  apply or_congr
  · rw [List.mem_map]
    constructor
    · intro hgiven
      obtain ⟨_, hmem, heq⟩ := hgiven
      obtain ⟨rfl, rfl⟩ := Prod.mk.inj heq
      obtain ⟨hmem, hcategory⟩ := List.mem_filter.mp hmem
      exact ⟨hmem, of_decide_eq_true hcategory, rfl⟩
    · intro hgiven
      obtain ⟨hmem, hcategory, rfl⟩ := hgiven
      exact ⟨entry, List.mem_filter.mpr ⟨hmem, decide_eq_true hcategory⟩, rfl⟩
  · rw [List.mem_flatMap, ← Entry.mem_aliasesIn]
    constructor
    · intro hgiven
      obtain ⟨_, hmem, hpair⟩ := hgiven
      obtain ⟨_, halias, heq⟩ := List.mem_map.mp hpair
      obtain ⟨rfl, rfl⟩ := Prod.mk.inj heq
      exact ⟨hmem, halias⟩
    · intro hgiven
      obtain ⟨hmem, halias⟩ := hgiven
      exact ⟨entry, hmem, List.mem_map.mpr ⟨spelling, halias, rfl⟩⟩

end SpellingTable

namespace Lexicon

variable {catalogue : Catalogue} {category : Category} {spelling : String}

/-- A spelling leads to the first entry that it is paired with in the category.
-/
theorem lookupIn?_eq_lookup (catalogue : Catalogue) (category : Category)
    (spelling : String) :
    (ofCatalogue catalogue).lookupIn? category spelling =
      (SpellingTable.pairs catalogue category).lookup spelling := by
  cases category <;> exact SpellingTable.getElem?_ofPairs _ _

/-- The entry that a spelling leads to carries it. -/
theorem carries_of_lookupIn? {entry : Entry}
    (h : (ofCatalogue catalogue).lookupIn? category spelling = some entry) :
    entry ∈ catalogue.entries ∧ entry.Carries category spelling := by
  rw [lookupIn?_eq_lookup] at h
  exact SpellingTable.mem_pairs.mp (mem_of_lookup_eq_some h)

/-- A spelling leads to an entry exactly if some entry carries it. -/
theorem lookupIn?_isSome_iff :
    ((ofCatalogue catalogue).lookupIn? category spelling).isSome ↔
      ∃ entry ∈ catalogue.entries, entry.Carries category spelling := by
  constructor
  · intro h
    obtain ⟨entry, hentry⟩ := Option.isSome_iff_exists.mp h
    obtain ⟨hmem, hcarries⟩ := carries_of_lookupIn? hentry
    exact ⟨entry, hmem, hcarries⟩
  · intro hgiven
    obtain ⟨entry, hmem, hcarries⟩ := hgiven
    rw [lookupIn?_eq_lookup, List.lookup_isSome_iff]
    exact ⟨_, SpellingTable.mem_pairs.mpr ⟨hmem, hcarries⟩, beq_self_eq_true _⟩

end Lexicon

end CLexicon
