import CLexicon.Proofs.Catalogue.Survival
import CLexicon.Proofs.Lexicon.Lookup

/-!
# Which spellings are found

A lookup should find every spelling of every item that the report does not
name.  `surviving_spelling_found` says when it does.  The spellings of an
item that describes something are all found, and so is the first spelling of a
redirect.  The further spellings of a redirect whose token is cut into parts
are found only if another surviving item keeps them, and nothing reports the
others: `cut_redirect_loses_spelling` is the smallest catalogue that loses one.
-/

namespace CLexicon

open Repair

namespace Lexicon

/-- In the catalogue that was put in order, a spelling leads to an entry
exactly if some surviving item keeps it, and the entry answers to it. -/
theorem lookupIn?_normalize_iff {raw : List RawItem} {options : NormalizeOptions}
    {category : Category} {spelling : String} :
    (∃ entry, (ofCatalogue (normalize raw options).catalogue).lookupIn? category
        spelling = some entry ∧ entry.answersTo spelling) ↔
      ∃ index item, raw[index]? = some item ∧ Survives options raw index ∧
        item.category = category ∧ spelling ∈ keptSpellings options item := by
  rw [← exists_carries_iff_exists_survives, ← lookupIn?_isSome_iff]
  constructor
  · intro hgiven
    obtain ⟨entry, hlookup, -⟩ := hgiven
    rw [hlookup]
    rfl
  · intro hsome
    obtain ⟨entry, hlookup⟩ := Option.isSome_iff_exists.mp hsome
    exact ⟨entry, hlookup, (carries_of_lookupIn? hlookup).2.answersTo⟩

/-- Each spelling of a surviving item leads to an entry that answers to it,
unless the item is a redirect and the spelling is not its first.  In any case
the spelling does so exactly if some surviving item of the category keeps it.
-/
theorem surviving_spelling_found {raw : List RawItem} {options : NormalizeOptions}
    {index : Nat} {item : RawItem} {spelling : String}
    (hitem : raw[index]? = some item) (hsurvives : Survives options raw index)
    (hspelling : spelling ∈ tokenSpellings options item) :
    let lexicon := ofCatalogue (normalize raw options).catalogue
    (target? options item = none ∨ spelling = (spellings options item).1 →
      ∃ entry, lexicon.lookupIn? item.category spelling = some entry ∧
        entry.answersTo spelling) ∧
    ((∃ entry, lexicon.lookupIn? item.category spelling = some entry ∧
        entry.answersTo spelling) ↔
      ∃ index other, raw[index]? = some other ∧ Survives options raw index ∧
        other.category = item.category ∧ spelling ∈ keptSpellings options other) := by
  refine ⟨?_, lookupIn?_normalize_iff⟩
  intro hkept
  refine lookupIn?_normalize_iff.mpr ⟨index, item, hitem, hsurvives, rfl, ?_⟩
  unfold keptSpellings
  rcases hkept with htarget | hfirst
  · rw [htarget]
    exact List.mem_cons.mpr (mem_tokenSpellings.mp hspelling)
  · split
    · exact List.mem_singleton.mpr hfirst
    · exact List.mem_cons.mpr (Or.inl hfirst)

/-- A pair of brackets that redirects to a parenthesis. -/
def cutRedirect : List RawItem :=
  [{ id := "op-paren", token := "(", category := .operator,
     description := "Groups an expression." },
   { id := "op-brackets", token := "[ ]", category := .operator,
     description := "<a id=\"op-paren\"></a>" }]

theorem cutRedirect_survives (index : Nat) : Survives {} cutRedirect index := by
  have hreport : (normalize cutRedirect).report = [] := by decide +kernel
  intro issue hissue
  rw [hreport] at hissue
  cases hissue

/-- The first of the brackets leads to the parenthesis. -/
theorem cut_redirect_keeps_first :
    cutRedirect[1]? = some cutRedirect[1] ∧ Survives {} cutRedirect 1 ∧
      "[" ∈ tokenSpellings {} cutRedirect[1] ∧
      ∃ entry, (ofCatalogue (normalize cutRedirect).catalogue).lookupIn? .operator "[" =
        some entry ∧ entry.answersTo "[" := by
  have hitem : cutRedirect[1]? = some cutRedirect[1] := rfl
  have htoken : "[" ∈ tokenSpellings {} cutRedirect[1] := by decide +kernel
  refine ⟨hitem, cutRedirect_survives 1, htoken, ?_⟩
  exact (surviving_spelling_found hitem (cutRedirect_survives 1) htoken).1
    (Or.inr (by decide +kernel))

/-- The second of the brackets is lost, and nothing reports it. -/
theorem cut_redirect_loses_spelling :
    cutRedirect[1]? = some cutRedirect[1] ∧ Survives {} cutRedirect 1 ∧
      "]" ∈ tokenSpellings {} cutRedirect[1] ∧
      (ofCatalogue (normalize cutRedirect).catalogue).lookupIn? .operator "]" = none := by
  refine ⟨rfl, cutRedirect_survives 1, by decide +kernel, ?_⟩
  rw [lookupIn?_eq_lookup]
  decide +kernel

end Lexicon

end CLexicon
