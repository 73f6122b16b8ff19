import CLexicon.Proofs.Catalogue.Survival
import CLexicon.Proofs.Catalogue.WellFormed
import CLexicon.Proofs.Lexicon.Lookup
import Mathlib.Data.List.Forall2

/-!
# Which entry a spelling leads to

Several entries may carry a spelling in one category.  This module says which
of them a lookup finds, and that the report on the catalogue tells the same.

* `Lexicon.lookupIn?_eq_find?`: the first entry that is spelled so, or else the
  first entry with such an alias.
* `Catalogue.shadowed`: the entries that no lookup of their own spelling finds,
  because an earlier entry has it.  By `shadowed_eq_filter`, these are the
  entries with something to report.
* `lookup_precedence`: both together, for every catalogue that was put in
  order.
-/

namespace CLexicon

/-! ## The first of the pairs -/

namespace SpellingTable

/-- Of the spellings that one entry is paired with, each leads to it. -/
theorem lookup_map_pair (spellings : List String) (entry : Entry) (spelling : String) :
    (spellings.map fun spelling => (spelling, entry)).lookup spelling =
      if spelling ∈ spellings then some entry else none := by
  induction spellings with
  | nil => rfl
  | cons first spellings ih =>
    rw [List.map_cons, List.lookup_cons, ih]
    by_cases hfirst : spelling = first
    · simp [hfirst]
    · have hbeq : (spelling == first) = false := by simp [hfirst]
      simp [hfirst, hbeq]

/-- Of the own spellings, the first that fits counts. -/
theorem lookup_own (entries : List Entry) (category : Category) (spelling : String) :
    ((entries.filter (·.category = category)).map fun entry =>
        (entry.spelling, entry)).lookup spelling =
      entries.find? (·.isSpelled category spelling) := by
  induction entries with
  | nil => rfl
  | cons entry entries ih =>
    rw [List.filter_cons, List.find?_cons, Entry.isSpelled]
    by_cases hcategory : entry.category = category
    · rw [if_pos (decide_eq_true hcategory), List.map_cons, List.lookup_cons, ih]
      by_cases hspelling : entry.spelling = spelling
      · simp [hcategory, hspelling]
      · have hbeq : (spelling == entry.spelling) = false := by simp [Ne.symm hspelling]
        simp [hcategory, hspelling, hbeq]
    · rw [if_neg (by simp [hcategory]), ih]
      simp [hcategory]

/-- Of the aliases, the first that fits counts. -/
theorem lookup_aliases (entries : List Entry) (category : Category) (spelling : String) :
    (entries.flatMap fun entry =>
        (entry.aliasesIn category).map fun spelling => (spelling, entry)).lookup spelling =
      entries.find? fun entry => ⟨spelling, category⟩ ∈ entry.aliases := by
  induction entries with
  | nil => rfl
  | cons entry entries ih =>
    rw [List.flatMap_cons, List.lookup_append, lookup_map_pair, ih, List.find?_cons]
    by_cases halias : ⟨spelling, category⟩ ∈ entry.aliases
    · rw [if_pos (Entry.mem_aliasesIn.mpr halias), decide_eq_true halias]
      rfl
    · rw [if_neg (mt Entry.mem_aliasesIn.mp halias), decide_eq_false halias]
      rfl

end SpellingTable

namespace Lexicon

/-- A spelling leads to the first entry that is spelled so in the category, or
else to the first that has it as an alias of the category. -/
theorem lookupIn?_eq_find? (catalogue : Catalogue) (category : Category)
    (spelling : String) :
    (ofCatalogue catalogue).lookupIn? category spelling =
      (catalogue.entries.find? (·.isSpelled category spelling)).or
        (catalogue.entries.find? fun entry => ⟨spelling, category⟩ ∈ entry.aliases) := by
  rw [lookupIn?_eq_lookup, SpellingTable.pairs, List.lookup_append]
  exact congrArg₂ Option.or (SpellingTable.lookup_own _ _ _)
    (SpellingTable.lookup_aliases _ _ _)

/-- Without a category, keywords go before operators, and these before
identifiers. -/
theorem lookup?_eq_or (lexicon : Lexicon) (spelling : String) :
    lexicon.lookup? spelling =
      (lexicon.lookupIn? .keyword spelling).or
        ((lexicon.lookupIn? .operator spelling).or
          (lexicon.lookupIn? .identifier spelling)) := by
  show List.findSome? _ [Category.keyword, .operator, .identifier] = _
  simp only [List.findSome?_cons, List.findSome?_nil]
  cases lexicon.lookupIn? .keyword spelling <;>
    cases lexicon.lookupIn? .operator spelling <;>
    cases lexicon.lookupIn? .identifier spelling <;> rfl

end Lexicon

/-! ## Shadowed spellings -/

/-- The entries that come behind another one of their category and spelling, in
order. -/
def Catalogue.shadowed (catalogue : Catalogue) : List Entry :=
  (catalogue.entries.zipIdx.filter fun (entry, place) =>
    (catalogue.entries.take place).any
      (·.isSpelled entry.category entry.spelling)).map Prod.fst

section Shadowed

variable {entries : List Entry} {entry : Entry}

/-- Where all ids differ, an entry is reported exactly if an earlier one has its
category and spelling. -/
theorem shadowIssue?_isSome_iff (hids : (entries.map Entry.id).Nodup) {place : Nat}
    (hentry : entries[place]? = some entry) :
    (shadowIssue? entries entry).isSome ↔
      (entries.take place).any (·.isSpelled entry.category entry.spelling) := by
  have hown : entry.isSpelled entry.category entry.spelling :=
    Entry.isSpelled_iff.mpr ⟨rfl, rfl⟩
  obtain ⟨hplace, hget⟩ := List.getElem?_eq_some_iff.mp hentry
  have hsplit : entries = entries.take place ++ entry :: entries.drop (place + 1) := by
    rw [← hget, List.getElem_cons_drop, List.take_append_drop]
  have hfirst : firstSpelled? entries entry.category entry.spelling =
      ((entries.take place).find? (·.isSpelled entry.category entry.spelling)).or
        (some entry) := by
    conv => lhs; rw [hsplit, firstSpelled?, List.find?_append]
    rw [List.find?_cons, hown]
  rw [List.any_eq_true, ← List.find?_isSome]
  constructor
  · intro hsome
    obtain ⟨issue, hissue⟩ := Option.isSome_iff_exists.mp hsome
    obtain ⟨winner, hwinner, hid, -⟩ := shadowIssue?_eq_some_iff.mp hissue
    rw [hfirst, Option.or_eq_some_iff] at hwinner
    rcases hwinner with hbefore | ⟨-, heq⟩
    · rw [hbefore]
      rfl
    · rw [Option.some.inj heq] at hid
      exact absurd rfl hid
  · intro hsome
    obtain ⟨winner, hwinner⟩ := Option.isSome_iff_exists.mp hsome
    rw [hwinner, Option.some_or] at hfirst
    apply Option.isSome_iff_exists.mpr
    refine ⟨_, shadowIssue?_eq_some_iff.mpr ⟨winner, hfirst, ?_, rfl⟩⟩
    -- the winner stands before the entry, so that its id is another one
    rw [hsplit, List.map_append, List.map_cons] at hids
    have hdisjoint := (List.nodup_append.mp hids).2.2
    exact hdisjoint _ (List.mem_map_of_mem (List.mem_of_find?_eq_some hwinner)) _
      List.mem_cons_self

theorem shadowed_eq_filter {catalogue : Catalogue}
    (hids : (catalogue.entries.map Entry.id).Nodup) :
    catalogue.shadowed =
      catalogue.entries.filter fun entry => (shadowIssue? catalogue.entries entry).isSome := by
  have hfilter : (catalogue.entries.zipIdx.filter fun (entry, place) =>
        (catalogue.entries.take place).any (·.isSpelled entry.category entry.spelling)) =
      catalogue.entries.zipIdx.filter
        ((fun entry => (shadowIssue? catalogue.entries entry).isSome) ∘ Prod.fst) := by
    apply List.filter_congr
    intro placed hplaced
    have hentry := List.mem_zipIdx_iff_getElem?.mp hplaced
    exact Bool.eq_iff_iff.mpr (shadowIssue?_isSome_iff hids hentry).symm
  rw [Catalogue.shadowed, hfilter, ← List.filter_map, List.zipIdx_map_fst]

end Shadowed

/-- What a partial function gives stands in a row with what it is given for. -/
theorem forall₂_filterMap_filter {α β : Type} {R : β → α → Prop} {f : α → Option β}
    (h : ∀ x y, f x = some y → R y x) (xs : List α) :
    List.Forall₂ R (xs.filterMap f) (xs.filter fun x => (f x).isSome) := by
  induction xs with
  | nil => exact .nil
  | cons x xs ih =>
    cases hx : f x with
    | none =>
      rw [List.filterMap_cons_none hx, List.filter_cons_of_neg (by simp [hx])]
      exact ih
    | some y =>
      rw [List.filterMap_cons_some hx, List.filter_cons_of_pos (by simp [hx])]
      exact .cons (h x y hx) ih

/-! ## The report -/

/-- What is reported about shadowed spellings is the last part of the report.
Every other stage has other codes. -/
theorem filter_shadowedSpelling_report (raw : List RawItem) (options : NormalizeOptions) :
    (normalize raw options).report.filter (·.code = .shadowedSpelling) =
      (normalize raw options).catalogue.entries.filterMap
        (shadowIssue? (normalize raw options).catalogue.entries) := by
  rw [normalize_report, Claimant.duplicates, Redirect.issues, List.filter_append,
    List.filter_append, List.filter_append, filter_code_eq_nil, filter_code_eq_nil,
    filter_code_eq_nil, filter_code_eq_self, List.nil_append, List.nil_append, List.nil_append]
  · exact fun _ _ => code_of_shadowIssue?
  · intro stub issue hissue
    rcases code_of_redirect_issue? hissue with hcode | hcode <;> simp [hcode]
  · intro claimant issue hissue
    simp [code_of_duplicate? hissue]
  · intro repaired issue hissue
    simp [code_of_issue? hissue]

/-- A spelling leads to the first entry that is spelled so in the category, or
else to the first with such an alias, or else nowhere; and without a category
to what it leads to as a keyword, or else as an operator, or else as an
identifier.  For each entry that comes behind another of its category and
spelling, and for no other, the report has one issue that says so, and names as
winner the entry that this spelling leads to. -/
theorem lookup_precedence (raw : List RawItem) (options : NormalizeOptions) :
    let normalized := normalize raw options
    let entries := normalized.catalogue.entries
    let lexicon := Lexicon.ofCatalogue normalized.catalogue
    (∀ category spelling, lexicon.lookupIn? category spelling =
      (entries.find? (·.isSpelled category spelling)).or
        (entries.find? fun entry => ⟨spelling, category⟩ ∈ entry.aliases)) ∧
    (∀ spelling, lexicon.lookup? spelling =
      (lexicon.lookupIn? .keyword spelling).or
        ((lexicon.lookupIn? .operator spelling).or
          (lexicon.lookupIn? .identifier spelling))) ∧
    List.Forall₂
      (fun issue entry => ∃ winner,
        lexicon.lookupIn? entry.category entry.spelling = some winner ∧
        issue = .shadowedSpelling entry.category entry.spelling winner.id entry.id)
      (normalized.report.filter (·.code = .shadowedSpelling))
      normalized.catalogue.shadowed := by
  intro normalized entries lexicon
  refine ⟨Lexicon.lookupIn?_eq_find? _, Lexicon.lookup?_eq_or lexicon, ?_⟩
  rw [filter_shadowedSpelling_report, shadowed_eq_filter (nodup_map_id_normalize raw options)]
  apply forall₂_filterMap_filter
  intro entry issue hissue
  obtain ⟨winner, hwinner, -, rfl⟩ := shadowIssue?_eq_some_iff.mp hissue
  refine ⟨winner, ?_, rfl⟩
  rw [Lexicon.lookupIn?_eq_find?]
  exact Option.or_eq_some_iff.mpr (Or.inl hwinner)

end CLexicon
