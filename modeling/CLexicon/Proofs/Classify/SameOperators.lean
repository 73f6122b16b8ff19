import CLexicon.Proofs.Classify.Soundness
import CLexicon.Proofs.Classify.Warnings
import Mathlib.Data.List.Forall2

/-!
# Catalogues with the same operators

Of a catalogue, a scanner sees the operator spellings and nothing else: not the
entries that they belong to, nor the order in which the trie was filled.  So two
catalogues with the same operator spellings give the same spans.  Only words may
be told apart by their keywords.

* `Catalogue.SameOperators` and `operatorTable_eq`: the table that a scanner is
  given is the same.
* `kind_classified`: the kind of a span is that of its token, keywords apart.
* `spans_of_same_operators`: both runs over a source, span by span.
-/

namespace CLexicon

open Text

/-! ## The table of operators -/

/-- Two catalogues have the same operator spellings, under whatever entries and
in whatever order. -/
def Catalogue.SameOperators (first second : Catalogue) : Prop :=
  ∀ spelling, spelling ∈ first.operatorSpellings ↔ spelling ∈ second.operatorSpellings

theorem Catalogue.SameOperators.symm {first second : Catalogue}
    (h : first.SameOperators second) : second.SameOperators first :=
  fun spelling => (h spelling).symm

theorem IsLongestOperator.of_sameOperators {first second : Catalogue} {input : List UInt8}
    {spelling : String} (hlongest : IsLongestOperator first input spelling)
    (h : first.SameOperators second) : IsLongestOperator second input spelling where
  mem := (h spelling).mp hlongest.mem
  begins := hlongest.begins
  longest other hother := hlongest.longest other ((h other).mpr hother)

/-- A table is told by its answers. -/
theorem OperatorTable.eq_of_longest? {first second : OperatorTable}
    (h : ∀ input, first.longest? input = second.longest? input) : first = second := by
  cases first
  cases second
  congr
  exact funext h

section Normalized

variable {firstRaw secondRaw : List RawItem} {firstOptions secondOptions : NormalizeOptions}

/-- A scanner sees the same operators. -/
theorem operatorTable_eq
    (h : (normalize firstRaw firstOptions).catalogue.SameOperators
      (normalize secondRaw secondOptions).catalogue) :
    (Lexicon.ofCatalogue (normalize firstRaw firstOptions).catalogue).operatorTable =
      (Lexicon.ofCatalogue (normalize secondRaw secondOptions).catalogue).operatorTable := by
  apply OperatorTable.eq_of_longest?
  intro input
  apply Option.ext
  intro length
  rw [Lexicon.longest?_eq_some_iff, Lexicon.longest?_eq_some_iff]
  exact exists_congr fun spelling => and_congr_left fun _ =>
    ⟨fun hlongest => hlongest.of_sameOperators h,
      fun hlongest => hlongest.of_sameOperators h.symm⟩

/-! ## Kinds of spans -/

/-- The kind of a span is that of its token, unless it is a word that the
catalogue has as a keyword. -/
theorem kind_classified {raw : List RawItem} {options : NormalizeOptions} {source : String}
    {before behind : List UInt8} {inDirective : Bool} {placed : PlacedToken}
    (h : placed.StandsIn (Lexicon.ofCatalogue (normalize raw options).catalogue).operatorTable
      (bytes source) before behind inDirective) :
    let kind := (placed.classified (Lexicon.ofCatalogue (normalize raw options).catalogue)).kind
    kind = .ofTag placed.tag ∨ placed.tag = .word ∧ kind = .keyword := by
  intro kind
  have hkind : kind = (classify (Lexicon.ofCatalogue (normalize raw options).catalogue)
    placed.tag (ofBytes placed.bytes) placed.span).kind := rfl
  rw [hkind]
  cases htag : placed.tag with
  | word =>
    unfold classify
    dsimp only
    split
    · exact Or.inr ⟨rfl, rfl⟩
    · exact Or.inl rfl
  | operator =>
    obtain ⟨found, hlookup, -⟩ := exists_found_of_operator h htag
    unfold classify
    dsimp only
    rw [hlookup]
    exact Or.inl rfl
  | _ => exact Or.inl rfl

end Normalized

/-- Two spans are the same, but a word may be a keyword in one and an identifier in
the other. -/
structure ClassifiedSpan.SameUpToKeyword (first second : ClassifiedSpan) : Prop where
  span : first.span = second.span
  kind : first.kind = second.kind ∨
    first.kind = .keyword ∧ second.kind = .identifier ∨
      first.kind = .identifier ∧ second.kind = .keyword

theorem ClassifiedSpan.SameUpToKeyword.whitespace_iff {first second : ClassifiedSpan}
    (h : first.SameUpToKeyword second) :
    first.kind = .whitespace ↔ second.kind = .whitespace := by
  rcases h.kind with heq | ⟨hfirst, hsecond⟩ | ⟨hfirst, hsecond⟩
  · rw [heq]
  · rw [hfirst, hsecond]
    decide
  · rw [hfirst, hsecond]
    decide

/-- One token in two catalogues, both of which it was read with. -/
theorem sameUpToKeyword_classified {firstRaw secondRaw : List RawItem}
    {firstOptions secondOptions : NormalizeOptions} {source : String}
    {before behind : List UInt8} {inDirective : Bool} {placed : PlacedToken}
    (hfirst : placed.StandsIn
      (Lexicon.ofCatalogue (normalize firstRaw firstOptions).catalogue).operatorTable
      (bytes source) before behind inDirective)
    (hsecond : placed.StandsIn
      (Lexicon.ofCatalogue (normalize secondRaw secondOptions).catalogue).operatorTable
      (bytes source) before behind inDirective) :
    (placed.classified (Lexicon.ofCatalogue (normalize firstRaw firstOptions).catalogue)
      ).SameUpToKeyword
      (placed.classified (Lexicon.ofCatalogue (normalize secondRaw secondOptions).catalogue)) := by
  constructor
  case span => rw [PlacedToken.classified_span, PlacedToken.classified_span]
  case kind =>
    rcases kind_classified hfirst with hfirst | ⟨hword, hfirst⟩ <;>
      rcases kind_classified hsecond with hsecond | ⟨hword', hsecond⟩
    · exact Or.inl (hfirst.trans hsecond.symm)
    · rw [hword'] at hfirst
      exact Or.inr (Or.inr ⟨hfirst, hsecond⟩)
    · rw [hword] at hsecond
      exact Or.inr (Or.inl ⟨hfirst, hsecond⟩)
    · exact Or.inl (hfirst.trans hsecond.symm)

/-! ## Two runs over a source -/

/-- Catalogues with the same operator spellings give the same spans of a source,
keywords apart, and the same warnings. -/
theorem spans_of_same_operators {firstRaw secondRaw : List RawItem}
    {firstOptions secondOptions : NormalizeOptions} (source : String) (scan : ScanOptions) :
    let first := (normalize firstRaw firstOptions).catalogue
    let second := (normalize secondRaw secondOptions).catalogue
    first.SameOperators second →
    List.Forall₂ ClassifiedSpan.SameUpToKeyword
      (lex (Lexicon.ofCatalogue first) source scan).spans
      (lex (Lexicon.ofCatalogue second) source scan).spans ∧
    (lex (Lexicon.ofCatalogue first) source scan).diagnostics =
      (lex (Lexicon.ofCatalogue second) source scan).diagnostics := by
  intro first second hsame
  have htable : (Lexicon.ofCatalogue first).operatorTable =
      (Lexicon.ofCatalogue second).operatorTable := operatorTable_eq hsame
  constructor
  · rw [spans_lex_eq_filter, spans_lex, spans_lex_eq_filter, spans_lex]
    apply List.rel_filter
    · -- a span is left out of both, or of neither
      intro s other hkind
      simp [hkind.whitespace_iff]
    · rw [← htable, List.forall₂_map_left_iff, List.forall₂_map_right_iff, List.forall₂_same]
      intro placed hplaced
      obtain ⟨before, behind, inDirective, hstands⟩ := Scanner.exists_standsIn
        (Lexicon.isGraphic_operatorTable firstRaw firstOptions) scan.foldDirectives source
        placed hplaced
      exact sameUpToKeyword_classified hstands (htable ▸ hstands)
  · rw [diagnostics_lex, diagnostics_lex, htable]

/-- Two plus signs and a keyword. -/
def plusAndWhile : List RawItem :=
  [{ id := "op-plus", token := "+", category := .operator, description := "Adds." },
   { id := "op-increment", token := "++", category := .operator,
     description := "Adds one." },
   { id := "kw-while", token := "while", category := .keyword, description := "Loops." }]

/-- The same operators in another order.  The single one redirects to the double
one. -/
def incrementWithPlus : List RawItem :=
  [{ id := "op-increment", token := "++", category := .operator,
     description := "Adds one." },
   { id := "op-plus", token := "+", category := .operator,
     description := "<a id=\"op-increment\"></a>" }]

/-- A word that is a keyword with one catalogue is an identifier with the other.
-/
theorem spans_of_plus_and_increment :
    let first := (normalize plusAndWhile).catalogue
    let second := (normalize incrementWithPlus).catalogue
    first.SameOperators second ∧
    ((Lexicon.ofCatalogue first).lookupIn? .keyword "while").isSome ∧
    (Lexicon.ofCatalogue second).lookupIn? .keyword "while" = none ∧
    List.Forall₂ ClassifiedSpan.SameUpToKeyword
      (lex (Lexicon.ofCatalogue first) "while +++\"").spans
      (lex (Lexicon.ofCatalogue second) "while +++\"").spans ∧
    (lex (Lexicon.ofCatalogue first) "while +++\"").diagnostics =
      (lex (Lexicon.ofCatalogue second) "while +++\"").diagnostics := by
  intro first second
  have hfirst : first.operatorSpellings = ["+", "++"] := by decide +kernel
  have hsecond : second.operatorSpellings = ["++", "+"] := by decide +kernel
  have hsame : first.SameOperators second := by
    intro spelling
    rw [hfirst, hsecond]
    simp [or_comm]
  refine ⟨hsame, ?_, ?_, spans_of_same_operators _ _ hsame⟩
  · rw [Lexicon.lookupIn?_eq_lookup]
    decide +kernel
  · rw [Lexicon.lookupIn?_eq_lookup]
    decide +kernel

end CLexicon
