import CLexicon.Proofs.Classify.Spans
import CLexicon.Proofs.Scan.Maximal

/-!
# Spans agree with the catalogue

A scanner finds the ends of tokens with the trie of operators, and a lexer cuts
the text of each token out of the source again and looks it up in the tables.
Both agree, for every catalogue that was put in order and every source.

* `Kind.Describes`: what the kind of a span says of its text and its entry.
* `exists_found_of_operator`: the table and the trie have the same entry for an
  operator that was read.
* `classified_describes`: what a token is classified as describes it.
* `spans_sound`: what holds of all spans of a source.
-/

namespace CLexicon

open Text

/-- What a kind says of a span with this text and entry.  Only words and
operators may have an entry, and the last kind is left to single characters. -/
def Kind.Describes (lexicon : Lexicon) (source text : String) (span : Span)
    (entry : Option Entry) : Kind → Prop
  | .keyword => entry.isSome ∧ lexicon.lookupIn? .keyword text = entry
  | .identifier =>
    lexicon.lookupIn? .keyword text = none ∧ lexicon.lookupIn? .identifier text = entry
  | .operator =>
    ∃ found, entry = some found ∧ lexicon.lookupIn? .operator text = some found ∧
      lexicon.operatorAt? (bytes source) span.start = some (found, span.length)
  | .other => entry = none ∧ ∃ c, text = String.singleton c
  | .number | .stringLiteral | .charLiteral | .comment | .whitespace | .directive
  | .unterminatedComment | .unterminatedLiteral => entry = none

section Normalized

variable {raw : List RawItem} {options : NormalizeOptions} {source : String}
  {before behind : List UInt8} {inDirective : Bool} {placed : PlacedToken}

/-- An operator that was read is found in the table, and the trie has the same
entry for it at its place. -/
theorem exists_found_of_operator
    (h : placed.StandsIn (Lexicon.ofCatalogue (normalize raw options).catalogue).operatorTable
      (bytes source) before behind inDirective) (htag : placed.tag = .operator) :
    ∃ found,
      (Lexicon.ofCatalogue (normalize raw options).catalogue).lookupIn? .operator
        (ofBytes placed.bytes) = some found ∧
      (Lexicon.ofCatalogue (normalize raw options).catalogue).operatorAt? (bytes source)
        placed.span.start = some (found, placed.span.length) := by
  have hdescribes := h.reads.describes h.encoding h.parted
  rw [List.take_left, List.drop_left, htag] at hdescribes
  obtain ⟨spelling, hlongest, hbytes⟩ := hdescribes
  obtain ⟨found, hfound⟩ := Option.isSome_iff_exists.mp
    (Lexicon.lookupIn?_operator_isSome_iff.mpr hlongest.mem)
  refine ⟨found, by rwa [hbytes, ofBytes_bytes], ?_⟩
  have hdrop : (bytes source).drop placed.span.start = placed.bytes ++ behind := by
    show (bytes source).drop placed.start = _
    rw [h.split, h.start, List.append_assoc, List.drop_left]
  rw [Lexicon.operatorAt?_eq_longestMatch?, hdrop, Lexicon.longestMatch?_trie_eq_some_iff]
  refine ⟨spelling, hlongest, ?_, hfound⟩
  rw [← hbytes]
  exact Nat.add_sub_cancel_left _ _

/-- What a token that stands in a source is classified as describes it. -/
theorem classified_describes
    (h : placed.StandsIn (Lexicon.ofCatalogue (normalize raw options).catalogue).operatorTable
      (bytes source) before behind inDirective) :
    let lexicon := Lexicon.ofCatalogue (normalize raw options).catalogue
    let s := placed.classified lexicon
    s.kind.Describes lexicon source (ofBytes placed.bytes) placed.span s.entry := by
  intro lexicon s
  have hdescribes := h.reads.describes h.encoding h.parted
  rw [List.take_left] at hdescribes
  have hs : s = classify lexicon placed.tag (ofBytes placed.bytes) placed.span := rfl
  rw [hs]
  cases htag : placed.tag with
  | word =>
    unfold classify
    cases hkeyword : lexicon.lookupIn? .keyword (ofBytes placed.bytes) with
    | some found => exact ⟨rfl, hkeyword⟩
    | none => exact ⟨hkeyword, rfl⟩
  | operator =>
    obtain ⟨found, hlookup, hplace⟩ := exists_found_of_operator h htag
    unfold classify
    dsimp only
    rw [hlookup]
    exact ⟨found, rfl, hlookup, hplace⟩
  | unknown =>
    rw [htag] at hdescribes
    obtain ⟨c, hc, -⟩ := hdescribes
    refine ⟨rfl, c, ?_⟩
    rw [hc, ← bytes_singleton, ofBytes_bytes]
  | endOfText =>
    rw [htag] at hdescribes
    exact hdescribes.elim
  | _ => exact rfl

end Normalized

/-- Every span of a source is described by its kind.  Its text is the part of
the source that it covers.  No operator token is taken for anything else. -/
theorem spans_sound (raw : List RawItem) (options : NormalizeOptions) (source : String)
    (scan : ScanOptions) :
    let lexicon := Lexicon.ofCatalogue (normalize raw options).catalogue
    (∀ s ∈ (lex lexicon source scan).spans,
      slice? source s.span.start s.span.stop = some (s.text source) ∧
      s.kind.Describes lexicon source (s.text source) s.span s.entry) ∧
    ∀ placed ∈ (Scanner.ofText lexicon.operatorTable scan.foldDirectives source).placed,
      placed.tag = .operator → (placed.classified lexicon).kind = .operator := by
  intro lexicon
  have hgraphic := Lexicon.isGraphic_operatorTable raw options
  have hstands := Scanner.exists_standsIn hgraphic scan.foldDirectives source
  constructor
  · intro s hs
    rw [spans_lex_eq_filter, spans_lex] at hs
    obtain ⟨placed, hplaced, rfl⟩ := List.mem_map.mp (List.mem_filter.mp hs).1
    obtain ⟨before, behind, inDirective, h⟩ := hstands placed hplaced
    have hslice : slice? source placed.span.start placed.span.stop =
        some (ofBytes placed.bytes) := by
      have hsplit := slice?_of_split h.split (h.isEncoding hgraphic)
      rwa [← h.start] at hsplit
    have htext : (placed.classified lexicon).text source = ofBytes placed.bytes := by
      show ((slice? source _ _).getD "") = _
      rw [PlacedToken.classified_span, hslice]
      rfl
    rw [htext, PlacedToken.classified_span]
    exact ⟨hslice, classified_describes h⟩
  · intro placed hplaced htag
    obtain ⟨before, behind, inDirective, h⟩ := hstands placed hplaced
    obtain ⟨found, hlookup, -⟩ := exists_found_of_operator h htag
    unfold PlacedToken.classified classify
    rw [htag]
    dsimp only
    rw [hlookup]

end CLexicon
