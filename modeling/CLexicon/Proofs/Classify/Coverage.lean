import CLexicon.Proofs.Classify.Spans
import CLexicon.Proofs.Lexicon.Operators

/-!
# A source text is covered

No byte of a source text is lost between the tokens, and none is read twice.
The spans that a lexer gives are its tokens in their places, so the same holds
for them as long as blank space is kept.

* `Lexicon.isAscii_operatorTable`: a catalogue that was put in order has no
  operators that would cut a character.
* `source_covered`: what holds for every source text, every catalogue that was
  put in order, and both ways to read directives.
-/

namespace CLexicon

open Text

theorem Lexicon.isAscii_operatorTable (raw : List RawItem) (options : NormalizeOptions) :
    (Lexicon.ofCatalogue (normalize raw options).catalogue).operatorTable.IsAscii :=
  fun _ _ h => Lexicon.ascii_of_longest? h

/-- The texts that some encoded pieces encode are joined to the text of all of
them. -/
theorem bytes_join_ofBytes {pieces : List (List UInt8)}
    (h : ∀ piece ∈ pieces, IsEncoding piece) :
    bytes (String.join (pieces.map ofBytes)) = pieces.flatten := by
  induction pieces with
  | nil => rfl
  | cons piece pieces ih =>
    rw [List.forall_mem_cons] at h
    rw [List.map_cons, String.join_cons, bytes_append, h.1.bytes_ofBytes, ih h.2,
      List.flatten_cons]

/-- A source text is read to its end, and all of it is covered.  The scanner
answers with its tokens and from then on with the end of the text.  None of the
tokens is empty, they end between characters, and they take all bytes.  So the
spans that a lexer gives are not empty, they follow one another without a gap,
and their texts make up the source. -/
theorem source_covered (raw : List RawItem) (options : NormalizeOptions)
    (source : String) (foldDirectives : Bool) (warningLimit : Nat) :
    let lexicon := Lexicon.ofCatalogue (normalize raw options).catalogue
    let scanner := Scanner.ofText lexicon.operatorTable foldDirectives source
    let spans := (lex lexicon source ⟨foldDirectives, true, warningLimit⟩).spans
    (∀ count, scanner.answers count = scanner.tokens.take count ++
      List.replicate (count - scanner.tokens.length) ⟨.endOfText, 0⟩) ∧
    (∀ token ∈ scanner.tokens, token.tag ≠ .endOfText ∧ 0 < token.length) ∧
    (scanner.tokens.map Token.length).sum = source.utf8ByteSize ∧
    (∀ count, (String.Pos.Raw.mk
      ((scanner.tokens.take count).map Token.length).sum).IsValid source) ∧
    Abut 0 (spans.map ClassifiedSpan.span) source.utf8ByteSize ∧
    String.join (spans.map (·.text source)) = source := by
  intro lexicon scanner spans
  have hascii := Lexicon.isAscii_operatorTable raw options
  have hencoding : IsEncoding scanner.cursor.rest := isEncoding_bytes source
  have hscans := scanner.scans_tokens
  refine ⟨scanner.answers_eq, hscans.forall_mem, ?_, ?_, ?_, ?_⟩
  · rw [hscans.sum_length]
    exact length_bytes source
  · intro count
    exact (hscans.cutsAt hascii hencoding count).isValid
  · have habut := hscans.abut_placeTokens 0
    rw [Nat.zero_add] at habut
    rw [map_span_lex, ← length_bytes]
    exact habut
  · apply bytes_injective
    rw [map_text_lex, bytes_join_ofBytes]
    · exact hscans.flatten_placeTokens 0
    · intro piece hpiece
      obtain ⟨placed, hplaced, rfl⟩ := List.mem_map.mp hpiece
      exact hscans.isEncoding_placeTokens hascii hencoding 0 placed hplaced

end CLexicon
