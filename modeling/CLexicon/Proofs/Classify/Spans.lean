import CLexicon.Classify.Lexer
import CLexicon.Proofs.Scan.Tokens

/-!
# Spans are classified tokens

A lexer passes over blank space if it is told to, and apart from that it gives
a span for each token of its scanner.

* `Lexer.run_of_isAtEnd` and `Lexer.run_of_not_isAtEnd`: one step of a lexer.
  `Lexer.induction_behind` goes on step by step.
* `Lexer.spans_run`: the spans of a lexer are the classified tokens of its
  scanner, without the blank ones unless these are kept.
* `Scans.text_span`: the text of such a span is what the bytes of the token
  encode.
* `spans_lex`, `map_span_lex`, `map_text_lex`, `abut_lex`: the spans of a source
  text when blank space is kept.  `spans_lex_eq_filter` leads back to these when
  it is not.
-/

namespace CLexicon

open Text

/-! ## Spans are tokens -/

/-- What a token in its place is. -/
def PlacedToken.classified (lexicon : Lexicon) (placed : PlacedToken) :
    ClassifiedSpan :=
  classify lexicon placed.tag (ofBytes placed.bytes) placed.span

@[simp] theorem classify_span (lexicon : Lexicon) (tag : Tag) (text : String)
    (span : Span) : (classify lexicon tag text span).span = span := by
  unfold classify
  split
  · split <;> rfl
  · split <;> rfl
  · rfl

@[simp] theorem PlacedToken.classified_span (lexicon : Lexicon) (placed : PlacedToken) :
    (placed.classified lexicon).span = placed.span :=
  classify_span _ _ _ _

namespace Lexer

/-- Whether a lexer gives a span. -/
def keeps (lexer : Lexer) (classified : ClassifiedSpan) : Bool :=
  lexer.keepWhitespace || classified.kind ≠ .whitespace

theorem classifyToken_peek (lexer : Lexer) :
    lexer.classifyToken lexer.scanner.peek =
      PlacedToken.classified lexer.lexicon
        ⟨lexer.scanner.peek.tag, lexer.scanner.cursor.position,
          lexer.scanner.cursor.rest.take lexer.scanner.peek.length⟩ := by
  have hle : lexer.scanner.peek.length ≤ lexer.scanner.cursor.rest.length :=
    lexeme_le _ _ _
  unfold classifyToken PlacedToken.classified tokenSpan PlacedToken.span PlacedToken.stop
  rw [List.length_take_of_le hle]

theorem run_of_next_eq_none {lexer last : Lexer} (h : lexer.next = (none, last)) :
    lexer.run = ([], last) := by
  rw [run]
  split
  · rename_i heq
    rw [h] at heq
    obtain ⟨-, rfl⟩ := Prod.mk.inj heq
    rfl
  · rename_i heq
    rw [h] at heq
    cases heq

theorem run_of_next_eq_some {lexer after : Lexer} {classified : ClassifiedSpan}
    (h : lexer.next = (some classified, after)) :
    lexer.run = (classified :: after.run.1, after.run.2) := by
  rw [run]
  split
  · rename_i heq
    rw [h] at heq
    cases heq
  · rename_i heq
    rw [h] at heq
    obtain ⟨hclassified, rfl⟩ := Prod.mk.inj heq
    cases hclassified
    rfl

/-- What is left for a lexer depends on its next span only. -/
theorem run_eq_of_next_eq {first second : Lexer} (h : first.next = second.next) :
    first.run = second.run := by
  rcases hnext : second.next with ⟨_ | classified, after⟩
  · rw [run_of_next_eq_none (h.trans hnext), run_of_next_eq_none hnext]
  · rw [run_of_next_eq_some (h.trans hnext), run_of_next_eq_some hnext]

theorem run_of_isAtEnd {lexer : Lexer} (h : lexer.scanner.cursor.isAtEnd) :
    lexer.run = ([], lexer) := by
  apply run_of_next_eq_none
  rw [next, dif_pos h]

/-- A lexer gives the span of the token that is next, unless it passes over it,
and then goes on behind it. -/
theorem run_of_not_isAtEnd {lexer : Lexer} (h : ¬lexer.scanner.cursor.isAtEnd) :
    lexer.run =
      if lexer.keeps (lexer.classifyToken lexer.scanner.peek) then
        (lexer.classifyToken lexer.scanner.peek ::
          (lexer.behind lexer.scanner.peek).run.1,
          (lexer.behind lexer.scanner.peek).run.2)
      else (lexer.behind lexer.scanner.peek).run := by
  by_cases hkeeps : lexer.keeps (lexer.classifyToken lexer.scanner.peek)
  · rw [if_pos hkeeps]
    apply run_of_next_eq_some
    rw [next, dif_neg h]
    apply if_neg
    intro hgiven
    obtain ⟨hkind, hdrops⟩ := hgiven
    rw [Bool.not_eq_true'] at hdrops
    simp [keeps, hkind, hdrops] at hkeeps
  · rw [if_neg hkeeps]
    apply run_eq_of_next_eq
    rw [next, dif_neg h]
    apply if_pos
    simpa [keeps, and_comm] using hkeeps

/-- What holds at the end of a text, and of a lexer if it holds behind its next
token, holds of all lexers. -/
theorem induction_behind {motive : Lexer → Prop}
    (atEnd : ∀ lexer : Lexer, lexer.scanner.cursor.isAtEnd → motive lexer)
    (behind : ∀ lexer : Lexer, ¬lexer.scanner.cursor.isAtEnd →
      motive (lexer.behind lexer.scanner.peek) → motive lexer)
    (lexer : Lexer) : motive lexer := by
  induction hlength : lexer.scanner.cursor.rest.length using Nat.strongRecOn
    generalizing lexer with
  | ind length ih =>
    by_cases hend : lexer.scanner.cursor.isAtEnd
    · exact atEnd lexer hend
    · have hshorter := Scanner.length_behind_peek_lt hend
      exact behind lexer hend (ih _ (hlength ▸ hshorter) _ rfl)

/-- The spans of a lexer are what its tokens are, without blank space unless
that is kept. -/
theorem spans_run (lexer : Lexer) :
    lexer.run.1 = (lexer.scanner.placed.map (·.classified lexer.lexicon)).filter
      lexer.keeps := by
  induction lexer using induction_behind with
  | atEnd lexer hend =>
    rw [run_of_isAtEnd hend, Scanner.placed_of_isAtEnd hend]
    rfl
  | behind lexer hmore ih =>
    rw [run_of_not_isAtEnd hmore, Scanner.placed_of_not_isAtEnd hmore, List.map_cons,
      List.filter_cons, ← classifyToken_peek]
    split
    · exact congrArg _ ih
    · exact ih

end Lexer

/-! ## The texts of spans -/

/-- The text of the span of a token is the text that its bytes encode. -/
theorem Scans.text_span {table : OperatorTable} {foldDirectives : Bool}
    {line : LineState} {input : List UInt8} {tokens : List Token} {source : String}
    (h : Scans table foldDirectives line input tokens) {position : Nat}
    (hposition : position ≤ (bytes source).length)
    (hinput : (bytes source).drop position = input) :
    ∀ placed ∈ placeTokens position input tokens,
      placed.span.text source = ofBytes placed.bytes := by
  induction h generalizing position with
  | done => simp [placeTokens]
  | @token line input token tokens hne htoken _ ih =>
    have hle := lexeme_le table line.inDirective input
    rw [htoken] at hle
    subst hinput
    rw [List.length_drop] at hle
    rw [placeTokens, List.forall_mem_cons]
    constructor
    · unfold PlacedToken.span PlacedToken.stop Span.text ofBytes
      dsimp only
      rw [List.length_take_of_le (by rwa [List.length_drop]), slice?_eq,
        if_pos (by omega), Nat.add_sub_cancel_left]
    · apply ih (by omega)
      rw [List.drop_drop]

/-! ## The spans of a source text -/

section Lex

variable (lexicon : Lexicon) (source : String) (foldDirectives : Bool)
  (warningLimit : Nat)

/-- The spans of a source text, when blank space is kept. -/
theorem spans_lex :
    (lex lexicon source ⟨foldDirectives, true, warningLimit⟩).spans =
      (Scanner.ofText lexicon.operatorTable foldDirectives source).placed.map
        (·.classified lexicon) := by
  show (Lexer.ofText lexicon source ⟨foldDirectives, true, warningLimit⟩).run.1 = _
  rw [Lexer.spans_run]
  exact List.filter_eq_self.mpr fun _ _ => rfl

theorem map_span_lex :
    (lex lexicon source ⟨foldDirectives, true, warningLimit⟩).spans.map
        ClassifiedSpan.span =
      (Scanner.ofText lexicon.operatorTable foldDirectives source).placed.map
        PlacedToken.span := by
  rw [spans_lex, List.map_map]
  exact List.map_congr_left fun placed _ => placed.classified_span lexicon

/-- With blank space, the spans reach over all of the text. -/
theorem abut_lex :
    Abut 0 ((lex lexicon source ⟨foldDirectives, true, warningLimit⟩).spans.map
      ClassifiedSpan.span) source.utf8ByteSize := by
  have hscans := (Scanner.ofText lexicon.operatorTable foldDirectives source).scans_tokens
  have habut := hscans.abut_placeTokens 0
  rw [Nat.zero_add] at habut
  rw [map_span_lex, ← length_bytes]
  exact habut

theorem map_text_lex :
    (lex lexicon source ⟨foldDirectives, true, warningLimit⟩).spans.map (·.text source) =
      ((Scanner.ofText lexicon.operatorTable foldDirectives source).placed.map
        PlacedToken.bytes).map ofBytes := by
  have hscans := (Scanner.ofText lexicon.operatorTable foldDirectives source).scans_tokens
  rw [spans_lex, List.map_map, List.map_map]
  apply List.map_congr_left
  intro placed hplaced
  show (placed.classified lexicon).span.text source = ofBytes placed.bytes
  rw [PlacedToken.classified_span]
  exact hscans.text_span (Nat.zero_le _) rfl placed hplaced

/-- The spans of a text are those with blank space, without the blank ones
unless these are kept. -/
theorem spans_lex_eq_filter (options : ScanOptions) :
    (lex lexicon source options).spans =
      (lex lexicon source { options with keepWhitespace := true }).spans.filter
        fun s => options.keepWhitespace || s.kind ≠ .whitespace := by
  rw [spans_lex]
  exact Lexer.spans_run (Lexer.ofText lexicon source options)

end Lex

end CLexicon
