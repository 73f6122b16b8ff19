import CLexicon.Edition
import CLexicon.Proofs.Classify.SpanAt
import CLexicon.Proofs.Classify.Warnings
import CLexicon.Proofs.Scan.LineContext

/-!
# Leaving blank space out

A lexer that passes over blank space reads the same tokens as one that keeps it.
It gives the same spans without the blank ones, and the same warnings.

* `lex_significant`: this for all options, also where blank space is left out
  already.
* `kind_classify_eq_whitespace_iff` and `Reads.forall_mem_blankSpace`: blank space
  is what the scanner reads as a blank or as a line end, so it is made of six
  bytes only.
* `blankSpaceAt_of_not_contains`: any other byte of a source lies in a span that is
  kept, so `blankBetween_lex` follows from the order of the spans.
* `significant_exact`: the spans and the gaps between them, for texts and for
  sessions.
-/

namespace CLexicon

open Text

/-! ## Spans and warnings -/

/-- Without blank space, a text has the spans that are not blank, and the same
warnings. -/
theorem lex_significant (lexicon : Lexicon) (source : String) (options : ScanOptions) :
    let found := lex lexicon source options
    let significant := lex lexicon source { options with keepWhitespace := false }
    significant.spans = found.spans.filter (·.kind ≠ .whitespace) ∧
      significant.diagnostics = found.diagnostics := by
  intro found significant
  constructor
  · rw [spans_lex_eq_filter, spans_lex_eq_filter lexicon source options, List.filter_filter]
    apply List.filter_congr
    intro s _
    cases options.keepWhitespace <;> simp
  · -- the limit and the tokens are those of the options, whichever spans are given
    rw [diagnostics_lex, diagnostics_lex]

/-! ## Bytes of blank space -/

/-- The bytes that blank space is made of: space, tab, vertical tab and form feed,
and those of line ends. -/
def Byte.blankSpace : List UInt8 :=
  [0x20, 0x09, 0x0B, 0x0C, Byte.carriageReturn, Byte.lineFeed]

theorem Byte.mem_blankSpace_of_isBlank {b : UInt8} (h : Byte.isBlank b) :
    b ∈ Byte.blankSpace := by
  simp only [Byte.isBlank, Bool.or_eq_true, decide_eq_true_eq] at h
  rcases h with ((rfl | rfl) | rfl) | rfl <;> decide

/-- A span is blank exactly if its token is a blank or a line end. -/
theorem kind_classify_eq_whitespace_iff {lexicon : Lexicon} {tag : Tag} {text : String}
    {span : Span} :
    (classify lexicon tag text span).kind = .whitespace ↔ tag = .blank ∨ tag = .newline := by
  cases tag with
  | word =>
    unfold classify
    dsimp only
    split <;> simp
  | operator =>
    unfold classify
    dsimp only
    split <;> simp
  | _ => simp [classify, Kind.ofTag]

/-- Blanks and line ends are made of bytes of blank space. -/
theorem Reads.forall_mem_blankSpace {table : OperatorTable} {inDirective : Bool}
    {input : List UInt8} {token : Token} (h : Reads table inDirective input token)
    (htag : token.tag = .blank ∨ token.tag = .newline) :
    ∀ b ∈ input.take token.length, b ∈ Byte.blankSpace := by
  have hliteral (quote : UInt8) (rest : List UInt8) :
      ¬((CLexicon.literal (quote :: rest)).tag = .blank ∨
        (CLexicon.literal (quote :: rest)).tag = .newline) :=
    not_or.mpr ⟨literal_tag_ne (by decide) quote rest, literal_tag_ne (by decide) quote rest⟩
  cases h with
  | blank =>
    intro b hb
    rcases forall_mem_take_blankLength input b hb with hblank | rfl
    · exact Byte.mem_blankSpace_of_isBlank hblank
    · decide
  | returnFeed =>
    show ∀ b ∈ [Byte.carriageReturn, Byte.lineFeed], b ∈ Byte.blankSpace
    simp [Byte.blankSpace]
  | lineFeed =>
    show ∀ b ∈ [Byte.lineFeed], b ∈ Byte.blankSpace
    simp [Byte.blankSpace]
  | bodyLiteral => exact absurd htag (hliteral _ _)
  | markedLiteral => exact absurd htag (hliteral _ _)
  | literal => exact absurd htag (hliteral _ _)
  | _ => simp at htag

/-! ## Gaps between spans -/

/-- The byte of a source at an offset is one of blank space. -/
def BlankSpaceAt (source : String) (offset : Nat) : Prop :=
  ∃ b ∈ Byte.blankSpace, (bytes source)[offset]? = some b

/-- Between two spans that follow one another there is blank space only. -/
def BlankBetween (source : String) (spans : List ClassifiedSpan) : Prop :=
  ∀ before first second behind, spans = before ++ first :: second :: behind →
    ∀ offset, first.span.stop ≤ offset → offset < second.span.start →
      BlankSpaceAt source offset

section Gaps

variable (lexicon : Lexicon) {source : String} (options : ScanOptions) {offset : Nat}

/-- A token that is blank space holds bytes of blank space. -/
theorem PlacedToken.blankSpaceAt_of_contains {table : OperatorTable} {foldDirectives : Bool}
    {placed : PlacedToken} (hplaced : placed ∈ (Scanner.ofText table foldDirectives source).placed)
    (htag : placed.tag = .blank ∨ placed.tag = .newline)
    (hcontains : placed.span.contains offset) : BlankSpaceAt source offset := by
  obtain ⟨before, behind, hbytes, hstart, hreads⟩ := Scanner.reads_of_mem hplaced
  have hblank := hreads.forall_mem_blankSpace htag
  rw [List.take_left] at hblank
  obtain ⟨hle, hlt⟩ := Span.contains_iff.mp hcontains
  have hle' : (before.map PlacedToken.bytes).flatten.length ≤ offset := hstart ▸ hle
  have hlt' : offset < placed.start + placed.bytes.length := hlt
  have hplace : offset - (before.map PlacedToken.bytes).flatten.length <
      placed.bytes.length := by omega
  refine ⟨_, hblank _ (List.getElem_mem hplace), ?_⟩
  rw [hbytes, List.getElem?_append_right hle', List.getElem?_append_left hplace,
    List.getElem?_eq_getElem hplace]

/-- A byte that lies in no span that is kept is one of blank space. -/
theorem blankSpaceAt_of_not_contains (hoffset : offset < source.utf8ByteSize)
    (hout : ∀ s ∈ (lex lexicon source options).spans, ¬s.span.contains offset) :
    BlankSpaceAt source offset := by
  have habut := abut_lex lexicon source options.foldDirectives options.warningLimit
  obtain ⟨_, hmem, hcontains⟩ := habut.exists_contains (Nat.zero_le offset) hoffset
  obtain ⟨gap, hgap, rfl⟩ := List.mem_map.mp hmem
  have hdropped : gap ∉ (lex lexicon source options).spans :=
    fun hkept => hout gap hkept hcontains
  rw [spans_lex_eq_filter, List.mem_filter, and_iff_right hgap] at hdropped
  have hkind : gap.kind = .whitespace := by
    by_contra hother
    exact hdropped (by simp [hother])
  rw [spans_lex] at hgap
  obtain ⟨placed, hplaced, rfl⟩ := List.mem_map.mp hgap
  rw [PlacedToken.classified_span] at hcontains
  exact placed.blankSpaceAt_of_contains hplaced
    (kind_classify_eq_whitespace_iff.mp hkind) hcontains

/-- An offset between two spans that follow one another lies in none. -/
theorem InSourceOrder.not_contains_between {before behind : List ClassifiedSpan}
    {first second : ClassifiedSpan}
    (h : InSourceOrder ((before ++ first :: second :: behind).map ClassifiedSpan.span))
    (hstart : first.span.stop ≤ offset) (hstop : offset < second.span.start) :
    ∀ s ∈ before ++ first :: second :: behind, ¬s.span.contains offset := by
  have hfollow := List.pairwise_map.mp h.follow
  obtain ⟨-, htail, hbefore⟩ := List.pairwise_append.mp hfollow
  have hbehind := (List.pairwise_cons.mp (List.pairwise_cons.mp htail).2).1
  have hsecond := h.not_empty second.span (by simp)
  have hfirst := h.not_empty first.span (by simp)
  intro s hs hcontains
  obtain ⟨hle, hlt⟩ := Span.contains_iff.mp hcontains
  rcases List.mem_append.mp hs with hs | hs
  · have := hbefore s hs first List.mem_cons_self
    omega
  rcases List.mem_cons.mp hs with rfl | hs
  · omega
  rcases List.mem_cons.mp hs with rfl | hs
  · omega
  · have := hbehind s hs
    omega

theorem blankBetween_lex : BlankBetween source (lex lexicon source options).spans := by
  intro before first second behind hspans offset hstart hstop
  have horder : InSourceOrder ((lex lexicon source options).spans.map ClassifiedSpan.span) :=
    (Lexer.ofText lexicon source options).inSourceOrder_run
  have hsecond : second ∈ (lex lexicon source options).spans := by
    rw [hspans]
    simp
  rw [hspans] at horder
  apply blankSpaceAt_of_not_contains lexicon options
  · have habut := abut_lex lexicon source options.foldDirectives options.warningLimit
    rw [spans_lex_eq_filter] at hsecond
    have hbounds := habut.bounds.2 _ (List.mem_map_of_mem (List.mem_filter.mp hsecond).1)
    have hempty := horder.not_empty second.span (by simp)
    omega
  · rw [hspans]
    exact horder.not_contains_between hstart hstop

end Gaps

/-! ## Texts and sessions -/

/-- Leaving blank space out leaves out the blank spans and nothing else, whatever the
other options are.  The other spans are the same, in the same order, and so are the
warnings.  Between two spans that follow one another there are only bytes of blank
space.  The same holds of every session. -/
theorem significant_exact (lexicon : Lexicon) (source : String) (foldDirectives : Bool)
    (warningLimit : Nat) :
    let all := lex lexicon source ⟨foldDirectives, true, warningLimit⟩
    let kept := lex lexicon source ⟨foldDirectives, false, warningLimit⟩
    kept.spans = all.spans.filter (·.kind ≠ .whitespace) ∧
    kept.diagnostics = all.diagnostics ∧
    BlankBetween source kept.spans ∧
    ∀ session : Session,
      let found := session.classify source
      let significant := session.classifySignificant source
      significant.spans = found.spans.filter (·.kind ≠ .whitespace) ∧
      significant.diagnostics = found.diagnostics ∧
      BlankBetween source significant.spans := by
  intro all kept
  obtain ⟨hspans, hdiagnostics⟩ :=
    lex_significant lexicon source ⟨foldDirectives, true, warningLimit⟩
  refine ⟨hspans, hdiagnostics, blankBetween_lex _ _, fun session => ?_⟩
  obtain ⟨hspans, hdiagnostics⟩ :=
    lex_significant session.edition.lexicon source session.options
  exact ⟨hspans, hdiagnostics, blankBetween_lex _ _⟩

end CLexicon
