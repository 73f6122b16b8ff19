import CLexicon.Proofs.Classify.Coverage
import CLexicon.Proofs.Classify.Warnings
import CLexicon.Proofs.Scan.Folding
import CLexicon.Proofs.Scan.Newlines

/-!
# A text is classified line by line

Behind a newline a lexer knows as little of the line as at the start of a text,
and what it has read before the newline does not depend on what follows.  So a
text may be cut behind any newline token, and its parts classified on their own.

* `ClassifiedSpan.shift`, `Diagnostic.shift`, `Classification.shift`: what was
  found in a part, moved to where the part lies in the text.
* `Lexicon.staysInLine_operatorTable`: no operator has a line feed in it.
* `lex_newline`: all that is found in a text is what is found in the two parts.
-/

namespace CLexicon

open Text

/-! ## Moving what was found -/

/-- The classified span, moved `distance` bytes to the right. -/
def ClassifiedSpan.shift (classified : ClassifiedSpan) (distance : Nat) : ClassifiedSpan :=
  { classified with span := classified.span.shift distance }

/-- The label, moved `distance` bytes to the right. -/
def Label.shift (label : Label) (distance : Nat) : Label :=
  { label with span := label.span.shift distance }

/-- The diagnostic with all its labels moved `distance` bytes to the right. -/
def Diagnostic.shift (diagnostic : Diagnostic) (distance : Nat) : Diagnostic :=
  { diagnostic with labels := diagnostic.labels.map (·.shift distance) }

namespace Classification

/-- All that was found, moved `distance` bytes to the right. -/
def shift (found : Classification) (distance : Nat) : Classification :=
  ⟨found.spans.map (·.shift distance), found.diagnostics.map (·.shift distance)⟩

/-- What was found in one text, followed by what was found in another. -/
def append (first second : Classification) : Classification :=
  ⟨first.spans ++ second.spans, first.diagnostics ++ second.diagnostics⟩

end Classification

theorem classify_shift (lexicon : Lexicon) (tag : Tag) (text : String) (span : Span)
    (distance : Nat) :
    classify lexicon tag text (span.shift distance) =
      (classify lexicon tag text span).shift distance := by
  unfold classify
  split
  · split <;> rfl
  · split <;> rfl
  · rfl

namespace PlacedToken

theorem span_shift (placed : PlacedToken) (distance : Nat) :
    (placed.shift distance).span = placed.span.shift distance := by
  unfold span stop shift Span.shift
  rw [Nat.add_right_comm]

theorem classified_shift (lexicon : Lexicon) (placed : PlacedToken) (distance : Nat) :
    (placed.shift distance).classified lexicon =
      (placed.classified lexicon).shift distance := by
  rw [classified, span_shift]
  exact classify_shift lexicon _ _ _ distance

theorem warning?_shift (placed : PlacedToken) (distance : Nat) :
    (placed.shift distance).warning? = placed.warning?.map (·.shift distance) := by
  rw [warning?, span_shift, warning?, Option.map_map]
  rfl

end PlacedToken

/-! ## Operators stay in a line -/

/-- Bytes without a line feed stand in front of a line feed or nowhere. -/
theorem prefix_line_iff {spelling front back : List UInt8}
    (hspelling : Byte.lineFeed ∉ spelling) :
    spelling <+: front ++ Byte.lineFeed :: back ↔ spelling <+: front := by
  refine ⟨fun h => ?_, fun h => h.trans (List.prefix_append _ _)⟩
  rcases List.prefix_or_prefix_of_prefix h (List.prefix_append _ _) with hfront | hlonger
  · exact hfront
  · obtain ⟨beyond, rfl⟩ := hlonger
    rw [List.prefix_append_right_inj, List.prefix_cons_iff] at h
    rcases h with rfl | ⟨tail, rfl, -⟩
    · simp
    · exact absurd (List.mem_append_right _ List.mem_cons_self) hspelling

/-- Operator spellings print, so none of them has a line feed in it. -/
theorem Lexicon.staysInLine_operatorTable (raw : List RawItem) (options : NormalizeOptions) :
    (ofCatalogue (normalize raw options).catalogue).operatorTable.StaysInLine := by
  intro front back
  apply longest?_congr
  intro spelling hspelling
  have hfeed : Byte.lineFeed ∉ bytes spelling := by
    intro hmem
    have hprints := (graphic_of_mem_operatorSpellings hspelling _ hmem).1
    exact absurd hprints (by decide)
  rw [prefix_line_iff hfeed, prefix_line_iff hfeed]

/-! ## Cutting a text -/

/-- Token by token, what is found in a text when blank space and all warnings
are kept. -/
theorem lex_eq_of_placed (lexicon : Lexicon) (source : String) (foldDirectives : Bool) :
    lex lexicon source ⟨foldDirectives, true, 0⟩ =
      let placed := (Scanner.ofText lexicon.operatorTable foldDirectives source).placed
      ⟨placed.map (·.classified lexicon), placed.filterMap PlacedToken.warning?⟩ := by
  have hdiagnostics := diagnostics_lex lexicon source ⟨foldDirectives, true, 0⟩
  show Classification.mk _ (lex lexicon source ⟨foldDirectives, true, 0⟩).diagnostics = _
  rw [hdiagnostics]
  exact congrArg (Classification.mk · _) (spans_lex lexicon source foldDirectives 0)

/-- Where a newline token of a text stops, the text falls into two parts.  What
is found in the text is what is found in the first part, followed by what is
found in the second, moved behind the first. -/
theorem lex_newline (raw : List RawItem) (options : NormalizeOptions) (source : String)
    (foldDirectives : Bool) {placed : PlacedToken} :
    let lexicon := Lexicon.ofCatalogue (normalize raw options).catalogue
    let scan : ScanOptions := ⟨foldDirectives, true, 0⟩
    placed ∈ (Scanner.ofText lexicon.operatorTable foldDirectives source).placed →
    placed.tag = .newline →
    ∃ first second, slice? source 0 placed.stop = some first ∧
      slice? source placed.stop source.utf8ByteSize = some second ∧
      lex lexicon source scan =
        (lex lexicon first scan).append ((lex lexicon second scan).shift placed.stop) := by
  intro lexicon scan hmem htag
  obtain ⟨first, second, hfirst, hsecond, hplaced⟩ :=
    Scanner.placed_newline (Lexicon.isAscii_operatorTable raw options)
      (Lexicon.staysInLine_operatorTable raw options) hmem htag
  refine ⟨first, second, hfirst, hsecond, ?_⟩
  rw [lex_eq_of_placed, lex_eq_of_placed, lex_eq_of_placed, hplaced]
  unfold Classification.append Classification.shift
  dsimp only
  congr 1
  · rw [List.map_append, List.map_map, List.map_map]
    congr 1
    exact List.map_congr_left fun moved _ => moved.classified_shift lexicon _
  · rw [List.filterMap_append, List.filterMap_map, List.map_filterMap]
    congr 1
    congr 1
    funext moved
    exact moved.warning?_shift _

/-- A directive and a literal that is left open in it end with their line, and
behind it a word is a word again. -/
theorem lex_newline_directive :
    let lexicon := Lexicon.ofCatalogue (normalize directiveOperators).catalogue
    let source := "#x \"a\nb"
    let newline : PlacedToken := ⟨.newline, 5, [Byte.lineFeed]⟩
    newline ∈ (Scanner.ofText lexicon.operatorTable true source).placed ∧
      newline.tag = .newline ∧
      lex lexicon source =
        (lex lexicon "#x \"a\n").append ((lex lexicon "b").shift newline.stop) := by
  intro lexicon source newline
  have hmem : newline ∈ (Scanner.ofText lexicon.operatorTable true source).placed := by
    decide +kernel
  refine ⟨hmem, rfl, ?_⟩
  obtain ⟨first, second, hfirst, hsecond, hparts⟩ :=
    lex_newline directiveOperators {} source true hmem rfl
  have hslices : slice? source 0 newline.stop = some "#x \"a\n" ∧
      slice? source newline.stop source.utf8ByteSize = some "b" := by
    decide +kernel
  obtain rfl := Option.some.inj (hfirst.symm.trans hslices.1)
  obtain rfl := Option.some.inj (hsecond.symm.trans hslices.2)
  exact hparts

end CLexicon
