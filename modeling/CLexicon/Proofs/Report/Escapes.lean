import CLexicon.Proofs.Text.Lines
import CLexicon.Report.Terminal
import CLexicon.Text.Blank

/-!
# Escape sequences in a report

A coloured report is an uncoloured one with escape sequences in between.  They are found
again where no text of the report holds the character that they start with.

* `Escape` and `signs`: a text read as characters and escape sequences.
  `withoutEscapes` and `escapes` are what each kind is, and `Paired` is what a terminal
  expects of the sequences.
* `signs_render`: what is read in a report, piece by piece.
* `Diagnostic.IsClean` and `isClean_of_mem_pieces`: the texts that a report is made of.
* `color_transparent`: the reports on any diagnostics, with colour and without.
-/

namespace CLexicon.Report

open Text

/-! ## Reading escape sequences -/

/-- The character that every escape sequence starts with. -/
def escapeChar : Char :=
  '\x1b'

/-- An escape sequence. -/
inductive Escape where
  /-- A style starts. -/
  | opening (style : Style)
  /-- All styles end. -/
  | closing
  deriving DecidableEq, Repr

namespace Escape

/-- All escape sequences. -/
def all : List Escape :=
  [opening .error, opening .warning, opening .bold, closing]

/-- An escape sequence as it is written. -/
def written : Escape → String
  | opening style => style.opening
  | closing => Report.closing

/-- Reads the escape sequence at the front of a text.  Gives it and the text behind it. -/
def read? (text : List Char) : Option (Escape × List Char) :=
  all.findSome? fun escape => (after? escape.written.toList text).map (escape, ·)

/-- Each sequence is the escape character with something behind it. -/
theorem exists_written_eq (escape : Escape) :
    ∃ tail, escape.written.toList = escapeChar :: tail := by
  rcases escape with style | _
  · cases style <;> exact ⟨_, rfl⟩
  · exact ⟨_, rfl⟩

theorem eq_of_read? {text rest : List Char} {escape : Escape}
    (h : read? text = some (escape, rest)) : text = escape.written.toList ++ rest := by
  obtain ⟨found, -, hfound⟩ := List.exists_of_findSome?_eq_some h
  obtain ⟨behind, hbehind, hsame⟩ := Option.map_eq_some_iff.mp hfound
  cases hsame
  exact after?_eq_some_iff.mp hbehind

theorem read?_written_append (escape : Escape) (rest : List Char) :
    read? (escape.written.toList ++ rest) = some (escape, rest) := by
  rcases escape with style | _
  · cases style <;> rfl
  · rfl

theorem read?_eq_none {c : Char} (h : c ≠ escapeChar) (rest : List Char) :
    read? (c :: rest) = none := by
  cases hread : read? (c :: rest) with
  | none => rfl
  | some found =>
    -- what is read would start with the escape character
    obtain ⟨tail, htail⟩ := exists_written_eq found.1
    have heq := eq_of_read? hread
    rw [htail] at heq
    exact absurd (List.cons.inj heq).1 h

end Escape

/-- What a terminal reads: a character, or an escape sequence. -/
inductive Sign where
  | shown (c : Char)
  | obeyed (escape : Escape)
  deriving DecidableEq, Repr

/-- A text as it is read from left to right. -/
def signs : List Char → List Sign
  | [] => []
  | c :: rest =>
    match _found : Escape.read? (c :: rest) with
    | some (escape, behind) => .obeyed escape :: signs behind
    | none => .shown c :: signs rest
termination_by text => text.length
decreasing_by
  · obtain ⟨tail, htail⟩ := escape.exists_written_eq
    rw [Escape.eq_of_read? _found, htail, List.length_append, List.length_cons]
    omega
  · exact Nat.lt_succ_self _

/-- The character that is shown. -/
def Sign.char? : Sign → Option Char
  | shown c => some c
  | obeyed _ => none

/-- The escape sequence that is obeyed. -/
def Sign.escape? : Sign → Option Escape
  | shown _ => none
  | obeyed escape => some escape

/-- A text with all escape sequences deleted. -/
def withoutEscapes (text : String) : String :=
  String.ofList ((signs text.toList).filterMap Sign.char?)

/-- The escape sequences of a text, in order. -/
def escapes (text : String) : List Escape :=
  (signs text.toList).filterMap Sign.escape?

/-- Each style that starts ends before the next one starts, and nothing else ends. -/
inductive Paired : List Escape → Prop where
  | nil : Paired []
  | pair (style : Style) {rest : List Escape} (hrest : Paired rest) :
      Paired (.opening style :: .closing :: rest)

/-! ## What is read in a report -/

/-- A text that no escape sequence starts in. -/
def IsClean (text : String) : Prop :=
  escapeChar ∉ text.toList

instance (text : String) : Decidable (IsClean text) :=
  inferInstanceAs (Decidable (escapeChar ∉ text.toList))

theorem signs_escape_append (escape : Escape) (rest : List Char) :
    signs (escape.written.toList ++ rest) = .obeyed escape :: signs rest := by
  have hread := Escape.read?_written_append escape rest
  obtain ⟨tail, htail⟩ := escape.exists_written_eq
  rw [htail, List.cons_append] at hread ⊢
  rw [signs]
  split
  · rename_i hfound
    rw [hread] at hfound
    cases hfound
    rfl
  · rename_i hnone
    rw [hread] at hnone
    cases hnone

theorem signs_plain_append {text : List Char} (h : escapeChar ∉ text) (rest : List Char) :
    signs (text ++ rest) = text.map .shown ++ signs rest := by
  induction text with
  | nil => rfl
  | cons c text ih =>
    obtain ⟨hc, htext⟩ := not_or.mp (mt List.mem_cons.mpr h)
    have hnone := Escape.read?_eq_none (Ne.symm hc) (text ++ rest)
    rw [List.cons_append, signs]
    split
    · rename_i hfound
      rw [hnone] at hfound
      cases hfound
    · rw [ih htext]
      rfl

/-- What is read in a piece. -/
def Piece.signs (color : Bool) (piece : Piece) : List Sign :=
  match color, piece.style with
  | true, some style =>
    .obeyed (.opening style) :: piece.text.toList.map .shown ++ [.obeyed .closing]
  | _, _ => piece.text.toList.map .shown

theorem signs_piece_append {piece : Piece} (h : IsClean piece.text) (color : Bool)
    (rest : List Char) :
    Report.signs ((piece.render color).toList ++ rest) =
      piece.signs color ++ Report.signs rest := by
  obtain ⟨text, style⟩ := piece
  cases color with
  | false => exact signs_plain_append h rest
  | true =>
    cases style with
    | none => exact signs_plain_append h rest
    | some style =>
      have hopening : style.opening = (Escape.opening style).written := rfl
      have hclosing : closing = Escape.closing.written := rfl
      show Report.signs ((style.opening ++ text ++ closing).toList ++ rest) = _
      rw [String.toList_append, String.toList_append, List.append_assoc, List.append_assoc,
        hopening, signs_escape_append, signs_plain_append h, hclosing, signs_escape_append]
      simp [Piece.signs]

theorem signs_render {pieces : List Piece} (h : ∀ piece ∈ pieces, IsClean piece.text)
    (color : Bool) :
    signs (render color pieces).toList = pieces.flatMap (Piece.signs color) := by
  rw [render, String.toList_join, List.flatMap_map]
  induction pieces with
  | nil => rw [List.flatMap_nil, List.flatMap_nil, signs]
  | cons piece pieces ih =>
    obtain ⟨hpiece, hpieces⟩ := List.forall_mem_cons.mp h
    rw [List.flatMap_cons, List.flatMap_cons, signs_piece_append hpiece, ih hpieces]

/-! ## What is shown and what is obeyed -/

theorem filterMap_char?_map_shown (chars : List Char) :
    (chars.map Sign.shown).filterMap Sign.char? = chars := by
  rw [List.filterMap_map]
  exact List.filterMap_some

theorem filterMap_escape?_map_shown (chars : List Char) :
    (chars.map Sign.shown).filterMap Sign.escape? = [] := by
  rw [List.filterMap_map]
  exact List.filterMap_eq_nil_iff.mpr fun _ _ => rfl

theorem filterMap_char?_signs (color : Bool) (piece : Piece) :
    (piece.signs color).filterMap Sign.char? = piece.text.toList := by
  obtain ⟨text, style⟩ := piece
  cases color with
  | false => exact filterMap_char?_map_shown _
  | true =>
    cases style with
    | none => exact filterMap_char?_map_shown _
    | some style =>
      show (Sign.obeyed _ :: (text.toList.map Sign.shown ++ [Sign.obeyed _])).filterMap _ = _
      rw [List.filterMap_cons_none rfl, List.filterMap_append, filterMap_char?_map_shown,
        List.filterMap_cons_none rfl, List.filterMap_nil, List.append_nil]

/-- The sequences around what is shown in a style. -/
def Escape.around (style : Style) : List Escape :=
  [opening style, closing]

/-- The sequences around a piece. -/
def Piece.escapes (color : Bool) (piece : Piece) : List Escape :=
  match color, piece.style with
  | true, some style => Escape.around style
  | _, _ => []

theorem filterMap_escape?_signs (color : Bool) (piece : Piece) :
    (piece.signs color).filterMap Sign.escape? = piece.escapes color := by
  obtain ⟨text, style⟩ := piece
  cases color with
  | false => exact filterMap_escape?_map_shown _
  | true =>
    cases style with
    | none => exact filterMap_escape?_map_shown _
    | some style =>
      show (Sign.obeyed _ :: (text.toList.map Sign.shown ++ [Sign.obeyed _])).filterMap _ = _
      rw [List.filterMap_cons, List.filterMap_append, filterMap_escape?_map_shown]
      rfl

/-- Without its escape sequences, a report is the texts of its pieces. -/
theorem withoutEscapes_render {pieces : List Piece}
    (h : ∀ piece ∈ pieces, IsClean piece.text) (color : Bool) :
    withoutEscapes (render color pieces) = render false pieces := by
  have hchars : (pieces.flatMap (Piece.signs color)).filterMap Sign.char? =
      pieces.flatMap fun piece => piece.text.toList := by
    rw [List.filterMap_flatMap]
    simp only [filterMap_char?_signs]
  rw [withoutEscapes, signs_render h, hchars, ← String.toList_inj, String.toList_ofList, render,
    String.toList_join, List.flatMap_map]
  rfl

theorem escapes_render {pieces : List Piece} (h : ∀ piece ∈ pieces, IsClean piece.text)
    (color : Bool) :
    escapes (render color pieces) = pieces.flatMap (Piece.escapes color) := by
  rw [escapes, signs_render h, List.filterMap_flatMap]
  simp only [filterMap_escape?_signs]

theorem flatMap_escapes_false (pieces : List Piece) :
    pieces.flatMap (Piece.escapes false) = [] :=
  List.flatMap_eq_nil_iff.mpr fun _ _ => rfl

theorem flatMap_escapes_true (pieces : List Piece) :
    pieces.flatMap (Piece.escapes true) =
      (pieces.filterMap Piece.style).flatMap Escape.around := by
  induction pieces with
  | nil => rfl
  | cons piece pieces ih =>
    obtain ⟨text, style⟩ := piece
    cases style with
    | none => exact ih
    | some style => exact congrArg (Escape.around style ++ ·) ih

theorem paired_flatMap_escapes (color : Bool) (pieces : List Piece) :
    Paired (pieces.flatMap (Piece.escapes color)) := by
  induction pieces with
  | nil => exact .nil
  | cons piece pieces ih =>
    rw [List.flatMap_cons]
    obtain ⟨text, style⟩ := piece
    cases color with
    | false => exact ih
    | true =>
      cases style with
      | none => exact ih
      | some style => exact .pair style ih

/-! ## The texts of a report -/

theorem isClean_append {first second : String} (hfirst : IsClean first)
    (hsecond : IsClean second) : IsClean (first ++ second) := by
  unfold IsClean at *
  rw [String.toList_append, List.mem_append, not_or]
  exact ⟨hfirst, hsecond⟩

theorem isClean_toString (number : Nat) : IsClean (toString number) := by
  -- a number is written in digits, and the escape character is not one
  intro hmem
  rw [show toString number = number.repr from rfl, Nat.toList_repr] at hmem
  have hdigit := Nat.isDigit_of_mem_toDigits (by decide) (by decide) hmem
  exact absurd hdigit (by decide)

/-- A line of a text is a part of the text. -/
theorem isClean_of_lineText? {text found : String} (h : IsClean text) {line : Nat}
    (hfound : (LineTable.ofText text).lineText? text line = some found) : IsClean found := by
  rw [LineTable.lineText?_ofText] at hfound
  split at hfound
  · cases hfound
  · obtain ⟨piece, hpiece, rfl⟩ := Option.map_eq_some_iff.mp hfound
    obtain ⟨front, behind, hchars, -⟩ := exists_split_of_splitOn hpiece
    -- the carriage return that is cut off does not matter: what is left is a prefix
    intro hmem
    rw [String.toList_ofList] at hmem
    have hinside := (List.rdropWhile_prefix _ piece).mem hmem
    exact h (hchars ▸ List.mem_append_left _ (List.mem_append_right _ hinside))

end CLexicon.Report

namespace CLexicon

open Report

/-- No text that came with a diagnostic holds the escape character. -/
structure Diagnostic.IsClean (diagnostic : Diagnostic) : Prop where
  message : Report.IsClean diagnostic.message
  labels : ∀ label ∈ diagnostic.labels, Report.IsClean label.message
  notes : ∀ note ∈ diagnostic.notes, Report.IsClean note

namespace Report

/-- A source text with its path, if a report has one. -/
def sourceOf (given : Option (String × String)) : Option Source :=
  given.map fun (path, text) => .ofText path text

/-- All that is written of some diagnostics: the lines for each of them, and their number. -/
def pieces (given : Option (String × String)) (diagnostics : List Diagnostic) : List Piece :=
  allPieces (sourceOf given) diagnostics ++ summaryPieces diagnostics

/-- Neither the path nor the text of a source holds the escape character. -/
def SourceIsClean (given : Option (String × String)) : Prop :=
  ∀ path text, given = some (path, text) → IsClean path ∧ IsClean text

section Pieces

variable {given : Option (String × String)} {diagnostic : Diagnostic}
  {diagnostics : List Diagnostic} {piece : Piece}

theorem isClean_name (severity : Severity) : IsClean severity.name := by
  cases severity <;> decide

theorem isClean_labelPlace (h : SourceIsClean given) (label : Label) :
    IsClean (labelPlace (sourceOf given) label) := by
  rcases given with _ | ⟨path, text⟩
  · exact isClean_append (isClean_append (isClean_toString _) (by decide)) (isClean_toString _)
  · have hpath := (h path text rfl).1
    exact isClean_append (isClean_append (isClean_append (isClean_append hpath (by decide))
      (isClean_toString _)) (by decide)) (isClean_toString _)

theorem isClean_of_labelLine? (h : SourceIsClean given) {label : Label} {line : String}
    (hline : labelLine? (sourceOf given) label = some line) : IsClean line := by
  rcases given with _ | ⟨path, text⟩
  · cases hline
  · exact isClean_of_lineText? (h path text rfl).2 hline

theorem isClean_of_mem_labelPieces (h : SourceIsClean given) {severity : Severity} {label : Label}
    (hlabel : IsClean label.message)
    (hpiece : piece ∈ labelPieces (sourceOf given) severity label) : IsClean piece.text := by
  rcases List.mem_append.mp hpiece with hplace | hline
  · simp only [List.mem_cons, List.not_mem_nil, or_false] at hplace
    rcases hplace with rfl | rfl | rfl | rfl
    · decide
    · exact isClean_append (isClean_labelPlace h label) (by decide)
    · exact hlabel
    · decide
  · cases hfound : labelLine? (sourceOf given) label with
    | none =>
      rw [hfound] at hline
      cases hline
    | some line =>
      rw [hfound] at hline
      obtain rfl := List.mem_singleton.mp hline
      exact isClean_append (isClean_append (by decide) (isClean_of_labelLine? h hfound))
        (by decide)

theorem isClean_of_mem_notePieces {note : String} (hnote : IsClean note)
    (hpiece : piece ∈ notePieces note) : IsClean piece.text := by
  simp only [notePieces, List.mem_cons, List.not_mem_nil, or_false] at hpiece
  rcases hpiece with rfl | rfl | rfl
  · decide
  · decide
  · exact isClean_append (isClean_append (by decide) hnote) (by decide)

theorem isClean_of_mem_diagnosticPieces (h : SourceIsClean given) (hclean : diagnostic.IsClean)
    (hpiece : piece ∈ diagnosticPieces (sourceOf given) diagnostic) : IsClean piece.text := by
  rcases List.mem_append.mp hpiece with hfront | hnotes
  · rcases List.mem_append.mp hfront with hhead | hlabels
    · simp only [List.mem_cons, List.not_mem_nil, or_false] at hhead
      rcases hhead with rfl | rfl | rfl
      · exact isClean_name _
      · have hcode : IsClean diagnostic.code.printed := by
          cases diagnostic.code <;> decide
        exact isClean_append (isClean_append (by decide) hcode) (by decide)
      · exact isClean_append (isClean_append (by decide) hclean.message) (by decide)
    · obtain ⟨label, hlabel, hmem⟩ := List.mem_flatMap.mp hlabels
      exact isClean_of_mem_labelPieces h (hclean.labels label hlabel) hmem
  · obtain ⟨note, hnote, hmem⟩ := List.mem_flatMap.mp hnotes
    exact isClean_of_mem_notePieces (hclean.notes note hnote) hmem

theorem isClean_of_mem_countPieces {severity : Severity} {count : Nat}
    (hpiece : piece ∈ countPieces severity count) : IsClean piece.text := by
  unfold countPieces at hpiece
  split at hpiece
  · cases hpiece
  · simp only [List.mem_cons, List.not_mem_nil, or_false] at hpiece
    rcases hpiece with rfl | rfl
    · exact isClean_name _
    · refine isClean_append (isClean_append (isClean_append (isClean_append (isClean_append
        (by decide) (isClean_toString _)) (by decide)) (isClean_name _)) ?_) (by decide)
      split <;> decide

theorem isClean_of_mem_pieces (h : SourceIsClean given) (hclean : ∀ d ∈ diagnostics, d.IsClean)
    (hpiece : piece ∈ pieces given diagnostics) : IsClean piece.text := by
  rcases List.mem_append.mp hpiece with hall | hsummary
  · obtain ⟨diagnostic, hdiagnostic, hmem⟩ := List.mem_flatMap.mp hall
    exact isClean_of_mem_diagnosticPieces h (hclean diagnostic hdiagnostic) hmem
  · rcases List.mem_append.mp hsummary with hmem | hmem <;>
      exact isClean_of_mem_countPieces hmem

end Pieces

/-! ## Reports with colour and without -/

/-- Some diagnostics as they are written. -/
def written (mode : ColorMode) (isTerminal : Bool) (given : Option (String × String))
    (diagnostics : List Diagnostic) : String :=
  render (mode.usesColor isTerminal) (pieces given diagnostics)

/-- Colour is transparent: deleting the escape sequences of a coloured report gives the
uncoloured one.  A coloured report has the two sequences of a style for each piece with that
style and no others, and one that is left to the terminal is one of the two reports. -/
theorem color_transparent {given : Option (String × String)} {diagnostics : List Diagnostic}
    (hsource : SourceIsClean given) (hclean : ∀ d ∈ diagnostics, d.IsClean) :
    (∀ first second, withoutEscapes (written .always first given diagnostics) =
      written .never second given diagnostics) ∧
    (∀ isTerminal, written .auto isTerminal given diagnostics =
      written (if isTerminal then .always else .never) isTerminal given diagnostics) ∧
    (∀ isTerminal, escapes (written .always isTerminal given diagnostics) =
      ((pieces given diagnostics).filterMap Piece.style).flatMap Escape.around) ∧
    (∀ isTerminal, escapes (written .never isTerminal given diagnostics) = []) ∧
    ∀ mode isTerminal, Paired (escapes (written mode isTerminal given diagnostics)) := by
  have hpieces : ∀ piece ∈ pieces given diagnostics, IsClean piece.text :=
    fun _ hpiece => isClean_of_mem_pieces hsource hclean hpiece
  refine ⟨fun _ _ => withoutEscapes_render hpieces true, ?_, fun _ => ?_, fun _ => ?_,
    fun mode isTerminal => ?_⟩
  · rintro (_ | _) <;> rfl
  · exact (escapes_render hpieces true).trans (flatMap_escapes_true _)
  · exact (escapes_render hpieces false).trans (flatMap_escapes_false _)
  · rw [written, escapes_render hpieces]
    exact paired_flatMap_escapes _ _

/-- A source text with a comment that is not closed. -/
def unclosedSource : Option (String × String) :=
  some ("main.c", "int x; /* y")

/-- A report on that comment, with the line that it is on and with a note. -/
def unclosedDiagnostics : List Diagnostic :=
  [{ code := .unterminatedComment
     message := "unterminated block comment"
     labels := [⟨⟨7, 11⟩, "comment starts here"⟩]
     notes := ["the comment runs to the end of the text"] }]

theorem color_transparent_unclosed :
    SourceIsClean unclosedSource ∧ (∀ d ∈ unclosedDiagnostics, d.IsClean) ∧
    withoutEscapes (written .always false unclosedSource unclosedDiagnostics) =
      written .never true unclosedSource unclosedDiagnostics ∧
    Paired (escapes (written .auto true unclosedSource unclosedDiagnostics)) := by
  have hsource : SourceIsClean unclosedSource := by
    rintro path text hgiven
    cases hgiven
    decide
  have hclean : ∀ d ∈ unclosedDiagnostics, d.IsClean := by
    intro d hd
    obtain rfl := List.mem_singleton.mp hd
    exact ⟨by decide, by decide, by decide⟩
  obtain ⟨htransparent, -, -, -, hpaired⟩ := color_transparent hsource hclean
  exact ⟨hsource, hclean, htransparent _ _, hpaired _ _⟩

end Report

end CLexicon
