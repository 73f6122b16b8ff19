import CLexicon.Proofs.Scan.Context
import CLexicon.Proofs.Lexicon.Operators

/-!
# Every token is the longest of its kind

What the kind of a token says of its bytes and of those around it.  The kinds
overlap in the bytes they may start with: a slash starts comments and operators,
a dot numbers and operators, a carriage return blank space and line ends, and a
letter words and literals.

* `Tag.Describes`: the lexical grammar, kind by kind, in terms of the shapes
  and of the operator spellings of a catalogue.
* `Reads.describes`: a token that is read at the front of some bytes is
  described by its kind.
* `tokens_maximal`: so is every token of every text.
-/

namespace CLexicon

open Text

/-- What a kind says of a token with these bytes, and these before and behind
it.  Literals and the text of directives are left open here. -/
def Tag.Describes (catalogue : Catalogue) (before text behind : List UInt8) : Tag → Prop
  | .word =>
    (∃ b rest, text = b :: rest ∧ Byte.isWordStart b ∧ ∀ c ∈ rest, Byte.isWord c) ∧
      ¬behind.head?.any Byte.isWord ∧
      ¬(text ∈ encodingMarks ∧ behind.head?.any Byte.isQuote)
  | .number =>
    IsNumber text ∧
      ∀ other, IsNumber other → other <+: text ++ behind → other.length ≤ text.length
  | .blank =>
    IsBlankRun (before ++ text ++ behind) before.length (before.length + text.length)
  | .newline =>
    text = [Byte.lineFeed] ∨ text = [Byte.carriageReturn, Byte.lineFeed]
  | .lineComment =>
    [Byte.slash, Byte.slash] <+: text ∧ Byte.lineFeed ∉ text ∧
      (behind = [] ∨ behind.head? = some Byte.lineFeed)
  | .blockComment =>
    [Byte.slash, Byte.star] <+: text ∧
      ∃ place, 2 ≤ place ∧ text.length = place + 2 ∧ StarSlashAt (text ++ behind) place ∧
        ∀ other, 2 ≤ other → StarSlashAt (text ++ behind) other → place ≤ other
  | .openComment =>
    [Byte.slash, Byte.star] <+: text ∧ (∀ place, 2 ≤ place → ¬StarSlashAt text place) ∧
      behind = []
  | .operator =>
    ∃ spelling, IsLongestOperator catalogue (text ++ behind) spelling ∧ text = bytes spelling
  | .unknown =>
    ∃ c, text = String.utf8EncodeChar c ∧
      (c.toNat < 0x80 →
        ∀ spelling ∈ catalogue.operatorSpellings, ¬bytes spelling <+: text ++ behind)
  | .string | .char | .openString | .openChar | .directiveBody => True
  | .endOfText => False

/-! ## Kind by kind -/

section Kinds

variable {catalogue : Catalogue} {before : List UInt8}

theorem describes_word {b : UInt8} {rest : List UInt8} (hstart : Byte.isWordStart b)
    (hplain : ¬((b :: rest).take (wordLength (b :: rest)) ∈ encodingMarks ∧
      ((b :: rest).drop (wordLength (b :: rest))).head?.any Byte.isQuote)) :
    Tag.word.Describes catalogue before ((b :: rest).take (wordLength (b :: rest)))
      ((b :: rest).drop (wordLength (b :: rest))) := by
  have hbytes := forall_mem_take_wordLength (b :: rest)
  have hpos : 0 < wordLength (b :: rest) := wordLength_pos hstart
  obtain ⟨length, hlength⟩ := Nat.exists_eq_add_one.mpr hpos
  refine ⟨⟨b, rest.take length, ?_, hstart, ?_⟩, ?_, hplain⟩
  · rw [hlength, List.take_succ_cons]
  · rw [hlength, List.take_succ_cons, List.forall_mem_cons] at hbytes
    exact hbytes.2
  · cases hdrop : (b :: rest).drop (wordLength (b :: rest)) with
    | nil => simp
    | cons next tail => simp [not_of_drop_takeWhile hdrop]

theorem describes_number {b : UInt8} {rest : List UInt8}
    (hstart : Byte.isDigit b ∨ b = Byte.dot ∧ rest.head?.any Byte.isDigit) :
    Tag.number.Describes catalogue before ((b :: rest).take (numberLength rest + 1))
      ((b :: rest).drop (numberLength rest + 1)) := by
  refine ⟨isNumber_numberLength hstart, fun other hother hbegins => ?_⟩
  rw [List.take_append_drop] at hbegins
  rw [List.length_take_of_le (Nat.succ_le_succ (numberLength_le rest))]
  exact hother.length_le hbegins

theorem describes_blank {input : List UInt8} (hpos : 0 < blankLength input)
    (hparted : BlankAt input 0 → ¬EndsBlank before) :
    Tag.blank.Describes catalogue before (input.take (blankLength input))
      (input.drop (blankLength input)) := by
  show IsBlankRun _ _ _
  rw [List.append_assoc, List.take_append_drop, List.length_take_of_le (blankLength_le input)]
  constructor
  case nonempty => exact Nat.lt_add_of_pos_right hpos
  case blank =>
    intro place hstart hstop
    obtain ⟨distance, rfl⟩ := Nat.exists_eq_add_of_le hstart
    exact blankAt_append.mpr (blankAt_of_lt_blankLength (Nat.lt_of_add_lt_add_left hstop))
  case before =>
    intro place hplace hblank
    exact hparted (blankLength_pos_iff.mp hpos) (endsBlank_of_blankAt hplace hblank)
  case behind => exact mt blankAt_append.mp (not_blankAt_blankLength input)

theorem describes_lineComment (rest : List UInt8) :
    let input := Byte.slash :: Byte.slash :: rest
    Tag.lineComment.Describes catalogue before (input.take (lineLength input))
      (input.drop (lineLength input)) := by
  intro input
  have htext : input.take (lineLength input) = input.takeWhile (· ≠ Byte.lineFeed) :=
    (List.prefix_iff_eq_take.mp (List.takeWhile_prefix _)).symm
  refine ⟨?_, ?_, ?_⟩
  · rw [htext]
    exact ⟨rest.takeWhile (· ≠ Byte.lineFeed), rfl⟩
  · rw [htext]
    intro hmem
    have hfeed := List.all_eq_true.mp List.all_takeWhile _ hmem
    simp at hfeed
  · rcases drop_lineLength input with hnil | ⟨tail, hfeed⟩
    · exact Or.inl hnil
    · rw [hfeed]
      exact Or.inr rfl

theorem describes_blockComment {rest : List UInt8} {length : Nat}
    (hend : commentEnd? rest = some length) :
    let input := Byte.slash :: Byte.star :: rest
    Tag.blockComment.Describes catalogue before (input.take (length + 2))
      (input.drop (length + 2)) := by
  intro input
  have hle : length + 2 ≤ input.length :=
    Nat.succ_le_succ (Nat.succ_le_succ (commentEnd?_le hend))
  obtain ⟨place, rfl, hplace, hfirst⟩ := commentEnd?_eq_some_iff.mp hend
  refine ⟨⟨rest.take (place + 2), rfl⟩, place + 2, Nat.le_add_left 2 place, ?_, ?_, ?_⟩
  · exact List.length_take_of_le hle
  · rw [List.take_append_drop]
    exact hplace
  · intro other htwo hother
    obtain ⟨distance, rfl⟩ := Nat.exists_eq_add_of_le' htwo
    rw [List.take_append_drop] at hother
    exact Nat.add_le_add_right (hfirst distance hother) 2

theorem describes_openComment {rest : List UInt8} (hend : commentEnd? rest = none) :
    let input := Byte.slash :: Byte.star :: rest
    Tag.openComment.Describes catalogue before (input.take (rest.length + 2))
      (input.drop (rest.length + 2)) := by
  intro input
  have hlength : rest.length + 2 = input.length := rfl
  rw [hlength, List.take_length, List.drop_length]
  refine ⟨⟨rest, rfl⟩, fun place htwo hplace => ?_, rfl⟩
  obtain ⟨distance, rfl⟩ := Nat.exists_eq_add_of_le' htwo
  exact commentEnd?_eq_none_iff.mp hend distance hplace

theorem describes_literal (quote : UInt8) (rest text behind : List UInt8) :
    (literal (quote :: rest)).tag.Describes catalogue before text behind := by
  rw [literal]
  dsimp only
  split <;> split <;> trivial

/-- A character whose first byte is not ASCII is read whole. -/
theorem describes_high {b : UInt8} {rest : List UInt8} (hinput : IsEncoding (b :: rest))
    (hhigh : 0x80 ≤ b) :
    Tag.unknown.Describes catalogue before ((b :: rest).take (charLength (b :: rest)))
      ((b :: rest).drop (charLength (b :: rest))) := by
  obtain ⟨c, tail, hsplit, -⟩ := hinput.cons_cases
  refine ⟨c, take_charLength hsplit, fun hascii => ?_⟩
  obtain ⟨first, hfirst, hlow⟩ := utf8EncodeChar_of_ascii hascii
  rw [hfirst] at hsplit
  obtain ⟨rfl, -⟩ := List.cons.inj hsplit
  exact absurd hlow (UInt8.not_lt.mpr hhigh)

/-- An ASCII byte that starts no operator is a character of its own. -/
theorem describes_unknown {b : UInt8} {rest : List UInt8} (hinput : IsEncoding (b :: rest))
    (hascii : b < 0x80)
    (hnone : ∀ spelling ∈ catalogue.operatorSpellings, ¬bytes spelling <+: b :: rest) :
    Tag.unknown.Describes catalogue before ((b :: rest).take 1) ((b :: rest).drop 1) := by
  obtain ⟨c, tail, hsplit, -⟩ := hinput.cons_cases
  refine ⟨c, ?_, fun _ => hnone⟩
  rcases utf8EncodeChar_cases c with ⟨first, hc, -⟩ | ⟨first, more, hc, -, hhigh⟩
  · rw [hc] at hsplit ⊢
    rw [(List.cons.inj hsplit).1]
    rfl
  · rw [hc] at hsplit
    rw [← (List.cons.inj hsplit).1] at hhigh
    exact absurd hascii (UInt8.not_lt.mpr (hhigh b List.mem_cons_self))

end Kinds

/-! ## Operators of a catalogue -/

section Normalized

variable {raw : List RawItem} {options : NormalizeOptions} {input : List UInt8}

theorem Lexicon.isGraphic_operatorTable (raw : List RawItem) (options : NormalizeOptions) :
    (Lexicon.ofCatalogue (normalize raw options).catalogue).operatorTable.IsGraphic :=
  fun _ _ h => Lexicon.graphic_of_longest? h

theorem describes_operator {before : List UInt8} {length : Nat}
    (hlongest : (Lexicon.ofCatalogue (normalize raw options).catalogue).operatorTable.longest?
      input = some length) :
    Tag.operator.Describes (normalize raw options).catalogue before (input.take length)
      (input.drop length) := by
  obtain ⟨spelling, hspelling, rfl⟩ := Lexicon.longest?_eq_some_iff.mp hlongest
  refine ⟨spelling, ?_, (List.prefix_iff_eq_take.mp hspelling.begins).symm⟩
  rwa [List.take_append_drop]

theorem not_prefix_of_longest?_eq_none
    (hnone : (Lexicon.ofCatalogue (normalize raw options).catalogue).operatorTable.longest?
      input = none) :
    ∀ spelling ∈ (normalize raw options).catalogue.operatorSpellings,
      ¬bytes spelling <+: input := by
  intro spelling hspelling hbegins
  have hsome := Lexicon.longestMatch?_trie_isSome_iff.mpr ⟨spelling, hspelling, hbegins⟩
  rw [Option.map_eq_none_iff.mp hnone] at hsome
  cases hsome

/-- A token that is read at the front of an encoded text is described by its
kind, in a text that is not begun with the blank space that may come first. -/
theorem Reads.describes {inDirective : Bool} {before : List UInt8} {token : Token}
    (h : Reads (Lexicon.ofCatalogue (normalize raw options).catalogue).operatorTable
      inDirective input token)
    (hinput : IsEncoding input) (hparted : BlankAt input 0 → ¬EndsBlank before) :
    token.tag.Describes (normalize raw options).catalogue before (input.take token.length)
      (input.drop token.length) := by
  cases h with
  | blank hpos => exact describes_blank hpos hparted
  | returnFeed => exact Or.inr rfl
  | lineFeed => exact Or.inl rfl
  | lineComment => exact describes_lineComment _
  | closedComment hend => exact describes_blockComment hend
  | openComment hend => exact describes_openComment hend
  | body => trivial
  | bodyLiteral => exact describes_literal _ _ _ _
  | word hstart hplain => exact describes_word hstart hplain
  | markedLiteral => exact describes_literal _ _ _ _
  | number hstart => exact describes_number hstart
  | literal => exact describes_literal _ _ _ _
  | high hhigh => exact describes_high hinput hhigh
  | operator _ hlongest => exact describes_operator hlongest
  | unknown hstart hnone =>
    exact describes_unknown hinput hstart.ascii (not_prefix_of_longest?_eq_none hnone)

/-- Every token of every text is described by its kind, with the bytes that
stand before it and behind it in the text. -/
theorem tokens_maximal (raw : List RawItem) (options : NormalizeOptions) (source : String)
    (foldDirectives : Bool) {placed : PlacedToken} :
    let catalogue := (normalize raw options).catalogue
    let table := (Lexicon.ofCatalogue catalogue).operatorTable
    placed ∈ (Scanner.ofText table foldDirectives source).placed →
    ∃ before behind, bytes source = before ++ placed.bytes ++ behind ∧
      placed.start = before.length ∧
      placed.tag.Describes catalogue before placed.bytes behind := by
  intro catalogue table hplaced
  obtain ⟨before, behind, inDirective, hstands⟩ := Scanner.exists_standsIn
    (Lexicon.isGraphic_operatorTable raw options) foldDirectives source placed hplaced
  refine ⟨before, behind, hstands.split, hstands.start, ?_⟩
  have hdescribes := hstands.reads.describes hstands.encoding hstands.parted
  rwa [List.take_left, List.drop_left] at hdescribes

/-- The plus sign and the dot as operators. -/
def plusAndDot : List RawItem :=
  [{ id := "op-plus", token := "+", category := .operator, description := "Adds." },
   { id := "op-dot", token := ".", category := .operator,
     description := "Accesses a member." }]

/-- A number takes the dot and the sign that belong to it, and no more. -/
theorem tokens_maximal_number :
    let catalogue := (normalize plusAndDot).catalogue
    let table := (Lexicon.ofCatalogue catalogue).operatorTable
    let number : PlacedToken := ⟨.number, 2, bytes ".5e+3"⟩
    number ∈ (Scanner.ofText table true "x .5e+3++").placed ∧
    ∃ before behind, bytes "x .5e+3++" = before ++ number.bytes ++ behind ∧
      number.start = before.length ∧
      number.tag.Describes catalogue before number.bytes behind := by
  intro catalogue table number
  have hmem : number ∈ (Scanner.ofText table true "x .5e+3++").placed := by
    decide +kernel
  exact ⟨hmem, tokens_maximal plusAndDot {} "x .5e+3++" true hmem⟩

end Normalized

end CLexicon
