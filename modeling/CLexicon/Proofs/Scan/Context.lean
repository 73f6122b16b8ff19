import CLexicon.Proofs.Scan.Shapes
import CLexicon.Proofs.Scan.Tokens

/-!
# Tokens in their text

A token is read from the bytes that are left, and what it is depends on them
alone.  Only blank space needs a look back: that a run of blanks is not cut into
two tokens is known from the token before it.

* `Reads.not_endsBlank`: a token with blank space behind it does not end with
  blank space itself.
* `PlacedToken.StandsIn`: a token in its place, with the bytes before it and
  behind it, and the way in which it was read.
* `Scans.exists_standsIn`: every token of a run stands in the text like this.
-/

namespace CLexicon

open Text

/-! ## Bytes that end with blank space -/

/-- The last byte is a blank one or a carriage return. -/
def EndsBlank (text : List UInt8) : Prop :=
  ∃ b, text.getLast? = some b ∧ (Byte.isBlank b ∨ b = Byte.carriageReturn)

section EndsBlank

variable {text : List UInt8}

theorem not_endsBlank_nil : ¬EndsBlank [] := by
  simp [EndsBlank]

theorem endsBlank_append {front : List UInt8} (h : text ≠ []) :
    EndsBlank (front ++ text) ↔ EndsBlank text := by
  obtain ⟨last, hlast⟩ := Option.isSome_iff_exists.mp (List.getLast?_isSome.mpr h)
  rw [EndsBlank, EndsBlank, List.getLast?_append, hlast, Option.some_or]

theorem not_endsBlank_append {front : List UInt8} (hfront : ¬EndsBlank front)
    (htext : ¬EndsBlank text) : ¬EndsBlank (front ++ text) := by
  by_cases h : text = []
  · rwa [h, List.append_nil]
  · rwa [endsBlank_append h]

theorem not_endsBlank_of_getLast? {b : UInt8} (h : text.getLast? = some b)
    (hb : ¬(Byte.isBlank b ∨ b = Byte.carriageReturn)) : ¬EndsBlank text := by
  intro hends
  obtain ⟨last, hlast, hblank⟩ := hends
  obtain rfl := Option.some.inj (h.symm.trans hlast)
  exact hb hblank

theorem not_endsBlank_of_forall
    (h : ∀ b ∈ text, ¬(Byte.isBlank b ∨ b = Byte.carriageReturn)) : ¬EndsBlank text := by
  intro hends
  obtain ⟨b, hlast, hb⟩ := hends
  exact h b (List.mem_of_getLast? hlast) hb

/-- Blank space right before a place is what the bytes there end with. -/
theorem endsBlank_of_blankAt {before rest : List UInt8} {place : Nat}
    (hplace : place + 1 = before.length) (h : BlankAt (before ++ rest) place) :
    EndsBlank before := by
  obtain ⟨b, hb, hblank⟩ := h
  rw [List.getElem?_append_left (by omega)] at hb
  refine ⟨b, ?_, hblank.imp_right And.left⟩
  rwa [List.getLast?_eq_getElem?, ← hplace, Nat.add_sub_cancel]

end EndsBlank

/-! ## Bytes that are no blank space -/

theorem Byte.not_isBlank_of_high {b : UInt8} (h : 0x80 ≤ b) :
    ¬(Byte.isBlank b ∨ b = Byte.carriageReturn) := by
  intro hblank
  have hascii : b < 0x80 := hblank.elim Byte.ascii_of_isBlank fun hb => hb ▸ (by decide)
  exact absurd hascii (UInt8.not_lt.mpr h)

theorem Byte.not_isBlank_of_graphic {b : UInt8} (h : 0x21 ≤ b) :
    ¬(Byte.isBlank b ∨ b = Byte.carriageReturn) := by
  intro hblank
  simp only [Byte.isBlank, Bool.or_eq_true, decide_eq_true_eq] at hblank
  rcases hblank with (((rfl | rfl) | rfl) | rfl) | rfl <;> exact absurd h (by decide)

/-! ## What ends a token that blank space follows -/

theorem getLast?_take_add {front length : Nat} {input : List UInt8} {b : UInt8}
    (h : ((input.drop front).take length).getLast? = some b) :
    (input.take (front + length)).getLast? = some b := by
  rw [List.take_add, List.getLast?_append, h, Option.some_or]

theorem not_blankAt_of_drop_eq_nil {input : List UInt8} {place : Nat}
    (h : input.drop place = []) : ¬BlankAt input place := by
  rw [← Nat.add_zero place, ← blankAt_drop, h]
  simp [BlankAt]

theorem not_blankAt_of_drop_eq_cons {input rest : List UInt8} {place : Nat} {b : UInt8}
    (h : input.drop place = b :: rest)
    (hb : ¬(Byte.isBlank b ∨ b = Byte.carriageReturn ∧ rest.head? ≠ some Byte.lineFeed)) :
    ¬BlankAt input place := by
  rw [← Nat.add_zero place, ← blankAt_drop, h, blankAt_zero_iff]
  exact hb

/-- The line ends at the front of these bytes, or the text does. -/
inductive AtLineEnd : List UInt8 → Prop where
  | endOfText : AtLineEnd []
  | lineFeed (rest : List UInt8) : AtLineEnd (Byte.lineFeed :: rest)
  | returnFeed (rest : List UInt8) :
      AtLineEnd (Byte.carriageReturn :: Byte.lineFeed :: rest)

/-- What ends a line is no blank space. -/
theorem AtLineEnd.not_blankAt {input : List UInt8} {place : Nat}
    (h : AtLineEnd (input.drop place)) : ¬BlankAt input place := by
  generalize hdrop : input.drop place = rest at h
  cases h with
  | endOfText => exact not_blankAt_of_drop_eq_nil hdrop
  | lineFeed =>
    exact not_blankAt_of_drop_eq_cons hdrop
      (not_or.mpr ⟨by decide, fun h => absurd h.1 (by decide)⟩)
  | returnFeed =>
    exact not_blankAt_of_drop_eq_cons hdrop (not_or.mpr ⟨by decide, fun h => h.2 rfl⟩)

/-- A line ends before a line feed or at the end. -/
theorem drop_lineLength (input : List UInt8) :
    input.drop (lineLength input) = [] ∨
      ∃ rest, input.drop (lineLength input) = Byte.lineFeed :: rest := by
  cases hdrop : input.drop (lineLength input) with
  | nil => exact Or.inl rfl
  | cons b rest =>
    have hb : b = Byte.lineFeed := by simpa using not_of_drop_takeWhile hdrop
    exact Or.inr ⟨rest, by rw [hb]⟩

theorem atLineEnd_lineLength (input : List UInt8) :
    AtLineEnd (input.drop (lineLength input)) := by
  rcases drop_lineLength input with hnil | ⟨rest, hfeed⟩
  · exact hnil ▸ .endOfText
  · exact hfeed ▸ .lineFeed rest

/-- A comment ends with its slash. -/
theorem StarSlashAt.getLast? {input : List UInt8} {place : Nat} (h : StarSlashAt input place) :
    (input.take (place + 2)).getLast? = some Byte.slash := by
  apply getLast?_take_add
  rw [show (input.drop place).take 2 = _ from (List.prefix_iff_eq_take.mp h).symm]
  rfl

/-- A literal ends with its closing quote, or where the line ends. -/
theorem literalBody_ends (quote : UInt8) (input : List UInt8) :
    let body := literalBody quote input
    (body.closed = true ∧ (input.take body.length).getLast? = some quote) ∨
      (body.closed = false ∧ AtLineEnd (input.drop body.length)) := by
  fun_induction literalBody quote input with
  | case1 input plain stop => exact Or.inr ⟨rfl, stop ▸ .endOfText⟩
  | case2 input plain rest taken stop ih =>
    have hdrop : input.drop (plain + 1 + taken) = rest.drop taken := by
      rw [Nat.add_assoc, ← List.drop_drop, stop, Nat.add_comm, List.drop_succ_cons]
    unfold LiteralBody.extend
    dsimp only
    rw [Nat.add_comm, ← List.drop_drop, hdrop]
    refine ih.imp_left fun h => ⟨h.1, getLast?_take_add ?_⟩
    rw [hdrop]
    exact h.2
  | case3 input plain rest stop => exact Or.inr ⟨rfl, stop ▸ .lineFeed rest⟩
  | case4 input plain rest hfeed stop =>
    obtain ⟨tail, rfl⟩ := List.head?_eq_some_iff.mp hfeed
    exact Or.inr ⟨rfl, stop ▸ .returnFeed tail⟩
  | case5 input plain rest hfeed stop _ _ ih =>
    have hdrop : input.drop (plain + 1) = rest := by
      rw [← List.drop_drop, stop, List.drop_succ_cons, List.drop_zero]
    unfold LiteralBody.extend
    dsimp only
    rw [Nat.add_comm, ← List.drop_drop, hdrop]
    refine ih.imp_left fun h => ⟨h.1, getLast?_take_add ?_⟩
    rw [hdrop]
    exact h.2
  | case6 input plain b rest stop hbackslash hfeed hreturn =>
    have hstops := stopsLiteral_of_drop_plainLength stop
    refine Or.inl ⟨rfl, getLast?_take_add ?_⟩
    rw [stop, eq_quote_of_stopsLiteral hstops hbackslash hfeed hreturn]
    rfl

/-- A literal does not end with blank space where blank space follows. -/
theorem not_endsBlank_literal {quote : UInt8} {rest : List UInt8}
    (hquote : Byte.isQuote quote)
    (hblank : BlankAt (quote :: rest) (literal (quote :: rest)).length) :
    ¬EndsBlank ((quote :: rest).take (literal (quote :: rest)).length) := by
  rcases literalBody_ends quote rest with ⟨-, hlast⟩ | ⟨-, hend⟩
  · have hwhole : ((quote :: rest).take (1 + (literalBody quote rest).length)).getLast? =
        some quote := getLast?_take_add hlast
    rw [Nat.add_comm] at hwhole
    exact not_endsBlank_of_getLast? hwhole
      (Byte.not_isBlank_of_graphic (Byte.graphic_of_isQuote hquote).1)
  · exact absurd hblank hend.not_blankAt

/-- A character that is not ASCII ends with a byte that is not ASCII. -/
theorem not_endsBlank_char {b : UInt8} {rest : List UInt8} (hinput : IsEncoding (b :: rest))
    (hb : ¬(Byte.isBlank b ∨ b = Byte.carriageReturn)) :
    ¬EndsBlank ((b :: rest).take (charLength (b :: rest))) := by
  obtain ⟨c, tail, hsplit, -⟩ := hinput.cons_cases
  rw [take_charLength hsplit]
  apply not_endsBlank_of_forall
  intro x hx
  rcases utf8EncodeChar_cases c with ⟨first, hc, -⟩ | ⟨first, more, hc, -, hhigh⟩
  · rw [hc] at hsplit hx
    rw [List.mem_singleton.mp hx, ← (List.cons.inj hsplit).1]
    exact hb
  · rw [hc] at hx
    exact Byte.not_isBlank_of_high (hhigh x hx)

/-- A piece of a directive is one character, or ends with an ASCII byte that is
no blank space. -/
theorem pieceLength?_cases {b : UInt8} {rest : List UInt8} {length : Nat}
    (h : pieceLength? (b :: rest) = some length) :
    length = charLength (b :: rest) ∨
      ∃ last, ((b :: rest).take length).getLast? = some last ∧ last < 0x80 ∧
        ¬(Byte.isBlank last ∨ last = Byte.carriageReturn) := by
  rw [pieceLength?] at h
  split at h
  · rename_i hfeed
    obtain ⟨tail, rfl⟩ := List.head?_eq_some_iff.mp hfeed.2
    obtain rfl := Option.some.inj h
    exact Or.inr ⟨Byte.lineFeed, rfl, by decide, by decide⟩
  split at h
  · rename_i hreturn
    obtain rfl := Option.some.inj h
    refine Or.inr ⟨Byte.lineFeed, ?_, by decide, by decide⟩
    rw [List.take_succ_cons, hreturn.2]
    rfl
  split at h
  · rename_i hquote
    dsimp only at h
    split at h
    · rename_i hclosed
      obtain rfl := Option.some.inj h
      rcases literalBody_ends b rest with ⟨-, hlast⟩ | ⟨hopen, -⟩
      · refine Or.inr ⟨b, ?_, Byte.ascii_of_isQuote hquote,
          Byte.not_isBlank_of_graphic (Byte.graphic_of_isQuote hquote).1⟩
        rw [Nat.add_comm]
        exact getLast?_take_add hlast
      · rw [hopen] at hclosed
        cases hclosed
    · cases h
  · exact Or.inl (Option.some.inj h).symm

/-- A piece of a directive that does not start with blank space does not end
with it, and ends between two characters. -/
theorem not_endsBlank_pieceLength? {b : UInt8} {rest : List UInt8} {length : Nat}
    (hinput : IsEncoding (b :: rest)) (hb : ¬(Byte.isBlank b ∨ b = Byte.carriageReturn))
    (h : pieceLength? (b :: rest) = some length) :
    ¬EndsBlank ((b :: rest).take length) ∧ CutsAt (b :: rest) length := by
  have hpos := pieceLength?_pos h
  rcases pieceLength?_cases h with rfl | ⟨last, hlast, hascii, hnot⟩
  · exact ⟨not_endsBlank_char hinput hb, cutsAt_charLength hinput⟩
  · refine ⟨not_endsBlank_of_getLast? hlast hnot, cutsAt_of_besideAscii hinput ?_⟩
    refine Or.inr (Or.inr ⟨length - 1, last, by omega, ?_, hascii⟩)
    rwa [List.getLast?_eq_getElem?, List.length_take_of_le (pieceLength?_le h),
      List.getElem?_take_of_lt (by omega)] at hlast

/-- The text of a directive does not end with blank space. -/
theorem not_endsBlank_bodyLength {input : List UInt8} (hinput : IsEncoding input) :
    ¬EndsBlank (input.take (bodyLength input)) := by
  fun_induction bodyLength input with
  | case1 => exact not_endsBlank_nil
  | case2 => exact not_endsBlank_nil
  | case3 => exact not_endsBlank_nil
  | case4 b rest _ hblank length hlength ih =>
    have hascii : b < 0x80 :=
      hblank.elim Byte.ascii_of_isBlank fun hreturn => hreturn ▸ (by decide)
    have hrest : IsEncoding rest := hinput.tail_of_ascii hascii
    have hnonempty : rest.take (length + 1) ≠ [] := by
      have hle := bodyLength_le rest
      rw [← List.length_pos_iff, List.length_take]
      omega
    rw [hlength] at ih
    rw [List.take_succ_cons, ← List.singleton_append, endsBlank_append hnonempty]
    exact ih hrest
  | case5 => exact not_endsBlank_nil
  | case6 b rest _ hblank length hpiece ih =>
    obtain ⟨hfront, hcut⟩ := not_endsBlank_pieceLength? hinput hblank hpiece
    rw [List.take_add, drop_pieceLength? hpiece]
    refine not_endsBlank_append hfront (ih ?_)
    rw [← drop_pieceLength? hpiece]
    exact hcut.back

/-! ## All tokens -/

/-- All that is read as an operator is ASCII and prints. -/
def OperatorTable.IsGraphic (table : OperatorTable) : Prop :=
  ∀ input length, table.longest? input = some length →
    ∀ b ∈ input.take length, 0x21 ≤ b ∧ b ≤ 0x7E

theorem OperatorTable.IsGraphic.isAscii {table : OperatorTable} (h : table.IsGraphic) :
    table.IsAscii :=
  fun input length hlongest b hb => Byte.ascii_of_graphic (h input length hlongest b hb)

section Reads

variable {table : OperatorTable} {inDirective : Bool} {input : List UInt8} {token : Token}

/-- A token does not end with blank space where blank space follows it. -/
theorem Reads.not_endsBlank (hgraphic : table.IsGraphic) (hinput : IsEncoding input)
    (h : Reads table inDirective input token) (hblank : BlankAt input token.length) :
    ¬EndsBlank (input.take token.length) := by
  cases h with
  | blank => exact absurd hblank (not_blankAt_blankLength input)
  | returnFeed => exact not_endsBlank_of_getLast? (b := Byte.lineFeed) rfl (by decide)
  | lineFeed => exact not_endsBlank_of_getLast? (b := Byte.lineFeed) rfl (by decide)
  | lineComment => exact absurd hblank (atLineEnd_lineLength _).not_blankAt
  | @closedComment _ rest _ hend =>
    obtain ⟨place, rfl, hplace, -⟩ := commentEnd?_eq_some_iff.mp hend
    have hwhole : StarSlashAt (Byte.slash :: Byte.star :: rest) (place + 2) := hplace
    exact not_endsBlank_of_getLast? hwhole.getLast? (by decide)
  | openComment =>
    exact absurd hblank (not_blankAt_of_drop_eq_nil (List.drop_eq_nil_of_le (Nat.le_refl _)))
  | body => exact not_endsBlank_bodyLength hinput
  | bodyLiteral hquote => exact not_endsBlank_literal hquote hblank
  | word =>
    apply not_endsBlank_of_forall
    intro b hb
    exact Byte.not_isBlank_of_graphic
      (Byte.graphic_of_isWord (forall_mem_take_wordLength _ b hb)).1
  | @markedLiteral mark quote rest _ hquote =>
    dsimp only at hblank ⊢
    rw [blankAt_append] at hblank
    have hnonempty : (quote :: rest).take (CLexicon.literal (quote :: rest)).length ≠ [] :=
      List.cons_ne_nil _ _
    rw [List.take_length_add_append, endsBlank_append hnonempty]
    exact not_endsBlank_literal hquote hblank
  | @number first rest hstart =>
    apply not_endsBlank_of_forall
    rw [List.take_succ_cons, List.forall_mem_cons]
    constructor
    · apply Byte.not_isBlank_of_graphic
      exact hstart.elim (fun hdigit => (Byte.graphic_of_isDigit hdigit).1)
        fun hdot => hdot.1 ▸ (by decide)
    · intro b hb
      apply Byte.not_isBlank_of_graphic
      exact ((forall_mem_take_numberLength _ b hb).elim Byte.graphic_of_isNumber
        Byte.graphic_of_isSign).1
  | literal hquote => exact not_endsBlank_literal hquote hblank
  | high hhigh => exact not_endsBlank_char hinput (Byte.not_isBlank_of_high hhigh)
  | operator _ hlongest =>
    apply not_endsBlank_of_forall
    intro b hb
    exact Byte.not_isBlank_of_graphic (hgraphic _ _ hlongest b hb).1
  | unknown hstart =>
    refine not_endsBlank_of_getLast? rfl ?_
    exact not_or.mpr ⟨(blankLength_eq_zero_iff.mp hstart.not_blank).1, hstart.not_return⟩

end Reads

/-- A token stands in a text between the bytes before it and those behind it.
It is read off the bytes from its start on, and these encode a text.  Blank
space that it may start with is not begun before it. -/
structure PlacedToken.StandsIn (table : OperatorTable) (source before behind : List UInt8)
    (inDirective : Bool) (placed : PlacedToken) : Prop where
  split : source = before ++ placed.bytes ++ behind
  start : placed.start = before.length
  reads : Reads table inDirective (placed.bytes ++ behind) ⟨placed.tag, placed.bytes.length⟩
  encoding : IsEncoding (placed.bytes ++ behind)
  parted : BlankAt (placed.bytes ++ behind) 0 → ¬EndsBlank before

/-- The bytes of a token encode a text. -/
theorem PlacedToken.StandsIn.isEncoding {table : OperatorTable}
    {source before behind : List UInt8} {inDirective : Bool} {placed : PlacedToken}
    (hgraphic : table.IsGraphic)
    (h : placed.StandsIn table source before behind inDirective) : IsEncoding placed.bytes := by
  have hcut := h.reads.cutsAt hgraphic.isAscii h.encoding
  have hfront := hcut.front
  rwa [List.take_left] at hfront

/-- Each token of a run stands in the text that was read before and by the
run. -/
theorem Scans.exists_standsIn {table : OperatorTable} {foldDirectives : Bool}
    {line : LineState} {input prior : List UInt8} {tokens : List Token}
    (hgraphic : table.IsGraphic) (h : Scans table foldDirectives line input tokens)
    (hinput : IsEncoding input) (hprior : BlankAt input 0 → ¬EndsBlank prior) :
    ∀ placed ∈ placeTokens prior.length input tokens, ∃ before behind inDirective,
      placed.StandsIn table (prior ++ input) before behind inDirective := by
  induction h generalizing prior with
  | done => simp [placeTokens]
  | @token line input token tokens hne htoken _ ih =>
    have hreads := Reads.of_lexeme_eq hne htoken
    have hcut := hreads.cutsAt hgraphic.isAscii hinput
    have hlength : (input.take token.length).length = token.length :=
      List.length_take_of_le hcut.le_length
    have hpos : 0 < token.length := htoken ▸ lexeme_pos table line.inDirective hne
    have hnonempty : input.take token.length ≠ [] := by
      rw [← List.length_pos_iff, hlength]
      exact hpos
    rw [placeTokens, List.forall_mem_cons]
    constructor
    · refine ⟨prior, input.drop token.length, line.inDirective, ?_, rfl, ?_, ?_, ?_⟩
      · rw [List.append_assoc, List.take_append_drop]
      · rw [List.take_append_drop, hlength]
        exact hreads
      · rwa [List.take_append_drop]
      · rwa [List.take_append_drop]
    · -- what was read before the next token ends as this token does
      have hnext : BlankAt (input.drop token.length) 0 →
          ¬EndsBlank (prior ++ input.take token.length) := by
        rw [blankAt_drop, endsBlank_append hnonempty]
        exact hreads.not_endsBlank hgraphic hinput
      have htail := ih hcut.back hnext
      rwa [List.append_assoc, List.take_append_drop, List.length_append, hlength] at htail

/-- Each token of a text stands in it. -/
theorem Scanner.exists_standsIn {table : OperatorTable} (hgraphic : table.IsGraphic)
    (foldDirectives : Bool) (source : String) :
    ∀ placed ∈ (Scanner.ofText table foldDirectives source).placed,
      ∃ before behind inDirective,
        placed.StandsIn table (bytes source) before behind inDirective :=
  (Scanner.scans_ofText table foldDirectives source).exists_standsIn hgraphic
    (isEncoding_bytes source) fun _ => not_endsBlank_nil

end CLexicon
