import CLexicon.Scan.LexemeLength

/-!
# The ways to read a token

`lexeme` tries one kind of token after the other.  `Reads` lists what it can
come to, with one case for each shape of token and what is known of the input
there, and `reads_lexeme` says that there is no other.  A fact about all tokens
is then proved case by case, and no later proof goes through the tests of
`lexeme` again.

Two cases are told apart that share a branch of `lexeme`: what is left of a
directive is either text of it or an open literal
(`bodyLength_eq_zero`), and a word may be the encoding mark of a literal
(`wordOrLiteral_cases`).
-/

namespace CLexicon

/-- No blank, line end, comment, word, number or literal starts with this byte
and these bytes behind it, and no character of several bytes does. -/
structure StartsOperator (b : UInt8) (rest : List UInt8) : Prop where
  ascii : b < 0x80
  not_blank : blankLength (b :: rest) = 0
  not_return : b ≠ Byte.carriageReturn
  not_feed : b ≠ Byte.lineFeed
  not_comment : b = Byte.slash →
    rest.head? ≠ some Byte.slash ∧ rest.head? ≠ some Byte.star
  not_word : ¬Byte.isWordStart b
  not_number : ¬(Byte.isDigit b ∨ b = Byte.dot ∧ rest.head?.any Byte.isDigit)
  not_quote : ¬Byte.isQuote b

/-- How a token is read at the front of the input, inside a directive or
outside of one. -/
inductive Reads (table : OperatorTable) :
    Bool → List UInt8 → Token → Prop where
  | blank {inDirective input} (hpos : 0 < blankLength input) :
      Reads table inDirective input ⟨.blank, blankLength input⟩
  | returnFeed {inDirective rest} :
      Reads table inDirective (Byte.carriageReturn :: Byte.lineFeed :: rest)
        ⟨.newline, 2⟩
  | lineFeed {inDirective rest} :
      Reads table inDirective (Byte.lineFeed :: rest) ⟨.newline, 1⟩
  | lineComment {inDirective rest} :
      Reads table inDirective (Byte.slash :: Byte.slash :: rest)
        ⟨.lineComment, lineLength (Byte.slash :: Byte.slash :: rest)⟩
  | closedComment {inDirective rest length} (hend : commentEnd? rest = some length) :
      Reads table inDirective (Byte.slash :: Byte.star :: rest)
        ⟨.blockComment, length + 2⟩
  | openComment {inDirective rest} (hend : commentEnd? rest = none) :
      Reads table inDirective (Byte.slash :: Byte.star :: rest)
        ⟨.openComment, rest.length + 2⟩
  | body {input} (hblank : blankLength input = 0) (hpos : 0 < bodyLength input) :
      Reads table true input ⟨.directiveBody, bodyLength input⟩
  | bodyLiteral {quote rest} (hquote : Byte.isQuote quote)
      (hopen : (literalBody quote rest).closed = false) :
      Reads table true (quote :: rest) (literal (quote :: rest))
  | word {b rest} (hstart : Byte.isWordStart b)
      (hplain : ¬((b :: rest).take (wordLength (b :: rest)) ∈ encodingMarks ∧
        ((b :: rest).drop (wordLength (b :: rest))).head?.any Byte.isQuote)) :
      Reads table false (b :: rest) ⟨.word, wordLength (b :: rest)⟩
  | markedLiteral {mark quote rest} (hmark : mark ∈ encodingMarks)
      (hquote : Byte.isQuote quote) :
      Reads table false (mark ++ quote :: rest)
        ⟨(literal (quote :: rest)).tag,
          mark.length + (literal (quote :: rest)).length⟩
  | number {b rest}
      (hstart : Byte.isDigit b ∨ b = Byte.dot ∧ rest.head?.any Byte.isDigit) :
      Reads table false (b :: rest) ⟨.number, numberLength rest + 1⟩
  | literal {quote rest} (hquote : Byte.isQuote quote) :
      Reads table false (quote :: rest) (literal (quote :: rest))
  | high {b rest} (hhigh : 0x80 ≤ b) :
      Reads table false (b :: rest) ⟨.unknown, charLength (b :: rest)⟩
  | operator {b rest length} (hstart : StartsOperator b rest)
      (hlongest : table.longest? (b :: rest) = some length) :
      Reads table false (b :: rest) ⟨.operator, length⟩
  | unknown {b rest} (hstart : StartsOperator b rest)
      (hnone : table.longest? (b :: rest) = none) :
      Reads table false (b :: rest) ⟨.unknown, 1⟩

/-! ## Where one branch reads two shapes -/

theorem blankLength_eq_zero_iff {b : UInt8} {rest : List UInt8} :
    blankLength (b :: rest) = 0 ↔
      ¬Byte.isBlank b ∧
        (b = Byte.carriageReturn → rest.head? = some Byte.lineFeed) := by
  rw [blankLength]
  split
  · rename_i h
    refine iff_of_false (Nat.succ_ne_zero _) ?_
    intro hgiven
    obtain ⟨hblank, hfeed⟩ := hgiven
    rcases h with h | ⟨hreturn, h⟩
    · exact hblank h
    · exact h (hfeed hreturn)
  · rename_i h
    refine iff_of_true rfl ⟨fun hblank => h (Or.inl hblank), fun hreturn => ?_⟩
    by_cases hfeed : rest.head? = some Byte.lineFeed
    · exact hfeed
    · exact absurd (Or.inr ⟨hreturn, hfeed⟩) h

theorem stopsBody_iff {b : UInt8} {next : Option UInt8} :
    stopsBody b next ↔
      b = Byte.lineFeed ∨ (b = Byte.carriageReturn ∧ next = some Byte.lineFeed) ∨
        b = Byte.slash ∧ (next = some Byte.slash ∨ next = some Byte.star) := by
  simp only [stopsBody, Bool.or_eq_true, Bool.and_eq_true, decide_eq_true_eq, or_assoc]

/-- The only piece of a directive that is missing is a literal that is not
closed. -/
theorem openLiteral_of_pieceLength? {b : UInt8} {rest : List UInt8}
    (h : pieceLength? (b :: rest) = none) :
    Byte.isQuote b ∧ (literalBody b rest).closed = false := by
  rw [pieceLength?] at h
  split at h
  · cases h
  split at h
  · cases h
  split at h
  · rename_i hquote
    dsimp only at h
    split at h
    · cases h
    · rename_i hclosed
      exact ⟨hquote, by simpa using hclosed⟩
  · cases h

theorem pieceLength?_pos {input : List UInt8} {length : Nat}
    (h : pieceLength? input = some length) : 0 < length := by
  cases input with
  | nil => cases h
  | cons b rest =>
    rw [pieceLength?] at h
    split at h
    · cases h
      decide
    split at h
    · cases h
      decide
    split at h
    · dsimp only at h
      split at h
      · cases h
        exact Nat.succ_pos _
      · cases h
    · cases h
      exact charLength_pos (List.cons_ne_nil _ _)

/-- What lies behind a piece, as `bodyLength` goes on with it. -/
theorem drop_pieceLength? {b : UInt8} {rest : List UInt8} {length : Nat}
    (h : pieceLength? (b :: rest) = some length) :
    (b :: rest).drop length = rest.drop (length - 1) := by
  obtain ⟨before, rfl⟩ := Nat.exists_eq_add_one.mpr (pieceLength?_pos h)
  rfl

/-- There is no text of a directive only in front of a literal that is not
closed, if the directive goes on at all. -/
theorem bodyLength_eq_zero {b : UInt8} {rest : List UInt8}
    (hzero : bodyLength (b :: rest) = 0) (hstop : ¬stopsBody b rest.head?)
    (hblank : ¬(Byte.isBlank b ∨ b = Byte.carriageReturn)) :
    Byte.isQuote b ∧ (literalBody b rest).closed = false := by
  rw [bodyLength, if_neg hstop, if_neg hblank] at hzero
  cases hpiece : pieceLength? (b :: rest) with
  | none => exact openLiteral_of_pieceLength? hpiece
  | some length =>
    rw [hpiece] at hzero
    have hpos := pieceLength?_pos hpiece
    dsimp only at hzero
    omega

/-- A word is a token of its own, or the encoding mark of the literal behind
it. -/
theorem wordOrLiteral_cases (input : List UInt8) :
    (¬(input.take (wordLength input) ∈ encodingMarks ∧
        (input.drop (wordLength input)).head?.any Byte.isQuote) ∧
      wordOrLiteral input = ⟨.word, wordLength input⟩) ∨
    ∃ mark ∈ encodingMarks, ∃ quote rest, input = mark ++ quote :: rest ∧
      Byte.isQuote quote ∧
      wordOrLiteral input = ⟨(literal (quote :: rest)).tag,
        mark.length + (literal (quote :: rest)).length⟩ := by
  unfold wordOrLiteral
  dsimp only
  split
  · rename_i h
    right
    cases hrest : input.drop (wordLength input) with
    | nil =>
      rw [hrest] at h
      cases h.2
    | cons quote rest =>
      rw [hrest] at h
      refine ⟨_, h.1, quote, rest, ?_, h.2, ?_⟩
      · rw [← hrest, List.take_append_drop]
      · rw [List.length_take_of_le (wordLength_le input)]
  · rename_i h
    exact Or.inl ⟨h, rfl⟩

/-! ## All tokens -/

section All

variable {table : OperatorTable} {inDirective : Bool} {input : List UInt8}

private theorem reads_ite {p : Prop} [Decidable p] {first second : Token}
    (hfirst : p → Reads table inDirective input first)
    (hsecond : ¬p → Reads table inDirective input second) :
    Reads table inDirective input (if p then first else second) := by
  split
  · rename_i h
    exact hfirst h
  · rename_i h
    exact hsecond h

theorem reads_blockComment (rest : List UInt8) :
    Reads table inDirective (Byte.slash :: Byte.star :: rest)
      (blockComment (Byte.slash :: Byte.star :: rest)) := by
  unfold blockComment
  split
  · rename_i hend
    exact .closedComment hend
  · rename_i hend
    exact .openComment hend

theorem reads_directiveText {b : UInt8} {rest : List UInt8}
    (hblank : blankLength (b :: rest) = 0) (hstop : ¬stopsBody b rest.head?)
    (hreturn : b ≠ Byte.carriageReturn) :
    Reads table true (b :: rest) (directiveText (b :: rest)) := by
  unfold directiveText
  split
  · rename_i hzero
    have hnot := (blankLength_eq_zero_iff.mp hblank).1
    obtain ⟨hquote, hopen⟩ := bodyLength_eq_zero hzero hstop (not_or.mpr ⟨hnot, hreturn⟩)
    exact .bodyLiteral hquote hopen
  · rename_i length hlength
    have hbody : bodyLength (b :: rest) = length + 1 := hlength
    rw [← hbody]
    exact .body hblank (by omega)

theorem reads_wordOrLiteral {b : UInt8} {rest : List UInt8} (hstart : Byte.isWordStart b) :
    Reads table false (b :: rest) (wordOrLiteral (b :: rest)) := by
  rcases wordOrLiteral_cases (b :: rest) with
    ⟨hplain, hword⟩ | ⟨mark, hmark, quote, tail, hsplit, hquote, hword⟩
  · rw [hword]
    exact .word hstart hplain
  · rw [hword, hsplit]
    exact .markedLiteral hmark hquote

theorem reads_operatorLexeme {b : UInt8} {rest : List UInt8}
    (hstart : StartsOperator b rest) :
    Reads table false (b :: rest) (operatorLexeme table (b :: rest)) := by
  unfold operatorLexeme
  split
  · rename_i hlongest
    exact .operator hstart hlongest
  · rename_i hnone
    exact .unknown hstart hnone

variable (table inDirective) in
/-- Where bytes are left, the token at their front is read in one of the ways
listed. -/
theorem reads_lexeme (h : input ≠ []) :
    Reads table inDirective input (lexeme table inDirective input) := by
  cases input with
  | nil => exact absurd rfl h
  | cons b rest =>
    refine reads_ite (fun hpos => .blank hpos) fun hpos => ?_
    have hblank : blankLength (b :: rest) = 0 := by omega
    have hfeed := (blankLength_eq_zero_iff.mp hblank).2
    refine reads_ite (fun hreturn => ?_) fun hreturn => ?_
    · subst hreturn
      obtain ⟨tail, rfl⟩ := List.head?_eq_some_iff.mp (hfeed rfl)
      exact .returnFeed
    refine reads_ite (fun hline => ?_) fun hline => ?_
    · subst hline
      exact .lineFeed
    refine reads_ite (fun hcomment => ?_) fun hslash => ?_
    · obtain ⟨rfl, hnext⟩ := hcomment
      obtain ⟨tail, rfl⟩ := List.head?_eq_some_iff.mp hnext
      exact .lineComment
    refine reads_ite (fun hcomment => ?_) fun hstar => ?_
    · obtain ⟨rfl, hnext⟩ := hcomment
      obtain ⟨tail, rfl⟩ := List.head?_eq_some_iff.mp hnext
      exact reads_blockComment tail
    have hcomment : b = Byte.slash →
        rest.head? ≠ some Byte.slash ∧ rest.head? ≠ some Byte.star :=
      fun hb => ⟨fun hnext => hslash ⟨hb, hnext⟩, fun hnext => hstar ⟨hb, hnext⟩⟩
    refine reads_ite (fun hin => ?_) fun hout => ?_
    · have hstop : ¬stopsBody b rest.head? := by
        rw [stopsBody_iff]
        intro hgiven
        rcases hgiven with hb | ⟨hb, -⟩ | ⟨hb, hnext⟩
        · exact hline hb
        · exact hreturn hb
        · exact hnext.elim (hcomment hb).1 (hcomment hb).2
      subst hin
      exact reads_directiveText hblank hstop hreturn
    obtain rfl : inDirective = false := by simpa using hout
    refine reads_ite (fun hstart => reads_wordOrLiteral hstart) fun hword => ?_
    refine reads_ite (fun hstart => .number hstart) fun hnumber => ?_
    refine reads_ite (fun hquote => .literal hquote) fun hquote => ?_
    refine reads_ite (fun hhigh => .high hhigh) fun hhigh => ?_
    exact reads_operatorLexeme ⟨UInt8.not_le.mp hhigh, hblank, hreturn, hline, hcomment,
      hword, hnumber, hquote⟩

theorem Reads.of_lexeme_eq {token : Token} (hinput : input ≠ [])
    (htoken : lexeme table inDirective input = token) :
    Reads table inDirective input token :=
  htoken ▸ reads_lexeme table inDirective hinput

end All

end CLexicon
