import CLexicon.Proofs.Scan.Reads
import CLexicon.Proofs.Text.Boundary

/-!
# Tokens end between characters

A token that is read at the front of an encoded text ends between two
characters of it, so the bytes of the token encode a text, and so do the bytes
behind it.

Nearly every token ends beside an ASCII byte: its own bytes are ASCII, or the
search for its end stops at an ASCII byte or at the end of the text.  This is
proved for each piece that tokens are made of (`besideAscii_takeWhile`,
`besideAscii_literal`, `besideAscii_bodyLength`), and `Reads.cutsAt` puts the
pieces together.  Only a character that starts no token needs its width.
-/

namespace CLexicon

open Text

/-! ## Classes of ASCII bytes -/

theorem Byte.ascii_of_isBlank {b : UInt8} (h : Byte.isBlank b) : b < 0x80 := by
  simp only [Byte.isBlank, Bool.or_eq_true, decide_eq_true_eq] at h
  rcases h with ((rfl | rfl) | rfl) | rfl <;> decide

theorem Byte.graphic_of_isQuote {b : UInt8} (h : Byte.isQuote b) : 0x21 ≤ b ∧ b ≤ 0x7E := by
  simp only [Byte.isQuote, Bool.or_eq_true, decide_eq_true_eq] at h
  rcases h with rfl | rfl <;> decide

theorem Byte.graphic_of_isDigit {b : UInt8} (h : Byte.isDigit b) : 0x21 ≤ b ∧ b ≤ 0x7E := by
  simp only [Byte.isDigit, Bool.and_eq_true, decide_eq_true_eq] at h
  exact ⟨UInt8.le_trans (by decide) h.1, UInt8.le_trans h.2 (by decide)⟩

theorem Byte.graphic_of_isWord {b : UInt8} (h : Byte.isWord b) : 0x21 ≤ b ∧ b ≤ 0x7E := by
  simp only [Byte.isWord, Byte.isWordStart, Byte.isLetter, Bool.or_eq_true,
    Bool.and_eq_true, decide_eq_true_eq] at h
  rcases h with ((⟨hlow, hhigh⟩ | ⟨hlow, hhigh⟩) | rfl) | h
  · exact ⟨UInt8.le_trans (by decide) hlow, UInt8.le_trans hhigh (by decide)⟩
  · exact ⟨UInt8.le_trans (by decide) hlow, UInt8.le_trans hhigh (by decide)⟩
  · decide
  · exact Byte.graphic_of_isDigit h

theorem Byte.graphic_of_isNumber {b : UInt8} (h : Byte.isNumber b) : 0x21 ≤ b ∧ b ≤ 0x7E := by
  simp only [Byte.isNumber, Bool.or_eq_true, decide_eq_true_eq] at h
  rcases h with h | rfl
  · exact Byte.graphic_of_isWord h
  · decide

theorem Byte.graphic_of_isSign {b : UInt8} (h : Byte.isSign b) : 0x21 ≤ b ∧ b ≤ 0x7E := by
  simp only [Byte.isSign, Bool.or_eq_true, decide_eq_true_eq] at h
  rcases h with rfl | rfl <;> decide

theorem Byte.ascii_of_graphic {b : UInt8} (h : 0x21 ≤ b ∧ b ≤ 0x7E) : b < 0x80 :=
  UInt8.lt_of_le_of_lt h.2 (by decide)

theorem Byte.ascii_of_isQuote {b : UInt8} (h : Byte.isQuote b) : b < 0x80 :=
  Byte.ascii_of_graphic (Byte.graphic_of_isQuote h)

theorem Byte.ascii_of_isDigit {b : UInt8} (h : Byte.isDigit b) : b < 0x80 :=
  Byte.ascii_of_graphic (Byte.graphic_of_isDigit h)

theorem Byte.ascii_of_isWord {b : UInt8} (h : Byte.isWord b) : b < 0x80 :=
  Byte.ascii_of_graphic (Byte.graphic_of_isWord h)

theorem Byte.ascii_of_isNumber {b : UInt8} (h : Byte.isNumber b) : b < 0x80 :=
  Byte.ascii_of_graphic (Byte.graphic_of_isNumber h)

theorem Byte.ascii_of_isSign {b : UInt8} (h : Byte.isSign b) : b < 0x80 :=
  Byte.ascii_of_graphic (Byte.graphic_of_isSign h)

theorem Byte.isNumber_of_isExponent {b : UInt8} (h : Byte.isExponent b) :
    Byte.isNumber b := by
  simp only [Byte.isExponent, Bool.or_eq_true, decide_eq_true_eq] at h
  rcases h with ((rfl | rfl) | rfl) | rfl <;> decide

/-! ## Pieces of ASCII bytes -/

/-- The blanks at the front are ASCII. -/
theorem forall_mem_take_blankLength (input : List UInt8) :
    ∀ b ∈ input.take (blankLength input), Byte.isBlank b ∨ b = Byte.carriageReturn := by
  induction input with
  | nil => simp [blankLength]
  | cons b rest ih =>
    rw [blankLength]
    split
    · rename_i h
      rw [List.take_succ_cons, List.forall_mem_cons]
      exact ⟨h.imp_right And.left, ih⟩
    · simp

/-- The word at the front is made of word bytes. -/
theorem forall_mem_take_wordLength (input : List UInt8) :
    ∀ b ∈ input.take (wordLength input), Byte.isWord b := by
  rw [wordLength, ← List.prefix_iff_eq_take.mp (List.takeWhile_prefix _)]
  exact List.all_eq_true.mp List.all_takeWhile

/-- A number goes on with the bytes of numbers and with signs. -/
theorem forall_mem_take_numberLength (input : List UInt8) :
    ∀ b ∈ input.take (numberLength input), Byte.isNumber b ∨ Byte.isSign b := by
  fun_induction numberLength input with
  | case1 => simp
  | case2 b hnumber => simp [hnumber]
  | case3 b hnumber => simp
  | case4 b sign rest hsign ih =>
    rw [List.take_succ_cons, List.take_succ_cons]
    simp only [List.forall_mem_cons]
    exact ⟨Or.inl (Byte.isNumber_of_isExponent hsign.1), Or.inr hsign.2, ih⟩
  | case5 b sign rest _ hnumber ih =>
    rw [List.take_succ_cons, List.forall_mem_cons]
    exact ⟨Or.inl hnumber, ih⟩
  | case6 b sign rest _ _ => simp

/-! ## Pieces that stop beside an ASCII byte -/

/-- The longest run of a class of bytes stops at the end or before an ASCII
byte, if all bytes outside of the class are ASCII. -/
theorem besideAscii_takeWhile {p : UInt8 → Bool} (hp : ∀ b, p b = false → b < 0x80)
    (input : List UInt8) : BesideAscii input (input.takeWhile p).length := by
  induction input with
  | nil => exact Or.inl rfl
  | cons b rest ih =>
    cases hb : p b with
    | true =>
      rw [List.takeWhile_cons_of_pos hb, List.length_cons, Nat.add_comm]
      exact ih.append [b]
    | false =>
      rw [List.takeWhile_cons_of_neg (by simp [hb])]
      exact Or.inr (Or.inl ⟨b, rfl, hp b hb⟩)

theorem besideAscii_lineLength (input : List UInt8) :
    BesideAscii input (lineLength input) := by
  apply besideAscii_takeWhile
  intro b hb
  obtain rfl : b = Byte.lineFeed := by simpa using hb
  decide

/-- A closed comment ends behind its slash. -/
theorem besideAscii_of_commentEnd? {input : List UInt8} {length : Nat}
    (h : commentEnd? input = some length) : BesideAscii input length := by
  induction input generalizing length with
  | nil => cases h
  | cons b rest ih =>
    rw [commentEnd?] at h
    split at h
    · rename_i hend
      cases h
      obtain ⟨tail, rfl⟩ := List.head?_eq_some_iff.mp hend.2
      exact Or.inr (Or.inr ⟨1, Byte.slash, rfl, rfl, by decide⟩)
    · obtain ⟨before, hbefore, rfl⟩ := Option.map_eq_some_iff.mp h
      rw [Nat.add_comm]
      exact (ih hbefore).append [b]

theorem besideAscii_plainLength {quote : UInt8} (hquote : quote < 0x80)
    (input : List UInt8) : BesideAscii input (plainLength quote input) := by
  apply besideAscii_takeWhile
  intro b hb
  simp only [Byte.stopsLiteral, Bool.not_eq_false', Bool.or_eq_true,
    decide_eq_true_eq] at hb
  rcases hb with ((rfl | rfl) | rfl) | rfl
  · exact hquote
  all_goals decide

/-- The longest run of a class of bytes stops before a byte that is not of the
class. -/
theorem not_of_drop_takeWhile {p : UInt8 → Bool} {b : UInt8} {input rest : List UInt8}
    (h : input.drop (input.takeWhile p).length = b :: rest) : p b = false := by
  induction input with
  | nil => cases h
  | cons first input ih =>
    cases hfirst : p first with
    | true =>
      rw [List.takeWhile_cons_of_pos hfirst, List.length_cons, List.drop_succ_cons] at h
      exact ih h
    | false =>
      rw [List.takeWhile_cons_of_neg (by simp [hfirst])] at h
      obtain ⟨rfl, -⟩ := List.cons.inj h
      exact hfirst

/-- The plain part of a literal ends before a byte that needs a closer look. -/
theorem stopsLiteral_of_drop_plainLength {quote b : UInt8} {input rest : List UInt8}
    (h : input.drop (plainLength quote input) = b :: rest) :
    Byte.stopsLiteral quote b := by
  simpa using not_of_drop_takeWhile h

/-- A byte that needs a closer look, but nothing else to be done, closes the
literal. -/
theorem eq_quote_of_stopsLiteral {quote b : UInt8} (h : Byte.stopsLiteral quote b)
    (hbackslash : b ≠ Byte.backslash) (hfeed : b ≠ Byte.lineFeed)
    (hreturn : b ≠ Byte.carriageReturn) : b = quote := by
  simp only [Byte.stopsLiteral, Bool.or_eq_true, decide_eq_true_eq] at h
  rcases h with ((hquote | hb) | hb) | hb
  · exact hquote
  · exact absurd hb hbackslash
  · exact absurd hb hfeed
  · exact absurd hb hreturn

/-- A literal ends behind its closing quote, or before the byte that ends the
line, or at the end of the text. -/
theorem besideAscii_literalBody {quote : UInt8} (hquote : quote < 0x80)
    (input : List UInt8) :
    BesideAscii input (literalBody quote input).length := by
  fun_induction literalBody quote input with
  | case1 input plain stop => exact besideAscii_plainLength hquote input
  | case2 input plain rest taken stop ih =>
    have hlength := plainLength_add_length stop
    have htaken := escapedLength_le rest
    have hdrop : input.drop (plain + 1 + taken) = rest.drop taken := by
      rw [Nat.add_assoc, ← List.drop_drop, stop, Nat.add_comm, List.drop_succ_cons]
    show BesideAscii input (_ + (plain + 1 + taken))
    rw [Nat.add_comm]
    apply BesideAscii.of_drop (by omega)
    rwa [hdrop]
  | case3 => exact besideAscii_plainLength hquote _
  | case4 => exact besideAscii_plainLength hquote _
  | case5 input plain rest hfeed stop _ _ ih =>
    have hlength := plainLength_add_length stop
    have hdrop : input.drop (plain + 1) = rest := by
      rw [← List.drop_drop, stop, List.drop_succ_cons, List.drop_zero]
    show BesideAscii input (_ + (plain + 1))
    rw [Nat.add_comm]
    apply BesideAscii.of_drop (by omega)
    rwa [hdrop]
  | case6 input plain b rest stop hbackslash hfeed hreturn =>
    have hb : input[plain]? = some b := by
      rw [← List.head?_drop, stop]
      rfl
    refine Or.inr (Or.inr ⟨plain, b, rfl, hb, ?_⟩)
    have hstops := stopsLiteral_of_drop_plainLength stop
    rwa [eq_quote_of_stopsLiteral hstops hbackslash hfeed hreturn]

theorem besideAscii_literal {quote : UInt8} (hquote : Byte.isQuote quote)
    (rest : List UInt8) :
    BesideAscii (quote :: rest) (literal (quote :: rest)).length := by
  show BesideAscii (quote :: rest) (_ + 1)
  rw [Nat.add_comm]
  exact (besideAscii_literalBody (Byte.ascii_of_isQuote hquote) rest).append [quote]

/-- The text of a directive stops at the end, or before a byte that is a
blank, a line end, the slash of a comment, or a quote. -/
theorem besideAscii_bodyLength (input : List UInt8) :
    BesideAscii input (bodyLength input) := by
  fun_induction bodyLength input with
  | case1 => exact Or.inl rfl
  | case2 b rest hstop =>
    refine Or.inr (Or.inl ⟨b, rfl, ?_⟩)
    rcases stopsBody_iff.mp hstop with rfl | ⟨rfl, -⟩ | ⟨rfl, -⟩ <;> decide
  | case3 b rest _ hblank _ _ =>
    refine Or.inr (Or.inl ⟨b, rfl, ?_⟩)
    exact hblank.elim Byte.ascii_of_isBlank fun hreturn => hreturn ▸ (by decide)
  | case4 b rest _ _ length hlength ih =>
    rw [hlength] at ih
    have hwhole := ih.append [b]
    rwa [List.length_singleton, Nat.add_comm] at hwhole
  | case5 b rest _ _ hpiece =>
    have hquote := (openLiteral_of_pieceLength? hpiece).1
    exact Or.inr (Or.inl ⟨b, rfl, Byte.ascii_of_isQuote hquote⟩)
  | case6 b rest _ _ length hpiece ih =>
    apply BesideAscii.of_drop (pieceLength?_le hpiece)
    rwa [drop_pieceLength? hpiece]

/-! ## Characters -/

/-- A text may be cut behind its first character. -/
theorem cutsAt_charLength {input : List UInt8} (h : IsEncoding input) :
    CutsAt input (charLength input) := by
  cases input with
  | nil => exact CutsAt.zero h
  | cons b rest =>
    have hcut := cutsAt_charWidth h
    rwa [charLength, List.length_take_of_le hcut.le_length]

/-- The character at the front is read whole. -/
theorem take_charLength {b : UInt8} {rest tail : List UInt8} {c : Char}
    (hsplit : b :: rest = String.utf8EncodeChar c ++ tail) :
    (b :: rest).take (charLength (b :: rest)) = String.utf8EncodeChar c := by
  rw [charLength, charWidth_eq_length hsplit, hsplit, List.take_left, List.take_left]

/-! ## All tokens -/

/-- All that is read as an operator is ASCII. -/
def OperatorTable.IsAscii (table : OperatorTable) : Prop :=
  ∀ input length, table.longest? input = some length →
    ∀ b ∈ input.take length, b < 0x80

variable {table : OperatorTable} {inDirective : Bool} {input : List UInt8}
  {token : Token}

/-- A token at the front of an encoded text ends between two characters. -/
theorem Reads.cutsAt (hascii : table.IsAscii) (hinput : IsEncoding input)
    (h : Reads table inDirective input token) : CutsAt input token.length := by
  cases h with
  | high => exact cutsAt_charLength hinput
  | blank hpos =>
    apply cutsAt_of_besideAscii hinput
    apply besideAscii_of_forall_take hpos (blankLength_le _)
    intro b hb
    exact (forall_mem_take_blankLength _ b hb).elim Byte.ascii_of_isBlank
      fun hreturn => hreturn ▸ (by decide)
  | returnFeed =>
    apply cutsAt_of_besideAscii hinput
    exact Or.inr (Or.inr ⟨1, Byte.lineFeed, rfl, rfl, by decide⟩)
  | lineFeed =>
    apply cutsAt_of_besideAscii hinput
    exact Or.inr (Or.inr ⟨0, Byte.lineFeed, rfl, rfl, by decide⟩)
  | lineComment => exact cutsAt_of_besideAscii hinput (besideAscii_lineLength _)
  | closedComment hend =>
    apply cutsAt_of_besideAscii hinput
    have hcomment := (besideAscii_of_commentEnd? hend).append [Byte.slash, Byte.star]
    rwa [Nat.add_comm] at hcomment
  | openComment => exact CutsAt.length hinput
  | body => exact cutsAt_of_besideAscii hinput (besideAscii_bodyLength _)
  | bodyLiteral hquote =>
    exact cutsAt_of_besideAscii hinput (besideAscii_literal hquote _)
  | word hstart =>
    apply cutsAt_of_besideAscii hinput
    apply besideAscii_of_forall_take (wordLength_pos hstart) (wordLength_le _)
    intro b hb
    exact Byte.ascii_of_isWord (forall_mem_take_wordLength _ b hb)
  | markedLiteral _ hquote =>
    apply cutsAt_of_besideAscii hinput
    exact (besideAscii_literal hquote _).append _
  | @number first rest hstart =>
    apply cutsAt_of_besideAscii hinput
    apply besideAscii_of_forall_take (Nat.succ_pos _)
      (Nat.succ_le_succ (numberLength_le rest))
    rw [List.take_succ_cons, List.forall_mem_cons]
    constructor
    · exact hstart.elim Byte.ascii_of_isDigit fun hdot => hdot.1 ▸ (by decide)
    · intro b hb
      exact (forall_mem_take_numberLength _ b hb).elim Byte.ascii_of_isNumber
        Byte.ascii_of_isSign
  | literal hquote => exact cutsAt_of_besideAscii hinput (besideAscii_literal hquote _)
  | operator _ hlongest =>
    apply cutsAt_of_besideAscii hinput
    exact besideAscii_of_forall_take (table.longest?_pos hlongest)
      (table.longest?_le hlongest) (hascii _ _ hlongest)
  | @unknown b rest hstart =>
    apply cutsAt_of_besideAscii hinput
    exact Or.inr (Or.inr ⟨0, b, rfl, rfl, hstart.ascii⟩)

end CLexicon
