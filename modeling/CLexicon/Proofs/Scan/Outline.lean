import CLexicon.Proofs.Scan.Cuts

/-!
# Comments and open literals, read off the bytes

Which comments a text has, and which literals are left open in it, can be told
without an operator table and without directives: go from character to
character, and take comments and literals as a whole.  This is the outline of
the text.

A scanner goes through the text in other steps, and in a directive its steps
are others again.  Yet each of its tokens keeps in step with the outline:

* `landmark` and `outline`: the steps of the outline.
* `Skips`: bytes in which the outline finds no comment and no open literal.
* `skips_bodyLength`: the text of a directive is skipped.
* `Reads.keepsStep`: a token is skipped by the outline, or it is a comment or
  an open literal of it, where only an encoding mark may come before the
  quote.
-/

namespace CLexicon

/-! ## The outline -/

/-- Whether a token is a comment, closed or not. -/
def Tag.isComment : Tag → Bool
  | lineComment | blockComment | openComment => true
  | _ => false

/-- Whether a token is a literal that is not closed. -/
def Tag.isOpenLiteral : Tag → Bool
  | openString | openChar => true
  | _ => false

theorem Tag.isComment_of_isOpenLiteral {tag : Tag} (h : tag.isOpenLiteral) :
    tag.isComment = false := by
  cases tag <;> first | rfl | cases h

/-- Whether the outline of a text shows a token. -/
def Tag.isNoted (tag : Tag) : Bool :=
  tag.isComment || tag.isOpenLiteral

/-- The comment or the literal at the front, or else one character. -/
def landmark (input : List UInt8) : Token :=
  match input with
  | [] => ⟨.endOfText, 0⟩
  | b :: rest =>
    if b = Byte.slash ∧ rest.head? = some Byte.slash then
      ⟨.lineComment, lineLength input⟩
    else if b = Byte.slash ∧ rest.head? = some Byte.star then blockComment input
    else if Byte.isQuote b then literal input
    else ⟨.unknown, charLength input⟩

theorem landmark_pos {input : List UInt8} (h : input ≠ []) :
    0 < (landmark input).length := by
  cases input with
  | nil => exact absurd rfl h
  | cons b rest =>
    rw [landmark]
    split
    · rename_i hcomment
      rw [hcomment.1]
      exact Nat.succ_pos _
    split
    · exact blockComment_pos h
    split
    · exact literal_pos h
    · exact charLength_pos h

/-- The comments, literals and other characters of some bytes, in order. -/
def outline (input : List UInt8) : List Token :=
  if _h : input = [] then []
  else landmark input :: outline (input.drop (landmark input).length)
termination_by input.length
decreasing_by
  have hpos := landmark_pos _h
  have hlength := List.length_pos_iff.mpr _h
  rw [List.length_drop]
  omega

theorem landmark_lineComment (rest : List UInt8) :
    landmark (Byte.slash :: Byte.slash :: rest) =
      ⟨.lineComment, lineLength (Byte.slash :: Byte.slash :: rest)⟩ := by
  rw [landmark, if_pos ⟨rfl, rfl⟩]

theorem landmark_blockComment (rest : List UInt8) :
    landmark (Byte.slash :: Byte.star :: rest) =
      blockComment (Byte.slash :: Byte.star :: rest) := by
  have hstar : ¬(Byte.slash = Byte.slash ∧
      (Byte.star :: rest).head? = some Byte.slash) :=
    fun h => absurd (Option.some.inj h.2) (by decide)
  rw [landmark, if_neg hstar, if_pos ⟨rfl, rfl⟩]

theorem landmark_literal {quote : UInt8} (hquote : Byte.isQuote quote)
    (rest : List UInt8) : landmark (quote :: rest) = literal (quote :: rest) := by
  have hslash : quote ≠ Byte.slash := by
    intro heq
    subst heq
    exact absurd hquote (by decide)
  rw [landmark, if_neg (fun h => hslash h.1), if_neg (fun h => hslash h.1), if_pos hquote]

theorem landmark_char {b : UInt8} {rest : List UInt8} (hquote : ¬Byte.isQuote b)
    (hcomment : b = Byte.slash →
      rest.head? ≠ some Byte.slash ∧ rest.head? ≠ some Byte.star) :
    landmark (b :: rest) = ⟨.unknown, charLength (b :: rest)⟩ := by
  rw [landmark, if_neg (fun h => (hcomment h.1).1 h.2),
    if_neg (fun h => (hcomment h.1).2 h.2), if_neg hquote]

/-! ## Bytes that the outline skips -/

/-- Bytes from the front on that the outline takes without a comment or an open
literal among them. -/
inductive Skips : List UInt8 → Nat → Prop where
  | nil {input} : Skips input 0
  | step {input length} (hinput : input ≠ [])
      (hplain : (landmark input).tag.isNoted = false)
      (htail : Skips (input.drop (landmark input).length) length) :
      Skips input ((landmark input).length + length)

theorem Skips.append {input : List UInt8} {first second : Nat}
    (hfirst : Skips input first) (hsecond : Skips (input.drop first) second) :
    Skips input (first + second) := by
  induction hfirst with
  | nil => rwa [Nat.zero_add]
  | step hinput hplain _ ih =>
    rw [Nat.add_assoc]
    rw [← List.drop_drop] at hsecond
    exact .step hinput hplain (ih hsecond)

theorem skips_landmark {input : List UInt8} (hinput : input ≠ [])
    (hplain : (landmark input).tag.isNoted = false) :
    Skips input (landmark input).length :=
  .step hinput hplain .nil

theorem charLength_of_ascii {b : UInt8} (hascii : b < 0x80) (rest : List UInt8) :
    charLength (b :: rest) = 1 := by
  have hwidth : Text.charWidth b = 1 := by
    have hlt : b.toNat < 128 := hascii
    rw [← b.ofNat_toNat, Text.charWidth_ofNat (by omega),
      if_neg (by omega), if_neg (by omega), if_neg (by omega)]
  rw [charLength, hwidth]
  rfl

theorem skips_char {b : UInt8} {rest : List UInt8} (hquote : ¬Byte.isQuote b)
    (hcomment : b = Byte.slash →
      rest.head? ≠ some Byte.slash ∧ rest.head? ≠ some Byte.star) :
    Skips (b :: rest) (charLength (b :: rest)) := by
  have hlandmark := landmark_char hquote hcomment
  have hskips : Skips (b :: rest) (landmark (b :: rest)).length := by
    apply skips_landmark (List.cons_ne_nil _ _)
    rw [hlandmark]
    rfl
  rwa [hlandmark] at hskips

/-- An ASCII byte that starts neither a comment nor a literal is skipped. -/
theorem skips_ascii {b : UInt8} {rest : List UInt8} (hascii : b < 0x80)
    (hquote : ¬Byte.isQuote b)
    (hcomment : b = Byte.slash →
      rest.head? ≠ some Byte.slash ∧ rest.head? ≠ some Byte.star) :
    Skips (b :: rest) 1 := by
  have hskips := skips_char hquote hcomment
  rwa [charLength_of_ascii hascii] at hskips

/-- A byte that is ASCII, and neither a slash nor a quote. -/
structure Byte.IsInert (b : UInt8) : Prop where
  ascii : b < 0x80
  not_slash : b ≠ Byte.slash
  not_quote : ¬Byte.isQuote b

/-- The bytes of a class are inert, if the slash and the quotes are not among
them. -/
theorem Byte.IsInert.of_class {p : UInt8 → Bool} {b : UInt8} (hb : p b)
    (hascii : b < 0x80) (hslash : p Byte.slash = false)
    (hdouble : p Byte.doubleQuote = false) (hsingle : p Byte.singleQuote = false) :
    Byte.IsInert b := by
  refine ⟨hascii, ?_, ?_⟩
  · intro heq
    subst heq
    rw [hslash] at hb
    cases hb
  · intro hquote
    simp only [Byte.isQuote, Bool.or_eq_true, decide_eq_true_eq] at hquote
    rcases hquote with rfl | rfl
    · rw [hdouble] at hb
      cases hb
    · rw [hsingle] at hb
      cases hb

theorem Byte.isInert_of_isWord {b : UInt8} (h : Byte.isWord b) : Byte.IsInert b :=
  .of_class h (Byte.ascii_of_isWord h) (by decide) (by decide) (by decide)

theorem Byte.isInert_of_isNumber {b : UInt8} (h : Byte.isNumber b) : Byte.IsInert b :=
  .of_class h (Byte.ascii_of_isNumber h) (by decide) (by decide) (by decide)

theorem Byte.isInert_of_isSign {b : UInt8} (h : Byte.isSign b) : Byte.IsInert b :=
  .of_class h (Byte.ascii_of_isSign h) (by decide) (by decide) (by decide)

theorem Byte.isInert_backslash : Byte.IsInert Byte.backslash :=
  ⟨by decide, by decide, by decide⟩

theorem Byte.isInert_carriageReturn : Byte.IsInert Byte.carriageReturn :=
  ⟨by decide, by decide, by decide⟩

theorem Byte.isInert_lineFeed : Byte.IsInert Byte.lineFeed :=
  ⟨by decide, by decide, by decide⟩

theorem Byte.isInert_of_isBlank {b : UInt8}
    (h : Byte.isBlank b ∨ b = Byte.carriageReturn) : Byte.IsInert b := by
  rcases h with h | rfl
  · exact .of_class h (Byte.ascii_of_isBlank h) (by decide) (by decide) (by decide)
  · exact Byte.isInert_carriageReturn

theorem Byte.IsInert.skips {b : UInt8} (hb : Byte.IsInert b) (rest : List UInt8) :
    Skips (b :: rest) 1 :=
  skips_ascii hb.ascii hb.not_quote fun hslash => absurd hslash hb.not_slash

/-- Inert bytes are skipped. -/
theorem skips_of_forall_isInert {input : List UInt8} {length : Nat}
    (hle : length ≤ input.length) (h : ∀ b ∈ input.take length, Byte.IsInert b) :
    Skips input length := by
  induction input generalizing length with
  | nil =>
    obtain rfl : length = 0 := Nat.le_zero.mp hle
    exact .nil
  | cons b rest ih =>
    cases length with
    | zero => exact .nil
    | succ length =>
      rw [List.take_succ_cons, List.forall_mem_cons] at h
      obtain ⟨hb, hrest⟩ := h
      rw [Nat.add_comm]
      exact (hb.skips rest).append (ih (Nat.le_of_succ_le_succ hle) hrest)

/-! ## Literals -/

/-- A literal is noted exactly if it is open. -/
theorem isNoted_literal (quote : UInt8) (rest : List UInt8) :
    (literal (quote :: rest)).tag.isNoted = !(literalBody quote rest).closed := by
  rw [literal]
  dsimp only
  split <;> cases (literalBody quote rest).closed <;> rfl

theorem isOpenLiteral_literal {quote : UInt8} {rest : List UInt8}
    (hopen : (literalBody quote rest).closed = false) :
    (literal (quote :: rest)).tag.isOpenLiteral := by
  rw [literal]
  dsimp only
  rw [hopen]
  split <;> rfl

theorem skips_literal {quote : UInt8} {rest : List UInt8} (hquote : Byte.isQuote quote)
    (hclosed : (literalBody quote rest).closed) :
    Skips (quote :: rest) (literal (quote :: rest)).length := by
  have hlandmark := landmark_literal hquote rest
  rw [← hlandmark]
  apply skips_landmark (List.cons_ne_nil _ _)
  rw [hlandmark, isNoted_literal, hclosed]
  rfl

/-! ## Directives -/

/-- A piece of a directive is skipped. -/
theorem skips_pieceLength? {b : UInt8} {rest : List UInt8} {length : Nat}
    (hstop : ¬stopsBody b rest.head?) (h : pieceLength? (b :: rest) = some length) :
    Skips (b :: rest) length := by
  have hle := pieceLength?_le h
  rw [pieceLength?] at h
  split at h
  · rename_i hcontinued
    cases h
    obtain ⟨rfl, hnext⟩ := hcontinued
    obtain ⟨tail, rfl⟩ := List.head?_eq_some_iff.mp hnext
    apply skips_of_forall_isInert hle
    show ∀ b ∈ [Byte.backslash, Byte.lineFeed], Byte.IsInert b
    simp [Byte.isInert_backslash, Byte.isInert_lineFeed]
  split at h
  · rename_i hcontinued
    cases h
    obtain ⟨rfl, hnext⟩ := hcontinued
    apply skips_of_forall_isInert hle
    rw [List.take_succ_cons, hnext]
    simp [Byte.isInert_backslash, Byte.isInert_carriageReturn, Byte.isInert_lineFeed]
  split at h
  · rename_i hquote
    dsimp only at h
    split at h
    · rename_i hclosed
      cases h
      exact skips_literal hquote hclosed
    · cases h
  · rename_i hquote
    cases h
    apply skips_char hquote
    intro hslash
    rw [← not_or]
    exact fun hnext => hstop (stopsBody_iff.mpr (Or.inr (Or.inr ⟨hslash, hnext⟩)))

/-- The text of a directive is skipped. -/
theorem skips_bodyLength (input : List UInt8) : Skips input (bodyLength input) := by
  fun_induction bodyLength input with
  | case1 => exact .nil
  | case2 => exact .nil
  | case3 => exact .nil
  | case4 b rest _ hblank length hlength ih =>
    rw [hlength] at ih
    have hwhole : Skips (b :: rest) (1 + (length + 1)) :=
      ((Byte.isInert_of_isBlank hblank).skips rest).append ih
    rwa [Nat.add_comm] at hwhole
  | case5 => exact .nil
  | case6 b rest hstop _ length hpiece ih =>
    apply (skips_pieceLength? hstop hpiece).append
    rwa [drop_pieceLength? hpiece]

/-! ## All tokens -/

/-- Behind its first byte, no operator has a byte that is not inert. -/
def OperatorTable.IsInert (table : OperatorTable) : Prop :=
  ∀ input length, table.longest? input = some length →
    ∀ b ∈ (input.take length).tail, Byte.IsInert b

/-- What a token at the front of some bytes is to their outline. -/
inductive KeepsStep (input : List UInt8) : Token → Prop where
  | skipped {token} (htag : token.tag.isNoted = false)
      (hskips : Skips input token.length) : KeepsStep input token
  | shown (htag : (landmark input).tag.isNoted) : KeepsStep input (landmark input)
  | marked {mark quote rest} (hmark : mark ∈ encodingMarks) (hquote : Byte.isQuote quote)
      (hinput : input = mark ++ quote :: rest) (hskips : Skips input mark.length)
      (hopen : (landmark (quote :: rest)).tag.isOpenLiteral) :
      KeepsStep input ⟨(landmark (quote :: rest)).tag,
        mark.length + (landmark (quote :: rest)).length⟩

theorem KeepsStep.of_landmark_eq {input : List UInt8} {token : Token}
    (h : landmark input = token) (htag : token.tag.isNoted) : KeepsStep input token := by
  subst h
  exact .shown htag

theorem KeepsStep.literal {quote : UInt8} {rest : List UInt8}
    (hquote : Byte.isQuote quote) :
    KeepsStep (quote :: rest) (CLexicon.literal (quote :: rest)) := by
  cases hclosed : (literalBody quote rest).closed with
  | true =>
    refine .skipped ?_ (skips_literal hquote hclosed)
    rw [isNoted_literal, hclosed]
    rfl
  | false =>
    apply KeepsStep.of_landmark_eq (landmark_literal hquote rest)
    rw [isNoted_literal, hclosed]
    rfl

theorem isInert_of_mem_encodingMarks {mark : List UInt8} (h : mark ∈ encodingMarks) :
    ∀ b ∈ mark, Byte.IsInert b := by
  have hwords : encodingMarks.all (·.all Byte.isWord) := by decide
  have hword := List.all_eq_true.mp hwords mark h
  exact fun b hb => Byte.isInert_of_isWord (List.all_eq_true.mp hword b hb)

theorem skips_encodingMark {mark : List UInt8} (h : mark ∈ encodingMarks)
    (rest : List UInt8) : Skips (mark ++ rest) mark.length := by
  apply skips_of_forall_isInert
  · rw [List.length_append]
    exact Nat.le_add_right _ _
  · rw [List.take_left]
    exact isInert_of_mem_encodingMarks h

variable {table : OperatorTable} {inDirective : Bool} {input : List UInt8}
  {token : Token}

/-- Each token keeps in step with the outline, inside a directive and outside of
one. -/
theorem Reads.keepsStep (htable : table.IsInert)
    (h : Reads table inDirective input token) : KeepsStep input token := by
  cases h with
  | blank =>
    refine .skipped rfl (skips_of_forall_isInert (blankLength_le _) ?_)
    exact fun b hb => Byte.isInert_of_isBlank (forall_mem_take_blankLength _ b hb)
  | returnFeed =>
    refine .skipped rfl (skips_of_forall_isInert (Nat.le_add_left _ _) ?_)
    show ∀ b ∈ [Byte.carriageReturn, Byte.lineFeed], Byte.IsInert b
    simp [Byte.isInert_carriageReturn, Byte.isInert_lineFeed]
  | lineFeed =>
    refine .skipped rfl (skips_of_forall_isInert (Nat.le_add_left _ _) ?_)
    show ∀ b ∈ [Byte.lineFeed], Byte.IsInert b
    simp [Byte.isInert_lineFeed]
  | lineComment => exact .of_landmark_eq (landmark_lineComment _) rfl
  | closedComment hend =>
    refine .of_landmark_eq ?_ rfl
    rw [landmark_blockComment, blockComment, List.drop_succ_cons, List.drop_succ_cons,
      List.drop_zero, hend]
  | openComment hend =>
    refine .of_landmark_eq ?_ rfl
    rw [landmark_blockComment, blockComment, List.drop_succ_cons, List.drop_succ_cons,
      List.drop_zero, hend]
    rfl
  | body => exact .skipped rfl (skips_bodyLength _)
  | bodyLiteral hquote => exact .literal hquote
  | word =>
    refine .skipped rfl (skips_of_forall_isInert (wordLength_le _) ?_)
    exact fun b hb => Byte.isInert_of_isWord (forall_mem_take_wordLength _ b hb)
  | @markedLiteral mark quote rest hmark hquote =>
    have hlandmark := landmark_literal hquote rest
    cases hclosed : (literalBody quote rest).closed with
    | true =>
      refine .skipped ?_ ((skips_encodingMark hmark _).append ?_)
      · rw [isNoted_literal, hclosed]
        rfl
      · rw [List.drop_left]
        exact skips_literal hquote hclosed
    | false =>
      rw [← hlandmark]
      refine .marked hmark hquote rfl (skips_encodingMark hmark _) ?_
      rw [hlandmark]
      exact isOpenLiteral_literal hclosed
  | @number b rest hstart =>
    refine .skipped rfl (skips_of_forall_isInert
      (Nat.succ_le_succ (numberLength_le rest)) ?_)
    rw [List.take_succ_cons, List.forall_mem_cons]
    constructor
    · apply Byte.isInert_of_isNumber
      rcases hstart with hdigit | ⟨rfl, -⟩
      · simp [Byte.isNumber, Byte.isWord, hdigit]
      · decide
    · intro x hx
      exact (forall_mem_take_numberLength _ x hx).elim Byte.isInert_of_isNumber
        Byte.isInert_of_isSign
  | literal hquote => exact .literal hquote
  | @high b rest hhigh =>
    have hnot : ¬b < 0x80 := UInt8.not_lt.mpr hhigh
    refine .skipped rfl (skips_char (fun hquote => hnot (Byte.ascii_of_isQuote hquote)) ?_)
    intro heq
    subst heq
    exact absurd (by decide) hnot
  | @operator b rest length hstart hlongest =>
    refine .skipped rfl ?_
    have hpos := table.longest?_pos hlongest
    have hle := table.longest?_le hlongest
    have hinert := htable _ _ hlongest
    obtain ⟨more, rfl⟩ := Nat.exists_eq_add_one.mpr hpos
    rw [List.take_succ_cons, List.tail_cons] at hinert
    show Skips (b :: rest) (more + 1)
    rw [Nat.add_comm]
    refine Skips.append ?_ (skips_of_forall_isInert (Nat.le_of_succ_le_succ hle) hinert)
    exact skips_ascii hstart.ascii hstart.not_quote hstart.not_comment
  | unknown hstart =>
    exact .skipped rfl (skips_ascii hstart.ascii hstart.not_quote hstart.not_comment)

end CLexicon
