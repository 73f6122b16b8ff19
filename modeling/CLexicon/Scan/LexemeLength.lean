import CLexicon.Scan.Lexeme

/-!
# Lengths of lexemes

A token takes at least one byte where bytes are left, and never more than are
left. So scanning goes on to the end of the text and stops there.

* `lexeme_pos`: no token is empty;
* `lexeme_le`: no token reaches past the end.

Both are put together from the same statement for each way a token can be
read.
-/

namespace CLexicon

/-! ## No token is empty -/

theorem charLength_pos {input : List UInt8} (h : input ≠ []) :
    0 < charLength input := by
  cases input with
  | nil => exact absurd rfl h
  | cons b rest =>
    have := Text.charWidth_pos b
    simp only [charLength, List.length_take, List.length_cons]
    omega

theorem literal_pos {input : List UInt8} (h : input ≠ []) :
    0 < (literal input).length := by
  cases input with
  | nil => exact absurd rfl h
  | cons quote rest => exact Nat.succ_pos _

theorem wordLength_pos {b : UInt8} {rest : List UInt8}
    (h : Byte.isWordStart b) : 0 < wordLength (b :: rest) := by
  have : Byte.isWord b = true := by simp [Byte.isWord, h]
  simp [wordLength, this]

theorem blockComment_pos {input : List UInt8} (h : input ≠ []) :
    0 < (blockComment input).length := by
  unfold blockComment
  split
  · exact Nat.succ_pos _
  · exact List.length_pos_iff.mpr h

theorem directiveText_pos {input : List UInt8} (h : input ≠ []) :
    0 < (directiveText input).length := by
  unfold directiveText
  split
  · exact literal_pos h
  · exact Nat.succ_pos _

theorem wordOrLiteral_pos {b : UInt8} {rest : List UInt8}
    (h : Byte.isWordStart b) : 0 < (wordOrLiteral (b :: rest)).length := by
  have : 0 < wordLength (b :: rest) := wordLength_pos h
  unfold wordOrLiteral
  dsimp only
  split
  · exact Nat.lt_of_lt_of_le this (Nat.le_add_right _ _)
  · exact this

theorem operatorLexeme_pos (table : OperatorTable) (input : List UInt8) :
    0 < (operatorLexeme table input).length := by
  unfold operatorLexeme
  split
  · next isOperator => exact table.longest?_pos isOperator
  · exact Nat.succ_pos _

private theorem ite_pos {p : Prop} [Decidable p] {a b : Token}
    (ha : p → 0 < a.length) (hb : ¬p → 0 < b.length) :
    0 < (if p then a else b).length := by
  split
  · next h => exact ha h
  · next h => exact hb h

/-- Where bytes are left, the token at their front is not empty. -/
theorem lexeme_pos (table : OperatorTable) (inDirective : Bool)
    {input : List UInt8} (h : input ≠ []) :
    0 < (lexeme table inDirective input).length := by
  cases input with
  | nil => exact absurd rfl h
  | cons b rest =>
    refine ite_pos (fun isBlank => isBlank) fun _ => ?_
    refine ite_pos (fun _ => Nat.succ_pos _) fun _ => ?_
    refine ite_pos (fun _ => Nat.succ_pos _) fun _ => ?_
    refine ite_pos (fun isComment => ?_) fun _ => ?_
    · have : Byte.slash ≠ Byte.lineFeed := by decide
      simp [lineLength, isComment.1, this]
    refine ite_pos (fun _ => blockComment_pos h) fun _ => ?_
    refine ite_pos (fun _ => directiveText_pos h) fun _ => ?_
    refine ite_pos (fun isStart => wordOrLiteral_pos isStart) fun _ => ?_
    refine ite_pos (fun _ => Nat.succ_pos _) fun _ => ?_
    refine ite_pos (fun _ => literal_pos h) fun _ => ?_
    exact ite_pos (fun _ => charLength_pos h)
      fun _ => operatorLexeme_pos table _

/-! ## No token is too long -/

theorem blankLength_le (input : List UInt8) :
    blankLength input ≤ input.length := by
  induction input with
  | nil => exact Nat.le_refl _
  | cons b rest ih =>
    rw [blankLength]
    split
    · exact Nat.succ_le_succ ih
    · exact Nat.zero_le _

theorem wordLength_le (input : List UInt8) :
    wordLength input ≤ input.length :=
  (List.takeWhile_prefix _).length_le

theorem numberLength_le (input : List UInt8) :
    numberLength input ≤ input.length := by
  fun_induction numberLength input with
  | case1 => exact Nat.le_refl _
  | case2 b _ => exact Nat.le_refl _
  | case3 b _ => exact Nat.zero_le _
  | case4 b sign rest _ ih => exact Nat.succ_le_succ (Nat.succ_le_succ ih)
  | case5 b sign rest _ _ ih => exact Nat.succ_le_succ ih
  | case6 b sign rest _ _ => exact Nat.zero_le _

theorem commentEnd?_le {input : List UInt8} {length : Nat}
    (h : commentEnd? input = some length) : length ≤ input.length := by
  induction input generalizing length with
  | nil => cases h
  | cons b rest ih =>
    rw [commentEnd?] at h
    split at h
    · next closes =>
      cases h
      cases rest with
      | nil => cases closes.2
      | cons c rest => simp
    · obtain ⟨_, isEnd, rfl⟩ := Option.map_eq_some_iff.mp h
      exact Nat.succ_le_succ (ih isEnd)

theorem blockComment_le {input : List UInt8} (h : 2 ≤ input.length) :
    (blockComment input).length ≤ input.length := by
  unfold blockComment
  split
  · next isEnd =>
    have := commentEnd?_le isEnd
    rw [List.length_drop] at this
    dsimp only
    omega
  · exact Nat.le_refl _

theorem charLength_le (input : List UInt8) :
    charLength input ≤ input.length := by
  cases input with
  | nil => exact Nat.le_refl _
  | cons b rest => exact (List.take_prefix _ _).length_le

theorem escapedLength_le (input : List UInt8) :
    escapedLength input ≤ input.length := by
  unfold escapedLength
  split
  · next isReturn =>
    have := congrArg List.length isReturn
    rw [List.length_take] at this
    simp only [List.length_cons, List.length_nil] at this
    omega
  · exact charLength_le input

theorem plainLength_add_length {quote b : UInt8} {input rest : List UInt8}
    (h : input.drop (plainLength quote input) = b :: rest) :
    plainLength quote input + 1 + rest.length = input.length := by
  have := congrArg List.length h
  rw [List.length_drop, List.length_cons] at this
  omega

theorem literalBody_le (quote : UInt8) (input : List UInt8) :
    (literalBody quote input).length ≤ input.length := by
  fun_induction literalBody quote input with
  | case1 input plain _ => exact (List.takeWhile_prefix _).length_le
  | case2 input plain rest taken stop ih =>
    have := plainLength_add_length stop
    have := escapedLength_le rest
    simp only [LiteralBody.extend, List.length_drop] at ih ⊢
    omega
  | case3 => exact (List.takeWhile_prefix _).length_le
  | case4 => exact (List.takeWhile_prefix _).length_le
  | case5 input plain rest _ stop _ _ ih =>
    have := plainLength_add_length stop
    simp only [LiteralBody.extend] at ih ⊢
    omega
  | case6 input plain b rest stop _ _ _ =>
    have := plainLength_add_length stop
    dsimp only
    omega

theorem literal_le (input : List UInt8) :
    (literal input).length ≤ input.length := by
  cases input with
  | nil => exact Nat.le_refl _
  | cons quote rest => exact Nat.succ_le_succ (literalBody_le quote rest)

theorem wordOrLiteral_le (input : List UInt8) :
    (wordOrLiteral input).length ≤ input.length := by
  have isWord := wordLength_le input
  unfold wordOrLiteral
  dsimp only
  split
  · have := literal_le (input.drop (wordLength input))
    rw [List.length_drop] at this
    dsimp only
    omega
  · exact isWord

theorem pieceLength?_le {input : List UInt8} {length : Nat}
    (h : pieceLength? input = some length) : length ≤ input.length := by
  cases input with
  | nil => cases h
  | cons b rest =>
    rw [pieceLength?] at h
    split at h
    · next isEnd =>
      cases h
      cases rest with
      | nil => cases isEnd.2
      | cons c rest => simp
    split at h
    · next isEnd =>
      cases h
      have := congrArg List.length isEnd.2
      rw [List.length_take] at this
      simp only [List.length_cons, List.length_nil] at this ⊢
      omega
    split at h
    · dsimp only at h
      split at h
      · cases h
        exact Nat.succ_le_succ (literalBody_le b rest)
      · cases h
    · cases h
      exact charLength_le _

theorem bodyLength_le (input : List UInt8) :
    bodyLength input ≤ input.length := by
  fun_induction bodyLength input with
  | case1 => exact Nat.le_refl _
  | case2 => exact Nat.zero_le _
  | case3 => exact Nat.zero_le _
  | case4 b rest _ _ length isLength ih =>
    rw [isLength] at ih
    simp only [List.length_cons]
    omega
  | case5 => exact Nat.zero_le _
  | case6 b rest _ _ length isPiece ih =>
    have := pieceLength?_le isPiece
    rw [List.length_drop] at ih
    rw [List.length_cons] at this ⊢
    omega

theorem directiveText_le (input : List UInt8) :
    (directiveText input).length ≤ input.length := by
  have := bodyLength_le input
  unfold directiveText
  split
  · exact literal_le input
  · next isLength => rwa [isLength] at this

theorem operatorLexeme_le (table : OperatorTable) {input : List UInt8}
    (h : input ≠ []) :
    (operatorLexeme table input).length ≤ input.length := by
  unfold operatorLexeme
  split
  · next isOperator => exact table.longest?_le isOperator
  · exact List.length_pos_iff.mpr h

private theorem ite_le {p : Prop} [Decidable p] {a b : Token} {bound : Nat}
    (ha : p → a.length ≤ bound) (hb : ¬p → b.length ≤ bound) :
    (if p then a else b).length ≤ bound := by
  split
  · next h => exact ha h
  · next h => exact hb h

/-- No token reaches past the end of the input. -/
theorem lexeme_le (table : OperatorTable) (inDirective : Bool)
    (input : List UInt8) :
    (lexeme table inDirective input).length ≤ input.length := by
  cases input with
  | nil => exact Nat.le_refl _
  | cons b rest =>
    refine ite_le (fun _ => blankLength_le _) fun notBlank => ?_
    refine ite_le (fun isReturn => ?_) fun _ => ?_
    · cases rest with
      | nil => exact absurd (by simp [blankLength, isReturn]) notBlank
      | cons c rest => simp
    refine ite_le (fun _ => Nat.succ_le_succ (Nat.zero_le _)) fun _ => ?_
    refine ite_le (fun _ => (List.takeWhile_prefix _).length_le) fun _ => ?_
    refine ite_le (fun isComment => blockComment_le ?_) fun _ => ?_
    · cases rest with
      | nil => cases isComment.2
      | cons c rest => simp
    refine ite_le (fun _ => directiveText_le _) fun _ => ?_
    refine ite_le (fun _ => wordOrLiteral_le _) fun _ => ?_
    refine ite_le (fun _ => Nat.succ_le_succ (numberLength_le rest)) fun _ => ?_
    refine ite_le (fun _ => literal_le _) fun _ => ?_
    exact ite_le (fun _ => charLength_le (b :: rest))
      fun _ => operatorLexeme_le table (List.cons_ne_nil _ _)

end CLexicon
