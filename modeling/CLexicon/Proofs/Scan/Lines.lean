import CLexicon.Proofs.Scan.Outline

/-!
# Tokens look no further than a line feed

To read a token, a scanner looks ahead: at the byte behind a carriage return,
for the end of a comment or of a literal, for a longer operator.  A directive
even reads a whole literal before it gives it up.  None of this reaches behind
a line feed that stands behind the token: the token is the same when the text
ends with that line feed.

All lemmas compare `front ++ [Byte.lineFeed]` with
`front ++ Byte.lineFeed :: back`, where what is read lies in `front`.

* `blankLength_line`, `wordLength_line`, `numberLength_line`: pieces that a
  line feed stops anyway.
* `literalBody_line`: a literal that does not end in `front` is open if the
  text ends there, so a directive gives it up in both texts.
* `bodyLength_line`: the text of a directive.
* `lexeme_line`: every token, if the operators stay within a line as well
  (`OperatorTable.StaysInLine`).
-/

namespace CLexicon

variable {front back : List UInt8}

/-! ## Pieces that a line feed stops -/

variable (front back) in
theorem head?_line :
    (front ++ [Byte.lineFeed]).head? = (front ++ Byte.lineFeed :: back).head? := by
  cases front <;> rfl

/-- Whether a line feed and its carriage return come next is the same. -/
theorem take_two_line :
    (front ++ [Byte.lineFeed]).take 2 = [Byte.carriageReturn, Byte.lineFeed] ↔
      (front ++ Byte.lineFeed :: back).take 2 = [Byte.carriageReturn, Byte.lineFeed] := by
  have hreturn : Byte.lineFeed ≠ Byte.carriageReturn := by decide
  cases front with
  | nil => simp [hreturn]
  | cons b front => cases front <;> simp

variable (front back) in
theorem blankLength_line :
    blankLength (front ++ [Byte.lineFeed]) = blankLength (front ++ Byte.lineFeed :: back) := by
  have hfeed (back : List UInt8) : blankLength (Byte.lineFeed :: back) = 0 :=
    blankLength_eq_zero_iff.mpr ⟨by decide, fun hreturn => absurd hreturn (by decide)⟩
  induction front with
  | nil => rw [List.nil_append, List.nil_append, hfeed, hfeed]
  | cons b front ih =>
    rw [List.cons_append, List.cons_append, blankLength, blankLength, ih,
      head?_line front back]

/-- A class of bytes without the line feed stops at it. -/
theorem takeWhile_line {p : UInt8 → Bool} (hp : p Byte.lineFeed = false) :
    (front ++ Byte.lineFeed :: back).takeWhile p = front.takeWhile p := by
  induction front with
  | nil => exact List.takeWhile_cons_of_neg (by simp [hp])
  | cons b front ih =>
    rw [List.cons_append, List.takeWhile_cons, List.takeWhile_cons, ih]

variable (front back) in
theorem wordLength_line :
    wordLength (front ++ [Byte.lineFeed]) = wordLength (front ++ Byte.lineFeed :: back) := by
  have hword : Byte.isWord Byte.lineFeed = false := by decide
  rw [wordLength, wordLength, takeWhile_line hword, takeWhile_line hword]

variable (front back) in
theorem lineLength_line :
    lineLength (front ++ [Byte.lineFeed]) = lineLength (front ++ Byte.lineFeed :: back) := by
  have hfeed : decide (Byte.lineFeed ≠ Byte.lineFeed) = false := by decide
  rw [lineLength, lineLength, takeWhile_line hfeed, takeWhile_line hfeed]

theorem plainLength_line {quote : UInt8} :
    plainLength quote (front ++ Byte.lineFeed :: back) = plainLength quote front := by
  have hstops : (!Byte.stopsLiteral quote Byte.lineFeed) = false := by simp [Byte.stopsLiteral]
  rw [plainLength, takeWhile_line hstops, plainLength]

variable (front back) in
theorem numberLength_line :
    numberLength (front ++ [Byte.lineFeed]) =
      numberLength (front ++ Byte.lineFeed :: back) := by
  have hnumber : ¬Byte.isNumber Byte.lineFeed := by decide
  have hexponent : ¬Byte.isExponent Byte.lineFeed := by decide
  have hsign : ¬Byte.isSign Byte.lineFeed := by decide
  have hfeed (back : List UInt8) : numberLength (Byte.lineFeed :: back) = 0 := by
    cases back <;> simp [numberLength, hnumber, hexponent]
  induction front using numberLength.induct with
  | case1 => rw [List.nil_append, List.nil_append, hfeed, hfeed]
  | case2 b _ => simp [numberLength, hsign, hnumber, hfeed]
  | case3 b _ => simp [numberLength, hsign, hnumber, hfeed]
  | case4 b sign rest hboth ih =>
    simp only [List.cons_append, numberLength, if_pos hboth, ih]
  | case5 b sign rest hboth hb ih =>
    simp only [List.cons_append, numberLength, if_neg hboth, if_pos hb] at ih ⊢
    rw [ih]
  | case6 b sign rest hboth hb =>
    simp only [List.cons_append, numberLength, if_neg hboth, if_neg hb]

/-- Where a comment is closed before the line feed, it is closed there. -/
theorem commentEnd?_line {length : Nat}
    (h : commentEnd? (front ++ Byte.lineFeed :: back) = some length)
    (hle : length ≤ front.length) :
    commentEnd? (front ++ [Byte.lineFeed]) = some length := by
  induction front generalizing length with
  | nil =>
    obtain rfl : length = 0 := Nat.le_zero.mp hle
    have hstar : ¬(Byte.lineFeed = Byte.star ∧ back.head? = some Byte.slash) :=
      fun hgiven => absurd hgiven.1 (by decide)
    rw [List.nil_append, commentEnd?, if_neg hstar] at h
    obtain ⟨_, -, hzero⟩ := Option.map_eq_some_iff.mp h
    cases hzero
  | cons b front ih =>
    rw [List.cons_append, commentEnd?] at h ⊢
    rw [head?_line front back]
    split at h
    · rename_i hends
      rw [if_pos hends]
      exact h
    · rename_i hends
      obtain ⟨before, hbefore, rfl⟩ := Option.map_eq_some_iff.mp h
      rw [if_neg hends, ih hbefore (Nat.le_of_succ_le_succ hle)]
      rfl

/-! ## Characters and literals -/

variable (front back) in
/-- A character takes what there is of it. -/
theorem charLength_line :
    charLength (front ++ [Byte.lineFeed]) =
      min (charLength (front ++ Byte.lineFeed :: back)) (front.length + 1) := by
  cases front with
  | nil =>
    rw [List.nil_append, List.nil_append, charLength_of_ascii (by decide),
      charLength_of_ascii (by decide)]
    rfl
  | cons b front =>
    simp only [List.cons_append, charLength, List.length_take, List.length_cons,
      List.length_append, List.length_nil]
    omega

theorem charLength_line_of_le
    (h : charLength (front ++ Byte.lineFeed :: back) ≤ front.length + 1) :
    charLength (front ++ [Byte.lineFeed]) = charLength (front ++ Byte.lineFeed :: back) := by
  rw [charLength_line front back, Nat.min_eq_left h]

variable (front back) in
/-- What a backslash escapes takes what there is of it. -/
theorem escapedLength_line :
    escapedLength (front ++ [Byte.lineFeed]) =
      min (escapedLength (front ++ Byte.lineFeed :: back)) (front.length + 1) := by
  rw [escapedLength, escapedLength]
  by_cases hreturn : (front ++ Byte.lineFeed :: back).take 2 =
      [Byte.carriageReturn, Byte.lineFeed]
  · rw [if_pos hreturn, if_pos (take_two_line.mpr hreturn)]
    cases front with
    | nil => exact absurd (List.cons.inj hreturn).1 (by decide)
    | cons b front =>
      rw [List.length_cons]
      omega
  · rw [if_neg hreturn, if_neg (mt take_two_line.mp hreturn), charLength_line front back]

theorem literalBody_nil (quote : UInt8) : literalBody quote [] = ⟨0, false⟩ := by
  rw [literalBody]
  rfl

/-- A literal, read on at the byte where its plain part stops. -/
theorem literalBody_of_drop_cons {quote b : UInt8} {input rest : List UInt8}
    (h : input.drop (plainLength quote input) = b :: rest) :
    literalBody quote input =
      if b = Byte.backslash then
        (literalBody quote (rest.drop (escapedLength rest))).extend
          (plainLength quote input + 1 + escapedLength rest)
      else if b = Byte.lineFeed then ⟨plainLength quote input, false⟩
      else if b = Byte.carriageReturn then
        if rest.head? = some Byte.lineFeed then ⟨plainLength quote input, false⟩
        else (literalBody quote rest).extend (plainLength quote input + 1)
      else ⟨plainLength quote input + 1, true⟩ := by
  rw [literalBody]
  split
  · rename_i hstop
    rw [h] at hstop
    cases hstop
  · rename_i hstop
    rw [h] at hstop
    obtain ⟨rfl, rfl⟩ := List.cons.inj hstop
    rfl

variable (front back) in
/-- What is left of a literal behind its plain part. -/
theorem drop_plainLength_line (quote : UInt8) :
    (front ++ Byte.lineFeed :: back).drop (plainLength quote (front ++ Byte.lineFeed :: back)) =
      front.drop (plainLength quote front) ++ Byte.lineFeed :: back := by
  have hle : plainLength quote front ≤ front.length := (List.takeWhile_prefix _).length_le
  rw [plainLength_line, List.drop_append_of_le_length hle]

/-- A literal that is cut off is still the same, or it went on behind the place
of the cut and is open now. -/
def LiteralBody.CutBehind (limit : Nat) (cut whole : LiteralBody) : Prop :=
  cut = whole ∨ limit < whole.length ∧ cut.closed = false

theorem LiteralBody.CutBehind.extend {limit distance place : Nat} {cut whole : LiteralBody}
    (h : cut.CutBehind limit whole) (hplace : limit + distance = place) :
    (cut.extend distance).CutBehind place (whole.extend distance) := by
  rcases h with rfl | ⟨hlimit, hopen⟩
  · exact Or.inl rfl
  · exact Or.inr ⟨hplace ▸ Nat.add_lt_add_right hlimit distance, hopen⟩

variable (front back) in
/-- A literal is the same where the text ends with the line feed, or it takes
the line feed as well and is open there. -/
theorem literalBody_line (quote : UInt8) :
    (literalBody quote (front ++ [Byte.lineFeed])).CutBehind front.length
      (literalBody quote (front ++ Byte.lineFeed :: back)) := by
  induction hlength : front.length using Nat.strongRecOn generalizing front with
  | ind length ih =>
    subst hlength
    have hends := drop_plainLength_line front [] quote
    have hgoes := drop_plainLength_line front back quote
    cases hdrop : front.drop (plainLength quote front) with
    | nil =>
      -- the plain part reaches up to the line feed, which leaves the literal open
      rw [hdrop, List.nil_append] at hends hgoes
      rw [literalBody_of_drop_cons hends, literalBody_of_drop_cons hgoes, plainLength_line,
        plainLength_line]
      exact Or.inl rfl
    | cons b rest =>
      have hrest := plainLength_add_length hdrop
      rw [hdrop, List.cons_append] at hends hgoes
      rw [literalBody_of_drop_cons hends, literalBody_of_drop_cons hgoes, plainLength_line,
        plainLength_line, head?_line rest back]
      by_cases hbackslash : b = Byte.backslash
      · rw [if_pos hbackslash, if_pos hbackslash, escapedLength_line rest back]
        generalize escapedLength (rest ++ Byte.lineFeed :: back) = taken
        by_cases htaken : taken ≤ rest.length
        · have hshorter : (rest.drop taken).length < front.length := by
            rw [List.length_drop]
            omega
          have hlimit : (rest.drop taken).length + (plainLength quote front + 1 + taken) =
              front.length := by
            rw [List.length_drop]
            omega
          rw [Nat.min_eq_left (by omega), List.drop_append_of_le_length htaken,
            List.drop_append_of_le_length htaken]
          exact (ih _ hshorter _ rfl).extend hlimit
        · -- the line feed itself is escaped, and nothing is left behind it
          have hall : (rest ++ [Byte.lineFeed]).drop (rest.length + 1) = [] :=
            List.drop_eq_nil_of_le (by simp)
          rw [Nat.min_eq_right (by omega), hall, literalBody_nil]
          refine Or.inr ⟨?_, rfl⟩
          show front.length < _ + (plainLength quote front + 1 + taken)
          omega
      rw [if_neg hbackslash, if_neg hbackslash]
      by_cases hfeed : b = Byte.lineFeed
      · rw [if_pos hfeed, if_pos hfeed]
        exact Or.inl rfl
      rw [if_neg hfeed, if_neg hfeed]
      by_cases hreturn : b = Byte.carriageReturn
      · rw [if_pos hreturn, if_pos hreturn]
        split
        · exact Or.inl rfl
        · exact (ih rest.length (by omega) rest rfl).extend (by omega)
      · rw [if_neg hreturn, if_neg hreturn]
        exact Or.inl rfl

theorem literal_line (h : (literal (front ++ Byte.lineFeed :: back)).length ≤ front.length) :
    literal (front ++ [Byte.lineFeed]) = literal (front ++ Byte.lineFeed :: back) := by
  cases front with
  | nil => exact absurd h (Nat.not_succ_le_zero _)
  | cons quote rest =>
    have hle : (literalBody quote (rest ++ Byte.lineFeed :: back)).length ≤ rest.length :=
      Nat.le_of_succ_le_succ h
    rcases literalBody_line rest back quote with hsame | ⟨hbehind, -⟩
    · rw [List.cons_append, List.cons_append, literal, literal, hsame]
    · exact absurd hbehind (by omega)

/-! ## Directives -/

theorem pieceLength?_line {b : UInt8}
    (h : ∀ length ∈ pieceLength? (b :: (front ++ Byte.lineFeed :: back)),
      length ≤ front.length + 1) :
    pieceLength? (b :: (front ++ [Byte.lineFeed])) =
      pieceLength? (b :: (front ++ Byte.lineFeed :: back)) := by
  rw [pieceLength?] at h
  rw [pieceLength?, pieceLength?, head?_line front back]
  by_cases hfeed : b = Byte.backslash ∧
      (front ++ Byte.lineFeed :: back).head? = some Byte.lineFeed
  · rw [if_pos hfeed, if_pos hfeed]
  rw [if_neg hfeed] at h
  rw [if_neg hfeed, if_neg hfeed]
  by_cases hreturn : b = Byte.backslash ∧
      (front ++ Byte.lineFeed :: back).take 2 = [Byte.carriageReturn, Byte.lineFeed]
  · rw [if_pos hreturn, if_pos ⟨hreturn.1, take_two_line.mpr hreturn.2⟩]
  rw [if_neg hreturn] at h
  rw [if_neg hreturn, if_neg fun hcut => hreturn ⟨hcut.1, take_two_line.mp hcut.2⟩]
  by_cases hquote : Byte.isQuote b
  · rw [if_pos hquote] at h
    rw [if_pos hquote, if_pos hquote]
    rcases literalBody_line front back b with hsame | ⟨hbehind, hopen⟩
    · rw [hsame]
    · dsimp only at h ⊢
      cases hclosed : (literalBody b (front ++ Byte.lineFeed :: back)).closed with
      | false =>
        rw [hopen]
        rfl
      | true =>
        -- a literal that is closed behind the line feed would be too long
        have hle := h _ (if_pos hclosed)
        exact absurd hbehind (by omega)
  · rw [if_neg hquote] at h
    rw [if_neg hquote, if_neg hquote]
    have hle := h _ rfl
    exact congrArg some (@charLength_line_of_le (b :: front) back (Nat.le_succ_of_le hle))

theorem bodyLength_of_lineFeed (rest : List UInt8) :
    bodyLength (Byte.lineFeed :: rest) = 0 := by
  rw [bodyLength, if_pos (stopsBody_iff.mpr (Or.inl rfl))]

/-- The text of a directive that ends before the line feed. -/
theorem bodyLength_line
    (h : bodyLength (front ++ Byte.lineFeed :: back) ≤ front.length) :
    bodyLength (front ++ [Byte.lineFeed]) = bodyLength (front ++ Byte.lineFeed :: back) := by
  induction hlength : front.length using Nat.strongRecOn generalizing front with
  | ind length ih =>
    subst hlength
    cases front with
    | nil =>
      rw [List.nil_append, List.nil_append, bodyLength_of_lineFeed, bodyLength_of_lineFeed]
    | cons b rest =>
      rw [List.cons_append, bodyLength] at h
      rw [List.cons_append, List.cons_append, bodyLength, bodyLength, head?_line rest back]
      by_cases hstop : stopsBody b (rest ++ Byte.lineFeed :: back).head?
      · rw [if_pos hstop, if_pos hstop]
      rw [if_neg hstop] at h
      rw [if_neg hstop, if_neg hstop]
      by_cases hblank : Byte.isBlank b ∨ b = Byte.carriageReturn
      · rw [if_pos hblank] at h
        rw [if_pos hblank, if_pos hblank, ih rest.length (Nat.lt_succ_self _) ?_ rfl]
        rw [List.length_cons] at h
        split at h <;> omega
      rw [if_neg hblank] at h
      rw [if_neg hblank, if_neg hblank]
      have hwithin : ∀ length ∈ pieceLength? (b :: (rest ++ Byte.lineFeed :: back)),
          length ≤ rest.length + 1 := by
        intro length hpiece
        rw [Option.mem_def.mp hpiece] at h
        exact Nat.le_of_add_right_le h
      rw [pieceLength?_line hwithin]
      cases hpiece : pieceLength? (b :: (rest ++ Byte.lineFeed :: back)) with
      | none => rfl
      | some length =>
        rw [hpiece] at h
        dsimp only at h ⊢
        rw [List.length_cons] at h
        have hpos := pieceLength?_pos hpiece
        have hle : length - 1 ≤ rest.length := by omega
        have hshorter : (rest.drop (length - 1)).length < (b :: rest).length := by
          rw [List.length_drop, List.length_cons]
          omega
        rw [List.drop_append_of_le_length hle] at h
        rw [List.drop_append_of_le_length hle, List.drop_append_of_le_length hle,
          ih _ hshorter ?_ rfl]
        rw [List.length_drop]
        omega

/-! ## All tokens -/

theorem directiveText_line
    (h : (directiveText (front ++ Byte.lineFeed :: back)).length ≤ front.length) :
    directiveText (front ++ [Byte.lineFeed]) = directiveText (front ++ Byte.lineFeed :: back) := by
  unfold directiveText at h ⊢
  split at h
  · rename_i hzero
    rw [bodyLength_line (hzero ▸ Nat.zero_le _), hzero]
    exact literal_line h
  · rename_i hlength
    rw [bodyLength_line (Nat.le_trans (Nat.le_of_eq hlength) h), hlength]

theorem wordOrLiteral_line
    (h : (wordOrLiteral (front ++ Byte.lineFeed :: back)).length ≤ front.length) :
    wordOrLiteral (front ++ [Byte.lineFeed]) = wordOrLiteral (front ++ Byte.lineFeed :: back) := by
  have hword : wordLength (front ++ Byte.lineFeed :: back) ≤ front.length := by
    rw [wordLength, takeWhile_line (by decide)]
    exact (List.takeWhile_prefix _).length_le
  unfold wordOrLiteral at h ⊢
  rw [wordLength_line front back]
  generalize wordLength (front ++ Byte.lineFeed :: back) = length at h hword ⊢
  dsimp only at h ⊢
  rw [List.take_append_of_le_length hword, List.drop_append_of_le_length hword] at h ⊢
  rw [List.take_append_of_le_length hword, List.drop_append_of_le_length hword,
    head?_line (front.drop length) back]
  split at h
  · rename_i hmarked
    rw [if_pos hmarked, if_pos hmarked, literal_line]
    rw [List.length_drop]
    exact Nat.le_sub_of_add_le' h
  · rename_i hplain
    rw [if_neg hplain, if_neg hplain]

theorem blockComment_line (hfront : 2 ≤ front.length)
    (h : (blockComment (front ++ Byte.lineFeed :: back)).length ≤ front.length) :
    blockComment (front ++ [Byte.lineFeed]) = blockComment (front ++ Byte.lineFeed :: back) := by
  unfold blockComment at h ⊢
  rw [List.drop_append_of_le_length hfront] at h ⊢
  rw [List.drop_append_of_le_length hfront]
  cases hend : commentEnd? (front.drop 2 ++ Byte.lineFeed :: back) with
  | none =>
    rw [hend] at h
    have hle : (front ++ Byte.lineFeed :: back).length ≤ front.length := h
    rw [List.length_append, List.length_cons] at hle
    omega
  | some length =>
    rw [hend] at h
    dsimp only at h
    rw [commentEnd?_line hend]
    rw [List.length_drop]
    omega

section Lexeme

variable {table : OperatorTable}

/-- What is behind a line feed makes no difference for an operator before it. -/
def OperatorTable.StaysInLine (table : OperatorTable) : Prop :=
  ∀ front back, table.longest? (front ++ [Byte.lineFeed]) =
    table.longest? (front ++ Byte.lineFeed :: back)

theorem operatorLexeme_line (hline : table.StaysInLine) :
    operatorLexeme table (front ++ [Byte.lineFeed]) =
      operatorLexeme table (front ++ Byte.lineFeed :: back) := by
  rw [operatorLexeme, hline front back, operatorLexeme]

private theorem ite_line {p : Prop} [Decidable p] {first second cutFirst cutSecond : Token}
    {bound : Nat} (hfirst : p → first.length ≤ bound → cutFirst = first)
    (hsecond : ¬p → second.length ≤ bound → cutSecond = second)
    (h : (if p then first else second).length ≤ bound) :
    (if p then cutFirst else cutSecond) = if p then first else second := by
  split
  · rename_i hp
    rw [if_pos hp] at h
    exact hfirst hp h
  · rename_i hp
    rw [if_neg hp] at h
    exact hsecond hp h

/-- A token that ends before the line feed is the same in both texts. -/
theorem lexeme_line (hline : table.StaysInLine) {inDirective : Bool}
    (h : (lexeme table inDirective (front ++ Byte.lineFeed :: back)).length ≤ front.length) :
    lexeme table inDirective (front ++ [Byte.lineFeed]) =
      lexeme table inDirective (front ++ Byte.lineFeed :: back) := by
  cases front with
  | nil =>
    have hpos := lexeme_pos table inDirective (List.cons_ne_nil Byte.lineFeed back)
    exact absurd h (Nat.not_le.mpr hpos)
  | cons b rest =>
    have hblank : blankLength (b :: (rest ++ [Byte.lineFeed])) =
        blankLength (b :: (rest ++ Byte.lineFeed :: back)) := blankLength_line (b :: rest) back
    have hlineLength : lineLength (b :: (rest ++ [Byte.lineFeed])) =
        lineLength (b :: (rest ++ Byte.lineFeed :: back)) := lineLength_line (b :: rest) back
    revert h
    rw [List.cons_append, List.cons_append, lexeme, lexeme, hblank, head?_line rest back]
    refine ite_line (fun _ _ => rfl) fun _ => ?_
    refine ite_line (fun _ _ => rfl) fun _ => ?_
    refine ite_line (fun _ _ => rfl) fun _ => ?_
    refine ite_line (fun _ _ => by rw [hlineLength]) fun _ => ?_
    refine ite_line (fun hcomment h => ?_) fun _ => ?_
    · have hrest : rest ≠ [] := by
        intro hnil
        subst hnil
        exact absurd (Option.some.inj hcomment.2) (by decide)
      have htwo := Nat.succ_le_succ (List.length_pos_iff.mpr hrest)
      exact @blockComment_line (b :: rest) back htwo h
    refine ite_line (fun _ => @directiveText_line (b :: rest) back) fun _ => ?_
    refine ite_line (fun _ => @wordOrLiteral_line (b :: rest) back) fun _ => ?_
    refine ite_line (fun _ _ => by rw [numberLength_line rest back]) fun _ => ?_
    refine ite_line (fun _ => @literal_line (b :: rest) back) fun _ => ?_
    refine ite_line (fun _ h => ?_) fun _ _ => @operatorLexeme_line (b :: rest) back table hline
    exact congrArg _ (@charLength_line_of_le (b :: rest) back (Nat.le_succ_of_le h))

end Lexeme

end CLexicon
