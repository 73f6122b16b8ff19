import CLexicon.Proofs.Scan.LineContext
import Mathlib.Data.Option.Basic

/-!
# Literals, byte by byte

`literalBody` jumps from one byte that needs a closer look to the next.  Here a
literal is read by an automaton that takes one byte at a time, with a look at
the byte behind it, and knows nothing of jumps or of the width of characters.
The two stop at the same place and agree on whether the literal is closed.

* `LiteralState`, `LiteralState.move` and `LiteralState.scan`: the automaton.
* `plainLength_eq_literalStop?`: a jump goes to the earlier one of what two
  searches find.
* `scan_plain` and `scan_escape`: the automaton over what a jump passes and over
  what a backslash escapes.  `literalBody_eq_scan` is the whole literal.
* `Reads.of_isLiteral` and `lexeme_literal`: the tokens that are literals.
* `literals_scanned`: what holds of all quotes and literals of a source.
-/

namespace CLexicon

open Text

/-! ## The automaton -/

theorem Byte.ne_of_isQuote {quote b : UInt8} (hquote : Byte.isQuote quote)
    (hb : Byte.isQuote b = false) : b ≠ quote := by
  intro heq
  subst heq
  rw [hb] at hquote
  cases hquote

/-- What is known between two bytes of a literal. -/
inductive LiteralState where
  /-- Nothing is escaped. -/
  | content
  /-- A backslash has come. -/
  | escape
  /-- A backslash and the carriage return of a line end have come. -/
  | escapedReturn
  /-- A backslash and the first byte of a character have come. -/
  | escapedChar
  deriving DecidableEq, Repr

/-- What the automaton does at a byte. -/
inductive LiteralMove where
  /-- The byte belongs to the literal, which goes on. -/
  | goOn (state : LiteralState)
  /-- The byte closes the literal. -/
  | close
  /-- The byte does not belong to the literal, which is left open. -/
  | stop
  deriving DecidableEq, Repr

/-- The move at a byte that is not escaped. -/
def LiteralMove.unescaped (quote b : UInt8) (next : Option UInt8) : LiteralMove :=
  if b = quote then .close
  else if b = Byte.backslash then .goOn .escape
  else if b = Byte.lineFeed ∨ b = Byte.carriageReturn ∧ next = some Byte.lineFeed then .stop
  else .goOn .content

namespace LiteralState

/-- The move at a byte, with a look at the next one.  An escaped character goes
on up to the first byte of another one. -/
def move (quote b : UInt8) (next : Option UInt8) : LiteralState → LiteralMove
  | content => .unescaped quote b next
  | escape =>
    if b = Byte.carriageReturn ∧ next = some Byte.lineFeed then .goOn escapedReturn
    else .goOn escapedChar
  | escapedReturn => .goOn content
  | escapedChar =>
    if b.IsUTF8FirstByte then .unescaped quote b next else .goOn escapedChar

/-- The literal body at the front of some bytes, read one byte at a time. -/
def scan (quote : UInt8) (state : LiteralState) : List UInt8 → LiteralBody
  | [] => ⟨0, false⟩
  | b :: rest =>
    match state.move quote b rest.head? with
    | .goOn next => (scan quote next rest).extend 1
    | .close => ⟨1, true⟩
    | .stop => ⟨0, false⟩

section Moves

variable {quote : UInt8} (hquote : Byte.isQuote quote)
include hquote

theorem move_backslash (next : Option UInt8) :
    content.move quote Byte.backslash next = .goOn escape := by
  show LiteralMove.unescaped _ _ _ = _
  rw [LiteralMove.unescaped, if_neg (Byte.ne_of_isQuote hquote (by decide)), if_pos rfl]

theorem move_lineFeed (next : Option UInt8) :
    content.move quote Byte.lineFeed next = .stop := by
  show LiteralMove.unescaped _ _ _ = _
  rw [LiteralMove.unescaped, if_neg (Byte.ne_of_isQuote hquote (by decide)),
    if_neg (by decide), if_pos (Or.inl rfl)]

/-- Only a carriage return that ends the line ends a literal. -/
theorem move_carriageReturn (next : Option UInt8) :
    content.move quote Byte.carriageReturn next =
      if next = some Byte.lineFeed then .stop else .goOn content := by
  show LiteralMove.unescaped _ _ _ = _
  rw [LiteralMove.unescaped, if_neg (Byte.ne_of_isQuote hquote (by decide)),
    if_neg (by decide)]
  simp [show Byte.carriageReturn ≠ Byte.lineFeed by decide]

end Moves

/-- A byte that stops no literal is content. -/
theorem move_plain {quote b : UInt8} (hplain : Byte.stopsLiteral quote b = false)
    (next : Option UInt8) : content.move quote b next = .goOn content := by
  simp only [Byte.stopsLiteral, Bool.or_eq_false_iff, decide_eq_false_iff_not] at hplain
  obtain ⟨⟨⟨hquote, hbackslash⟩, hfeed⟩, hreturn⟩ := hplain
  show LiteralMove.unescaped _ _ _ = _
  rw [LiteralMove.unescaped, if_neg hquote, if_neg hbackslash,
    if_neg (not_or.mpr ⟨hfeed, fun h => hreturn h.1⟩)]

end LiteralState

theorem LiteralBody.extend_extend (body : LiteralBody) (first second : Nat) :
    (body.extend first).extend second = body.extend (first + second) := by
  unfold extend
  dsimp only
  rw [Nat.add_assoc]

/-! ## Jumps -/

/-- The first byte that needs a closer look, found by two searches: one for the
quote, a backslash or a line feed, the other for a carriage return. -/
def literalStop? (quote : UInt8) (input : List UInt8) : Option Nat :=
  Option.merge min
    (input.findIdx? fun b => b = quote || b = Byte.backslash || b = Byte.lineFeed)
    (input.findIdx? (· = Byte.carriageReturn))

private theorem merge_min_zero_left (second : Option Nat) :
    Option.merge min (some 0) second = some 0 := by
  cases second <;> simp [Option.merge]

private theorem merge_min_zero_right (first : Option Nat) :
    Option.merge min first (some 0) = some 0 := by
  cases first <;> simp [Option.merge]

private theorem merge_min_map_succ (first second : Option Nat) :
    Option.merge min (first.map (· + 1)) (second.map (· + 1)) =
      (Option.merge min first second).map (· + 1) := by
  cases first <;> cases second <;> simp [Option.merge]

/-- The plain part of a literal reaches up to what is found first, or up to the
end if nothing is. -/
theorem plainLength_eq_literalStop? (quote : UInt8) (input : List UInt8) :
    plainLength quote input = (literalStop? quote input).getD input.length := by
  induction input with
  | nil => rfl
  | cons b rest ih =>
    unfold plainLength literalStop? at ih ⊢
    by_cases hstops : Byte.stopsLiteral quote b
    · -- one of the two searches ends at once, and so does the other or it goes on
      rw [List.takeWhile_cons_of_neg (by simp [hstops])]
      rw [Byte.stopsLiteral, Bool.or_eq_true] at hstops
      rw [List.findIdx?_cons, List.findIdx?_cons]
      rcases hstops with hfirst | hreturn
      · rw [if_pos hfirst, merge_min_zero_left]
        rfl
      · rw [if_pos hreturn, merge_min_zero_right]
        rfl
    · have hplain : (!Byte.stopsLiteral quote b) = true := by simpa using hstops
      rw [Byte.stopsLiteral, Bool.or_eq_true, not_or] at hstops
      rw [List.takeWhile_cons, if_pos hplain, List.findIdx?_cons, List.findIdx?_cons,
        if_neg hstops.1, if_neg hstops.2, merge_min_map_succ, List.length_cons, ih]
      exact (Option.getD_map (· + 1) _ _).symm

section Scan

variable {quote : UInt8}

/-- What a jump passes, the automaton reads as content. -/
theorem scan_plain (quote : UInt8) (input : List UInt8) :
    LiteralState.content.scan quote input =
      (LiteralState.content.scan quote (input.drop (plainLength quote input))).extend
        (plainLength quote input) := by
  induction input with
  | nil => rfl
  | cons b rest ih =>
    unfold plainLength at ih ⊢
    rw [List.takeWhile_cons]
    cases hstops : Byte.stopsLiteral quote b with
    | true => rfl
    | false =>
      rw [Bool.not_false, if_pos rfl, List.length_cons, List.drop_succ_cons,
        LiteralState.scan, LiteralState.move_plain hstops]
      dsimp only
      rw [ih, LiteralBody.extend_extend]

/-- Behind a character, an escape is over. -/
theorem scan_escapedChar {input : List UInt8} (hinput : IsEncoding input) :
    LiteralState.escapedChar.scan quote input = LiteralState.content.scan quote input := by
  cases input with
  | nil => rfl
  | cons b rest =>
    have hfirst : b.IsUTF8FirstByte := hinput.isUTF8FirstByte
    rw [LiteralState.scan, LiteralState.scan]
    have hmove : LiteralState.escapedChar.move quote b rest.head? =
        LiteralState.content.move quote b rest.head? := if_pos hfirst
    rw [hmove]

/-- The bytes behind the first one of a character belong to the escape. -/
theorem scan_escapedChar_append {more : List UInt8} (tail : List UInt8)
    (hmore : ∀ b ∈ more, ¬b.IsUTF8FirstByte) :
    LiteralState.escapedChar.scan quote (more ++ tail) =
      (LiteralState.escapedChar.scan quote tail).extend more.length := by
  induction more with
  | nil => rfl
  | cons b more ih =>
    rw [List.forall_mem_cons] at hmore
    have hmove (next : Option UInt8) :
        LiteralState.escapedChar.move quote b next = .goOn .escapedChar := if_neg hmore.1
    rw [List.cons_append, LiteralState.scan, hmove]
    dsimp only
    rw [ih hmore.2, LiteralBody.extend_extend, List.length_cons]

/-- A text may be cut behind what a backslash escapes. -/
theorem cutsAt_escapedLength {input : List UInt8} (hinput : IsEncoding input) :
    CutsAt input (escapedLength input) := by
  unfold escapedLength
  split
  · rename_i hreturn
    have hfeed : input[1]? = some Byte.lineFeed := by
      rw [← List.getElem?_take_of_lt (Nat.lt_succ_self 1), hreturn]
      rfl
    exact cutsAt_of_besideAscii hinput
      (Or.inr (Or.inr ⟨1, Byte.lineFeed, rfl, hfeed, by decide⟩))
  · exact cutsAt_charLength hinput

/-- What a backslash escapes, the automaton reads as escaped. -/
theorem scan_escape {input : List UInt8} (hinput : IsEncoding input) :
    LiteralState.escape.scan quote input =
      (LiteralState.content.scan quote (input.drop (escapedLength input))).extend
        (escapedLength input) := by
  by_cases hreturn : input.take 2 = [Byte.carriageReturn, Byte.lineFeed]
  · -- a line end is read as its two bytes
    have hsplit := List.take_append_drop 2 input
    rw [hreturn] at hsplit
    rw [escapedLength, if_pos hreturn, ← hsplit]
    rfl
  cases input with
  | nil => rfl
  | cons b rest =>
    have hmove : LiteralState.escape.move quote b rest.head? = .goOn .escapedChar := by
      apply if_neg
      intro hgiven
      obtain ⟨rfl, hfeed⟩ := hgiven
      obtain ⟨tail, rfl⟩ := List.head?_eq_some_iff.mp hfeed
      exact hreturn rfl
    obtain ⟨c, tail, hsplit, htail⟩ := hinput.cons_cases
    have hlength : charLength (b :: rest) = (String.utf8EncodeChar c).length := by
      rw [← take_charLength hsplit, List.length_take_of_le (charLength_le _)]
    rw [escapedLength, if_neg hreturn, hlength, LiteralState.scan, hmove]
    cases hc : String.utf8EncodeChar c with
    | nil => exact absurd hc String.utf8EncodeChar_ne_nil
    | cons first more =>
      rw [hc, List.cons_append] at hsplit
      obtain ⟨rfl, rfl⟩ := List.cons.inj hsplit
      dsimp only
      rw [scan_escapedChar_append tail (isUTF8FirstByte_utf8EncodeChar hc).2,
        scan_escapedChar htail, LiteralBody.extend_extend, List.length_cons,
        List.drop_succ_cons, List.drop_left]

/-- The literal body that is read in jumps is the one that the automaton reads. -/
theorem literalBody_eq_scan (hquote : Byte.isQuote quote) {input : List UInt8}
    (hinput : IsEncoding input) :
    literalBody quote input = LiteralState.content.scan quote input := by
  have hback {input : List UInt8} (hinput : IsEncoding input) :
      IsEncoding (input.drop (plainLength quote input)) :=
    (cutsAt_of_besideAscii hinput (besideAscii_plainLength (Byte.ascii_of_isQuote hquote) _)).back
  fun_induction literalBody quote input with
  | case1 input plain stop =>
    rw [scan_plain, stop]
    simp [LiteralState.scan, LiteralBody.extend, plain]
  | case2 input plain rest taken stop ih =>
    have hrest := hback hinput
    rw [stop] at hrest
    have hescaped := hrest.tail_of_ascii (by decide)
    rw [scan_plain, stop, LiteralState.scan, LiteralState.move_backslash hquote]
    dsimp only
    rw [scan_escape hescaped, ih (cutsAt_escapedLength hescaped).back, LiteralBody.extend_extend,
      LiteralBody.extend_extend]
    congr 1
    omega
  | case3 input plain rest stop =>
    rw [scan_plain, stop, LiteralState.scan, LiteralState.move_lineFeed hquote]
    simp [LiteralBody.extend, plain]
  | case4 input plain rest hnext stop =>
    rw [scan_plain, stop, LiteralState.scan, LiteralState.move_carriageReturn hquote,
      if_pos hnext]
    simp [LiteralBody.extend, plain]
  | case5 input plain rest hnext stop _ _ ih =>
    have hrest := hback hinput
    rw [stop] at hrest
    rw [scan_plain, stop, LiteralState.scan, LiteralState.move_carriageReturn hquote,
      if_neg hnext]
    dsimp only
    rw [ih (hrest.tail_of_ascii (by decide)), LiteralBody.extend_extend, Nat.add_comm 1]
  | case6 input plain b rest stop hbackslash hfeed hreturn =>
    have hclose := eq_quote_of_stopsLiteral (stopsLiteral_of_drop_plainLength stop)
      hbackslash hfeed hreturn
    have hmove : LiteralState.content.move quote b rest.head? = .close := if_pos hclose
    rw [scan_plain, stop, LiteralState.scan, hmove]
    simp [LiteralBody.extend, plain, Nat.add_comm]

end Scan

example : LiteralState.content.scan Byte.doubleQuote (bytes "a\\\"\\é\\\r\n\r\\\\\"b") =
    ⟨13, true⟩ := by
  decide +kernel

/-! ## Tokens that are literals -/

/-- The kind of a literal with this quote. -/
def Tag.ofLiteral (quote : UInt8) : Bool → Tag
  | true => if quote = Byte.doubleQuote then .string else .char
  | false => if quote = Byte.doubleQuote then .openString else .openChar

/-- What may stand right before the quote of a literal and belongs to it. -/
def IsLiteralMark (mark : List UInt8) : Prop :=
  mark = [] ∨ mark ∈ encodingMarks

theorem literal_eq (quote : UInt8) (rest : List UInt8) :
    literal (quote :: rest) =
      ⟨.ofLiteral quote (literalBody quote rest).closed,
        1 + (literalBody quote rest).length⟩ := by
  rw [literal, Nat.add_comm]
  cases (literalBody quote rest).closed <;> rfl

section Tokens

variable {table : OperatorTable} {inDirective : Bool} {input : List UInt8} {token : Token}

/-- A token of one of the four kinds is a literal with its mark. -/
theorem Reads.of_isLiteral (h : Reads table inDirective input token)
    (htag : token.tag ∈ [Tag.string, Tag.char, Tag.openString, Tag.openChar]) :
    ∃ mark quote rest, IsLiteralMark mark ∧ Byte.isQuote quote ∧
      input = mark ++ quote :: rest ∧
      token = ⟨.ofLiteral quote (literalBody quote rest).closed,
        mark.length + (1 + (literalBody quote rest).length)⟩ := by
  cases h with
  | @bodyLiteral quote rest hquote =>
    refine ⟨[], quote, rest, Or.inl rfl, hquote, rfl, ?_⟩
    rw [literal_eq, List.length_nil, Nat.zero_add]
  | @markedLiteral mark quote rest hmark hquote =>
    refine ⟨mark, quote, rest, Or.inr hmark, hquote, rfl, ?_⟩
    rw [literal_eq]
  | @literal quote rest hquote =>
    refine ⟨[], quote, rest, Or.inl rfl, hquote, rfl, ?_⟩
    rw [literal_eq, List.length_nil, Nat.zero_add]
  | _ => simp at htag

/-- Outside of a directive, a byte that starts a word starts a word or a literal
with a mark. -/
theorem lexeme_of_isWordStart {b : UInt8} {rest : List UInt8} (hstart : Byte.isWordStart b) :
    lexeme table false (b :: rest) = wordOrLiteral (b :: rest) := by
  have hne (other : UInt8) (hother : Byte.isWordStart other = false) : b ≠ other := by
    intro heq
    subst heq
    rw [hother] at hstart
    cases hstart
  have hreturn := hne Byte.carriageReturn (by decide)
  have hslash := hne Byte.slash (by decide)
  have hblank : ¬Byte.isBlank b := by
    intro hblank
    simp only [Byte.isBlank, Bool.or_eq_true, decide_eq_true_eq] at hblank
    rcases hblank with ((h | h) | h) | h <;> exact hne _ (by decide) h
  have hlength : blankLength (b :: rest) = 0 :=
    blankLength_eq_zero_iff.mpr ⟨hblank, fun h => absurd h hreturn⟩
  unfold lexeme
  dsimp only
  rw [if_neg (by omega), if_neg hreturn, if_neg (hne _ (by decide)),
    if_neg (fun h => hslash h.1), if_neg (fun h => hslash h.1), if_neg Bool.false_ne_true,
    if_pos hstart]

/-- A mark is a word. -/
theorem isWord_of_mem_encodingMarks {mark : List UInt8} (h : mark ∈ encodingMarks) :
    ∃ b more, mark = b :: more ∧ Byte.isWordStart b ∧ ∀ c ∈ mark, Byte.isWord c := by
  simp only [encodingMarks, List.mem_cons, List.not_mem_nil, or_false] at h
  rcases h with rfl | rfl | rfl | rfl <;>
    exact ⟨_, _, rfl, by decide, List.all_eq_true.mp (by decide)⟩

theorem wordLength_append_quote {word : List UInt8} (hword : ∀ b ∈ word, Byte.isWord b)
    {quote : UInt8} (hquote : Byte.isQuote quote) (rest : List UInt8) :
    wordLength (word ++ quote :: rest) = word.length := by
  have hnot : ¬Byte.isWord quote := by
    simp only [Byte.isQuote, Bool.or_eq_true, decide_eq_true_eq] at hquote
    rcases hquote with rfl | rfl <;> decide
  rw [wordLength, List.takeWhile_append_of_pos hword, List.takeWhile_cons_of_neg hnot,
    List.append_nil]

/-- Outside of a directive, a quote starts a literal, and so does a mark right
before it. -/
theorem lexeme_literal {mark : List UInt8} (hmark : IsLiteralMark mark) {quote : UInt8}
    (hquote : Byte.isQuote quote) (rest : List UInt8) :
    lexeme table false (mark ++ quote :: rest) =
      ⟨.ofLiteral quote (literalBody quote rest).closed,
        mark.length + (1 + (literalBody quote rest).length)⟩ := by
  rcases hmark with rfl | hmark
  · have hlexeme : lexeme table false (quote :: rest) = literal (quote :: rest) := by
      simp only [Byte.isQuote, Bool.or_eq_true, decide_eq_true_eq] at hquote
      rcases hquote with rfl | rfl <;> rfl
    rw [List.nil_append, hlexeme, literal_eq, List.length_nil, Nat.zero_add]
  · obtain ⟨b, more, hcons, hstart, hword⟩ := isWord_of_mem_encodingMarks hmark
    have hlexeme : lexeme table false (mark ++ quote :: rest) =
        wordOrLiteral (mark ++ quote :: rest) := by
      rw [hcons]
      exact lexeme_of_isWordStart hstart
    have hlength := wordLength_append_quote hword hquote rest
    rw [hlexeme]
    unfold wordOrLiteral
    dsimp only
    rw [hlength, List.take_left, List.drop_left, if_pos ⟨hmark, hquote⟩, literal_eq]

end Tokens

/-- The literals of a source are what the automaton reads.  A jump goes to what
two searches find.  From every quote on, the jumps stop where the automaton stops
and find the literal closed where it does.  Outside of a directive, the quote
starts a literal, with or without a mark.  Every token that is a literal is one
of these. -/
theorem literals_scanned (table : OperatorTable) (foldDirectives : Bool) (source : String) :
    (∀ quote input, plainLength quote input = (literalStop? quote input).getD input.length) ∧
    (∀ before quote rest, bytes source = before ++ quote :: rest → Byte.isQuote quote →
      let body := LiteralState.content.scan quote rest
      literalBody quote rest = body ∧
      ∀ mark, IsLiteralMark mark → lexeme table false (mark ++ quote :: rest) =
        ⟨.ofLiteral quote body.closed, mark.length + (1 + body.length)⟩) ∧
    ∀ placed ∈ (Scanner.ofText table foldDirectives source).placed,
      placed.tag ∈ [Tag.string, Tag.char, Tag.openString, Tag.openChar] →
      ∃ before mark quote rest, bytes source = before ++ (mark ++ quote :: rest) ∧
        IsLiteralMark mark ∧ Byte.isQuote quote ∧
        let body := LiteralState.content.scan quote rest
        placed = ⟨.ofLiteral quote body.closed, before.length,
          (mark ++ quote :: rest).take (mark.length + (1 + body.length))⟩ := by
  have hscan {before rest : List UInt8} {quote : UInt8}
      (hsplit : bytes source = before ++ quote :: rest) (hquote : Byte.isQuote quote) :
      literalBody quote rest = LiteralState.content.scan quote rest := by
    have hsource := isEncoding_bytes source
    rw [hsplit] at hsource
    exact literalBody_eq_scan hquote (hsource.behind_ascii (Byte.ascii_of_isQuote hquote))
  refine ⟨plainLength_eq_literalStop?, ?_, ?_⟩
  · intro before quote rest hsplit hquote body
    have hbody := hscan hsplit hquote
    refine ⟨hbody, fun mark hmark => ?_⟩
    rw [lexeme_literal hmark hquote, hbody]
  · intro placed hplaced htag
    obtain ⟨before, behind, hbytes, hstart, hreads⟩ := Scanner.reads_of_mem hplaced
    obtain ⟨mark, quote, rest, hmark, hquote, hinput, htoken⟩ := hreads.of_isLiteral htag
    rw [hinput, ← List.append_assoc] at hbytes
    have hbody := hscan hbytes hquote
    rw [hbody] at htoken
    obtain ⟨htag, hlength⟩ := Token.mk.inj htoken
    refine ⟨_, mark, quote, rest, by rwa [← List.append_assoc], hmark, hquote, ?_⟩
    dsimp only
    rw [← htag, ← hlength, ← hinput, List.take_left, ← hstart]

end CLexicon
