import CLexicon.Proofs.Scan.Literals
import CLexicon.Proofs.Scan.Maximal

/-!
# Directives

The text of a directive is read in pieces that the scanner must not cut, and what
is left of the line may have more of it.

* `bodyLength_drop_bodyLength` and `Reads.bodyLength_behind`: no text of a
  directive is left behind some text of it, and none becomes due but behind a
  comment that is closed.  `Scans.exists_comment` is a whole run of tokens.
* `FeedsEscaped`: the line feeds of some bytes are all continuations.  It is
  carried through a literal by the automaton (`LiteralState.feedsEscaped_move`
  is one byte), and through the pieces of a directive by `feedsEscaped_append`.
* `DirectiveLine` and `DirectiveText`: what holds of a line, and of the text of a
  directive.  `directives_structured` says so of all lines of a source.
-/

namespace CLexicon

open Text

/-! ## Where no text of a directive is left -/

theorem AtLineEnd.bodyLength_eq_zero {input : List UInt8} (h : AtLineEnd input) :
    bodyLength input = 0 := by
  cases h with
  | endOfText => rw [bodyLength]
  | lineFeed rest =>
    have hstop : stopsBody Byte.lineFeed rest.head? := stopsBody_iff.mpr (Or.inl rfl)
    rw [bodyLength, if_pos hstop]
  | returnFeed rest =>
    have hstop : stopsBody Byte.carriageReturn (Byte.lineFeed :: rest).head? :=
      stopsBody_iff.mpr (Or.inr (Or.inl ⟨rfl, rfl⟩))
    rw [bodyLength, if_pos hstop]

/-- The text of a directive is read as far as there is any. -/
theorem bodyLength_drop_bodyLength (input : List UInt8) :
    bodyLength (input.drop (bodyLength input)) = 0 := by
  fun_induction bodyLength input with
  | case1 => rw [List.drop_nil, bodyLength]
  | case2 b rest hstop => rw [List.drop_zero, bodyLength, if_pos hstop]
  | case3 b rest hstop hblank hzero _ =>
    rw [List.drop_zero, bodyLength, if_neg hstop, if_pos hblank, hzero]
  | case4 b rest _ _ length hlength ih =>
    rwa [hlength] at ih
  | case5 b rest hstop hblank hpiece =>
    rw [List.drop_zero, bodyLength, if_neg hstop, if_neg hblank, hpiece]
  | case6 b rest _ _ length hpiece ih =>
    rwa [← List.drop_drop, drop_pieceLength? hpiece]

/-- No blank space stops the text of a directive. -/
theorem not_stopsBody_of_blank {b : UInt8} {next : Option UInt8}
    (h : Byte.isBlank b ∨ b = Byte.carriageReturn ∧ next ≠ some Byte.lineFeed) :
    ¬stopsBody b next := by
  rw [stopsBody_iff]
  intro hstop
  rcases h with hblank | ⟨rfl, hnext⟩
  · rcases hstop with rfl | ⟨rfl, -⟩ | ⟨rfl, -⟩ <;> cases hblank
  · rcases hstop with hfeed | ⟨-, hfeed⟩ | ⟨hslash, -⟩
    · exact absurd hfeed (by decide)
    · exact hnext hfeed
    · exact absurd hslash (by decide)

/-- Blank space leaves the text of a directive behind it, if there is any. -/
theorem bodyLength_drop_blankLength {input : List UInt8} (hzero : bodyLength input = 0) :
    bodyLength (input.drop (blankLength input)) = 0 := by
  induction input with
  | nil => exact hzero
  | cons b rest ih =>
    rw [blankLength]
    split
    · rename_i hblank
      rw [bodyLength, if_neg (not_stopsBody_of_blank hblank),
        if_pos (hblank.imp_right And.left)] at hzero
      apply ih
      cases hrest : bodyLength rest with
      | zero => rfl
      | succ length =>
        rw [hrest] at hzero
        cases hzero
    · exact hzero

section Reads

variable {table : OperatorTable} {foldDirectives : Bool} {line : LineState}
  {input : List UInt8} {token : Token} {tokens : List Token} {position : Nat}

/-- The text of a directive is read where some is due. -/
theorem Reads.of_directiveBody {inDirective : Bool}
    (h : Reads table inDirective input token) (htag : token.tag = .directiveBody) :
    inDirective = true ∧ blankLength input = 0 ∧ 0 < bodyLength input ∧
      token.length = bodyLength input := by
  cases h with
  | body hblank hpos => exact ⟨rfl, hblank, hpos, rfl⟩
  | bodyLiteral => exact absurd htag (literal_tag_ne (by decide) _ _)
  | markedLiteral => exact absurd htag (literal_tag_ne (by decide) _ _)
  | literal => exact absurd htag (literal_tag_ne (by decide) _ _)
  | _ => simp at htag

/-- What a directive goes on with: trivia, text of it, and literals and comments
that are open. -/
theorem Reads.tag_of_inDirective (h : Reads table true input token) :
    token.tag.isTrivia ∨
      token.tag ∈ [Tag.directiveBody, Tag.openString, Tag.openChar, Tag.openComment] := by
  cases h with
  | @bodyLiteral quote rest _ hopen =>
    have hmem := literal_tag_mem quote rest
    rw [hopen, if_neg Bool.false_ne_true] at hmem
    exact Or.inr (List.mem_cons_of_mem _ (List.mem_append_left [Tag.openComment] hmem))
  | _ => simp [Tag.isTrivia]

/-- Behind a token of a directive no text of it is left, if none stood there
before or the token is that text.  Only behind a closed comment there may be. -/
theorem Reads.bodyLength_behind (h : Reads table true input token)
    (hzero : token.tag ≠ .directiveBody → bodyLength input = 0)
    (hnewline : token.tag ≠ .newline) (hcomment : token.tag ≠ .blockComment) :
    bodyLength (input.drop token.length) = 0 := by
  cases h with
  | blank => exact bodyLength_drop_blankLength (hzero (by simp))
  | returnFeed => exact absurd rfl hnewline
  | lineFeed => exact absurd rfl hnewline
  | lineComment => exact (atLineEnd_lineLength _).bodyLength_eq_zero
  | closedComment => exact absurd rfl hcomment
  | @openComment _ rest =>
    have hdrop : (Byte.slash :: Byte.star :: rest).drop (rest.length + 2) = [] :=
      List.drop_eq_nil_of_le (Nat.le_refl _)
    dsimp only
    rw [hdrop]
    exact AtLineEnd.endOfText.bodyLength_eq_zero
  | body => exact bodyLength_drop_bodyLength input
  | @bodyLiteral quote rest _ hopen =>
    rcases literalBody_ends quote rest with ⟨hclosed, -⟩ | ⟨-, hend⟩
    · rw [hopen] at hclosed
      cases hclosed
    · exact hend.bodyLength_eq_zero

/-- In a directive of which no text is left, a closed comment stands before any
more text of it. -/
theorem Scans.exists_comment {between after : List PlacedToken} {body : PlacedToken}
    (h : Scans table foldDirectives line input tokens) (hin : line.inDirective = true)
    (hzero : bodyLength input = 0)
    (hsplit : placeTokens position input tokens = between ++ body :: after)
    (hbody : body.tag = .directiveBody)
    (hline : ∀ placed ∈ between, placed.tag ≠ .newline) :
    ∃ comment ∈ between, comment.tag = .blockComment := by
  induction between generalizing line input tokens position with
  | nil =>
    cases h with
    | done => cases hsplit
    | @token _ _ token tokens hinput htoken _ =>
    obtain ⟨rfl, -⟩ := List.cons.inj hsplit
    have hbody := (Reads.of_lexeme_eq hinput htoken).of_directiveBody hbody
    omega
  | cons first between ih =>
    cases h with
    | done => cases hsplit
    | @token _ _ token tokens hinput htoken htail =>
    have hreads := Reads.of_lexeme_eq hinput htoken
    rw [hin] at hreads
    rw [placeTokens, List.cons_append] at hsplit
    obtain ⟨rfl, hrest⟩ := List.cons.inj hsplit
    rw [List.forall_mem_cons] at hline
    by_cases hcomment : token.tag = .blockComment
    · exact ⟨_, List.mem_cons_self, hcomment⟩
    · have hbehind := hreads.bodyLength_behind (fun _ => hzero) hline.1 hcomment
      obtain ⟨comment, hmem, htag⟩ :=
        ih htail (LineState.inDirective_after hin hline.1) hbehind hrest hline.2
      exact ⟨comment, List.mem_cons_of_mem _ hmem, htag⟩

end Reads

/-! ## Line feeds that are continuations -/

/-- Each line feed of the text, which stands behind some other bytes, has a
backslash before it, or a backslash and a carriage return. -/
def FeedsEscaped (before text : List UInt8) : Prop :=
  ∀ front after, text = front ++ Byte.lineFeed :: after →
    [Byte.backslash] <:+ before ++ front ∨
      [Byte.backslash, Byte.carriageReturn] <:+ before ++ front

theorem feedsEscaped_of_not_mem {before text : List UInt8} (h : Byte.lineFeed ∉ text) :
    FeedsEscaped before text := by
  intro front after hsplit
  rw [hsplit] at h
  exact absurd (List.mem_append_right front List.mem_cons_self) h

theorem feedsEscaped_append {before first second : List UInt8}
    (hfirst : FeedsEscaped before first) (hsecond : FeedsEscaped (before ++ first) second) :
    FeedsEscaped before (first ++ second) := by
  intro front after hsplit
  rcases List.append_eq_append_iff.mp hsplit with ⟨middle, rfl, hmiddle⟩ | ⟨middle, rfl, hmiddle⟩
  · rw [← List.append_assoc]
    exact hsecond middle after hmiddle
  · cases middle with
    | nil =>
      have hbefore := hsecond [] after hmiddle.symm
      rwa [List.append_nil, List.append_nil] at hbefore
    | cons b middle =>
      obtain ⟨rfl, -⟩ := List.cons.inj hmiddle
      exact hfirst front middle rfl

theorem feedsEscaped_singleton {before : List UInt8} {b : UInt8}
    (h : b = Byte.lineFeed → [Byte.backslash] <:+ before ∨
      [Byte.backslash, Byte.carriageReturn] <:+ before) :
    FeedsEscaped before [b] := by
  intro front after hsplit
  cases front with
  | nil =>
    rw [List.append_nil]
    exact h (List.cons.inj hsplit).1
  | cons first front => simp at hsplit

theorem feedsEscaped_cons {before text : List UInt8} {b : UInt8} (hb : b ≠ Byte.lineFeed)
    (htext : FeedsEscaped (before ++ [b]) text) : FeedsEscaped before (b :: text) := by
  rw [← List.singleton_append]
  exact feedsEscaped_append (feedsEscaped_singleton fun hfeed => absurd hfeed hb) htext

/-! ### Within a literal -/

namespace LiteralState

/-- What the bytes before a state end with. -/
def Follows (before : List UInt8) : LiteralState → Prop
  | content | escapedChar => True
  | escape => [Byte.backslash] <:+ before
  | escapedReturn => [Byte.backslash, Byte.carriageReturn] <:+ before

variable {quote b : UInt8} {next : Option UInt8} {before : List UInt8}

theorem follows_content : content.Follows before :=
  trivial

/-- A byte that is not escaped and with which a literal goes on is no line
feed. -/
theorem follows_unescaped {state : LiteralState}
    (hmove : LiteralMove.unescaped quote b next = .goOn state) :
    b ≠ Byte.lineFeed ∧ state.Follows (before ++ [b]) := by
  unfold LiteralMove.unescaped at hmove
  split at hmove
  · cases hmove
  split at hmove
  · rename_i hbackslash
    cases hmove
    subst hbackslash
    exact ⟨by decide, List.suffix_append before _⟩
  split at hmove
  · cases hmove
  · rename_i hstop
    cases hmove
    exact ⟨fun hfeed => hstop (Or.inl hfeed), trivial⟩

/-- A byte with which a literal goes on is no line feed, or it is escaped. -/
theorem feedsEscaped_move {state after : LiteralState} (hstate : state.Follows before)
    (hmove : state.move quote b next = .goOn after) :
    FeedsEscaped before [b] ∧ after.Follows (before ++ [b]) := by
  have hplain (hne : b ≠ Byte.lineFeed) : FeedsEscaped before [b] :=
    feedsEscaped_singleton fun hfeed => absurd hfeed hne
  cases state with
  | content =>
    rw [move] at hmove
    obtain ⟨hne, hfollows⟩ := follows_unescaped hmove
    exact ⟨hplain hne, hfollows⟩
  | escape =>
    refine ⟨feedsEscaped_singleton fun _ => Or.inl hstate, ?_⟩
    rw [move] at hmove
    split at hmove
    · rename_i hreturn
      cases hmove
      rw [hreturn.1]
      exact (List.suffix_append_inj_of_length_eq rfl).mpr ⟨hstate, rfl⟩
    · cases hmove
      trivial
  | escapedReturn =>
    cases hmove
    exact ⟨feedsEscaped_singleton fun _ => Or.inr hstate, trivial⟩
  | escapedChar =>
    rw [move] at hmove
    split at hmove
    · obtain ⟨hne, hfollows⟩ := follows_unescaped hmove
      exact ⟨hplain hne, hfollows⟩
    · rename_i hmore
      cases hmove
      -- a line feed is a character of its own
      exact ⟨hplain fun hfeed => hmore (hfeed ▸ (by decide)), trivial⟩

theorem eq_quote_of_close {state : LiteralState} (hmove : state.move quote b next = .close) :
    b = quote := by
  have hunescaped (h : LiteralMove.unescaped quote b next = .close) : b = quote := by
    unfold LiteralMove.unescaped at h
    split at h
    · assumption
    split at h
    · cases h
    split at h <;> cases h
  cases state with
  | content =>
    rw [move] at hmove
    exact hunescaped hmove
  | escape =>
    rw [move] at hmove
    split at hmove <;> cases hmove
  | escapedReturn => cases hmove
  | escapedChar =>
    rw [move] at hmove
    split at hmove
    · exact hunescaped hmove
    · cases hmove

/-- All line feeds of a literal are continuations. -/
theorem feedsEscaped_scan (hquote : Byte.isQuote quote) {state : LiteralState}
    (hstate : state.Follows before) (input : List UInt8) :
    FeedsEscaped before (input.take (state.scan quote input).length) := by
  induction input generalizing state before with
  | nil => exact feedsEscaped_of_not_mem (by simp)
  | cons b rest ih =>
    rw [scan]
    cases hmove : state.move quote b rest.head? with
    | goOn next =>
      obtain ⟨hb, hnext⟩ := feedsEscaped_move hstate hmove
      exact feedsEscaped_append hb (ih hnext)
    | close =>
      have hne : quote ≠ Byte.lineFeed := (Byte.ne_of_isQuote hquote (by decide)).symm
      rw [eq_quote_of_close hmove]
      exact feedsEscaped_singleton fun hfeed => absurd hfeed hne
    | stop => exact feedsEscaped_of_not_mem (by simp)

end LiteralState

/-! ### Within a directive -/

/-- A character that is not a line feed has none in it. -/
theorem feed_not_mem_char {b : UInt8} {rest : List UInt8} (hinput : IsEncoding (b :: rest))
    (hb : b ≠ Byte.lineFeed) : Byte.lineFeed ∉ (b :: rest).take (charLength (b :: rest)) := by
  obtain ⟨c, tail, hsplit, -⟩ := hinput.cons_cases
  rw [take_charLength hsplit]
  rcases utf8EncodeChar_cases c with ⟨first, hc, -⟩ | ⟨first, more, hc, -, hhigh⟩
  · rw [hc] at hsplit ⊢
    rw [← (List.cons.inj hsplit).1, List.mem_singleton]
    exact hb.symm
  · rw [hc]
    exact fun hmem => absurd (hhigh _ hmem) (by decide)

/-- All line feeds of a piece of a directive are continuations. -/
theorem feedsEscaped_pieceLength? {before : List UInt8} {b : UInt8} {rest : List UInt8}
    {length : Nat} (hinput : IsEncoding (b :: rest)) (hb : b ≠ Byte.lineFeed)
    (h : pieceLength? (b :: rest) = some length) :
    FeedsEscaped before ((b :: rest).take length) := by
  rw [pieceLength?] at h
  split at h
  · rename_i hfeed
    obtain ⟨tail, rfl⟩ := List.head?_eq_some_iff.mp hfeed.2
    obtain rfl := Option.some.inj h
    rw [hfeed.1]
    refine feedsEscaped_cons (by decide) (feedsEscaped_singleton fun _ => Or.inl ?_)
    exact List.suffix_append before _
  split at h
  · rename_i hreturn
    obtain rfl := Option.some.inj h
    rw [List.take_succ_cons, hreturn.2, hreturn.1]
    refine feedsEscaped_cons (by decide) (feedsEscaped_cons (by decide) ?_)
    refine feedsEscaped_singleton fun _ => Or.inr ?_
    rw [List.append_assoc]
    exact List.suffix_append before _
  split at h
  · rename_i hquote
    dsimp only at h
    split at h
    · obtain rfl := Option.some.inj h
      rw [literalBody_eq_scan hquote (hinput.tail_of_ascii (Byte.ascii_of_isQuote hquote))]
      exact feedsEscaped_cons hb
        (LiteralState.feedsEscaped_scan hquote LiteralState.follows_content rest)
    · cases h
  · obtain rfl := Option.some.inj h
    exact feedsEscaped_of_not_mem (feed_not_mem_char hinput hb)

/-- All line feeds of the text of a directive are continuations. -/
theorem feedsEscaped_bodyLength {before input : List UInt8} (hinput : IsEncoding input) :
    FeedsEscaped before (input.take (bodyLength input)) := by
  fun_induction bodyLength input generalizing before with
  | case1 => exact feedsEscaped_of_not_mem (by simp)
  | case2 => exact feedsEscaped_of_not_mem (by simp)
  | case3 => exact feedsEscaped_of_not_mem (by simp)
  | case4 b rest hstop hblank length hlength ih =>
    have hascii : b < 0x80 :=
      hblank.elim Byte.ascii_of_isBlank fun hreturn => hreturn ▸ (by decide)
    have hb : b ≠ Byte.lineFeed := fun hfeed => hstop (stopsBody_iff.mpr (Or.inl hfeed))
    rw [hlength] at ih
    exact feedsEscaped_cons hb (ih (hinput.tail_of_ascii hascii))
  | case5 => exact feedsEscaped_of_not_mem (by simp)
  | case6 b rest hstop hblank length hpiece ih =>
    have hb : b ≠ Byte.lineFeed := fun hfeed => hstop (stopsBody_iff.mpr (Or.inl hfeed))
    rw [List.take_add, drop_pieceLength? hpiece]
    refine feedsEscaped_append (feedsEscaped_pieceLength? hinput hb hpiece) (ih ?_)
    rw [← drop_pieceLength? hpiece]
    exact (not_endsBlank_pieceLength? hinput hblank hpiece).2.back

/-! ## Lines of a source -/

/-- What holds of a line with folded directives. -/
structure DirectiveLine (line : List PlacedToken) : Prop where
  /-- The first token that is not trivia is `#` or `%:`, if the text of a directive
  comes. -/
  marked : ∀ body ∈ line, body.tag = .directiveBody →
    ∃ mark, line.find? (!·.tag.isTrivia) = some mark ∧ mark.isDirectiveMark
  /-- Behind that mark, nothing comes but trivia, text of the directive, and
  literals and comments that are open. -/
  folded : ∀ before mark after, line = before ++ mark :: after →
    (∀ placed ∈ before, placed.tag.isTrivia) → mark.isDirectiveMark →
    ∀ placed ∈ after, placed.tag.isTrivia ∨
      placed.tag ∈ [Tag.directiveBody, Tag.openString, Tag.openChar, Tag.openComment]
  /-- A comment parts two texts of a directive. -/
  parted : ∀ before first between second after,
    line = before ++ first :: (between ++ second :: after) →
    first.tag = .directiveBody → second.tag = .directiveBody →
    ∃ comment ∈ between, comment.tag = .blockComment

/-- What holds of the text of a directive. -/
structure DirectiveText (text : List UInt8) : Prop where
  nonempty : text ≠ []
  first : ∀ b ∈ text.head?, ¬(Byte.isBlank b ∨ b = Byte.carriageReturn)
  last : ∀ b ∈ text.getLast?, ¬(Byte.isBlank b ∨ b = Byte.carriageReturn)
  /-- Each line feed is escaped. -/
  feeds : ∀ before after, text = before ++ Byte.lineFeed :: after →
    [Byte.backslash] <:+ before ∨ [Byte.backslash, Byte.carriageReturn] <:+ before

section Lines

variable {table : OperatorTable} {input : List UInt8} {tokens : List Token} {position : Nat}

/-- A mark that only trivia comes before is the first token that is not
trivia. -/
theorem find?_mark {before more : List PlacedToken} {mark : PlacedToken}
    (hbefore : ∀ placed ∈ before, placed.tag.isTrivia) (hmark : mark.isDirectiveMark) :
    (before ++ mark :: more).find? (!·.tag.isTrivia) = some mark := by
  have htag := (PlacedToken.isDirectiveMark_iff.mp hmark).1
  have hnone : before.find? (!·.tag.isTrivia) = none := by simpa using hbefore
  rw [List.find?_append, hnone, Option.none_or, List.find?_cons_of_pos]
  rw [htag]
  rfl

/-- The lines of a run that folds directives. -/
theorem Scans.directiveLine (h : Scans table true {} input tokens) {line : List PlacedToken}
    (hline : IsLine (placeTokens position input tokens) line) : DirectiveLine line := by
  constructor
  case marked =>
    intro body hmem hbody
    obtain ⟨before, after, rfl⟩ := List.append_of_mem hmem
    obtain ⟨behind, hreads⟩ := h.reads_on_line hline
    obtain ⟨-, mark, hfind, hmark⟩ :=
      LineState.inDirective_ofLine_iff.mp (hreads.of_directiveBody hbody).1
    refine ⟨mark, ?_, hmark⟩
    rw [List.find?_append, hfind, Option.some_or]
  case folded =>
    intro before mark after hsplit hbefore hmark placed hmem
    obtain ⟨between, rest, rfl⟩ := List.append_of_mem hmem
    rw [← List.cons_append, ← List.append_assoc] at hsplit
    rw [hsplit] at hline
    obtain ⟨behind, hreads⟩ := h.reads_on_line hline
    have hin : (LineState.ofLine true (before ++ mark :: between)).inDirective = true :=
      LineState.inDirective_ofLine_iff.mpr ⟨rfl, mark, find?_mark hbefore hmark, hmark⟩
    rw [hin] at hreads
    exact hreads.tag_of_inDirective
  case parted =>
    intro before first between second after hsplit hfirst hsecond
    rw [hsplit] at hline
    obtain ⟨position, back, behind, beyond, hafter, hscans⟩ := h.cut_line hline
    obtain ⟨-, -, -, hnewline, -⟩ := hline
    have hbetween : ∀ placed ∈ between, placed.tag ≠ .newline := fun placed hmem =>
      hnewline placed (List.mem_append_right before
        (List.mem_cons_of_mem first (List.mem_append_left _ hmem)))
    cases hscans with
    | done => cases hafter
    | @token _ _ token tokens hback htoken htail =>
    rw [placeTokens, List.cons_append, List.append_assoc] at hafter
    obtain ⟨rfl, hrest⟩ := List.cons.inj hafter
    have htag : token.tag = .directiveBody := hfirst
    have htagline : token.tag ≠ .newline := by simp [htag]
    have hreads := Reads.of_lexeme_eq hback htoken
    have hin := (hreads.of_directiveBody htag).1
    rw [hin] at hreads
    have hzero := hreads.bodyLength_behind (fun hother => absurd htag hother) htagline
      (by simp [htag])
    exact htail.exists_comment (LineState.inDirective_after hin htagline) hzero hrest.symm
      hsecond hbetween

/-- The text of a directive, as it is read at the front of a text. -/
theorem directiveText_of_reads {inDirective : Bool} {text behind : List UInt8}
    (h : Reads table inDirective (text ++ behind) ⟨.directiveBody, text.length⟩)
    (hinput : IsEncoding (text ++ behind)) : DirectiveText text := by
  obtain ⟨-, hblank, hpos, hlength⟩ := h.of_directiveBody rfl
  have htext : (text ++ behind).take (bodyLength (text ++ behind)) = text := by
    rw [← hlength]
    exact List.take_left
  constructor
  case nonempty => exact List.ne_nil_of_length_pos (Nat.lt_of_lt_of_eq hpos hlength.symm)
  case first =>
    intro b hb
    obtain ⟨rest, rfl⟩ := List.head?_eq_some_iff.mp hb
    rw [List.cons_append] at hblank hpos
    obtain ⟨hnotblank, hnext⟩ := blankLength_eq_zero_iff.mp hblank
    refine not_or.mpr ⟨hnotblank, fun hreturn => ?_⟩
    -- a carriage return that is no blank space would end the line
    subst hreturn
    obtain ⟨tail, htail⟩ := List.head?_eq_some_iff.mp (hnext rfl)
    rw [htail, (AtLineEnd.returnFeed tail).bodyLength_eq_zero] at hpos
    exact Nat.lt_irrefl 0 hpos
  case last =>
    have hends := not_endsBlank_bodyLength hinput
    rw [htext] at hends
    exact fun b hb hlast => hends ⟨b, hb, hlast⟩
  case feeds =>
    have hfeeds : FeedsEscaped [] _ := feedsEscaped_bodyLength hinput
    rwa [htext] at hfeeds

end Lines

/-- The directives of a source, where they are folded and where they are not.
The text of a directive comes only on a line with a mark, and a mark lets nothing
else come on its line.  This text is not empty, has no blank space at its ends, and
goes on with the next line only where the line feed is escaped. -/
theorem directives_structured (raw : List RawItem) (options : NormalizeOptions)
    (source : String) :
    let table := (Lexicon.ofCatalogue (normalize raw options).catalogue).operatorTable
    let folded := (Scanner.ofText table true source).placed
    (∀ line, IsLine folded line → DirectiveLine line) ∧
    (∀ body ∈ folded, body.tag = .directiveBody → DirectiveText body.bytes) ∧
    ∀ placed ∈ (Scanner.ofText table false source).placed, placed.tag ≠ .directiveBody := by
  intro table folded
  refine ⟨fun line hline => ?_, fun body hbody htag => ?_, fun placed hplaced htag => ?_⟩
  · exact (Scanner.scans_ofText table true source).directiveLine hline
  · obtain ⟨before, behind, inDirective, hstands⟩ := Scanner.exists_standsIn
      (Lexicon.isGraphic_operatorTable raw options) true source body hbody
    have hreads := hstands.reads
    rw [htag] at hreads
    exact directiveText_of_reads hreads hstands.encoding
  · obtain ⟨before, behind, -, -, hreads⟩ := Scanner.reads_of_mem hplaced
    have hin := (hreads.of_directiveBody htag).1
    rw [LineState.inDirective_afterAll_of_not_fold rfl] at hin
    cases hin

example : (Scanner.ofText (.ofSpellings [bytes "#"]) true "# a \\\n b /**/ c 'd\n# '").placed.map
      PlacedToken.tag =
    [.operator, .blank, .directiveBody, .blank, .blockComment, .blank, .directiveBody, .blank,
      .openChar, .newline, .operator, .blank, .openChar] := by
  decide +kernel

end CLexicon
