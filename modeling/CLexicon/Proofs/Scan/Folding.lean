import CLexicon.Proofs.Lexicon.Operators
import CLexicon.Proofs.Scan.Outline
import CLexicon.Proofs.Scan.Tokens
import Mathlib.Data.List.Forall2

/-!
# Folding directives

A directive may be read as one token, or token by token as any other line.
The two scanners walk through it in different steps, so that their states are
hard to compare.  Each of them is compared with the outline of the text
instead, which knows no directives.

* `Matches`: a token of a scanner and the one of the outline that it stands
  for.  Only an encoding mark can come between them.
* `Scans.matches_outline`: a run shows the comments and the open literals of
  the outline, one for one.
* `folding_keeps_comments`: so the two runs of a text have the same comments,
  and the same open literals up to an encoding mark.
-/

namespace CLexicon

open Text

/-- The second token is the first without the encoding mark before its quote. -/
def PlacedToken.IsMarked (marked plain : PlacedToken) : Prop :=
  ∃ mark ∈ encodingMarks, marked.tag = plain.tag ∧
    marked.start + mark.length = plain.start ∧
    marked.bytes = mark ++ plain.bytes ∧ plain.bytes.head?.any Byte.isQuote

/-- The tokens are equal, or one of them is the other with an encoding mark. -/
def PlacedToken.SameUpToMark (first second : PlacedToken) : Prop :=
  first = second ∨ first.IsMarked second ∨ second.IsMarked first

namespace PlacedToken

theorem IsMarked.stop_eq {marked plain : PlacedToken} (h : marked.IsMarked plain) :
    marked.stop = plain.stop := by
  obtain ⟨mark, -, -, hstart, hbytes, -⟩ := h
  rw [stop, stop, hbytes, List.length_append, ← hstart, Nat.add_assoc]

theorem SameUpToMark.tag_eq {first second : PlacedToken} (h : first.SameUpToMark second) :
    first.tag = second.tag := by
  rcases h with rfl | ⟨_, _, htag, _⟩ | ⟨_, _, htag, _⟩
  · rfl
  · exact htag
  · exact htag.symm

theorem SameUpToMark.stop_eq {first second : PlacedToken} (h : first.SameUpToMark second) :
    first.stop = second.stop := by
  rcases h with rfl | hmarked | hmarked
  · rfl
  · exact hmarked.stop_eq
  · exact hmarked.stop_eq.symm

end PlacedToken

/-- The comments and the open literals among some tokens, in their places. -/
def noted (position : Nat) (input : List UInt8) (tokens : List Token) :
    List PlacedToken :=
  (placeTokens position input tokens).filter (·.tag.isNoted)

/-- A token of a text is the one of the outline, or this one with the encoding
mark that stands before it in the text. -/
inductive Matches (source : List UInt8) : PlacedToken → PlacedToken → Prop where
  | same (placed) : Matches source placed placed
  | marked {mark tag start bytes} (hmark : mark ∈ encodingMarks)
      (hbefore : mark <:+ source.take (start + mark.length))
      (hopen : tag.isOpenLiteral) (hquote : bytes.head?.any Byte.isQuote) :
      Matches source ⟨tag, start, mark ++ bytes⟩ ⟨tag, start + mark.length, bytes⟩

/-! ## One token -/

section Noted

variable {position : Nat} {input : List UInt8} {token : Token} {tokens : List Token}

theorem noted_cons_of_isNoted (h : token.tag.isNoted) :
    noted position input (token :: tokens) =
      ⟨token.tag, position, input.take token.length⟩ ::
        noted (position + token.length) (input.drop token.length) tokens := by
  rw [noted, placeTokens]
  exact List.filter_cons_of_pos h

theorem noted_cons_of_not_isNoted (h : token.tag.isNoted = false) :
    noted position input (token :: tokens) =
      noted (position + token.length) (input.drop token.length) tokens := by
  rw [noted, placeTokens]
  exact List.filter_cons_of_neg (by simp [h])

theorem outline_eq_cons (hinput : input ≠ []) :
    outline input = landmark input :: outline (input.drop (landmark input).length) := by
  rw [outline, dif_neg hinput]

/-- Skipped bytes add nothing to what the outline shows. -/
theorem Skips.noted_outline {length : Nat} (h : Skips input length) (position : Nat) :
    noted position input (outline input) =
      noted (position + length) (input.drop length) (outline (input.drop length)) := by
  induction h generalizing position with
  | nil => rfl
  | step hinput hplain _ ih =>
    rw [outline_eq_cons hinput, noted_cons_of_not_isNoted hplain, ih, List.drop_drop,
      Nat.add_assoc]

/-- A token that keeps in step with the outline is shown if the outline shows
something there, and goes on matching if what lies behind it does. -/
theorem KeepsStep.matches_outline (h : KeepsStep input token) (front : List UInt8)
    (htail : List.Forall₂ (Matches (front ++ input))
      (noted (front.length + token.length) (input.drop token.length) tokens)
      (noted (front.length + token.length) (input.drop token.length)
        (outline (input.drop token.length)))) :
    List.Forall₂ (Matches (front ++ input)) (noted front.length input (token :: tokens))
      (noted front.length input (outline input)) := by
  cases h with
  | skipped htag hskips =>
    rw [noted_cons_of_not_isNoted htag, hskips.noted_outline]
    exact htail
  | shown htag =>
    have hinput : input ≠ [] := by
      intro heq
      subst heq
      cases htag
    rw [outline_eq_cons hinput, noted_cons_of_isNoted htag, noted_cons_of_isNoted htag]
    exact .cons (.same _) htail
  | @marked mark quote rest hmark hquote hsplit hskips hopen =>
    subst hsplit
    have hliteral : quote :: rest ≠ [] := List.cons_ne_nil quote rest
    have htag : (landmark (quote :: rest)).tag.isNoted := by
      rw [Tag.isNoted, hopen, Bool.or_true]
    have hmarked : (Token.mk (landmark (quote :: rest)).tag
        (mark.length + (landmark (quote :: rest)).length)).tag.isNoted := htag
    dsimp only at htail
    rw [List.drop_length_add_append, ← Nat.add_assoc] at htail
    rw [noted_cons_of_isNoted hmarked, hskips.noted_outline, List.drop_left,
      outline_eq_cons hliteral, noted_cons_of_isNoted htag]
    dsimp only
    rw [List.take_length_add_append, List.drop_length_add_append, ← Nat.add_assoc]
    refine .cons (.marked hmark ?_ hopen ?_) htail
    · rw [← List.append_assoc, ← List.length_append, List.take_left]
      exact List.suffix_append _ _
    · obtain ⟨more, hmore⟩ := Nat.exists_eq_add_one.mpr (landmark_pos hliteral)
      rw [hmore, List.take_succ_cons]
      exact hquote

end Noted

/-! ## All tokens -/

variable {table : OperatorTable} {foldDirectives : Bool} {line : LineState}
  {input : List UInt8} {tokens : List Token}

/-- A run shows the comments and open literals of the outline. -/
theorem Scans.matches_outline (htable : table.IsInert)
    (h : Scans table foldDirectives line input tokens) (front : List UInt8) :
    List.Forall₂ (Matches (front ++ input)) (noted front.length input tokens)
      (noted front.length input (outline input)) := by
  induction h generalizing front with
  | done =>
    rw [outline, dif_pos rfl]
    exact .nil
  | @token line input token tokens hinput htoken _ ih =>
    have hstep := (Reads.of_lexeme_eq hinput htoken).keepsStep htable
    have hle := lexeme_le table line.inDirective input
    rw [htoken] at hle
    -- the tokens behind this one, with its bytes put in front
    have htail := ih (front ++ input.take token.length)
    rw [List.append_assoc, List.take_append_drop, List.length_append,
      List.length_take_of_le hle] at htail
    exact hstep.matches_outline front htail

/-! ## Two runs of one text -/

/-- An encoding mark that ends with another one is that one. -/
theorem eq_of_encodingMark_suffix {first second source : List UInt8}
    (hfirst : first ∈ encodingMarks) (hsecond : second ∈ encodingMarks)
    (hfirstEnds : first <:+ source) (hsecondEnds : second <:+ source) : first = second := by
  have hmarks : ∀ first ∈ encodingMarks, ∀ second ∈ encodingMarks,
      first <:+ second → first = second := by decide
  rcases List.suffix_or_suffix_of_suffix hfirstEnds hsecondEnds with h | h
  · exact hmarks _ hfirst _ hsecond h
  · exact (hmarks _ hsecond _ hfirst h).symm

variable {source : List UInt8} {first second entry : PlacedToken}

/-- Two tokens that stand for one of the outline are the same up to a mark. -/
theorem Matches.sameUpToMark (hfirst : Matches source first entry)
    (hsecond : Matches source second entry) : first.SameUpToMark second := by
  cases hfirst with
  | same =>
    cases hsecond with
    | same => exact Or.inl rfl
    | marked hmark _ _ hquote =>
      exact Or.inr (Or.inr ⟨_, hmark, rfl, rfl, rfl, hquote⟩)
  | @marked mark tag start bytes hmark hbefore hopen hquote =>
    generalize hentry : PlacedToken.mk tag (start + mark.length) bytes = entry at hsecond
    cases hsecond with
    | same =>
      subst hentry
      exact Or.inr (Or.inl ⟨_, hmark, rfl, rfl, rfl, hquote⟩)
    | @marked other _ otherStart _ hother hotherBefore _ _ =>
      obtain ⟨rfl, hplace, rfl⟩ := PlacedToken.mk.inj hentry
      rw [hplace] at hbefore
      obtain rfl := eq_of_encodingMark_suffix hmark hother hbefore hotherBefore
      obtain rfl : start = otherStart := by omega
      exact Or.inl rfl

theorem Matches.tag_eq (h : Matches source first entry) : first.tag = entry.tag := by
  cases h <;> rfl

/-- A comment is the one of the outline. -/
theorem Matches.eq_of_isComment (h : Matches source first entry)
    (hcomment : first.tag.isComment) : first = entry := by
  cases h with
  | same => rfl
  | marked _ _ hopen =>
    have hnot := Tag.isComment_of_isOpenLiteral hopen
    exact absurd hcomment (by simp [hnot])

section Lists

variable {firsts seconds entries : List PlacedToken}

theorem filter_isComment_eq (h : List.Forall₂ (Matches source) firsts entries) :
    firsts.filter (·.tag.isComment) = entries.filter (·.tag.isComment) := by
  induction h with
  | nil => rfl
  | @cons first entry firsts entries hhead _ ih =>
    rw [List.filter_cons, List.filter_cons, ih, ← hhead.tag_eq]
    split
    · rename_i hcomment
      rw [hhead.eq_of_isComment hcomment]
    · rfl

theorem filter_isOpenLiteral (h : List.Forall₂ (Matches source) firsts entries) :
    List.Forall₂ (Matches source) (firsts.filter (·.tag.isOpenLiteral))
      (entries.filter (·.tag.isOpenLiteral)) := by
  apply List.rel_filter _ h
  intro first entry hhead
  show first.tag.isOpenLiteral ↔ entry.tag.isOpenLiteral
  rw [hhead.tag_eq]

theorem forall₂_sameUpToMark (hfirsts : List.Forall₂ (Matches source) firsts entries)
    (hseconds : List.Forall₂ (Matches source) seconds entries) :
    List.Forall₂ PlacedToken.SameUpToMark firsts seconds := by
  induction hfirsts generalizing seconds with
  | nil =>
    cases hseconds
    exact .nil
  | cons hfirst _ ih =>
    cases hseconds with
    | cons hsecond hseconds => exact .cons (hfirst.sameUpToMark hsecond) (ih hseconds)

/-- Tokens that are the same up to marks have the same kinds and stops. -/
theorem map_tag_stop_eq (h : List.Forall₂ PlacedToken.SameUpToMark firsts seconds) :
    firsts.map (fun placed => (placed.tag, placed.stop)) =
      seconds.map (fun placed => (placed.tag, placed.stop)) := by
  induction h with
  | nil => rfl
  | cons hhead _ ih =>
    rw [List.map_cons, List.map_cons, ih, hhead.tag_eq, hhead.stop_eq]

end Lists

/-- Filtering the noted tokens out first changes nothing for a kind of tokens
that are noted. -/
theorem filter_noted {p : Tag → Bool} (hp : ∀ tag, p tag → tag.isNoted) (position : Nat)
    (input : List UInt8) (tokens : List Token) :
    (noted position input tokens).filter (p ·.tag) =
      (placeTokens position input tokens).filter (p ·.tag) := by
  rw [noted, List.filter_filter]
  congr 1
  funext placed
  cases hplaced : p placed.tag with
  | true => rw [hp _ hplaced, Bool.and_true]
  | false => rfl

/-- The scanner at the start of a source text matches its outline. -/
theorem Scanner.matches_outline (htable : table.IsInert) (foldDirectives : Bool)
    (source : String) :
    let scanner := ofText table foldDirectives source
    List.Forall₂ (Matches (bytes source)) (noted 0 (bytes source) scanner.tokens)
      (noted 0 (bytes source) (outline (bytes source))) :=
  (ofText table foldDirectives source).scans_tokens.matches_outline htable []

/-- In a catalogue that was put in order, it is enough to look for slashes and
quotes. -/
theorem Lexicon.isInert_operatorTable {raw : List RawItem} {options : NormalizeOptions}
    (h : ∀ spelling ∈ (normalize raw options).catalogue.operatorSpellings,
      ∀ b ∈ (bytes spelling).tail, b ≠ Byte.slash ∧ ¬Byte.isQuote b) :
    (ofCatalogue (normalize raw options).catalogue).operatorTable.IsInert := by
  intro input length hlongest b hb
  obtain ⟨spelling, hspelling, hbytes⟩ := exists_of_longest? hlongest
  rw [hbytes] at hb
  obtain ⟨hslash, hquote⟩ := h spelling hspelling b hb
  exact ⟨ascii_of_mem_operatorSpellings hspelling b (List.mem_of_mem_tail hb),
    hslash, hquote⟩

/-- Reading directives as one token or not does not change the comments of a
text, nor which literals in it are left open.  An open literal has the same
kind and stop in both runs, and the same start up to the encoding mark before
its quote. -/
theorem folding_keeps_comments {raw : List RawItem} {options : NormalizeOptions}
    (hspellings : ∀ spelling ∈ (normalize raw options).catalogue.operatorSpellings,
      ∀ b ∈ (bytes spelling).tail, b ≠ Byte.slash ∧ ¬Byte.isQuote b)
    (source : String) :
    let table := (Lexicon.ofCatalogue (normalize raw options).catalogue).operatorTable
    let folded := (Scanner.ofText table true source).placed
    let plain := (Scanner.ofText table false source).placed
    folded.filter (·.tag.isComment) = plain.filter (·.tag.isComment) ∧
    (folded.filter (·.tag.isOpenLiteral)).map (fun placed => (placed.tag, placed.stop)) =
      (plain.filter (·.tag.isOpenLiteral)).map (fun placed => (placed.tag, placed.stop)) ∧
    List.Forall₂ PlacedToken.SameUpToMark (folded.filter (·.tag.isOpenLiteral))
      (plain.filter (·.tag.isOpenLiteral)) := by
  intro table folded plain
  have htable : table.IsInert := Lexicon.isInert_operatorTable hspellings
  have hfolded := Scanner.matches_outline htable true source
  have hplain := Scanner.matches_outline htable false source
  have hcomment : ∀ tag : Tag, tag.isComment → tag.isNoted := fun tag h => by
    rw [Tag.isNoted, h, Bool.true_or]
  have hopen : ∀ tag : Tag, tag.isOpenLiteral → tag.isNoted := fun tag h => by
    rw [Tag.isNoted, h, Bool.or_true]
  have hsame : List.Forall₂ PlacedToken.SameUpToMark
      (folded.filter (·.tag.isOpenLiteral)) (plain.filter (·.tag.isOpenLiteral)) := by
    have hopens := forall₂_sameUpToMark (filter_isOpenLiteral hfolded)
      (filter_isOpenLiteral hplain)
    rwa [filter_noted hopen, filter_noted hopen] at hopens
  refine ⟨?_, map_tag_stop_eq hsame, hsame⟩
  have hcomments := (filter_isComment_eq hfolded).trans (filter_isComment_eq hplain).symm
  rwa [filter_noted hcomment, filter_noted hcomment] at hcomments

/-- The mark of directives, and an operator that starts with a slash. -/
def directiveOperators : List RawItem :=
  [{ id := "op-hash", token := "#", category := .operator,
     description := "Starts a directive." },
   { id := "op-divide-assign", token := "/=", category := .operator,
     description := "Divides and assigns." }]

/-- The open literal of this directive starts at its mark only when the
directive is not folded. -/
theorem folding_keeps_open_literal :
    (∀ spelling ∈ (normalize directiveOperators).catalogue.operatorSpellings,
      ∀ b ∈ (bytes spelling).tail, b ≠ Byte.slash ∧ ¬Byte.isQuote b) ∧
    let table :=
      (Lexicon.ofCatalogue (normalize directiveOperators).catalogue).operatorTable
    let source := "#define X L'a /* b */\n//"
    List.Forall₂ PlacedToken.SameUpToMark
      ((Scanner.ofText table true source).placed.filter (·.tag.isOpenLiteral))
      ((Scanner.ofText table false source).placed.filter (·.tag.isOpenLiteral)) := by
  have hspellings : ∀ spelling ∈ (normalize directiveOperators).catalogue.operatorSpellings,
      ∀ b ∈ (bytes spelling).tail, b ≠ Byte.slash ∧ ¬Byte.isQuote b := by
    decide +kernel
  exact ⟨hspellings, (folding_keeps_comments hspellings _).2.2⟩

end CLexicon
