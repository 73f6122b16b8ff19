import CLexicon.Proofs.Scan.Cuts
import CLexicon.Scan.Scanner
import CLexicon.Span
import Mathlib.Algebra.GroupWithZero.Nat

/-!
# All tokens of a text

A scanner reads one token after the other until no byte is left.  `Scans` is
the trace of such a run over the bytes that are left and what is known of the
line; `Scanner.scans_tokens` says that a scanner leaves this trace, so facts
about all tokens are proved by induction on it.

* `PlacedToken` and `placeTokens`: tokens together with their places and
  bytes.
* `Scans.sum_length`, `Scans.flatten_placeTokens`, `Scans.cutsAt`: the tokens
  make up the text and end between its characters.
* `Scanner.answers_eq`: a scanner that is asked again and again gives its
  tokens first, and from then on the end of the text.
-/

namespace CLexicon

open Text

/-! ## Tokens in their places -/

/-- A token with the place where it starts and the bytes that it takes. -/
structure PlacedToken where
  tag : Tag
  start : Nat
  bytes : List UInt8
  deriving DecidableEq, Repr

namespace PlacedToken

/-- The place behind the token. -/
def stop (placed : PlacedToken) : Nat :=
  placed.start + placed.bytes.length

/-- The span that the token takes. -/
def span (placed : PlacedToken) : Span :=
  ⟨placed.start, placed.stop⟩

end PlacedToken

/-- The token, moved `distance` bytes to the right. -/
def PlacedToken.shift (placed : PlacedToken) (distance : Nat) : PlacedToken :=
  { placed with start := placed.start + distance }

/-- Tokens that stand one behind the other in some bytes, with their places
from a position on. -/
def placeTokens (position : Nat) (input : List UInt8) :
    List Token → List PlacedToken
  | [] => []
  | token :: tokens =>
    ⟨token.tag, position, input.take token.length⟩ ::
      placeTokens (position + token.length) (input.drop token.length) tokens

/-- The spans are not empty, each starts where the one before it stops, and
together they reach from one place to another. -/
def Abut : Nat → List Span → Nat → Prop
  | start, [], stop => start = stop
  | start, span :: spans, stop =>
    span.start = start ∧ start < span.stop ∧ Abut span.stop spans stop

/-! ## Runs of a scanner -/

/-- The tokens that are read one after the other, from what is known of the
line and the bytes that are left. -/
inductive Scans (table : OperatorTable) (foldDirectives : Bool) :
    LineState → List UInt8 → List Token → Prop where
  | done {line} : Scans table foldDirectives line [] []
  | token {line input token tokens} (hinput : input ≠ [])
      (htoken : lexeme table line.inDirective input = token)
      (htail : Scans table foldDirectives
        (line.after foldDirectives token.tag (input.take token.length))
        (input.drop token.length) tokens) :
      Scans table foldDirectives line input (token :: tokens)

namespace Scanner

/-- The scanner at the start of a source text. -/
def ofText (table : OperatorTable) (foldDirectives : Bool) (source : String) :
    Scanner :=
  { table, foldDirectives, cursor := Cursor.ofText source }

/-- All tokens up to the end of the text, in their places. -/
def placed (scanner : Scanner) : List PlacedToken :=
  placeTokens scanner.cursor.position scanner.cursor.rest scanner.tokens

theorem tokens_of_isAtEnd {scanner : Scanner} (h : scanner.cursor.isAtEnd) :
    scanner.tokens = [] := by
  rw [tokens, run, dif_pos h]

theorem tokens_of_not_isAtEnd {scanner : Scanner} (h : ¬scanner.cursor.isAtEnd) :
    scanner.tokens = scanner.peek :: (scanner.behind scanner.peek).tokens := by
  rw [tokens, run, dif_neg h]
  rfl

theorem rest_eq_nil_iff {scanner : Scanner} :
    scanner.cursor.rest = [] ↔ scanner.cursor.isAtEnd := by
  rw [Cursor.isAtEnd, List.isEmpty_iff]

theorem placed_of_isAtEnd {scanner : Scanner} (h : scanner.cursor.isAtEnd) :
    scanner.placed = [] := by
  rw [placed, tokens_of_isAtEnd h]
  rfl

theorem placed_of_not_isAtEnd {scanner : Scanner} (h : ¬scanner.cursor.isAtEnd) :
    scanner.placed =
      ⟨scanner.peek.tag, scanner.cursor.position,
        scanner.cursor.rest.take scanner.peek.length⟩ ::
      (scanner.behind scanner.peek).placed := by
  have hle : scanner.peek.length ≤ scanner.cursor.rest.length := lexeme_le _ _ _
  have hposition : (scanner.behind scanner.peek).cursor.position =
      scanner.cursor.position + scanner.peek.length := by
    show _ + (scanner.cursor.rest.take scanner.peek.length).length = _
    rw [List.length_take_of_le hle]
  rw [placed, tokens_of_not_isAtEnd h, placed, hposition]
  rfl

/-- The tokens of a scanner are the trace of its run. -/
theorem scans_tokens (scanner : Scanner) :
    Scans scanner.table scanner.foldDirectives scanner.line scanner.cursor.rest
      scanner.tokens := by
  induction scanner using run.induct with
  | case1 scanner hend =>
    rw [tokens_of_isAtEnd hend, rest_eq_nil_iff.mpr hend]
    exact .done
  | case2 scanner hmore _ _ _ _ ih =>
    rw [tokens_of_not_isAtEnd hmore]
    exact .token (mt rest_eq_nil_iff.mp hmore) rfl ih

section OfText

variable (table : OperatorTable) (foldDirectives : Bool) (source : String)

theorem scans_ofText :
    Scans table foldDirectives {} (bytes source) (ofText table foldDirectives source).tokens :=
  (ofText table foldDirectives source).scans_tokens

theorem placed_ofText :
    (ofText table foldDirectives source).placed =
      placeTokens 0 (bytes source) (ofText table foldDirectives source).tokens :=
  rfl

end OfText

/-! ## Asking again and again -/

/-- The tokens that a scanner gives when it is asked so many times. -/
def answers : Nat → Scanner → List Token
  | 0, _ => []
  | count + 1, scanner => scanner.next.1 :: answers count scanner.next.2

theorem next_of_isAtEnd {scanner : Scanner} (h : scanner.cursor.isAtEnd) :
    scanner.next = (⟨.endOfText, 0⟩, scanner) := by
  rw [next, if_pos h, peek, rest_eq_nil_iff.mpr h]
  rfl

theorem next_of_not_isAtEnd {scanner : Scanner} (h : ¬scanner.cursor.isAtEnd) :
    scanner.next = (scanner.peek, scanner.behind scanner.peek) := by
  rw [next, if_neg h]

/-- A scanner gives its tokens one by one, and then the end of the text as
often as it is asked. -/
theorem answers_eq (scanner : Scanner) (count : Nat) :
    scanner.answers count = scanner.tokens.take count ++
      List.replicate (count - scanner.tokens.length) ⟨.endOfText, 0⟩ := by
  induction count generalizing scanner with
  | zero => simp [answers]
  | succ count ih =>
    rw [answers]
    by_cases hend : scanner.cursor.isAtEnd
    · rw [next_of_isAtEnd hend, ih, tokens_of_isAtEnd hend, List.take_nil, List.take_nil]
      rfl
    · rw [next_of_not_isAtEnd hend, ih, tokens_of_not_isAtEnd hend, List.take_succ_cons,
        List.length_cons, Nat.succ_sub_succ]
      rfl

end Scanner

/-! ## What the tokens make up -/

/-- A literal is closed or open, and nothing else. -/
theorem literal_tag_mem (quote : UInt8) (rest : List UInt8) :
    (literal (quote :: rest)).tag ∈
      if (literalBody quote rest).closed then [Tag.string, Tag.char]
      else [Tag.openString, Tag.openChar] := by
  rw [literal]
  dsimp only
  split <;> split <;> simp

theorem literal_tag_ne {tag : Tag}
    (htag : tag ∉ [Tag.string, Tag.char, Tag.openString, Tag.openChar])
    (quote : UInt8) (rest : List UInt8) : (literal (quote :: rest)).tag ≠ tag := by
  intro heq
  subst heq
  have hmem := literal_tag_mem quote rest
  apply htag
  split at hmem
  · exact List.mem_append_left [Tag.openString, Tag.openChar] hmem
  · exact List.mem_append_right [Tag.string, Tag.char] hmem

theorem Reads.tag_ne_endOfText {table : OperatorTable} {inDirective : Bool}
    {input : List UInt8} {token : Token} (h : Reads table inDirective input token) :
    token.tag ≠ .endOfText := by
  cases h with
  | bodyLiteral => exact literal_tag_ne (by decide) _ _
  | markedLiteral => exact literal_tag_ne (by decide) _ _
  | literal => exact literal_tag_ne (by decide) _ _
  | _ => simp

namespace Scans

variable {table : OperatorTable} {foldDirectives : Bool} {line : LineState}
  {input : List UInt8} {tokens : List Token}

/-- No token is empty, and none but the last answer is the end of the text. -/
theorem forall_mem (h : Scans table foldDirectives line input tokens) :
    ∀ token ∈ tokens, token.tag ≠ .endOfText ∧ 0 < token.length := by
  induction h with
  | done => simp
  | token hinput htoken _ ih =>
    rw [List.forall_mem_cons]
    refine ⟨⟨(Reads.of_lexeme_eq hinput htoken).tag_ne_endOfText, ?_⟩, ih⟩
    rw [← htoken]
    exact lexeme_pos _ _ hinput

/-- The tokens take all bytes. -/
theorem sum_length (h : Scans table foldDirectives line input tokens) :
    (tokens.map Token.length).sum = input.length := by
  induction h with
  | done => rfl
  | @token line input _ _ hinput htoken _ ih =>
    have hle := lexeme_le table line.inDirective input
    rw [htoken] at hle
    rw [List.map_cons, List.sum_cons, ih, List.length_drop]
    omega

theorem flatten_placeTokens (h : Scans table foldDirectives line input tokens)
    (position : Nat) :
    ((placeTokens position input tokens).map PlacedToken.bytes).flatten = input := by
  induction h generalizing position with
  | done => rfl
  | token _ _ _ ih =>
    rw [placeTokens, List.map_cons, List.flatten_cons, ih, List.take_append_drop]

/-- The spans of the tokens reach over all bytes without a gap. -/
theorem abut_placeTokens (h : Scans table foldDirectives line input tokens)
    (position : Nat) :
    Abut position ((placeTokens position input tokens).map PlacedToken.span)
      (position + input.length) := by
  induction h generalizing position with
  | done => rfl
  | @token line input token _ hinput htoken _ ih =>
    have hpos := lexeme_pos table line.inDirective hinput
    have hle := lexeme_le table line.inDirective input
    rw [htoken] at hpos hle
    have hstop : position + (input.take token.length).length =
        position + token.length := by
      rw [List.length_take_of_le hle]
    refine ⟨rfl, ?_, ?_⟩
    · show position < position + (input.take token.length).length
      omega
    · show Abut (position + (input.take token.length).length) _ _
      rw [hstop]
      have htail := ih (position + token.length)
      rw [List.length_drop] at htail
      rwa [show position + token.length + (input.length - token.length) =
        position + input.length by omega] at htail

/-- Between any two tokens of an encoded text lies a cut. -/
theorem cutsAt (hascii : table.IsAscii)
    (h : Scans table foldDirectives line input tokens) (hinput : IsEncoding input)
    (count : Nat) :
    CutsAt input ((tokens.take count).map Token.length).sum := by
  induction h generalizing count with
  | done =>
    rw [List.take_nil]
    exact CutsAt.zero hinput
  | token hne htoken _ ih =>
    cases count with
    | zero => exact CutsAt.zero hinput
    | succ count =>
      have hcut := (Reads.of_lexeme_eq hne htoken).cutsAt hascii hinput
      rw [List.take_succ_cons, List.map_cons, List.sum_cons]
      exact hcut.add (ih hcut.back count)

/-- The bytes of a token of an encoded text encode a text. -/
theorem isEncoding_placeTokens (hascii : table.IsAscii)
    (h : Scans table foldDirectives line input tokens) (hinput : IsEncoding input)
    (position : Nat) :
    ∀ placed ∈ placeTokens position input tokens, IsEncoding placed.bytes := by
  induction h generalizing position with
  | done => simp [placeTokens]
  | token hne htoken _ ih =>
    have hcut := (Reads.of_lexeme_eq hne htoken).cutsAt hascii hinput
    rw [placeTokens, List.forall_mem_cons]
    exact ⟨hcut.front, ih hcut.back _⟩

/-- The tokens of two texts stand in their places in the text that these make
up. -/
theorem placeTokens_append (h : Scans table foldDirectives line input tokens)
    (position : Nat) (others : List Token) (behind : List UInt8) :
    placeTokens position (input ++ behind) (tokens ++ others) =
      placeTokens position input tokens ++
        placeTokens (position + input.length) behind others := by
  induction h generalizing position with
  | done => rfl
  | @token line input token _ hinput htoken _ ih =>
    have hle := lexeme_le table line.inDirective input
    rw [htoken] at hle
    have hstop : position + token.length + (input.drop token.length).length =
        position + input.length := by
      rw [List.length_drop]
      omega
    rw [List.cons_append, placeTokens, placeTokens, List.take_append_of_le_length hle,
      List.drop_append_of_le_length hle, ih, hstop]
    rfl

/-- A token in its place is one of the tokens, and stops where that and those
before it reach. -/
theorem exists_of_mem_placeTokens (h : Scans table foldDirectives line input tokens)
    {position : Nat} {placed : PlacedToken}
    (hmem : placed ∈ placeTokens position input tokens) :
    ∃ before token after, tokens = before ++ token :: after ∧ placed.tag = token.tag ∧
      placed.stop = position + ((before ++ [token]).map Token.length).sum := by
  induction h generalizing position with
  | done => cases hmem
  | @token line input token tokens _ htoken _ ih =>
    have hle := lexeme_le table line.inDirective input
    rw [htoken] at hle
    rcases List.mem_cons.mp hmem with rfl | hmem
    · refine ⟨[], token, tokens, rfl, rfl, ?_⟩
      rw [PlacedToken.stop, List.length_take_of_le hle]
      rfl
    · obtain ⟨before, found, after, rfl, htag, hstop⟩ := ih hmem
      refine ⟨token :: before, found, after, rfl, htag, ?_⟩
      rw [hstop, List.cons_append, List.map_cons, List.sum_cons, Nat.add_assoc]

end Scans

theorem placeTokens_shift (position distance : Nat) (input : List UInt8)
    (tokens : List Token) :
    placeTokens (position + distance) input tokens =
      (placeTokens position input tokens).map (·.shift distance) := by
  induction tokens generalizing position input with
  | nil => rfl
  | cons token tokens ih =>
    rw [placeTokens, placeTokens, Nat.add_right_comm, ih]
    rfl

end CLexicon
