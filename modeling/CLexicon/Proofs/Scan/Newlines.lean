import CLexicon.Proofs.Scan.Lines
import CLexicon.Proofs.Scan.Tokens

/-!
# A run may be cut behind a newline

Behind a newline token a scanner knows as little of the line as at the start of
a text, and no token before it depends on what follows.

* `Reads.of_newline`: a newline token ends with a line feed.
* `Scans.unique`: the bytes and what is known of the line tell the tokens.
* `Scans.cut_newline`: a run falls into two behind each newline token.
* `Scanner.placed_newline`: so do the tokens of a text.
-/

namespace CLexicon

open Text

variable {table : OperatorTable} {foldDirectives : Bool} {line : LineState}
  {input : List UInt8}

/-- A newline ends with a line feed, whatever comes behind it. -/
theorem Reads.of_newline {inDirective : Bool} {token : Token}
    (h : Reads table inDirective input token) (htag : token.tag = .newline) :
    ∃ front back, input = front ++ Byte.lineFeed :: back ∧
      token.length = front.length + 1 ∧
      ∀ back, lexeme table inDirective (front ++ Byte.lineFeed :: back) = token := by
  cases h with
  | @returnFeed _ rest => exact ⟨[Byte.carriageReturn], rest, rfl, rfl, fun _ => rfl⟩
  | @lineFeed _ rest => exact ⟨[], rest, rfl, rfl, fun _ => rfl⟩
  | bodyLiteral => exact absurd htag (literal_tag_ne (by decide) _ _)
  | markedLiteral => exact absurd htag (literal_tag_ne (by decide) _ _)
  | literal => exact absurd htag (literal_tag_ne (by decide) _ _)
  | _ => cases htag

/-- The bytes and what is known of the line tell the tokens. -/
theorem Scans.unique {first second : List Token}
    (hfirst : Scans table foldDirectives line input first)
    (hsecond : Scans table foldDirectives line input second) : first = second := by
  induction hfirst generalizing second with
  | done =>
    cases hsecond with
    | done => rfl
    | token hinput => exact absurd rfl hinput
  | token hinput htoken _ ih =>
    cases hsecond with
    | done => exact absurd rfl hinput
    | token _ hother htail =>
      obtain rfl := htoken.symm.trans hother
      rw [ih htail]

theorem LineState.after_newline (bytes : List UInt8) :
    line.after foldDirectives .newline bytes = {} :=
  if_pos rfl

/-- A run may be cut behind a newline.  What is read up to there is all that
the text up to there has, and what follows is a run of its own. -/
theorem Scans.cut_newline (hline : table.StaysInLine) {before after : List Token}
    {newline : Token} (htag : newline.tag = .newline)
    (h : Scans table foldDirectives line input (before ++ newline :: after)) :
    ∃ front back, input = front ++ Byte.lineFeed :: back ∧
      front.length + 1 = ((before ++ [newline]).map Token.length).sum ∧
      Scans table foldDirectives line (front ++ [Byte.lineFeed]) (before ++ [newline]) ∧
      Scans table foldDirectives {} back after := by
  induction before generalizing line input with
  | nil =>
    cases h with
    | token hinput htoken htail =>
    obtain ⟨front, back, rfl, hlength, hnewline⟩ :=
      (Reads.of_lexeme_eq hinput htoken).of_newline htag
    have hfront : (front ++ [Byte.lineFeed]).length = newline.length := by
      rw [hlength, List.length_append, List.length_singleton]
    have hdrop : (front ++ Byte.lineFeed :: back).drop newline.length = back := by
      rw [List.append_cons, ← hfront, List.drop_left]
    rw [htag, LineState.after_newline, hdrop] at htail
    refine ⟨front, back, rfl, by simp [hlength], .token (by simp) (hnewline []) ?_, htail⟩
    rw [← hfront, List.drop_length]
    exact .done
  | cons token before ih =>
    cases h with
    | token hinput htoken htail =>
    have hle := lexeme_le table line.inDirective input
    rw [htoken] at hle
    obtain ⟨front, back, hrest, hsum, hfront, hback⟩ := ih htail
    have hpiece : (input.take token.length).length = token.length := List.length_take_of_le hle
    have hwhole : input = (input.take token.length ++ front) ++ Byte.lineFeed :: back := by
      rw [List.append_assoc, ← hrest, List.take_append_drop]
    generalize input.take token.length = piece at hpiece hwhole hfront
    subst hwhole
    have hbefore : (lexeme table line.inDirective
        (piece ++ front ++ Byte.lineFeed :: back)).length ≤ (piece ++ front).length := by
      rw [htoken, List.length_append]
      omega
    have hcut := lexeme_line hline hbefore
    refine ⟨piece ++ front, back, rfl, ?_, .token (by simp) (hcut.trans htoken) ?_, hback⟩
    · rw [List.cons_append, List.map_cons, List.sum_cons, ← hsum, List.length_append]
      omega
    · rwa [List.append_assoc, ← hpiece, List.take_left, List.drop_left]

/-- The tokens of a text are those of the part up to a newline and, moved to
their places, those of the part behind it. -/
theorem Scanner.placed_newline (hascii : table.IsAscii) (hline : table.StaysInLine)
    {source : String} {placed : PlacedToken}
    (hmem : placed ∈ (ofText table foldDirectives source).placed)
    (htag : placed.tag = .newline) :
    ∃ first second, slice? source 0 placed.stop = some first ∧
      slice? source placed.stop source.utf8ByteSize = some second ∧
      (ofText table foldDirectives source).placed =
        (ofText table foldDirectives first).placed ++
          (ofText table foldDirectives second).placed.map (·.shift placed.stop) := by
  have hscans := scans_ofText table foldDirectives source
  rw [placed_ofText] at hmem
  obtain ⟨before, newline, after, htokens, hnewline, hstop⟩ :=
    hscans.exists_of_mem_placeTokens hmem
  rw [Nat.zero_add] at hstop
  have hcut := hscans.cutsAt hascii (isEncoding_bytes source) (before.length + 1)
  rw [htokens] at hscans hcut
  rw [List.append_cons, List.take_left' (by simp), ← hstop] at hcut
  obtain ⟨front, back, hinput, hlength, hfront, hback⟩ :=
    hscans.cut_newline hline (hnewline ▸ htag)
  obtain ⟨first, second, hfirst, hsecond, hbytesFirst, hbytesSecond⟩ := hcut.exists_slices
  refine ⟨first, second, hfirst, hsecond, ?_⟩
  have hstops : (front ++ [Byte.lineFeed]).length = placed.stop := by
    rw [List.length_append, List.length_singleton, hlength, hstop]
  have hparts : bytes source = (front ++ [Byte.lineFeed]) ++ back :=
    hinput.trans (List.append_cons _ _ _)
  rw [hparts, ← hstops, List.take_left] at hbytesFirst
  rw [hparts, ← hstops, List.drop_left] at hbytesSecond
  rw [← hbytesFirst] at hfront
  rw [← hbytesSecond] at hback
  have htokensFirst := (scans_ofText table foldDirectives first).unique hfront
  have htokensSecond := (scans_ofText table foldDirectives second).unique hback
  rw [placed_ofText, placed_ofText, placed_ofText, htokens, htokensFirst, htokensSecond,
    hparts, ← hbytesFirst, ← hbytesSecond, List.append_cons, hfront.placeTokens_append,
    hbytesFirst, hstops, placeTokens_shift]

end CLexicon
