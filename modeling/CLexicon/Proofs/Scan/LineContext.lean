import CLexicon.Proofs.Scan.Tokens
import Mathlib.Data.List.Induction

/-!
# What the tokens of a line tell

A scanner remembers two facts of the line from token to token.  Here they are
read off the tokens that have come on the line, without going through a run.

* `LineState.afterAll` and `Scans.cut`: what is known behind some tokens.  A run
  falls into two behind any of its tokens, and the second part goes on with what
  is known there.  `Scanner.reads_of_mem` says how a token of a source was read.
* `LineState.ofLine`: what the tokens of a line tell, by the first of them that
  is not trivia.  `LineState.after_ofLine` is one token, `LineState.afterAll_line`
  a whole line.
* `IsLine`: the lines of some tokens.  `Scans.reads_on_line` says how a token of
  a line was read.
-/

namespace CLexicon

/-! ## What is known behind some tokens -/

/-- What is known of the line behind some tokens. -/
def LineState.afterAll (line : LineState) (foldDirectives : Bool)
    (passed : List PlacedToken) : LineState :=
  passed.foldl (fun known placed => known.after foldDirectives placed.tag placed.bytes) line

theorem LineState.afterAll_append (line : LineState) (foldDirectives : Bool)
    (passed more : List PlacedToken) :
    line.afterAll foldDirectives (passed ++ more) =
      (line.afterAll foldDirectives passed).afterAll foldDirectives more :=
  List.foldl_append

section Cut

variable {table : OperatorTable} {foldDirectives : Bool} {line : LineState}
  {input : List UInt8} {tokens : List Token} {position : Nat}
  {before after : List PlacedToken} {placed : PlacedToken}

/-- A run may be cut behind any of its tokens.  What follows is a run from what
is known of the line there. -/
theorem Scans.cut (h : Scans table foldDirectives line input tokens)
    (hsplit : placeTokens position input tokens = before ++ after) :
    ∃ back behind, input = (before.map PlacedToken.bytes).flatten ++ back ∧
      after = placeTokens (position + (before.map PlacedToken.bytes).flatten.length)
        back behind ∧
      Scans table foldDirectives (line.afterAll foldDirectives before) back behind := by
  induction before generalizing line input tokens position with
  | nil => exact ⟨input, tokens, rfl, hsplit.symm, h⟩
  | cons first before ih =>
    cases h with
    | done => cases hsplit
    | @token _ _ token tokens _ htoken htail =>
    have hle := lexeme_le table line.inDirective input
    rw [htoken] at hle
    rw [placeTokens, List.cons_append] at hsplit
    obtain ⟨rfl, hrest⟩ := List.cons.inj hsplit
    obtain ⟨back, behind, hinput, hafter, hscans⟩ := ih htail hrest
    rw [List.map_cons, List.flatten_cons]
    refine ⟨back, behind, ?_, ?_, hscans⟩
    · rw [List.append_assoc, ← hinput, List.take_append_drop]
    · rw [List.length_append, List.length_take_of_le hle, ← Nat.add_assoc]
      exact hafter

/-- How a token of a run was read: off the bytes from its start on, with what is
known behind the tokens before it. -/
theorem Scans.reads_at (h : Scans table foldDirectives line input tokens)
    (hsplit : placeTokens position input tokens = before ++ placed :: after) :
    ∃ behind, input = (before.map PlacedToken.bytes).flatten ++ (placed.bytes ++ behind) ∧
      placed.start = position + (before.map PlacedToken.bytes).flatten.length ∧
      Reads table (line.afterAll foldDirectives before).inDirective (placed.bytes ++ behind)
        ⟨placed.tag, placed.bytes.length⟩ := by
  obtain ⟨back, behind, hinput, hafter, hscans⟩ := h.cut hsplit
  cases hscans with
  | done => cases hafter
  | @token _ _ token _ hback htoken =>
  have hle := lexeme_le table (line.afterAll foldDirectives before).inDirective back
  rw [htoken] at hle
  obtain ⟨rfl, -⟩ := List.cons.inj hafter
  refine ⟨back.drop token.length, ?_, rfl, ?_⟩
  · rw [List.take_append_drop]
    exact hinput
  · rw [List.take_append_drop, List.length_take_of_le hle]
    exact .of_lexeme_eq hback htoken

end Cut

/-- How a token of a source was read. -/
theorem Scanner.reads_of_mem {table : OperatorTable} {foldDirectives : Bool} {source : String}
    {placed : PlacedToken} (h : placed ∈ (Scanner.ofText table foldDirectives source).placed) :
    ∃ (before : List PlacedToken) (behind : List UInt8),
      Text.bytes source =
        (before.map PlacedToken.bytes).flatten ++ (placed.bytes ++ behind) ∧
      placed.start = (before.map PlacedToken.bytes).flatten.length ∧
      Reads table (({} : LineState).afterAll foldDirectives before).inDirective
        (placed.bytes ++ behind) ⟨placed.tag, placed.bytes.length⟩ := by
  obtain ⟨before, after, hsplit⟩ := List.append_of_mem h
  rw [Scanner.placed_ofText] at hsplit
  obtain ⟨behind, hbytes, hstart, hreads⟩ :=
    (Scanner.scans_ofText table foldDirectives source).reads_at hsplit
  rw [Nat.zero_add] at hstart
  exact ⟨before, behind, hbytes, hstart, hreads⟩

/-! ## What the tokens of a line tell -/

/-- Whether a token is the mark of a directive, if it comes first on its line. -/
def PlacedToken.isDirectiveMark (placed : PlacedToken) : Bool :=
  placed.tag = .operator && directiveMarks.contains placed.bytes

theorem PlacedToken.isDirectiveMark_iff {placed : PlacedToken} :
    placed.isDirectiveMark ↔
      placed.tag = .operator ∧
        (placed.bytes = Text.bytes "#" ∨ placed.bytes = Text.bytes "%:") := by
  have hmarks : directiveMarks = [Text.bytes "#", Text.bytes "%:"] := by decide
  simp [isDirectiveMark, hmarks]

namespace LineState

variable {foldDirectives : Bool} {line : LineState} {passed : List PlacedToken}
  {placed first : PlacedToken}

/-- What is known of a line on which these tokens have come.  The first that is
not trivia tells whether the line is a directive. -/
def ofLine (foldDirectives : Bool) (passed : List PlacedToken) : LineState :=
  match passed.find? (!·.tag.isTrivia) with
  | none => {}
  | some first => ⟨false, foldDirectives && first.isDirectiveMark⟩

theorem ofLine_of_find? (h : passed.find? (!·.tag.isTrivia) = some first) :
    ofLine foldDirectives passed = ⟨false, foldDirectives && first.isDirectiveMark⟩ := by
  rw [ofLine, h]

/-- The line is a directive if its first token that is not trivia is `#` or `%:`,
as long as directives are folded. -/
theorem inDirective_ofLine_iff :
    (ofLine foldDirectives passed).inDirective ↔ foldDirectives ∧
      ∃ mark, passed.find? (!·.tag.isTrivia) = some mark ∧ mark.isDirectiveMark := by
  unfold ofLine
  cases passed.find? (!·.tag.isTrivia) <;> simp

/-- A line that is a directive stays one up to its end. -/
theorem inDirective_after {tag : Tag} {text : List UInt8} (hin : line.inDirective = true)
    (hnewline : tag ≠ .newline) : (line.after foldDirectives tag text).inDirective = true := by
  unfold after
  rw [if_neg hnewline]
  split
  · exact hin
  · simp [hin]

/-- One more token on the line. -/
theorem after_ofLine (hplaced : placed.tag ≠ .newline) :
    (ofLine foldDirectives passed).after foldDirectives placed.tag placed.bytes =
      ofLine foldDirectives (passed ++ [placed]) := by
  unfold after
  rw [if_neg hplaced]
  by_cases htrivia : placed.tag.isTrivia
  · -- trivia leaves the first token that is not trivia as it was
    rw [if_pos htrivia, ofLine, ofLine, List.find?_append]
    simp [htrivia]
  · rw [if_neg htrivia]
    cases hfirst : passed.find? (!·.tag.isTrivia) with
    | none =>
      have hfind : (passed ++ [placed]).find? (!·.tag.isTrivia) = some placed := by
        simp [List.find?_append, hfirst, htrivia]
      rw [ofLine_of_find? hfind, ofLine, hfirst]
      simp [PlacedToken.isDirectiveMark, Bool.and_assoc]
    | some first =>
      have hfind : (passed ++ [placed]).find? (!·.tag.isTrivia) = some first := by
        rw [List.find?_append, hfirst, Option.some_or]
      rw [ofLine_of_find? hfind, ofLine_of_find? hfirst]
      simp

/-- Behind tokens of one line, their first that is not trivia tells what is
known. -/
theorem afterAll_line (h : ∀ placed ∈ passed, placed.tag ≠ .newline) :
    ({} : LineState).afterAll foldDirectives passed = ofLine foldDirectives passed := by
  induction passed using List.reverseRecOn with
  | nil => rfl
  | append_singleton passed placed ih =>
    rw [List.forall_mem_append, List.forall_mem_singleton] at h
    rw [afterAll_append, ih h.1]
    exact after_ofLine h.2

/-- Behind a newline nothing is known of the line. -/
theorem afterAll_of_newline (h : ∀ placed ∈ passed.getLast?, placed.tag = .newline) :
    ({} : LineState).afterAll foldDirectives passed = {} := by
  cases passed using List.reverseRecOn with
  | nil => rfl
  | append_singleton passed placed _ =>
    rw [List.getLast?_concat] at h
    rw [afterAll_append]
    exact if_pos (h placed rfl)

/-- Where directives are not folded, no line is one. -/
theorem inDirective_afterAll_of_not_fold (h : line.inDirective = false) :
    (line.afterAll false passed).inDirective = false := by
  induction passed generalizing line with
  | nil => exact h
  | cons placed passed ih =>
    have hafter : (line.after false placed.tag placed.bytes).inDirective = false := by
      unfold after
      split
      · rfl
      split
      · exact h
      · simpa using h
    exact ih hafter

end LineState

/-! ## Lines of tokens -/

/-- The tokens of one line: a run of tokens without a newline that cannot be
made longer at either end. -/
def IsLine (tokens line : List PlacedToken) : Prop :=
  ∃ front back, tokens = front ++ line ++ back ∧ (∀ placed ∈ line, placed.tag ≠ .newline) ∧
    (∀ placed ∈ front.getLast?, placed.tag = .newline) ∧
    ∀ placed ∈ back.head?, placed.tag = .newline

section Lines

variable {table : OperatorTable} {foldDirectives : Bool} {input : List UInt8}
  {tokens : List Token} {position : Nat} {before after : List PlacedToken}
  {placed : PlacedToken}

/-- From a place on a line on, a run goes on with what the tokens before that
place tell. -/
theorem Scans.cut_line (h : Scans table foldDirectives {} input tokens)
    (hline : IsLine (placeTokens position input tokens) (before ++ after)) :
    ∃ position back behind beyond, after ++ beyond = placeTokens position back behind ∧
      Scans table foldDirectives (.ofLine foldDirectives before) back behind := by
  obtain ⟨front, beyond, hsplit, hnewline, hfront, -⟩ := hline
  rw [List.append_assoc, List.append_assoc, ← List.append_assoc front] at hsplit
  obtain ⟨back, behind, -, hafter, hscans⟩ := h.cut hsplit
  refine ⟨_, back, behind, beyond, hafter, ?_⟩
  have hbefore := fun placed hmem => hnewline placed (List.mem_append_left after hmem)
  rwa [LineState.afterAll_append, LineState.afterAll_of_newline hfront,
    LineState.afterAll_line hbefore] at hscans

/-- How a token of a line was read. -/
theorem Scans.reads_on_line (h : Scans table foldDirectives {} input tokens)
    (hline : IsLine (placeTokens position input tokens) (before ++ placed :: after)) :
    ∃ behind, Reads table (LineState.ofLine foldDirectives before).inDirective
      (placed.bytes ++ behind) ⟨placed.tag, placed.bytes.length⟩ := by
  obtain ⟨position, back, behind, beyond, hafter, hscans⟩ := h.cut_line hline
  have hsplit : placeTokens position back behind = [] ++ placed :: (after ++ beyond) :=
    hafter.symm
  obtain ⟨rest, -, -, hreads⟩ := hscans.reads_at hsplit
  exact ⟨rest, hreads⟩

end Lines

end CLexicon
