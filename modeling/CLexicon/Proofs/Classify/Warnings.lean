import CLexicon.Proofs.Classify.Spans
import CLexicon.Proofs.Report.Queue
import CLexicon.Proofs.Scan.Order

/-!
# Warnings of a text

A token that leaves something open brings a warning.  The queue of the lexer
keeps the first of them, as many as its limit allows, and hands them over in
source order, which is the order they came in.

* `PlacedToken.warning?`: the warning of a token in its place.
* `Queue.Offered`: which diagnostics a queue has been offered, read off what
  waits in it.  `Queue.Offered.push` is one step, and `Lexer.offered_run` a
  whole run.
* `diagnostics_lex`: the warnings about a source text.
-/

namespace CLexicon

/-- The warning that a token brings, if it leaves something open. -/
def PlacedToken.warning? (placed : PlacedToken) : Option Diagnostic :=
  (Unclosed.ofTag? placed.tag).map (·.toDiagnostic placed.span)

theorem PlacedToken.sortKey_warning? {placed : PlacedToken} {warning : Diagnostic}
    (h : placed.warning? = some warning) : warning.sortKey = placed.start := by
  obtain ⟨unclosed, -, rfl⟩ := Option.map_eq_some_iff.mp h
  rfl

/-! ## What a queue keeps -/

namespace Queue

/-- A queue that keeps repetitions turns a diagnostic away only at its limit. -/
theorem push_of_keeps {queue : Queue} (h : queue.policy.deduplicate = false)
    (diagnostic : Diagnostic) :
    (queue.push diagnostic).2 =
      if queue.limitReached then { queue with dropped := queue.dropped + 1 }
      else { queue with waiting := queue.waiting.push diagnostic } := by
  have hkeeps : (queue.policy.deduplicate && queue.waiting.contains diagnostic) ≠ true := by
    simp [h]
  unfold push
  by_cases hreached : queue.limitReached
  · rw [if_pos hreached, if_pos hreached]
  · rw [if_neg hreached, if_neg hreached, if_neg hkeeps]

/-- These diagnostics were offered to a queue that keeps repetitions, and it has
kept as many of them as its limit allows. -/
structure Offered (queue : Queue) (limit : Nat) (diagnostics : List Diagnostic) :
    Prop where
  policy : queue.policy = ⟨limit, false⟩
  waiting : queue.waiting.toList = withinLimit limit diagnostics

/-- Where repetitions are kept, all that was offered counts. -/
theorem offered_iff_holds {queue : Queue} {limit : Nat} {diagnostics : List Diagnostic} :
    queue.Offered limit diagnostics ↔ queue.Holds ⟨limit, false⟩ diagnostics :=
  ⟨fun h => ⟨h.waiting, h.policy⟩, fun h => ⟨h.policy, h.waiting⟩⟩

/-- One more diagnostic is offered, and kept unless the limit is reached. -/
theorem Offered.push {queue : Queue} {limit : Nat} {diagnostics : List Diagnostic}
    (h : queue.Offered limit diagnostics) (diagnostic : Diagnostic) :
    (queue.push diagnostic).2.Offered limit (diagnostics ++ [diagnostic]) :=
  offered_iff_holds.mpr ((offered_iff_holds.mp h).push diagnostic)

end Queue

/-! ## Runs of a lexer -/

namespace Lexer

variable {lexer : Lexer} {limit : Nat} {diagnostics : List Diagnostic}

/-- What a token that is next brings. -/
theorem warning?_peek (lexer : Lexer) :
    (Unclosed.ofTag? lexer.scanner.peek.tag).map
        (·.toDiagnostic (lexer.tokenSpan lexer.scanner.peek)) =
      PlacedToken.warning? ⟨lexer.scanner.peek.tag, lexer.scanner.cursor.position,
        lexer.scanner.cursor.rest.take lexer.scanner.peek.length⟩ := by
  have hle : lexer.scanner.peek.length ≤ lexer.scanner.cursor.rest.length :=
    lexeme_le _ _ _
  unfold PlacedToken.warning? tokenSpan PlacedToken.span PlacedToken.stop
  rw [List.length_take_of_le hle]

theorem offered_behind (h : lexer.warnings.Offered limit diagnostics) (token : Token) :
    (lexer.behind token).warnings.Offered limit
      (diagnostics ++ ((Unclosed.ofTag? token.tag).map
        (·.toDiagnostic (lexer.tokenSpan token))).toList) := by
  unfold behind
  dsimp only
  cases Unclosed.ofTag? token.tag with
  | none => rwa [Option.map_none, Option.toList_none, List.append_nil]
  | some unclosed => exact h.push _

/-- A run offers the warnings of all its tokens. -/
theorem offered_run (lexer : Lexer) (h : lexer.warnings.Offered limit diagnostics) :
    lexer.run.2.warnings.Offered limit
      (diagnostics ++ lexer.scanner.placed.filterMap PlacedToken.warning?) := by
  induction lexer using induction_behind generalizing diagnostics with
  | atEnd lexer hend =>
    rw [run_of_isAtEnd hend, Scanner.placed_of_isAtEnd hend, List.filterMap_nil,
      List.append_nil]
    exact h
  | behind lexer hmore ih =>
    have hrun : lexer.run.2 = (lexer.behind lexer.scanner.peek).run.2 := by
      rw [run_of_not_isAtEnd hmore]
      split <;> rfl
    rw [hrun, Scanner.placed_of_not_isAtEnd hmore, List.filterMap_cons, ← warning?_peek]
    have htail := ih (offered_behind h lexer.scanner.peek)
    split
    · rename_i hnone
      rwa [hnone, Option.toList_none, List.append_nil] at htail
    · rename_i warning hsome
      rwa [hsome, Option.toList_some, List.append_assoc] at htail

end Lexer

/-! ## The warnings about a source text -/

/-- The warnings of tokens that stand in order are in order. -/
theorem pairwise_sortKey_warnings (scanner : Scanner) :
    (scanner.placed.filterMap PlacedToken.warning?).Pairwise fun first second =>
      first.sortKey ≤ second.sortKey := by
  refine (List.pairwise_map.mp scanner.inSourceOrder_placed.follow).filterMap _ ?_
  intro placed other hfollow first hfirst second hsecond
  rw [PlacedToken.sortKey_warning? hfirst, PlacedToken.sortKey_warning? hsecond]
  exact Nat.le_trans (Nat.le_add_right _ _) hfollow

/-- The warnings about a source text are those of its tokens, up to the limit. -/
theorem diagnostics_lex (lexicon : Lexicon) (source : String) (options : ScanOptions) :
    (lex lexicon source options).diagnostics =
      Queue.withinLimit options.warningLimit
        ((Scanner.ofText lexicon.operatorTable options.foldDirectives source).placed.filterMap
          PlacedToken.warning?) := by
  have hempty : (Lexer.ofText lexicon source options).warnings.Offered options.warningLimit [] :=
    ⟨rfl, by simp [Lexer.ofText, Queue.withinLimit]⟩
  show List.mergeSort _ _ = _
  rw [(Lexer.offered_run _ hempty).waiting, List.nil_append]
  apply List.mergeSort_of_pairwise
  have hsorted := pairwise_sortKey_warnings
    (Scanner.ofText lexicon.operatorTable options.foldDirectives source)
  exact (hsorted.imp decide_eq_true).sublist (Queue.withinLimit_sublist _ _)

end CLexicon
