import CLexicon.Proofs.Classify.Warnings
import Mathlib.Data.List.Forall2

/-!
# Warnings that are taken along the way

The warnings of a lexer may be taken before its spans are at an end, as often as
one likes.  Whatever the calls, each span that leaves something open has its
warning handed over, waiting or dropped.

* `LexerUse`: a lexer with the spans that it has given and the warnings that it
  has handed over.  `LexerUse.call` is one call, `LexerUse.calls` some of them.
* `Diagnostic.WarnsOf`: what a warning says of the span that it is about.
* `Queue.Accounts`: what the warnings so far are, and how many were dropped.
  `Queue.Accounts.push` and `Queue.Accounts.flush` are the two things that
  happen to a queue.
* `LexerUse.Accounted`: the books of a lexer in use.  `LexerUse.Accounted.call`
  is one call, `LexerUse.Accounted.calls` all of them.
* `warnings_accounted`: what holds of every use of a lexer on a source text.
-/

namespace CLexicon

/-! ## Using a lexer -/

/-- What may be asked of a lexer. -/
inductive LexerCall where
  | next
  | takeDiagnostics
  deriving DecidableEq, Repr

/-- A lexer, and what it has given so far. -/
structure LexerUse where
  lexer : Lexer
  /-- The spans, in the order they came in. -/
  yielded : List ClassifiedSpan := []
  /-- The warnings, in the order they came in. -/
  handed : List Diagnostic := []

/-- Whether a span of a kind leaves something open. -/
def Kind.isUnterminated : Kind → Bool
  | unterminatedComment | unterminatedLiteral => true
  | _ => false

namespace LexerUse

/-- One call. -/
def call (use : LexerUse) : LexerCall → LexerUse
  | .next =>
    { use with
      lexer := use.lexer.next.2
      yielded := use.yielded ++ use.lexer.next.1.toList }
  | .takeDiagnostics =>
    { use with
      lexer := use.lexer.takeDiagnostics.2
      handed := use.handed ++ use.lexer.takeDiagnostics.1 }

/-- Some calls, one after the other. -/
def calls (use : LexerUse) (calls : List LexerCall) : LexerUse :=
  calls.foldl call use

/-- The spans so far that leave something open. -/
def unterminated (use : LexerUse) : List ClassifiedSpan :=
  use.yielded.filter (·.kind.isUnterminated)

/-- The warnings so far: those handed over, and those that would be now. -/
def warnings (use : LexerUse) : List Diagnostic :=
  use.handed ++ use.lexer.takeDiagnostics.1

end LexerUse

/-! ## What a warning says -/

/-- A warning about a span that leaves something open. -/
structure Diagnostic.WarnsOf (warning : Diagnostic) (s : ClassifiedSpan) : Prop where
  span : warning.primarySpan? = some s.span
  code : s.kind = .unterminatedComment ∧ warning.code.printed = "W2001" ∨
    s.kind = .unterminatedLiteral ∧ warning.code.printed = "W2002"
  made : ∃ unclosed : Unclosed, warning = unclosed.toDiagnostic s.span

theorem Diagnostic.WarnsOf.sortKey {warning : Diagnostic} {s : ClassifiedSpan}
    (h : warning.WarnsOf s) : warning.sortKey = s.span.start := by
  rw [Diagnostic.sortKey, h.span]
  rfl

section Classify

variable {lexicon : Lexicon} {tag : Tag} {text : String} {span : Span}

/-- A token that leaves something open brings a warning about its span. -/
theorem warnsOf_classify {unclosed : Unclosed} (h : Unclosed.ofTag? tag = some unclosed) :
    (unclosed.toDiagnostic span).WarnsOf (classify lexicon tag text span) := by
  constructor
  case span => rw [classify_span]; rfl
  case made => exact ⟨unclosed, by rw [classify_span]⟩
  case code =>
    cases tag with
    | openComment =>
      cases h
      exact Or.inl ⟨rfl, rfl⟩
    | openString =>
      cases h
      exact Or.inr ⟨rfl, rfl⟩
    | openChar =>
      cases h
      exact Or.inr ⟨rfl, rfl⟩
    | _ => cases h

/-- The spans that leave something open are those of the tokens that do. -/
theorem isUnterminated_classify :
    (classify lexicon tag text span).kind.isUnterminated = (Unclosed.ofTag? tag).isSome := by
  cases tag with
  | word =>
    unfold classify
    dsimp only
    split <;> rfl
  | operator =>
    unfold classify
    dsimp only
    split <;> rfl
  | _ => rfl

end Classify

/-! ## The books of a queue -/

namespace Queue

/-- The warnings that were handed over and those that wait in a queue belong to
some of the spans that leave something open, in their order.  The others were
dropped, and there are none without a limit. -/
structure Accounts (queue : Queue) (limit : Nat) (handed : List Diagnostic)
    (unterminated : List ClassifiedSpan) : Prop where
  policy : queue.policy = ⟨limit, false⟩
  warned : List.SublistForall₂ Diagnostic.WarnsOf (handed ++ queue.waiting.toList) unterminated
  counted : (handed ++ queue.waiting.toList).length + queue.dropped = unterminated.length
  unlimited : limit = 0 → queue.dropped = 0

namespace Accounts

variable {queue : Queue} {limit : Nat} {handed : List Diagnostic}
  {unterminated : List ClassifiedSpan}

/-- One more span leaves something open, and its warning is offered. -/
theorem push (h : queue.Accounts limit handed unterminated) {warning : Diagnostic}
    {s : ClassifiedSpan} (hwarns : warning.WarnsOf s) :
    (queue.push warning).2.Accounts limit handed (unterminated ++ [s]) := by
  obtain ⟨spans, hforall, hsublist⟩ := List.sublistForall₂_iff.mp h.warned
  have hcounted := h.counted
  rw [List.length_append] at hcounted
  rw [push_of_keeps (by rw [h.policy])]
  by_cases hreached : queue.limitReached
  · rw [if_pos hreached]
    constructor
    case policy => exact h.policy
    case warned =>
      have hmore := hsublist.trans (List.sublist_append_left unterminated [s])
      exact List.sublistForall₂_iff.mpr ⟨spans, hforall, hmore⟩
    case counted =>
      simp only [List.length_append, List.length_singleton]
      omega
    case unlimited =>
      -- without a limit, it is never reached
      intro hzero
      simp [limitReached, h.policy, hzero] at hreached
  · rw [if_neg hreached]
    constructor
    case policy => exact h.policy
    case warned =>
      dsimp only
      rw [Array.toList_push, ← List.append_assoc]
      exact List.sublistForall₂_iff.mpr ⟨spans ++ [s],
        List.rel_append hforall (.cons hwarns .nil), hsublist.append_right [s]⟩
    case counted =>
      simp only [Array.toList_push, List.length_append, List.length_singleton]
      omega
    case unlimited => exact h.unlimited

/-- The warnings of spans that stand in order are in order, and no two of them
stand at one place. -/
theorem pairwise_sortKey (h : queue.Accounts limit handed unterminated)
    (horder : InSourceOrder (unterminated.map (·.span))) :
    (handed ++ queue.waiting.toList).Pairwise fun first second =>
      first.sortKey < second.sortKey := by
  obtain ⟨spans, hforall, hsublist⟩ := List.sublistForall₂_iff.mp h.warned
  have hspans := horder.sublist (hsublist.map _)
  have hkeys : (handed ++ queue.waiting.toList).map Diagnostic.sortKey =
      (spans.map (·.span)).map Span.start := by
    rw [List.map_map, ← List.forall₂_eq_eq_eq, List.forall₂_map_left_iff,
      List.forall₂_map_right_iff]
    exact hforall.imp fun _ _ hwarns => hwarns.sortKey
  rw [← List.pairwise_map (f := Diagnostic.sortKey) (R := (· < ·)), hkeys, List.pairwise_map]
  exact hspans.pairwise_start

/-- The warnings that wait are handed over as they came in. -/
theorem flush_fst (h : queue.Accounts limit handed unterminated)
    (horder : InSourceOrder (unterminated.map (·.span))) :
    queue.flush.1 = queue.waiting.toList := by
  apply List.mergeSort_of_pairwise
  have hwaiting := (h.pairwise_sortKey horder).sublist (List.sublist_append_right handed _)
  exact hwaiting.imp fun hlt => decide_eq_true (Nat.le_of_lt hlt)

/-- What waited is handed over. -/
theorem flush (h : queue.Accounts limit handed unterminated)
    (horder : InSourceOrder (unterminated.map (·.span))) :
    queue.flush.2.Accounts limit (handed ++ queue.flush.1) unterminated := by
  have hempty : handed ++ queue.flush.1 ++ queue.flush.2.waiting.toList =
      handed ++ queue.waiting.toList := by
    rw [h.flush_fst horder]
    exact List.append_nil _
  exact ⟨h.policy, hempty ▸ h.warned, hempty ▸ h.counted, h.unlimited⟩

end Accounts

end Queue

/-! ## The books of a lexer -/

namespace Lexer

theorem position_behind_peek (lexer : Lexer) :
    (lexer.behind lexer.scanner.peek).scanner.cursor.position =
      (lexer.tokenSpan lexer.scanner.peek).stop := by
  have hle : lexer.scanner.peek.length ≤ lexer.scanner.cursor.rest.length := lexeme_le _ _ _
  show _ + (lexer.scanner.cursor.rest.take lexer.scanner.peek.length).length = _
  rw [List.length_take_of_le hle]
  rfl

/-- A token that is next is not empty. -/
theorem tokenSpan_peek_pos {lexer : Lexer} (h : ¬lexer.scanner.cursor.isAtEnd) :
    (lexer.tokenSpan lexer.scanner.peek).start < (lexer.tokenSpan lexer.scanner.peek).stop :=
  Nat.lt_add_of_pos_right (lexeme_pos _ _ (mt Scanner.rest_eq_nil_iff.mp h))

theorem isUnterminated_classifyToken (lexer : Lexer) (token : Token) :
    (lexer.classifyToken token).kind.isUnterminated = (Unclosed.ofTag? token.tag).isSome :=
  isUnterminated_classify

theorem warnings_behind_of_none {lexer : Lexer} {token : Token}
    (h : Unclosed.ofTag? token.tag = none) : (lexer.behind token).warnings = lexer.warnings := by
  unfold behind
  rw [h]

theorem warnings_behind_of_some {lexer : Lexer} {token : Token} {unclosed : Unclosed}
    (h : Unclosed.ofTag? token.tag = some unclosed) :
    (lexer.behind token).warnings =
      (lexer.warnings.push (unclosed.toDiagnostic (lexer.tokenSpan token))).2 := by
  unfold behind
  rw [h]

/-- Behind a token, its span is among those of which the books are kept. -/
theorem accounts_behind {lexer : Lexer} {limit : Nat} {handed : List Diagnostic}
    {yielded : List ClassifiedSpan}
    (h : lexer.warnings.Accounts limit handed (yielded.filter (·.kind.isUnterminated)))
    (token : Token) :
    (lexer.behind token).warnings.Accounts limit handed
      ((yielded ++ [lexer.classifyToken token]).filter (·.kind.isUnterminated)) := by
  have hkind := isUnterminated_classifyToken lexer token
  rw [List.filter_append]
  cases hunclosed : Unclosed.ofTag? token.tag with
  | none =>
    rw [hunclosed, Option.isSome_none] at hkind
    rw [warnings_behind_of_none hunclosed, List.filter_cons, if_neg (by simp [hkind]),
      List.filter_nil, List.append_nil]
    exact h
  | some unclosed =>
    rw [hunclosed, Option.isSome_some] at hkind
    rw [warnings_behind_of_some hunclosed, List.filter_cons, if_pos hkind, List.filter_nil]
    exact h.push (warnsOf_classify hunclosed)

/-- A lexer gives nothing at the end of its text.  Else it passes over some blank
space, which brings no warning, and gives the span of the token behind that. -/
theorem next_cases (lexer : Lexer) :
    ∃ arrived : Lexer, arrived.warnings = lexer.warnings ∧
      lexer.scanner.cursor.position ≤ arrived.scanner.cursor.position ∧
      (lexer.next = (none, arrived) ∨
        ¬arrived.scanner.cursor.isAtEnd ∧
          lexer.next = (some (arrived.classifyToken arrived.scanner.peek),
            arrived.behind arrived.scanner.peek)) := by
  fun_induction next lexer with
  | case1 lexer => exact ⟨lexer, rfl, Nat.le_refl _, Or.inl rfl⟩
  | case2 lexer hmore token classified hblank ih =>
    obtain ⟨arrived, hwarnings, hposition, hnext⟩ := ih
    have hnone : Unclosed.ofTag? token.tag = none := by
      rw [← Option.not_isSome_iff_eq_none, ← isUnterminated_classifyToken lexer, hblank.1]
      decide
    rw [warnings_behind_of_none hnone] at hwarnings
    rw [position_behind_peek] at hposition
    refine ⟨arrived, hwarnings, Nat.le_trans ?_ hposition, hnext⟩
    exact Nat.le_add_right _ _
  | case3 lexer hmore => exact ⟨lexer, rfl, Nat.le_refl _, Or.inr ⟨hmore, rfl⟩⟩

end Lexer

namespace LexerUse

/-- The books of a lexer in use.  The spans that were given lie before the place
where the lexer is. -/
structure Accounted (use : LexerUse) (limit : Nat) : Prop where
  books : use.lexer.warnings.Accounts limit use.handed use.unterminated
  order : InSourceOrder (use.yielded.map (·.span))
  behind : ∀ s ∈ use.yielded, s.span.stop ≤ use.lexer.scanner.cursor.position

namespace Accounted

variable {use : LexerUse} {limit : Nat}

theorem order_unterminated (h : use.Accounted limit) :
    InSourceOrder (use.unterminated.map (·.span)) :=
  h.order.sublist (List.filter_sublist.map _)

/-- One call keeps the books. -/
theorem call (h : use.Accounted limit) (call : LexerCall) : (use.call call).Accounted limit := by
  cases call with
  | takeDiagnostics => exact ⟨h.books.flush h.order_unterminated, h.order, h.behind⟩
  | next =>
    obtain ⟨arrived, hwarnings, hposition, hnext⟩ := use.lexer.next_cases
    have hbooks := h.books
    rw [← hwarnings] at hbooks
    have hbehind := fun s hs => Nat.le_trans (h.behind s hs) hposition
    unfold LexerUse.call
    rcases hnext with hnext | ⟨hmore, hnext⟩
    · simp only [hnext, Option.toList_none, List.append_nil]
      exact ⟨hbooks, h.order, hbehind⟩
    · rw [hnext]
      have hspan : (arrived.classifyToken arrived.scanner.peek).span =
          arrived.tokenSpan arrived.scanner.peek := classify_span _ _ _ _
      constructor
      case books => exact Lexer.accounts_behind hbooks _
      case order =>
        rw [Option.toList_some, List.map_append, List.map_singleton, hspan]
        refine h.order.concat (Lexer.tokenSpan_peek_pos hmore) fun earlier hearlier => ?_
        obtain ⟨s, hs, rfl⟩ := List.mem_map.mp hearlier
        exact hbehind s hs
      case behind =>
        dsimp only
        rw [Lexer.position_behind_peek, Option.toList_some, List.forall_mem_append,
          List.forall_mem_singleton, hspan]
        have hpos := Lexer.tokenSpan_peek_pos hmore
        exact ⟨fun s hs => Nat.le_trans (hbehind s hs) (Nat.le_of_lt hpos), Nat.le_refl _⟩

end Accounted

/-- Some calls keep the books. -/
theorem Accounted.calls {use : LexerUse} {limit : Nat} (h : use.Accounted limit)
    (calls : List LexerCall) : (use.calls calls).Accounted limit := by
  induction calls generalizing use with
  | nil => exact h
  | cons call calls ih => exact ih (h.call call)

/-- The books of a lexer at the start of a source text are empty. -/
theorem accounted_ofText (lexicon : Lexicon) (source : String) (options : ScanOptions) :
    Accounted ⟨Lexer.ofText lexicon source options, [], []⟩ options.warningLimit where
  books := ⟨rfl, .nil, rfl, fun _ => rfl⟩
  order := ⟨by simp, .nil⟩
  behind := by simp

end LexerUse

/-! ## All warnings of a source text -/

section Lex

variable (lexicon : Lexicon)

/-- The warnings of some tokens belong to their spans that leave something
open. -/
theorem forall₂_warnsOf (placed : List PlacedToken) :
    List.Forall₂ Diagnostic.WarnsOf (placed.filterMap PlacedToken.warning?)
      ((placed.map (·.classified lexicon)).filter (·.kind.isUnterminated)) := by
  induction placed with
  | nil => exact .nil
  | cons first placed ih =>
    have hkind : (first.classified lexicon).kind.isUnterminated =
        (Unclosed.ofTag? first.tag).isSome := isUnterminated_classify
    rw [List.filterMap_cons, List.map_cons, List.filter_cons, hkind, PlacedToken.warning?]
    cases hunclosed : Unclosed.ofTag? first.tag with
    | none => exact ih
    | some unclosed => exact .cons (warnsOf_classify hunclosed) ih

/-- Whether blank space is kept makes no difference for the spans that leave
something open. -/
theorem unterminated_lex (source : String) (options : ScanOptions) :
    (lex lexicon source options).spans.filter (·.kind.isUnterminated) =
      ((Scanner.ofText lexicon.operatorTable options.foldDirectives source).placed.map
        (·.classified lexicon)).filter (·.kind.isUnterminated) := by
  rw [spans_lex_eq_filter, spans_lex, List.filter_filter]
  apply List.filter_congr
  intro s _
  cases s.kind <;> simp [Kind.isUnterminated]

end Lex

/-- The warnings of a lexer are accounted for, however its calls are mixed.
Those handed over and those that would be handed over now are in source order
without repetition, and warn of spans that were given.  As many as are missing
were dropped, and none without a limit.  All of a source brings the warnings of
its first spans that leave something open, whether or not blank space is kept. -/
theorem warnings_accounted (lexicon : Lexicon) (source : String) (options : ScanOptions) :
    (∀ calls : List LexerCall,
      let use := LexerUse.calls ⟨Lexer.ofText lexicon source options, [], []⟩ calls
      List.SublistForall₂ Diagnostic.WarnsOf use.warnings use.unterminated ∧
      use.warnings.Pairwise (fun first second => first.sortKey < second.sortKey) ∧
      use.warnings.length + use.lexer.droppedWarnings = use.unterminated.length ∧
      (options.warningLimit = 0 → use.lexer.droppedWarnings = 0)) ∧
    ∀ keepWhitespace : Bool,
      let found := lex lexicon source { options with keepWhitespace }
      let unterminated := found.spans.filter (·.kind.isUnterminated)
      found.diagnostics = (lex lexicon source options).diagnostics ∧
      List.Forall₂ Diagnostic.WarnsOf found.diagnostics
        (if options.warningLimit = 0 then unterminated
          else unterminated.take options.warningLimit) := by
  constructor
  · intro calls use
    have h := (LexerUse.accounted_ofText lexicon source options).calls calls
    have hwarnings : use.warnings = use.handed ++ use.lexer.warnings.waiting.toList :=
      congrArg (use.handed ++ ·) (h.books.flush_fst h.order_unterminated)
    rw [hwarnings]
    exact ⟨h.books.warned, h.books.pairwise_sortKey h.order_unterminated, h.books.counted,
      h.books.unlimited⟩
  · intro keepWhitespace found unterminated
    have hdiagnostics := diagnostics_lex lexicon source { options with keepWhitespace }
    refine ⟨hdiagnostics.trans (diagnostics_lex lexicon source options).symm, ?_⟩
    have hforall := forall₂_warnsOf lexicon
      (Scanner.ofText lexicon.operatorTable options.foldDirectives source).placed
    rw [← unterminated_lex lexicon source { options with keepWhitespace }] at hforall
    show List.Forall₂ _ (lex _ _ _).diagnostics _
    rw [hdiagnostics, Queue.withinLimit]
    split
    · exact hforall
    · exact List.forall₂_take _ hforall

end CLexicon
