import CLexicon.Report.Queue
import Mathlib.Data.List.DropRight
import Mathlib.Data.List.Induction

/-!
# What a queue holds

A queue may be offered diagnostics and flushed in any order.  What waits in it is
told by what was offered since it was last flushed, and what it has dropped by all
calls there were.

* `Queue.push_cases`: the three things that may happen to a diagnostic.
* `Queue.Holds`: what waits, told by what was offered since the last flush.
  `Queue.Holds.push` is one more diagnostic.
* `stableSort_mergeSort`: the order in which diagnostics are handed over.
* `Queue.holds_afterAll` and `Queue.dropped_afterAll`: a queue after any calls.
* `Queue.Holds.push_fst` and `Queue.answers`: what the calls are answered.
-/

namespace CLexicon

/-! ## One diagnostic -/

namespace QueuePolicy

/-- Some diagnostics without the repetitions that are dropped. -/
def distinct (policy : QueuePolicy) (offered : List Diagnostic) : List Diagnostic :=
  if policy.deduplicate then offered.eraseDups else offered

/-- Whether the limit is reached when some diagnostics were offered. -/
def isFull (policy : QueuePolicy) (offered : List Diagnostic) : Bool :=
  0 < policy.limit && policy.limit ≤ (policy.distinct offered).length

/-- Whether a diagnostic that comes after some others is one of them, and dropped
for that. -/
def isRepeated (policy : QueuePolicy) (offered : List Diagnostic) (diagnostic : Diagnostic) :
    Bool :=
  policy.deduplicate && diagnostic ∈ offered

variable {policy : QueuePolicy} {offered : List Diagnostic} {diagnostic : Diagnostic}

theorem mem_distinct : diagnostic ∈ policy.distinct offered ↔ diagnostic ∈ offered := by
  unfold distinct
  split
  · exact List.mem_eraseDups
  · exact Iff.rfl

theorem isFull_nil : policy.isFull [] = false := by
  unfold isFull distinct
  cases policy.limit <;> simp

theorem isRepeated_nil : policy.isRepeated [] diagnostic = false := by
  simp [isRepeated]

theorem distinct_concat :
    policy.distinct (offered ++ [diagnostic]) =
      policy.distinct offered ++
        if policy.isRepeated offered diagnostic then [] else [diagnostic] := by
  unfold distinct isRepeated
  cases policy.deduplicate with
  | false => simp
  | true =>
    rw [if_pos rfl, if_pos rfl, List.eraseDups_append]
    by_cases hthere : diagnostic ∈ offered <;>
      simp [List.removeAll, hthere, List.eraseDups_cons]

end QueuePolicy

namespace Queue

/-- The first of some diagnostics, as many as a limit allows.  Zero is no limit.
-/
def withinLimit (limit : Nat) (diagnostics : List Diagnostic) : List Diagnostic :=
  if limit = 0 then diagnostics else diagnostics.take limit

theorem withinLimit_sublist (limit : Nat) (diagnostics : List Diagnostic) :
    (withinLimit limit diagnostics).Sublist diagnostics := by
  unfold withinLimit
  split
  · exact List.Sublist.refl _
  · exact List.take_sublist _ _

/-- A diagnostic is turned away at the limit, dropped as a repetition, or kept. -/
theorem push_cases (queue : Queue) (diagnostic : Diagnostic) :
    queue.limitReached = true ∧
        queue.push diagnostic = (false, { queue with dropped := queue.dropped + 1 }) ∨
      queue.limitReached = false ∧
        (queue.policy.isRepeated queue.waiting.toList diagnostic = true ∧
            queue.push diagnostic = (false, queue) ∨
          queue.policy.isRepeated queue.waiting.toList diagnostic = false ∧
            queue.push diagnostic =
              (true, { queue with waiting := queue.waiting.push diagnostic })) := by
  unfold push QueuePolicy.isRepeated
  rw [Array.contains_eq_mem]
  simp only [Array.mem_toList_iff]
  by_cases hreached : queue.limitReached
  · exact Or.inl ⟨hreached, if_pos hreached⟩
  · refine Or.inr ⟨eq_false_of_ne_true hreached, ?_⟩
    rw [if_neg hreached]
    by_cases hrepeated : (queue.policy.deduplicate && decide (diagnostic ∈ queue.waiting)) = true
    · exact Or.inl ⟨hrepeated, if_pos hrepeated⟩
    · exact Or.inr ⟨eq_false_of_ne_true hrepeated, if_neg hrepeated⟩

/-- What waits in a queue, told by what it was offered since it was last flushed. -/
structure Holds (queue : Queue) (policy : QueuePolicy) (offered : List Diagnostic) : Prop where
  waiting : queue.waiting.toList = withinLimit policy.limit (policy.distinct offered)
  policy : queue.policy = policy

section Holds

variable {queue : Queue} {policy : QueuePolicy} {offered : List Diagnostic}
  {diagnostic : Diagnostic}

theorem Holds.limitReached (h : queue.Holds policy offered) :
    queue.limitReached = policy.isFull offered := by
  have hsize : queue.waiting.size =
      (withinLimit policy.limit (policy.distinct offered)).length := by
    rw [← Array.length_toList, h.waiting]
  rw [Queue.limitReached, QueuePolicy.isFull, h.policy, hsize, withinLimit]
  split
  · rfl
  · rw [List.length_take]
    congr 1
    exact decide_eq_decide.mpr (Nat.le_min.trans (and_iff_right (Nat.le_refl _)))

/-- Short of the limit, all that was offered waits, repetitions apart. -/
theorem Holds.waiting_of_room (h : queue.Holds policy offered)
    (hroom : queue.limitReached = false) :
    queue.waiting.toList = policy.distinct offered := by
  rw [h.waiting, withinLimit]
  split
  · rfl
  · rename_i hpos
    rw [h.limitReached, QueuePolicy.isFull, decide_eq_true (Nat.pos_of_ne_zero hpos),
      Bool.true_and, decide_eq_false_iff_not] at hroom
    exact List.take_of_length_le (by omega)

/-- A repetition of what waits is one of what was offered. -/
theorem Holds.isRepeated (h : queue.Holds policy offered) (hroom : queue.limitReached = false) :
    queue.policy.isRepeated queue.waiting.toList diagnostic =
      policy.isRepeated offered diagnostic := by
  unfold QueuePolicy.isRepeated
  rw [h.policy, h.waiting_of_room hroom]
  simp only [QueuePolicy.mem_distinct]

/-- One more diagnostic is offered. -/
theorem Holds.push (h : queue.Holds policy offered) (diagnostic : Diagnostic) :
    (queue.push diagnostic).2.Holds policy (offered ++ [diagnostic]) := by
  rcases queue.push_cases diagnostic with ⟨hreached, hpush⟩ |
    ⟨hroom, ⟨hrepeated, hpush⟩ | ⟨hnew, hpush⟩⟩
  · -- at the limit, what comes last does not count
    rw [hpush]
    refine ⟨h.waiting.trans ?_, h.policy⟩
    rw [h.limitReached, QueuePolicy.isFull, Bool.and_eq_true, decide_eq_true_eq,
      decide_eq_true_eq] at hreached
    rw [withinLimit, withinLimit, if_neg (Nat.ne_of_gt hreached.1),
      if_neg (Nat.ne_of_gt hreached.1), QueuePolicy.distinct_concat,
      List.take_append_of_le_length hreached.2]
  · rw [h.isRepeated hroom] at hrepeated
    rw [hpush]
    refine ⟨h.waiting.trans ?_, h.policy⟩
    rw [QueuePolicy.distinct_concat, if_pos hrepeated, List.append_nil]
  · rw [h.isRepeated hroom] at hnew
    have hfull := h.limitReached.symm.trans hroom
    rw [hpush]
    refine ⟨?_, h.policy⟩
    show (queue.waiting.push diagnostic).toList = _
    rw [Array.toList_push, h.waiting_of_room hroom, QueuePolicy.distinct_concat,
      if_neg (by rw [hnew]; exact Bool.false_ne_true), withinLimit]
    split
    · rfl
    · rename_i hpos
      rw [QueuePolicy.isFull, decide_eq_true (Nat.pos_of_ne_zero hpos), Bool.true_and,
        decide_eq_false_iff_not] at hfull
      rw [List.take_of_length_le]
      rw [List.length_append, List.length_singleton]
      omega

end Holds

end Queue

/-! ## The order of what is handed over -/

/-- A rearrangement by ascending keys, in which elements of one key keep their
order. -/
structure StableSort {α : Type u} (key : α → Nat) (input output : List α) : Prop where
  perm : output.Perm input
  ascending : output.Pairwise fun first second => key first ≤ key second
  stable : ∀ k, output.filter (key · = k) = input.filter (key · = k)

theorem stableSort_mergeSort {α : Type u} (key : α → Nat) (input : List α) :
    StableSort key input (input.mergeSort fun first second => key first ≤ key second) := by
  have hperm := List.mergeSort_perm input fun first second => decide (key first ≤ key second)
  have htrans : ∀ a b c, decide (key a ≤ key b) = true → decide (key b ≤ key c) = true →
      decide (key a ≤ key c) = true := by
    intro a b c hab hbc
    exact decide_eq_true (Nat.le_trans (of_decide_eq_true hab) (of_decide_eq_true hbc))
  have htotal : ∀ a b, (decide (key a ≤ key b) || decide (key b ≤ key a)) = true := by
    intro a b
    rw [Bool.or_eq_true, decide_eq_true_eq, decide_eq_true_eq]
    exact Nat.le_total _ _
  constructor
  case perm => exact hperm
  case ascending => exact (List.pairwise_mergeSort htrans htotal input).imp of_decide_eq_true
  case stable =>
    intro k
    -- elements of one key are in order, so sorting keeps them as a sublist
    have hordered : (input.filter (key · = k)).Pairwise
        fun first second => decide (key first ≤ key second) = true := by
      refine List.pairwise_of_forall_mem_list fun a ha b hb => ?_
      have ha := of_decide_eq_true (List.mem_filter.mp ha).2
      have hb := of_decide_eq_true (List.mem_filter.mp hb).2
      exact decide_eq_true (Nat.le_of_eq (ha.trans hb.symm))
    have hkept := (List.sublist_mergeSort htrans htotal hordered List.filter_sublist).filter
      (key · = k)
    rw [List.filter_filter] at hkept
    simp only [Bool.and_self] at hkept
    exact (hkept.eq_of_length (hperm.filter _).length_eq.symm).symm

/-! ## Any calls -/

/-- What may be asked of a queue. -/
inductive QueueCall where
  | push (diagnostic : Diagnostic)
  | flush
  deriving DecidableEq, Repr

/-- What a call is answered: whether a diagnostic was kept, or all that waited. -/
inductive QueueAnswer where
  | kept (isKept : Bool)
  | taken (diagnostics : List Diagnostic)
  deriving DecidableEq, Repr

namespace QueueCall

/-- The diagnostic that a call offers. -/
def offered? : QueueCall → Option Diagnostic
  | push diagnostic => some diagnostic
  | flush => none

/-- The diagnostics that were offered since the last flush. -/
def sinceFlush (calls : List QueueCall) : List Diagnostic :=
  (calls.rtakeWhile (· ≠ flush)).filterMap offered?

theorem sinceFlush_push (calls : List QueueCall) (diagnostic : Diagnostic) :
    sinceFlush (calls ++ [push diagnostic]) = sinceFlush calls ++ [diagnostic] := by
  unfold sinceFlush
  rw [List.rtakeWhile_concat_pos _ _ _ (by simp), List.filterMap_append]
  rfl

theorem sinceFlush_flush (calls : List QueueCall) : sinceFlush (calls ++ [flush]) = [] := by
  unfold sinceFlush
  rw [List.rtakeWhile_concat_neg _ _ _ (by simp)]
  rfl

end QueueCall

namespace QueuePolicy

/-- Whether the call at a place is a push that finds the limit reached. -/
def turnsAway (policy : QueuePolicy) (calls : List QueueCall) (place : Nat) : Bool :=
  (calls[place]?.bind QueueCall.offered?).isSome &&
    policy.isFull (QueueCall.sinceFlush (calls.take place))

/-- Later calls make no difference to whether a call finds the limit reached. -/
theorem turnsAway_append {policy : QueuePolicy} {calls : List QueueCall} {place : Nat}
    (h : place < calls.length) (more : List QueueCall) :
    policy.turnsAway (calls ++ more) place = policy.turnsAway calls place := by
  unfold turnsAway
  rw [List.getElem?_append_left h, List.take_append_of_le_length (Nat.le_of_lt h)]

end QueuePolicy

namespace Queue

/-- The answer to a call, and the queue behind it. -/
def call (queue : Queue) : QueueCall → QueueAnswer × Queue
  | .push diagnostic => (.kept (queue.push diagnostic).1, (queue.push diagnostic).2)
  | .flush => (.taken queue.flush.1, queue.flush.2)

/-- The queue behind some calls, one after the other. -/
def afterAll (queue : Queue) (calls : List QueueCall) : Queue :=
  calls.foldl (fun queue call => (queue.call call).2) queue

theorem afterAll_concat (queue : Queue) (calls : List QueueCall) (call : QueueCall) :
    queue.afterAll (calls ++ [call]) = ((queue.afterAll calls).call call).2 :=
  List.foldl_concat _ _ _ _

/-- A queue into which nothing was pushed. -/
def ofPolicy (policy : QueuePolicy) : Queue :=
  { policy }

variable (policy : QueuePolicy) (calls : List QueueCall)

theorem holds_afterAll :
    ((ofPolicy policy).afterAll calls).Holds policy (QueueCall.sinceFlush calls) := by
  induction calls using List.reverseRecOn with
  | nil =>
    refine ⟨?_, rfl⟩
    simp [afterAll, ofPolicy, withinLimit, QueuePolicy.distinct, QueueCall.sinceFlush]
  | append_singleton calls call ih =>
    rw [afterAll_concat]
    cases call with
    | push diagnostic =>
      rw [QueueCall.sinceFlush_push]
      exact ih.push diagnostic
    | flush =>
      rw [QueueCall.sinceFlush_flush]
      exact ⟨by simp [call, flush, withinLimit, QueuePolicy.distinct], ih.policy⟩

/-- A call counts as dropped if it is a push that finds the limit reached. -/
theorem dropped_call (queue : Queue) (call : QueueCall) :
    (queue.call call).2.dropped =
      queue.dropped + (call.offered?.isSome && queue.limitReached).toNat := by
  cases call with
  | flush => rfl
  | push diagnostic =>
    show (queue.push diagnostic).2.dropped = queue.dropped + queue.limitReached.toNat
    rcases queue.push_cases diagnostic with ⟨hreached, hpush⟩ |
      ⟨hroom, ⟨-, hpush⟩ | ⟨-, hpush⟩⟩
    · rw [hpush, hreached]
      rfl
    · rw [hpush, hroom]
      rfl
    · rw [hpush, hroom]
      rfl

/-- All pushes count that found the limit reached, whatever was flushed. -/
theorem dropped_afterAll :
    ((ofPolicy policy).afterAll calls).dropped =
      (List.range calls.length).countP (policy.turnsAway calls) := by
  induction calls using List.reverseRecOn with
  | nil => rfl
  | append_singleton calls call ih =>
    have hbefore : (List.range calls.length).countP (policy.turnsAway (calls ++ [call])) =
        (List.range calls.length).countP (policy.turnsAway calls) := by
      refine List.countP_congr fun place hplace => ?_
      rw [QueuePolicy.turnsAway_append (List.mem_range.mp hplace)]
    have hlast : policy.turnsAway (calls ++ [call]) calls.length =
        (call.offered?.isSome && policy.isFull (QueueCall.sinceFlush calls)) := by
      simp [QueuePolicy.turnsAway]
    rw [afterAll_concat, dropped_call, ih, (holds_afterAll policy calls).limitReached,
      List.length_append, List.length_singleton, List.range_succ, List.countP_append, hbefore,
      List.countP_singleton, hlast]
    cases call.offered?.isSome && policy.isFull (QueueCall.sinceFlush calls) <;> rfl

/-! ## Answers -/

/-- A diagnostic is kept short of the limit, unless it is a repetition. -/
theorem Holds.push_fst {queue : Queue} {policy : QueuePolicy} {offered : List Diagnostic}
    (h : queue.Holds policy offered) (diagnostic : Diagnostic) :
    (queue.push diagnostic).1 =
      (!policy.isFull offered && !policy.isRepeated offered diagnostic) := by
  rw [← h.limitReached]
  rcases queue.push_cases diagnostic with ⟨hreached, hpush⟩ |
    ⟨hroom, ⟨hrepeated, hpush⟩ | ⟨hnew, hpush⟩⟩
  · rw [hpush, hreached]
    rfl
  · rw [hpush, hroom, ← h.isRepeated hroom, hrepeated]
    rfl
  · rw [hpush, hroom, ← h.isRepeated hroom, hnew]
    rfl

/-- A diagnostic waits behind the others exactly if it was kept. -/
theorem waiting_push (queue : Queue) (diagnostic : Diagnostic) :
    (queue.push diagnostic).2.waiting =
      if (queue.push diagnostic).1 then queue.waiting.push diagnostic else queue.waiting := by
  rcases queue.push_cases diagnostic with ⟨-, hpush⟩ | ⟨-, ⟨-, hpush⟩ | ⟨-, hpush⟩⟩
  all_goals
    rw [hpush]
    rfl

/-- The answers to some calls, one after the other. -/
def answers (queue : Queue) : List QueueCall → List QueueAnswer
  | [] => []
  | call :: calls => (queue.call call).1 :: (queue.call call).2.answers calls

end Queue

end CLexicon
