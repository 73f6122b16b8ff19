import CLexicon.Proofs.Report.Queue
import Mathlib.Data.Finset.Insert
import Mathlib.Data.Set.Function

/-!
# Queues that tell repetitions by fingerprints

A queue compares diagnostics.  One that only compares their fingerprints, which it
remembers for as long as they wait, gives the same answers, provided that no two of
the diagnostics it is offered share a fingerprint.

* `FingerprintQueue`: the queue with fingerprints.
* `FingerprintQueue.Tracks`: the fingerprints are those of what waits.
  `FingerprintQueue.Tracks.push` and `FingerprintQueue.Tracks.call` are one step, and
  `FingerprintQueue.Tracks.answers` all of them.
* `queue_told_by_calls`: what either queue holds and answers, in terms of the calls.
-/

namespace CLexicon

/-- A queue with the fingerprints of the diagnostics that wait.  Repetitions are told
by their fingerprints. -/
structure FingerprintQueue where
  queue : Queue
  seen : Finset UInt64 := ∅

namespace FingerprintQueue

variable (fingerprint : Diagnostic → UInt64)

/-- The queue after a diagnostic was offered to it, and whether it was kept. -/
def push (printed : FingerprintQueue) (diagnostic : Diagnostic) : Bool × FingerprintQueue :=
  let queue := printed.queue
  if queue.limitReached then
    (false, { printed with queue := { queue with dropped := queue.dropped + 1 } })
  else if queue.policy.deduplicate then
    if fingerprint diagnostic ∈ printed.seen then
      (false, printed)
    else
      (true, ⟨{ queue with waiting := queue.waiting.push diagnostic },
        insert (fingerprint diagnostic) printed.seen⟩)
  else
    (true, { printed with queue := { queue with waiting := queue.waiting.push diagnostic } })

/-- All waiting diagnostics in source order, and the queue without them and their
fingerprints. -/
def flush (printed : FingerprintQueue) : List Diagnostic × FingerprintQueue :=
  (printed.queue.flush.1, ⟨printed.queue.flush.2, ∅⟩)

/-- The answer to a call, and the queue behind it. -/
def call (printed : FingerprintQueue) : QueueCall → QueueAnswer × FingerprintQueue
  | .push diagnostic =>
    (.kept (printed.push fingerprint diagnostic).1, (printed.push fingerprint diagnostic).2)
  | .flush => (.taken printed.flush.1, printed.flush.2)

/-- The answers to some calls, one after the other. -/
def answers (printed : FingerprintQueue) : List QueueCall → List QueueAnswer
  | [] => []
  | call :: calls =>
    (printed.call fingerprint call).1 :: (printed.call fingerprint call).2.answers calls

variable {fingerprint} {known : Set Diagnostic} {printed : FingerprintQueue}

/-- The fingerprints are those of the diagnostics that wait, which are known. -/
structure Tracks (fingerprint : Diagnostic → UInt64) (known : Set Diagnostic)
    (printed : FingerprintQueue) : Prop where
  known : ∀ diagnostic ∈ printed.queue.waiting, diagnostic ∈ known
  seen : printed.queue.policy.deduplicate = true → ∀ print,
    print ∈ printed.seen ↔ ∃ diagnostic ∈ printed.queue.waiting, fingerprint diagnostic = print

/-- A fingerprint was seen if its diagnostic waits. -/
theorem Tracks.mem_seen_iff (h : printed.Tracks fingerprint known)
    (hinj : Set.InjOn fingerprint known) {diagnostic : Diagnostic} (hknown : diagnostic ∈ known)
    (hdeduplicate : printed.queue.policy.deduplicate = true) :
    fingerprint diagnostic ∈ printed.seen ↔ diagnostic ∈ printed.queue.waiting := by
  rw [h.seen hdeduplicate]
  constructor
  · rintro ⟨other, hother, hsame⟩
    rwa [← hinj (h.known other hother) hknown hsame]
  · exact fun hthere => ⟨diagnostic, hthere, rfl⟩

/-- Both queues do the same with a diagnostic that is known. -/
theorem Tracks.push (h : printed.Tracks fingerprint known) (hinj : Set.InjOn fingerprint known)
    {diagnostic : Diagnostic} (hknown : diagnostic ∈ known) :
    (printed.push fingerprint diagnostic).1 = (printed.queue.push diagnostic).1 ∧
      (printed.push fingerprint diagnostic).2.queue = (printed.queue.push diagnostic).2 ∧
      (printed.push fingerprint diagnostic).2.Tracks fingerprint known := by
  have hkept : ∀ other ∈ printed.queue.waiting.push diagnostic, other ∈ known := by
    intro other hother
    rcases Array.mem_push.mp hother with hwaits | rfl
    · exact h.known other hwaits
    · exact hknown
  unfold FingerprintQueue.push
  dsimp only
  rcases printed.queue.push_cases diagnostic with ⟨hreached, hpush⟩ |
    ⟨hroom, ⟨hrepeated, hpush⟩ | ⟨hnew, hpush⟩⟩
  · rw [hpush, if_pos hreached]
    exact ⟨rfl, rfl, h.known, h.seen⟩
  · rw [QueuePolicy.isRepeated, Bool.and_eq_true, decide_eq_true_eq, Array.mem_toList_iff]
      at hrepeated
    rw [hpush, if_neg (by rw [hroom]; exact Bool.false_ne_true), if_pos hrepeated.1,
      if_pos ((h.mem_seen_iff hinj hknown hrepeated.1).mpr hrepeated.2)]
    exact ⟨rfl, rfl, h⟩
  · rw [QueuePolicy.isRepeated, Bool.and_eq_false_iff, decide_eq_false_iff_not,
      Array.mem_toList_iff] at hnew
    rw [hpush, if_neg (by rw [hroom]; exact Bool.false_ne_true)]
    by_cases hdeduplicate : printed.queue.policy.deduplicate = true
    · have hwaits := hnew.resolve_left (by rw [hdeduplicate]; exact Bool.true_eq_false_eq_False)
      rw [if_pos hdeduplicate, if_neg (mt (h.mem_seen_iff hinj hknown hdeduplicate).mp hwaits)]
      refine ⟨rfl, rfl, hkept, fun _ print => ?_⟩
      rw [Finset.mem_insert, h.seen hdeduplicate]
      simp only [Array.mem_push]
      grind
    · rw [if_neg hdeduplicate]
      exact ⟨rfl, rfl, hkept, fun hpolicy => absurd hpolicy hdeduplicate⟩

/-- Both queues answer a call alike, and go on alike. -/
theorem Tracks.call (h : printed.Tracks fingerprint known) (hinj : Set.InjOn fingerprint known)
    {call : QueueCall} (hknown : ∀ diagnostic, call = .push diagnostic → diagnostic ∈ known) :
    (printed.call fingerprint call).1 = (printed.queue.call call).1 ∧
      (printed.call fingerprint call).2.queue = (printed.queue.call call).2 ∧
      (printed.call fingerprint call).2.Tracks fingerprint known := by
  cases call with
  | push diagnostic =>
    obtain ⟨hkept, hqueue, htracks⟩ := h.push hinj (hknown diagnostic rfl)
    exact ⟨congrArg QueueAnswer.kept hkept, hqueue, htracks⟩
  | flush =>
    refine ⟨rfl, rfl, ?_, fun _ print => ?_⟩
    · simp [FingerprintQueue.call, FingerprintQueue.flush, Queue.flush]
    · simp [FingerprintQueue.call, FingerprintQueue.flush, Queue.flush]

/-- Both queues answer some calls alike. -/
theorem Tracks.answers (h : printed.Tracks fingerprint known) (hinj : Set.InjOn fingerprint known)
    {calls : List QueueCall}
    (hknown : ∀ diagnostic, .push diagnostic ∈ calls → diagnostic ∈ known) :
    printed.answers fingerprint calls = printed.queue.answers calls := by
  induction calls generalizing printed with
  | nil => rfl
  | cons call calls ih =>
    have hfirst : ∀ diagnostic, call = .push diagnostic → diagnostic ∈ known :=
      fun diagnostic hcall => hknown diagnostic (hcall ▸ List.mem_cons_self)
    obtain ⟨hanswer, hqueue, htracks⟩ := h.call hinj hfirst
    have hrest := ih htracks fun diagnostic hcall =>
      hknown diagnostic (List.mem_cons_of_mem _ hcall)
    rw [FingerprintQueue.answers, Queue.answers, hanswer, hrest, hqueue]

end FingerprintQueue

/-- What a queue holds and answers, for any policy and after any calls.

* What waits are the first diagnostics that were offered since the last flush, as many
  as the limit allows, where a queue that drops repetitions counts each once.
* A diagnostic is kept short of the limit, unless it is a repetition that is dropped,
  and exactly then it is put behind those that wait.
* All pushes that found the limit reached count as dropped, repetitions among them.
* A flush hands over what waits by the places it is about, and leaves a queue in which
  nothing waits and which keeps whatever comes next.
* Comparing fingerprints instead of diagnostics makes no difference to any answer, if no
  two diagnostics that are offered share one. -/
theorem queue_told_by_calls (policy : QueuePolicy) (calls : List QueueCall) :
    let queue := (Queue.ofPolicy policy).afterAll calls
    let offered := QueueCall.sinceFlush calls
    queue.waiting.toList = Queue.withinLimit policy.limit (policy.distinct offered) ∧
    (∀ diagnostic,
      (queue.push diagnostic).1 =
        (!policy.isFull offered && !policy.isRepeated offered diagnostic) ∧
      (queue.push diagnostic).2.waiting =
        if (queue.push diagnostic).1 then queue.waiting.push diagnostic else queue.waiting) ∧
    queue.dropped = (List.range calls.length).countP (policy.turnsAway calls) ∧
    (StableSort Diagnostic.sortKey queue.waiting.toList queue.flush.1 ∧
      queue.flush.2.waiting = #[] ∧ ∀ diagnostic, (queue.flush.2.push diagnostic).1 = true) ∧
    ∀ fingerprint : Diagnostic → UInt64,
      Set.InjOn fingerprint {diagnostic | .push diagnostic ∈ calls} →
      FingerprintQueue.answers fingerprint ⟨Queue.ofPolicy policy, ∅⟩ calls =
        (Queue.ofPolicy policy).answers calls := by
  intro queue offered
  have hholds : queue.Holds policy offered := Queue.holds_afterAll policy calls
  have hflushed := Queue.holds_afterAll policy (calls ++ [.flush])
  rw [Queue.afterAll_concat, QueueCall.sinceFlush_flush] at hflushed
  refine ⟨hholds.waiting, fun diagnostic => ⟨hholds.push_fst diagnostic, ?_⟩,
    Queue.dropped_afterAll policy calls, ⟨?_, rfl, fun diagnostic => ?_⟩,
    fun fingerprint hinj => ?_⟩
  · exact queue.waiting_push diagnostic
  · exact stableSort_mergeSort Diagnostic.sortKey queue.waiting.toList
  · -- nothing was offered, so there is nothing to repeat, and no limit is reached
    refine (hflushed.push_fst diagnostic).trans ?_
    rw [QueuePolicy.isFull_nil, QueuePolicy.isRepeated_nil]
    rfl
  · have htracks : FingerprintQueue.Tracks fingerprint {diagnostic | .push diagnostic ∈ calls}
        ⟨Queue.ofPolicy policy, ∅⟩ := ⟨by simp [Queue.ofPolicy], by simp [Queue.ofPolicy]⟩
    exact htracks.answers hinj fun _ hcall => hcall

/-- The place that a diagnostic is about, as its fingerprint, tells these two apart.  The
first is kept and then repeated, all that comes behind the second finds the limit
reached, and behind the flush both are kept again. -/
theorem queue_told_by_calls_two :
    let first : Diagnostic :=
      { code := .unterminatedComment, labels := [⟨⟨8, 20⟩, "here"⟩] }
    let second : Diagnostic :=
      { code := .unterminatedLiteral, labels := [⟨⟨0, 3⟩, "here"⟩] }
    let calls : List QueueCall := [.push first, .push first, .push second, .push first,
      .flush, .push second, .push first]
    Set.InjOn (fun diagnostic : Diagnostic => diagnostic.sortKey.toUInt64)
      {diagnostic | .push diagnostic ∈ calls} ∧
    FingerprintQueue.answers (fun diagnostic => diagnostic.sortKey.toUInt64)
      ⟨Queue.ofPolicy ⟨2, true⟩, ∅⟩ calls =
        [.kept true, .kept false, .kept true, .kept false, .taken [second, first],
          .kept true, .kept true] := by
  intro first second calls
  have hinj : Set.InjOn (fun diagnostic : Diagnostic => diagnostic.sortKey.toUInt64)
      {diagnostic | .push diagnostic ∈ calls} := by
    have hmem : ∀ diagnostic, .push diagnostic ∈ calls →
        diagnostic = first ∨ diagnostic = second := by
      intro diagnostic h
      simp only [calls, List.mem_cons, QueueCall.push.injEq, List.not_mem_nil] at h
      tauto
    intro a ha b hb hsame
    rcases hmem a ha with rfl | rfl <;> rcases hmem b hb with rfl | rfl
    · rfl
    · exact absurd hsame (by decide)
    · exact absurd hsame (by decide)
    · rfl
  refine ⟨hinj, ?_⟩
  rw [(queue_told_by_calls ⟨2, true⟩ calls).2.2.2.2 _ hinj]
  have hdiffer : first ≠ second := by decide
  have hlater : ¬first.sortKey ≤ second.sortKey := by decide
  have hsorted : List.mergeSort [first, second]
      (fun earlier later => decide (earlier.sortKey ≤ later.sortKey)) = [second, first] := by
    simp [List.mergeSort, hlater]
  simp [Queue.answers, Queue.call, Queue.push, Queue.flush, Queue.ofPolicy, Queue.limitReached,
    calls, hdiffer, hdiffer.symm, hsorted]

end CLexicon
