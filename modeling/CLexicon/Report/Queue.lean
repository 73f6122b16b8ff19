import CLexicon.Report.Diagnostic

/-!
# Collecting diagnostics

A `Queue` collects diagnostics while work goes on, and hands them over in
source order.

* `Queue.push` keeps a diagnostic unless the limit is reached or, where
  repetitions are dropped, the same diagnostic already waits;
* `Queue.flush` takes all that wait, in the order of the places they are
  about. Diagnostics of one place, and those without one, keep their order.
-/

namespace CLexicon

/-- How a queue filters. -/
structure QueuePolicy where
  /-- The most diagnostics that may wait; zero is no limit. -/
  limit : Nat := 0
  /-- Whether a diagnostic equal to a waiting one is dropped. -/
  deduplicate : Bool := true
  deriving DecidableEq, Repr

/-- The diagnostics that wait, oldest first, and the number of those that the
limit has turned away. -/
structure Queue where
  policy : QueuePolicy := {}
  waiting : Array Diagnostic := #[]
  dropped : Nat := 0
  deriving DecidableEq, Repr

namespace Queue

/-- Whether no more diagnostics may wait. -/
def limitReached (queue : Queue) : Bool :=
  0 < queue.policy.limit && queue.policy.limit ≤ queue.waiting.size

/-- The queue after a diagnostic was offered to it, and whether it was kept.
Only what the limit turns away counts as dropped. -/
def push (queue : Queue) (diagnostic : Diagnostic) : Bool × Queue :=
  if queue.limitReached then
    (false, { queue with dropped := queue.dropped + 1 })
  else if queue.policy.deduplicate && queue.waiting.contains diagnostic then
    (false, queue)
  else
    (true, { queue with waiting := queue.waiting.push diagnostic })

/-- All waiting diagnostics in source order, and the queue without them. -/
def flush (queue : Queue) : List Diagnostic × Queue :=
  (queue.waiting.toList.mergeSort fun a b => a.sortKey ≤ b.sortKey,
   { queue with waiting := #[] })

end Queue

end CLexicon
