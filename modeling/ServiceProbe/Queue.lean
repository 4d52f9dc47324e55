import ServiceProbe.Error

/-!
Job queues. A queue has a state of some type and can be pinged and pushed to;
each of these either succeeds or fails and may change the state. The queue in
memory counts its pings, keeps its jobs and can be full or out of reach.
-/

namespace ServiceProbe

structure JobQueue (State : Type) where
  ping : State → Except QueueError Unit × State
  /-- Appends one job. -/
  push : String → State → Except QueueError Unit × State

structure MemoryQueue where
  reachable : Bool
  /-- How many jobs it holds at most, if there is a limit. -/
  capacity : Option Nat
  jobs : List String
  pings : Nat
  deriving DecidableEq, Repr

namespace MemoryQueue

def isFull (queue : MemoryQueue) : Bool :=
  queue.capacity.any (· ≤ queue.jobs.length)

/-- The operations of a queue in memory. -/
def queue : JobQueue MemoryQueue where
  ping q :=
    let q := { q with pings := q.pings + 1 }
    if q.reachable then (.ok (), q) else (.error (.connection "connection refused"), q)
  push job q :=
    if q.isFull then (.error (.command "OOM command not allowed"), q)
    else (.ok (), { q with jobs := q.jobs ++ [job] })

end MemoryQueue

end ServiceProbe
