import ServiceProbe.Error

/-!
Deadlines: a fixed point in time by which a whole run must be over. Every wait
is given what is left of it, so the sum of all waits stays within the budget.
-/

namespace ServiceProbe

structure Deadline where
  expiry : Instant
  /-- The full allowance the deadline was set with. -/
  budget : Duration
  deriving DecidableEq, Repr

namespace Deadline

/-- The deadline a budget away from a reading of the clock, if the clock can
show that point. -/
def after? (now : Instant) (budget : Duration) : Option Deadline :=
  (now.after? budget).map fun t => ⟨t, budget⟩

/-- The time left. -/
def left (deadline : Deadline) (now : Instant) : Duration :=
  ⟨deadline.expiry.nanos - now.nanos⟩

/-- The time left, or a timeout when there is none. -/
def remaining (deadline : Deadline) (now : Instant) : Except ProbeError Duration :=
  if deadline.expiry.nanos ≤ now.nanos then .error (.timeout deadline.budget)
  else .ok (deadline.left now)

/-- The result of something that was over at a reading of the clock: a timeout if
that was too late. -/
def cap {α : Type} (deadline : Deadline) (now : Instant) (result : Except ProbeError α) :
    Except ProbeError α :=
  if deadline.expiry.nanos ≤ now.nanos then .error (.timeout deadline.budget) else result

theorem remaining_eq_ok_iff {deadline : Deadline} {now : Instant} {d : Duration} :
    deadline.remaining now = .ok d ↔
      now.nanos < deadline.expiry.nanos ∧ d.nanos = deadline.expiry.nanos - now.nanos := by
  cases d
  simp only [remaining, left]
  split <;> simp <;> omega

end Deadline

end ServiceProbe
