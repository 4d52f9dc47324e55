/-!
Jobs in flight. At the start the first jobs are started, up to a limit of at
least one. Whenever one of those that are running is over, the next one that
waits is started. Which one is over first is not for the flight to say: a
schedule says it, and every order of completion comes from some schedule.
-/

namespace ServiceProbe

structure Flight (α : Type) where
  /-- Not yet started, in order. -/
  waiting : List α
  /-- Running, in the order they were started. -/
  running : List α
  /-- Over, in the order of completion. -/
  finished : List α
  deriving DecidableEq, Repr

namespace Flight

variable {α : Type}

def launch (limit : Nat) (jobs : List α) : Flight α :=
  ⟨jobs.drop (max 1 limit), jobs.take (max 1 limit), []⟩

/-- A running job is over, and the next one starts. -/
def complete (flight : Flight α) (i : Nat) : Flight α :=
  match flight.running[i]? with
  | none => flight
  | some job =>
    ⟨flight.waiting.drop 1, flight.running.eraseIdx i ++ flight.waiting.take 1,
      flight.finished ++ [job]⟩

/-- How many jobs are not over. -/
def left (flight : Flight α) : Nat := flight.waiting.length + flight.running.length

theorem left_complete {flight : Flight α} {i : Nat} (h : i < flight.running.length) :
    (flight.complete i).left + 1 = flight.left := by
  have hlen := List.length_eraseIdx_of_lt h
  simp only [complete, List.getElem?_eq_getElem h, left, List.length_drop, List.length_append,
    List.length_take, hlen]
  omega

/-- Says which of the running jobs is over next; counted past the last one, it
goes on with the first. -/
abbrev Schedule (α : Type) := Flight α → Nat

/-- The job that was started first is over first. -/
def Schedule.inOrder : Schedule α := fun _ => 0

/-- Goes on until no job is running. -/
def land (schedule : Schedule α) (flight : Flight α) : Flight α :=
  if _h : flight.running = [] then flight
  else land schedule (flight.complete (schedule flight % flight.running.length))
termination_by flight.left
decreasing_by
  have hpos : 0 < flight.running.length := List.length_pos_iff.2 _h
  have := left_complete (Nat.mod_lt (schedule flight) hpos)
  omega

/-- Jobs in the order in which they are over. -/
def completionOrder (schedule : Schedule α) (limit : Nat) (jobs : List α) : List α :=
  (land schedule (launch limit jobs)).finished

theorem running_launch_length_le (limit : Nat) (jobs : List α) :
    (launch limit jobs).running.length ≤ max 1 limit := by
  simp only [launch, List.length_take]
  omega

end Flight

end ServiceProbe
