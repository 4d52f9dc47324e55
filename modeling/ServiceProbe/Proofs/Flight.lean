import Mathlib.Data.List.Perm.Basic
import ServiceProbe.Flight

/-!
Flights under every schedule. What can be reached from the launch, whichever
running job is over next, keeps to the plan: the flight is full while a job
waits, and what was started is the front of the plan. From this it follows that
a flight that has landed has finished each job once. Each order in which this
can happen is that of some schedule.
-/

namespace ServiceProbe.Flight

variable {α : Type} {limit : Nat} {jobs : List α} {flight : Flight α}

/-- The states of a flight. Any job that is running can be over next. -/
inductive Reachable (limit : Nat) (jobs : List α) : Flight α → Prop where
  | launch : Reachable limit jobs (launch limit jobs)
  | complete {flight : Flight α} {i : Nat} (h : Reachable limit jobs flight)
      (hi : i < flight.running.length) : Reachable limit jobs (flight.complete i)

/-- The flight keeps to the plan. -/
structure Follows (limit : Nat) (jobs : List α) (flight : Flight α) : Prop where
  /-- No more jobs are running than the limit allows; one is always allowed. -/
  bounded : flight.running.length ≤ max 1 limit
  /-- Fewer are running only if none is waiting. -/
  full : flight.running.length < max 1 limit → flight.waiting = []
  /-- The jobs that were started, each once, come before the waiting ones in the
  plan, and those running are in the order of the plan. -/
  started : ∃ started, started ++ flight.waiting = jobs ∧
    (flight.finished ++ flight.running).Perm started ∧ flight.running.Sublist started

/-! ### Every state keeps to the plan -/

theorem follows_launch (limit : Nat) (jobs : List α) : (launch limit jobs).Follows limit jobs where
  bounded := running_launch_length_le limit jobs
  full := by
    intro h
    simp only [launch, List.length_take] at h ⊢
    exact List.drop_eq_nil_of_le (by omega)
  started := ⟨jobs.take (max 1 limit), List.take_append_drop _ _, .refl _, .refl _⟩

theorem complete_of_lt {i : Nat} (hi : i < flight.running.length) :
    flight.complete i = ⟨flight.waiting.drop 1,
      flight.running.eraseIdx i ++ flight.waiting.take 1,
      flight.finished ++ [flight.running[i]]⟩ := by
  rw [complete, List.getElem?_eq_getElem hi]

/-- One job is over, and the one that waited longest is started. -/
theorem Follows.complete (h : flight.Follows limit jobs) {i : Nat}
    (hi : i < flight.running.length) : (flight.complete i).Follows limit jobs := by
  obtain ⟨hbounded, hfull, started, hplan, hperm, hsub⟩ := h
  have hlength := List.length_eraseIdx_of_lt hi
  rw [complete_of_lt hi]
  refine ⟨?_, ?_, started ++ flight.waiting.take 1, ?_, ?_, ?_⟩
  · simp only [List.length_append, List.length_take]
    omega
  · intro hlt
    simp only [List.length_append, List.length_take] at hlt ⊢
    refine List.drop_eq_nil_of_le ?_
    -- with a job waiting the flight was full, and that job takes the free place
    by_contra hwaiting
    have hnil := hfull (by omega)
    rw [hnil] at hwaiting
    simp at hwaiting
  · rw [List.append_assoc, List.take_append_drop, hplan]
  · have hrunning : (flight.running[i] :: flight.running.eraseIdx i).Perm flight.running :=
      List.getElem_cons_eraseIdx_perm hi
    have hmoved := ((hrunning.append_left flight.finished).trans hperm).append_right
      (flight.waiting.take 1)
    simpa using hmoved
  · exact ((List.eraseIdx_sublist _ _).trans hsub).append (.refl _)

theorem Reachable.follows (h : Reachable limit jobs flight) : flight.Follows limit jobs := by
  induction h with
  | launch => exact follows_launch limit jobs
  | complete _ hi ih => exact ih.complete hi

/-! ### Landing -/

/-- A flight with nothing running has finished the plan. -/
theorem Follows.finished_perm (h : flight.Follows limit jobs) (hlanded : flight.running = []) :
    flight.finished.Perm jobs := by
  obtain ⟨started, hplan, hperm, -⟩ := h.started
  have hwaiting : flight.waiting = [] := h.full (by rw [hlanded, List.length_nil]; omega)
  rw [hlanded, List.append_nil] at hperm
  rw [hwaiting, List.append_nil] at hplan
  exact hplan ▸ hperm

theorem reachable_land (schedule : Schedule α) (h : Reachable limit jobs flight) :
    Reachable limit jobs (land schedule flight) ∧ (land schedule flight).running = [] := by
  fun_induction land schedule flight with
  | case1 flight hlanded => exact ⟨h, hlanded⟩
  | case2 flight hrunning ih =>
    exact ih (h.complete (Nat.mod_lt _ (List.length_pos_iff.2 hrunning)))

/-- Whatever the schedule, each job is over once. -/
theorem completionOrder_perm (schedule : Schedule α) (limit : Nat) (jobs : List α) :
    (completionOrder schedule limit jobs).Perm jobs := by
  obtain ⟨hreachable, hlanded⟩ := reachable_land schedule (.launch : Reachable limit jobs _)
  exact hreachable.follows.finished_perm hlanded

/-! ### Every order has a schedule -/

theorem land_congr {schedule schedule' : Schedule α}
    (h : ∀ later : Flight α, later.left ≤ flight.left → schedule later = schedule' later) :
    land schedule flight = land schedule' flight := by
  fun_induction land schedule flight with
  | case1 flight hlanded => rw [land, dif_pos hlanded]
  | case2 flight hrunning ih =>
    have hleft := left_complete (Nat.mod_lt (schedule flight) (List.length_pos_iff.2 hrunning))
    rw [land.eq_def schedule', dif_neg hrunning, ← h flight (Nat.le_refl _)]
    exact ih fun later hlater => h later (by omega)

/-- What can be reached lands as the launch does under some schedule. -/
theorem Reachable.exists_schedule (h : Reachable limit jobs flight) (schedule : Schedule α) :
    ∃ schedule', land schedule' (Flight.launch limit jobs) = land schedule flight := by
  classical
  induction h generalizing schedule with
  | launch => exact ⟨schedule, rfl⟩
  | @complete flight i _ hi ih =>
    -- the schedule that goes on with job `i` here and is the given one elsewhere
    obtain ⟨schedule', hland⟩ := ih fun later => if later = flight then i else schedule later
    refine ⟨schedule', hland.trans ?_⟩
    have hleft := left_complete hi
    rw [land, dif_neg (List.length_pos_iff.1 (by omega)), if_pos rfl, Nat.mod_eq_of_lt hi]
    refine land_congr fun later hlater => if_neg ?_
    rintro rfl
    omega

end ServiceProbe.Flight
