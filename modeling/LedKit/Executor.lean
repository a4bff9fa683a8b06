/-!
# Timed tasks on a virtual clock

A task does some work once, then one round of work at fixed intervals. The executor polls every
task whose time has come, in order, and moves the clock to the earliest time that a task waits
for, until that lies beyond the limit. An interval is never zero, so each pass moves every task
it polls into the future and a run comes to an end.
-/

namespace LedKit

variable {σ : Type}

/-- Work that repeats at fixed intervals. -/
structure Task (σ : Type) where
  /-- Done once, before the first round. -/
  opening : σ → σ
  /-- Done at each interval. -/
  round : σ → σ
  interval : Nat
  interval_pos : 0 < interval

/-- A task that runs, with the time of its next round. -/
structure Scheduled (σ : Type) where
  task : Task σ
  opened : Bool
  due : Nat

namespace Scheduled

/-- A task that has not done anything yet. -/
def ofTask (task : Task σ) : Scheduled σ := ⟨task, false, 0⟩

/-- Run the task if its time has come. -/
def poll (now : Nat) (scheduled : Scheduled σ) (state : σ) : Scheduled σ × σ :=
  if scheduled.due ≤ now then
    let ready := if scheduled.opened then state else scheduled.task.opening state
    (⟨scheduled.task, true, now + scheduled.task.interval⟩, scheduled.task.round ready)
  else
    (scheduled, state)

theorem lt_due_poll (now : Nat) (scheduled : Scheduled σ) (state : σ) :
    now < (scheduled.poll now state).1.due := by
  have positive := scheduled.task.interval_pos
  unfold poll
  split
  · change now < now + scheduled.task.interval
    omega
  · change now < scheduled.due
    omega

end Scheduled

namespace Executor

/-- Poll every task once, in order. -/
def pass (now : Nat) : List (Scheduled σ) → σ → List (Scheduled σ) × σ
  | [], state => ([], state)
  | scheduled :: rest, state =>
    let (polled, between) := scheduled.poll now state
    let (others, after) := pass now rest between
    (polled :: others, after)

theorem pass_cons (now : Nat) (scheduled : Scheduled σ) (rest : List (Scheduled σ)) (state : σ) :
    pass now (scheduled :: rest) state =
      ((scheduled.poll now state).1 :: (pass now rest (scheduled.poll now state).2).1,
        (pass now rest (scheduled.poll now state).2).2) := rfl

/-- After a pass every task waits for a later time. -/
theorem lt_due_of_mem_pass {now : Nat} {tasks : List (Scheduled σ)} {state : σ}
    {scheduled : Scheduled σ} (member : scheduled ∈ (pass now tasks state).1) :
    now < scheduled.due := by
  induction tasks generalizing state with
  | nil => exact absurd member List.not_mem_nil
  | cons first rest ih =>
    rw [pass_cons, List.mem_cons] at member
    rcases member with rfl | member
    · exact Scheduled.lt_due_poll now first state
    · exact ih member

/-- The earliest time that a task waits for. -/
def nextDue? (tasks : List (Scheduled σ)) : Option Nat := (tasks.map (·.due)).min?

theorem exists_mem_of_nextDue? {tasks : List (Scheduled σ)} {due : Nat}
    (next : nextDue? tasks = some due) : ∃ scheduled ∈ tasks, scheduled.due = due :=
  List.mem_map.mp (List.min?_mem next)

/-- Poll at the given time and go on with the next times up to the limit. The result holds the
time of the last pass. -/
def runFrom (limit now : Nat) (tasks : List (Scheduled σ)) (state : σ) : Nat × σ :=
  match _passed : pass now tasks state with
  | (waiting, after) =>
    match _next : nextDue? waiting with
    | none => (now, after)
    | some due => if due ≤ limit then runFrom limit due waiting after else (now, after)
termination_by limit + 1 - now
decreasing_by
  obtain ⟨scheduled, member, rfl⟩ := exists_mem_of_nextDue? _next
  have later := lt_due_of_mem_pass (_passed ▸ member : scheduled ∈ (pass now tasks state).1)
  omega

/-- Run tasks from time zero. -/
def run (limit : Nat) (tasks : List (Task σ)) (state : σ) : Nat × σ :=
  runFrom limit 0 (tasks.map Scheduled.ofTask) state

/-- One pass, and the rest of the run if a task waits for a time within the limit. -/
theorem runFrom_eq (limit now : Nat) (tasks : List (Scheduled σ)) (state : σ) :
    runFrom limit now tasks state =
      match nextDue? (pass now tasks state).1 with
      | none => (now, (pass now tasks state).2)
      | some due =>
        if due ≤ limit then runFrom limit due (pass now tasks state).1 (pass now tasks state).2
        else (now, (pass now tasks state).2) := by
  rw [runFrom]
  split
  next waiting after passed =>
  rw [passed]
  split
  · next none => rw [none]
  · next due next => rw [next]

end Executor

end LedKit
