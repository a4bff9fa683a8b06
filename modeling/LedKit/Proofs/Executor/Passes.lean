import LedKit.Executor

/-!
# The passes of a run

A run of the executor is a list of passes. A pass comes at time zero and at each multiple of a
task's interval up to the limit, and at no other time. There each task whose interval has the time
as a multiple does one round, in order; so a run does what a clock does that moves by one
millisecond and asks at each what is to be done.
-/

namespace LedKit

variable {σ : Type}

/-- A pass of a run: its time, the state that it found and the state that it left. -/
structure Pass (σ : Type) where
  time : Nat
  before : σ
  after : σ

/-! ## What tasks do at a time -/

/-- What a task does at a time: its opening at time zero, and a round at each multiple of its
interval. -/
def Task.actAt (task : Task σ) (time : Nat) (state : σ) : σ :=
  if task.interval ∣ time then task.round (if time = 0 then task.opening state else state)
  else state

theorem Task.actAt_of_not_dvd {task : Task σ} {time : Nat} (idle : ¬task.interval ∣ time)
    (state : σ) : task.actAt time state = state := if_neg idle

theorem Task.actAt_zero (task : Task σ) (state : σ) :
    task.actAt 0 state = task.round (task.opening state) := by
  rw [actAt, if_pos (Nat.dvd_zero task.interval), if_pos rfl]

theorem Task.actAt_of_dvd {task : Task σ} {time : Nat} (due : task.interval ∣ time)
    (later : time ≠ 0) (state : σ) : task.actAt time state = task.round state := by
  rw [actAt, if_pos due, if_neg later]

theorem Task.succ_mul_interval_ne_zero (task : Task σ) (round : Nat) :
    (round + 1) * task.interval ≠ 0 :=
  Nat.ne_of_gt (Nat.mul_pos (Nat.succ_pos round) task.interval_pos)

/-- At each later multiple of its interval a task does one round. -/
theorem Task.actAt_succ_mul (task : Task σ) (round : Nat) (state : σ) :
    task.actAt ((round + 1) * task.interval) state = task.round state :=
  actAt_of_dvd (Nat.dvd_mul_left task.interval (round + 1)) (task.succ_mul_interval_ne_zero round)
    state

namespace Executor

/-- What tasks do at a time, one after another. -/
def tick (tasks : List (Task σ)) (time : Nat) (state : σ) : σ :=
  tasks.foldl (fun state task => task.actAt time state) state

/-- What tasks have made of a state before they do anything at a time. -/
def reached (tasks : List (Task σ)) (state : σ) : Nat → σ
  | 0 => state
  | time + 1 => tick tasks time (reached tasks state time)

/-- Something is to be done at a time. The start of a run counts in any case. -/
def isDue (tasks : List (Task σ)) (time : Nat) : Bool :=
  time = 0 || tasks.any fun task => task.interval ∣ time

theorem isDue_of_mem {tasks : List (Task σ)} {task : Task σ} (member : task ∈ tasks) {time : Nat}
    (due : task.interval ∣ time) : isDue tasks time = true := by
  rw [isDue, Bool.or_eq_true, List.any_eq_true]
  exact .inr ⟨task, member, decide_eq_true due⟩

theorem tick_of_not_isDue {tasks : List (Task σ)} {time : Nat} (idle : isDue tasks time = false)
    (state : σ) : tick tasks time state = state := by
  have still : ∀ task ∈ tasks, ¬task.interval ∣ time := fun task member due => by
    rw [isDue_of_mem member due] at idle
    cases idle
  clear idle
  induction tasks with
  | nil => rfl
  | cons task rest ih =>
      obtain ⟨first, others⟩ := List.forall_mem_cons.mp still
      change tick rest time (task.actAt time state) = state
      rw [Task.actAt_of_not_dvd first, ih others]

/-- Where nothing is due, nothing changes. -/
theorem reached_of_not_isDue {tasks : List (Task σ)} (state : σ) {first last : Nat}
    (ordered : first ≤ last)
    (idle : ∀ time, first ≤ time → time < last → isDue tasks time = false) :
    reached tasks state last = reached tasks state first := by
  induction ordered with
  | refl => rfl
  | @step last ordered ih =>
      rw [reached, tick_of_not_isDue (idle last ordered (Nat.lt_succ_self last))]
      exact ih fun time notBefore below => idle time notBefore (Nat.lt_succ_of_lt below)

end Executor

/-! ## Tasks on time -/

/-- A running task that waits for the first multiple of its interval that is not over. -/
structure Scheduled.OnTime (now : Nat) (scheduled : Scheduled σ) : Prop where
  opened : scheduled.opened = true ↔ 0 < now
  dvd : scheduled.task.interval ∣ scheduled.due
  le_due : now ≤ scheduled.due
  due_lt : scheduled.due < now + scheduled.task.interval

namespace Scheduled

theorem onTime_ofTask (task : Task σ) : (ofTask task).OnTime 0 where
  opened := ⟨fun opened => absurd opened Bool.false_ne_true,
    fun past => absurd past (Nat.lt_irrefl 0)⟩
  dvd := Nat.dvd_zero task.interval
  le_due := Nat.le_refl 0
  due_lt := by
    rw [Nat.zero_add]
    exact task.interval_pos

namespace OnTime

variable {now : Nat} {scheduled : Scheduled σ}

/-- No multiple of the interval lies between now and the time that the task waits for. -/
theorem due_le_of_dvd (onTime : scheduled.OnTime now) {time : Nat} (notPast : now ≤ time)
    (multiple : scheduled.task.interval ∣ time) : scheduled.due ≤ time := by
  refine Nat.le_of_not_lt fun before => ?_
  have positive : 0 < scheduled.due - time := Nat.sub_pos_of_lt before
  have close : scheduled.due - time < scheduled.task.interval := by
    have := onTime.due_lt
    omega
  exact Nat.not_dvd_of_pos_of_lt positive close (Nat.dvd_sub onTime.dvd multiple)

theorem due_le_now_iff (onTime : scheduled.OnTime now) :
    scheduled.due ≤ now ↔ scheduled.task.interval ∣ now := by
  constructor
  · intro due
    have now_eq : scheduled.due = now := Nat.le_antisymm due onTime.le_due
    exact now_eq ▸ onTime.dvd
  · exact onTime.due_le_of_dvd (Nat.le_refl now)

/-- A poll does what the time asks of the task. -/
theorem snd_poll (onTime : scheduled.OnTime now) (state : σ) :
    (scheduled.poll now state).2 = scheduled.task.actAt now state := by
  unfold poll Task.actAt
  by_cases due : scheduled.due ≤ now
  · rw [if_pos due, if_pos (onTime.due_le_now_iff.mp due)]
    have opened := onTime.opened
    by_cases start : now = 0 <;> grind
  · rw [if_neg due, if_neg (mt onTime.due_le_now_iff.mpr due)]

/-- After a poll the task is on time for the next millisecond. -/
theorem fst_poll (onTime : scheduled.OnTime now) (state : σ) :
    (scheduled.poll now state).1.OnTime (now + 1) := by
  have positive := scheduled.task.interval_pos
  unfold poll
  by_cases due : scheduled.due ≤ now
  · have multiple := onTime.due_le_now_iff.mp due
    rw [if_pos due]
    refine ⟨⟨fun _ => Nat.succ_pos now, fun _ => rfl⟩, Nat.dvd_add multiple (Nat.dvd_refl _), ?_, ?_⟩
    · change now + 1 ≤ now + scheduled.task.interval
      omega
    · change now + scheduled.task.interval < now + 1 + scheduled.task.interval
      omega
  · rw [if_neg due]
    have past : 0 < now := Nat.pos_of_ne_zero fun start =>
      due (onTime.due_le_now_iff.mpr (start ▸ Nat.dvd_zero _))
    have soon : scheduled.due < now + 1 + scheduled.task.interval := by
      have := onTime.due_lt
      omega
    exact ⟨⟨fun _ => Nat.succ_pos now, fun _ => onTime.opened.mpr past⟩, onTime.dvd,
      Nat.lt_of_not_le due, soon⟩

/-- While it waits a task that has begun stays on time. -/
theorem wait (onTime : scheduled.OnTime now) (past : 0 < now) {time : Nat} (later : now ≤ time)
    (notPast : time ≤ scheduled.due) : scheduled.OnTime time where
  opened := ⟨fun _ => Nat.lt_of_lt_of_le past later, fun _ => onTime.opened.mpr past⟩
  dvd := onTime.dvd
  le_due := notPast
  due_lt := by
    have := onTime.due_lt
    omega

end OnTime

theorem task_poll (now : Nat) (scheduled : Scheduled σ) (state : σ) :
    (scheduled.poll now state).1.task = scheduled.task := by
  unfold poll
  split <;> rfl

end Scheduled

/-! ## The passes of a run -/

namespace Executor

theorem map_task_pass (now : Nat) (tasks : List (Scheduled σ)) (state : σ) :
    (pass now tasks state).1.map (·.task) = tasks.map (·.task) := by
  induction tasks generalizing state with
  | nil => rfl
  | cons scheduled rest ih =>
      rw [pass_cons, List.map_cons, List.map_cons, ih, Scheduled.task_poll]

/-- A pass over tasks on time does what the time asks of them. -/
theorem snd_pass {now : Nat} {tasks : List (Scheduled σ)}
    (onTime : ∀ scheduled ∈ tasks, scheduled.OnTime now) (state : σ) :
    (pass now tasks state).2 = tick (tasks.map (·.task)) now state := by
  induction tasks generalizing state with
  | nil => rfl
  | cons scheduled rest ih =>
      obtain ⟨first, others⟩ := List.forall_mem_cons.mp onTime
      rw [pass_cons, ih others, first.snd_poll]
      rfl

theorem onTime_of_mem_pass {now : Nat} {tasks : List (Scheduled σ)}
    (onTime : ∀ scheduled ∈ tasks, scheduled.OnTime now) {state : σ} {scheduled : Scheduled σ}
    (member : scheduled ∈ (pass now tasks state).1) : scheduled.OnTime (now + 1) := by
  induction tasks generalizing state with
  | nil => exact absurd member List.not_mem_nil
  | cons first rest ih =>
      obtain ⟨firstOnTime, others⟩ := List.forall_mem_cons.mp onTime
      rw [pass_cons, List.mem_cons] at member
      rcases member with rfl | member
      · exact firstOnTime.fst_poll state
      · exact ih others member

/-- The passes of a run, one after another. -/
def passesFrom (limit now : Nat) (tasks : List (Scheduled σ)) (state : σ) : List (Pass σ) :=
  match _passed : pass now tasks state with
  | (waiting, after) =>
    ⟨now, state, after⟩ ::
      match _next : nextDue? waiting with
      | none => []
      | some due => if due ≤ limit then passesFrom limit due waiting after else []
termination_by limit + 1 - now
decreasing_by
  obtain ⟨scheduled, member, rfl⟩ := exists_mem_of_nextDue? _next
  have later := lt_due_of_mem_pass (_passed ▸ member : scheduled ∈ (pass now tasks state).1)
  omega

/-- The passes of a run from time zero. -/
def passes (limit : Nat) (tasks : List (Task σ)) (state : σ) : List (Pass σ) :=
  passesFrom limit 0 (tasks.map Scheduled.ofTask) state

theorem passesFrom_eq (limit now : Nat) (tasks : List (Scheduled σ)) (state : σ) :
    passesFrom limit now tasks state =
      ⟨now, state, (pass now tasks state).2⟩ ::
        match nextDue? (pass now tasks state).1 with
        | none => []
        | some due =>
          if due ≤ limit then passesFrom limit due (pass now tasks state).1 (pass now tasks state).2
          else [] := by
  rw [passesFrom]
  split
  next waiting after passed =>
  rw [passed]
  split
  · next none => rw [none]
  · next due next => rw [next]

/-- The time of the pass that follows, if one within the limit does. -/
def following? (limit : Nat) (waiting : List (Scheduled σ)) : Option Nat :=
  (nextDue? waiting).filter (· ≤ limit)

/-- The next pass comes as soon as a task waits for it. -/
theorem following?_eq_some_iff {limit due : Nat} {waiting : List (Scheduled σ)} :
    following? limit waiting = some due ↔
      ((∃ scheduled ∈ waiting, scheduled.due = due) ∧
        ∀ scheduled ∈ waiting, due ≤ scheduled.due) ∧ due ≤ limit := by
  rw [following?, Option.filter_eq_some_iff, nextDue?, List.min?_eq_some_iff, List.mem_map,
    List.forall_mem_map, decide_eq_true_iff]

/-- No pass follows when every task waits for a time beyond the limit. -/
theorem lt_due_of_following?_eq_none {limit : Nat} {waiting : List (Scheduled σ)}
    (ended : following? limit waiting = none) {scheduled : Scheduled σ}
    (member : scheduled ∈ waiting) : limit < scheduled.due := by
  rw [following?, Option.filter_eq_none_iff] at ended
  cases next : nextDue? waiting with
  | none =>
      rw [nextDue?, List.min?_eq_none_iff, List.map_eq_nil_iff] at next
      rw [next] at member
      exact absurd member List.not_mem_nil
  | some due =>
      have beyond := ended due next
      rw [decide_eq_true_iff] at beyond
      have least := (List.min?_eq_some_iff.mp next).2 scheduled.due
        (List.mem_map_of_mem member)
      omega

section Following

variable {limit now : Nat} {tasks : List (Scheduled σ)} {state : σ}

theorem runFrom_of_none (ended : following? limit (pass now tasks state).1 = none) :
    runFrom limit now tasks state = (now, (pass now tasks state).2) := by
  rw [following?] at ended
  rw [runFrom_eq]
  cases next : nextDue? (pass now tasks state).1 with
  | none => rfl
  | some due =>
      rw [next, Option.filter_eq_none_iff] at ended
      exact if_neg fun within => ended due rfl (decide_eq_true within)

theorem runFrom_of_some {due : Nat} (next : following? limit (pass now tasks state).1 = some due) :
    runFrom limit now tasks state =
      runFrom limit due (pass now tasks state).1 (pass now tasks state).2 := by
  obtain ⟨next, within⟩ := Option.filter_eq_some_iff.mp next
  rw [runFrom_eq, next]
  exact if_pos (of_decide_eq_true within)

theorem passesFrom_of_none (ended : following? limit (pass now tasks state).1 = none) :
    passesFrom limit now tasks state = [⟨now, state, (pass now tasks state).2⟩] := by
  rw [following?] at ended
  rw [passesFrom_eq]
  cases next : nextDue? (pass now tasks state).1 with
  | none => rfl
  | some due =>
      rw [next, Option.filter_eq_none_iff] at ended
      exact congrArg _ (if_neg fun within => ended due rfl (decide_eq_true within))

theorem passesFrom_of_some {due : Nat}
    (next : following? limit (pass now tasks state).1 = some due) :
    passesFrom limit now tasks state =
      ⟨now, state, (pass now tasks state).2⟩ ::
        passesFrom limit due (pass now tasks state).1 (pass now tasks state).2 := by
  obtain ⟨next, within⟩ := Option.filter_eq_some_iff.mp next
  rw [passesFrom_eq, next]
  exact congrArg _ (if_pos (of_decide_eq_true within))

theorem lt_following {due : Nat} (next : following? limit (pass now tasks state).1 = some due) :
    now < due := by
  obtain ⟨⟨⟨scheduled, member, same⟩, _⟩, _⟩ := following?_eq_some_iff.mp next
  exact same ▸ lt_due_of_mem_pass member

end Following

/-- A run ends with its last pass. -/
theorem getLast?_passesFrom (limit now : Nat) (tasks : List (Scheduled σ)) (state : σ) :
    (passesFrom limit now tasks state).getLast?.map (fun last => (last.time, last.after)) =
      some (runFrom limit now tasks state) := by
  cases next : following? limit (pass now tasks state).1 with
  | none =>
      rw [passesFrom_of_none next, runFrom_of_none next]
      rfl
  | some due =>
      have later := lt_following next
      have within := (following?_eq_some_iff.mp next).2
      have rest := getLast?_passesFrom limit due (pass now tasks state).1 (pass now tasks state).2
      rw [passesFrom_of_some next, runFrom_of_some next, ← rest, passesFrom_eq,
        List.getLast?_cons_cons]
termination_by limit + 1 - now

theorem getLast?_passes (limit : Nat) (tasks : List (Task σ)) (state : σ) :
    (passes limit tasks state).getLast?.map (fun last => (last.time, last.after)) =
      some (run limit tasks state) := getLast?_passesFrom limit 0 _ state

/-! ## The clock that moves by one millisecond -/

/-- The passes of a clock that moves by one millisecond, for so many milliseconds. -/
def clockedFrom (tasks : List (Task σ)) (state : σ) (now count : Nat) : List (Pass σ) :=
  ((List.range' now count).filter (isDue tasks)).map fun time =>
    ⟨time, reached tasks state time, reached tasks state (time + 1)⟩

theorem clockedFrom_of_isDue {tasks : List (Task σ)} {now : Nat} (due : isDue tasks now = true)
    (state : σ) (count : Nat) :
    clockedFrom tasks state now (count + 1) =
      ⟨now, reached tasks state now, reached tasks state (now + 1)⟩ ::
        clockedFrom tasks state (now + 1) count := by
  rw [clockedFrom, List.range'_succ, List.filter_cons_of_pos due, List.map_cons]
  rfl

/-- While nothing is due the clock makes no pass. -/
theorem clockedFrom_of_not_isDue {tasks : List (Task σ)} {now : Nat} (count : Nat)
    (idle : ∀ time, now ≤ time → time < now + count → isDue tasks time = false) (state : σ)
    (more : Nat) :
    clockedFrom tasks state now (count + more) = clockedFrom tasks state (now + count) more := by
  have skipped : (List.range' now count).filter (isDue tasks) = [] := by
    rw [List.filter_eq_nil_iff]
    intro time member
    obtain ⟨notPast, before⟩ := List.mem_range'_1.mp member
    rw [idle time notPast before]
    exact Bool.false_ne_true
  rw [clockedFrom, ← List.range'_append_1, List.filter_append, skipped, List.nil_append]
  rfl

/-- Nothing is due before the time that every task waits for. -/
theorem not_isDue_of_waiting {tasks : List (Scheduled σ)} {now last : Nat} (past : 0 < now)
    (onTime : ∀ scheduled ∈ tasks, scheduled.OnTime now)
    (waiting : ∀ scheduled ∈ tasks, last ≤ scheduled.due) {time : Nat} (notPast : now ≤ time)
    (before : time < last) : isDue (tasks.map (·.task)) time = false := by
  rw [isDue, decide_eq_false (Nat.ne_of_gt (Nat.lt_of_lt_of_le past notPast)), Bool.false_or,
    List.any_map, List.any_eq_false]
  intro scheduled member due
  have soon := (onTime scheduled member).due_le_of_dvd notPast (of_decide_eq_true due)
  have ahead := waiting scheduled member
  omega

/-- The executor makes the passes that the clock makes. -/
theorem passesFrom_eq_clockedFrom {tasks : List (Task σ)} {limit now : Nat}
    {running : List (Scheduled σ)} {state found : σ} (same : running.map (·.task) = tasks)
    (onTime : ∀ scheduled ∈ running, scheduled.OnTime now)
    (held : found = reached tasks state now) (due : isDue tasks now = true)
    (within : now ≤ limit) :
    passesFrom limit now running found = clockedFrom tasks state now (limit - now + 1) := by
  have made : (pass now running found).2 = reached tasks state (now + 1) := by
    rw [snd_pass onTime, same, held]
    rfl
  have waiting : (pass now running found).1.map (·.task) = tasks := by rw [map_task_pass, same]
  have waitOnTime : ∀ scheduled ∈ (pass now running found).1, scheduled.OnTime (now + 1) :=
    fun scheduled => onTime_of_mem_pass onTime
  rw [clockedFrom_of_isDue due, ← made, ← held]
  cases next : following? limit (pass now running found).1 with
  | none =>
      have idle : ∀ time, now + 1 ≤ time → time < now + 1 + (limit - now) →
          isDue tasks time = false := fun time notPast before =>
        waiting ▸ not_isDue_of_waiting (Nat.succ_pos now) waitOnTime
          (fun scheduled => lt_due_of_following?_eq_none next) notPast (by omega)
      have ended : clockedFrom tasks state (now + 1) (limit - now) = [] :=
        clockedFrom_of_not_isDue (limit - now) idle state 0
      rw [passesFrom_of_none next, ended]
  | some later =>
      -- The clock has nothing to do until the next pass, where all tasks are on time again.
      obtain ⟨⟨⟨scheduled, member, waits⟩, least⟩, notBeyond⟩ := following?_eq_some_iff.mp next
      have ahead := lt_following next
      have idle : ∀ time, now + 1 ≤ time → time < later → isDue tasks time = false :=
        fun time notPast before =>
          waiting ▸ not_isDue_of_waiting (Nat.succ_pos now) waitOnTime least notPast before
      have skipped := clockedFrom_of_not_isDue (later - (now + 1))
        (fun time notPast before => idle time notPast (by omega)) state (limit - later + 1)
      have laterOnTime : ∀ scheduled ∈ (pass now running found).1, scheduled.OnTime later :=
        fun scheduled member =>
          (waitOnTime scheduled member).wait (Nat.succ_pos now) ahead (least scheduled member)
      have laterDue : isDue tasks later = true := by
        have inTasks : scheduled.task ∈ tasks := waiting ▸ List.mem_map_of_mem member
        exact isDue_of_mem inTasks (waits ▸ (waitOnTime scheduled member).dvd)
      have laterHeld : (pass now running found).2 = reached tasks state later := by
        rw [made, reached_of_not_isDue state ahead idle]
      have rest := passesFrom_eq_clockedFrom waiting laterOnTime laterHeld laterDue notBeyond
      have split : limit - now = later - (now + 1) + (limit - later + 1) := by omega
      have place : now + 1 + (later - (now + 1)) = later := by omega
      rw [passesFrom_of_some next, rest, split, skipped, place]
termination_by limit + 1 - now

/-- The passes of a run are those of the clock. -/
theorem passes_eq (limit : Nat) (tasks : List (Task σ)) (state : σ) :
    passes limit tasks state =
      ((List.range (limit + 1)).filter (isDue tasks)).map fun time =>
        ⟨time, reached tasks state time, reached tasks state (time + 1)⟩ := by
  have same : (tasks.map Scheduled.ofTask).map (·.task) = tasks := by
    rw [List.map_map]
    exact List.map_id tasks
  have onTime : ∀ scheduled ∈ tasks.map Scheduled.ofTask, scheduled.OnTime 0 := by
    rw [List.forall_mem_map]
    exact fun task _ => Scheduled.onTime_ofTask task
  rw [List.range_eq_range']
  exact passesFrom_eq_clockedFrom same onTime rfl rfl (Nat.zero_le limit)

/-- The last number below a bound that passes a test which zero passes. -/
theorem exists_getLast?_filter_range (test : Nat → Bool) (start : test 0 = true) (limit : Nat) :
    ∃ last ≤ limit, ((List.range (limit + 1)).filter test).getLast? = some last ∧
      ∀ time, last < time → time ≤ limit → test time = false := by
  induction limit with
  | zero => exact ⟨0, Nat.le_refl 0, by simp [start], fun time past within => by omega⟩
  | succ limit ih =>
      obtain ⟨last, within, found, ended⟩ := ih
      cases passed : test (limit + 1) with
      | true =>
          refine ⟨limit + 1, Nat.le_refl _, ?_, fun time past within => by omega⟩
          rw [List.range_succ, List.filter_append, List.filter_cons_of_pos passed, List.filter_nil,
            List.getLast?_concat]
      | false =>
          refine ⟨last, Nat.le_succ_of_le within, ?_, fun time past within => ?_⟩
          · have left : ([limit + 1].filter test) = [] := by simp [passed]
            rw [List.range_succ, List.filter_append, left, List.append_nil, found]
          · rcases Nat.lt_or_eq_of_le within with below | rfl
            · exact ended time past (Nat.le_of_lt_succ below)
            · exact passed

/-- A run leaves what the clock has made once the limit is over. -/
theorem snd_run (limit : Nat) (tasks : List (Task σ)) (state : σ) :
    (run limit tasks state).2 = reached tasks state (limit + 1) := by
  obtain ⟨last, within, found, ended⟩ := exists_getLast?_filter_range (isDue tasks) rfl limit
  have ends := getLast?_passes limit tasks state
  rw [passes_eq, List.getLast?_map, found] at ends
  have after : reached tasks state (last + 1) = (run limit tasks state).2 :=
    congrArg Prod.snd (Option.some.inj ends)
  rw [← after]
  exact (reached_of_not_isDue state (Nat.succ_le_succ within)
    fun time past before => ended time past (Nat.le_of_lt_succ before)).symm

/-! ## One interval for all -/

/-- The multiples of a number up to a bound. -/
theorem filter_dvd_range (interval limit : Nat) :
    (List.range (limit + 1)).filter (fun time => interval ∣ time) =
      (List.range (limit / interval + 1)).map (· * interval) := by
  induction limit with
  | zero => simp
  | succ limit ih =>
      rw [List.range_succ, List.filter_append, ih, Nat.succ_div]
      by_cases multiple : interval ∣ limit + 1
      · have last : (limit / interval + 1) * interval = limit + 1 := by
          have whole := Nat.div_mul_cancel multiple
          rwa [Nat.succ_div, if_pos multiple] at whole
        have more := List.range_succ (n := limit / interval + 1)
        rw [if_pos multiple, more, List.map_append]
        simp [multiple, last]
      · simp [multiple]

/-- Where one interval divides those of all tasks, its multiples are the times of the passes. -/
theorem isDue_eq_of_dvd {tasks : List (Task σ)} {task : Task σ} (member : task ∈ tasks)
    (divides : ∀ other ∈ tasks, task.interval ∣ other.interval) (time : Nat) :
    isDue tasks time = decide (task.interval ∣ time) := by
  rw [Bool.eq_iff_iff, decide_eq_true_iff]
  constructor
  · intro due
    rw [isDue, Bool.or_eq_true, List.any_eq_true, decide_eq_true_iff] at due
    rcases due with rfl | ⟨other, inside, due⟩
    · exact Nat.dvd_zero _
    · exact Nat.dvd_trans (divides other inside) (of_decide_eq_true due)
  · exact isDue_of_mem member

section OneInterval

variable {tasks : List (Task σ)} {interval : Nat}
  (only : ∀ time, isDue tasks time = decide (interval ∣ time))

include only

/-- The passes of a run come at the multiples of the interval. -/
theorem passes_eq_of_isDue_eq (limit : Nat) (state : σ) :
    passes limit tasks state =
      (List.range (limit / interval + 1)).map fun round =>
        ⟨round * interval, reached tasks state (round * interval),
          reached tasks state (round * interval + 1)⟩ := by
  rw [passes_eq, funext only, filter_dvd_range, List.map_map]
  rfl

/-- A run ends with the last multiple of the interval. -/
theorem run_eq_of_isDue_eq (limit : Nat) (state : σ) :
    run limit tasks state =
      (limit / interval * interval, reached tasks state (limit / interval * interval + 1)) := by
  have ends := getLast?_passes limit tasks state
  rw [passes_eq_of_isDue_eq only, List.range_succ, List.map_append, List.map_singleton,
    List.getLast?_concat] at ends
  exact (Option.some.inj ends).symm

/-- Nothing changes between two passes. -/
theorem reached_next (state : σ) (positive : 0 < interval) (round : Nat) :
    reached tasks state ((round + 1) * interval) = reached tasks state (round * interval + 1) := by
  have next : (round + 1) * interval = round * interval + interval := Nat.succ_mul round interval
  refine reached_of_not_isDue state (by omega) fun time past before => ?_
  rw [only, decide_eq_false_iff_not]
  rintro ⟨factor, rfl⟩
  rw [Nat.mul_comm interval factor] at past before
  have above : round < factor := Nat.lt_of_mul_lt_mul_right past
  have below : factor < round + 1 := Nat.lt_of_mul_lt_mul_right before
  omega

end OneInterval

/-- What goes before the first of many rounds goes before them all. -/
theorem flatMap_opening {α : Type} (opening : List α) (round : Nat → List α) (last : Nat) :
    ((List.range (last + 1)).flatMap fun index =>
        (if index = 0 then opening else []) ++ round index) =
      opening ++ (List.range (last + 1)).flatMap round := by
  rw [List.range_succ_eq_map, List.flatMap_cons, List.flatMap_cons, List.flatMap_map,
    List.flatMap_map, if_pos rfl, List.append_assoc]
  rfl

end Executor

end LedKit
