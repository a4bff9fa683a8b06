import LedKit.Bench
import LedKit.Proofs.Executor.Passes
import LedKit.Proofs.Hardware.Agreement

/-!
# What accesses and runs record

Nothing that uses a bench looks at what was recorded before. So an access adds to the trace what it
would record on a quiet bench, and a run of the executor records the events of its passes, one
after another.
-/

namespace LedKit

namespace Bench

/-- The bench with events recorded before its own. -/
def preceded (earlier : Array Event) (bench : Bench) : Bench :=
  { bench with trace := earlier ++ bench.trace }

theorem preceded_quiet (bench : Bench) : bench.quiet.preceded bench.trace = bench := by
  simp [preceded, quiet]

theorem quiet_preceded (earlier : Array Event) (bench : Bench) :
    (bench.preceded earlier).quiet = bench.quiet := rfl

theorem record_preceded (earlier : Array Event) (bench : Bench) (event : Event) :
    (bench.preceded earlier).record event = (bench.record event).preceded earlier := by
  simp [preceded, record]

/-- A change that pays no attention to what was recorded before. -/
def Recording (change : Bench → Bench) : Prop :=
  ∀ earlier bench, change (bench.preceded earlier) = (change bench).preceded earlier

/-- What a change records. -/
def recorded (change : Bench → Bench) (bench : Bench) : List Event :=
  (change bench.quiet).trace.toList

/-- What is recorded does not depend on what was recorded before. -/
theorem recorded_congr (change : Bench → Bench) {bench other : Bench}
    (same : bench.quiet = other.quiet) : recorded change bench = recorded change other := by
  rw [recorded, recorded, same]

theorem recording_record (event : Event) : Recording (·.record event) := fun earlier bench =>
  record_preceded earlier bench event

namespace Recording

variable {change next : Bench → Bench}

theorem none : Recording fun bench => bench := fun _ _ => rfl

theorem andThen (first : Recording change) (second : Recording next) :
    Recording fun bench => next (change bench) := by
  intro earlier bench
  change next (change (bench.preceded earlier)) = _
  rw [first, second]

theorem eq_preceded (recording : Recording change) (bench : Bench) :
    change bench = (change bench.quiet).preceded bench.trace := by
  rw [← recording, preceded_quiet]

/-- A change adds to the trace what it records. -/
theorem trace (recording : Recording change) (bench : Bench) :
    (change bench).trace.toList = bench.trace.toList ++ recorded change bench := by
  rw [recording.eq_preceded]
  exact Array.toList_append

theorem quiet (recording : Recording change) (bench : Bench) :
    (change bench).quiet = (change bench.quiet).quiet := by
  rw [recording.eq_preceded bench, quiet_preceded]

/-- Benches that differ in their records alone still do so after a change. -/
theorem quiet_congr (recording : Recording change) {bench other : Bench}
    (same : bench.quiet = other.quiet) : (change bench).quiet = (change other).quiet := by
  rw [recording.quiet bench, recording.quiet other, same]

/-- One change after another records what they record, one after another. -/
theorem recorded_andThen (first : Recording change) (second : Recording next) (bench : Bench) :
    recorded (fun bench => next (change bench)) bench =
      recorded change bench ++ recorded next (change bench) := by
  have between : recorded next (change bench.quiet) = recorded next (change bench) :=
    recorded_congr next (first.quiet bench).symm
  rw [recorded, second.trace, between]
  rfl

end Recording

theorem recorded_record (event : Event) (bench : Bench) :
    recorded (·.record event) bench = [event] := rfl

/-! ## The accesses of every hardware -/

theorem command_preceded (earlier : Array Event) (bench : Bench) (bank : Bank) (word : Word) :
    (bench.preceded earlier).command bank word = (bench.command bank word).preceded earlier :=
  congrArg (setOutput · bank _) (record_preceded earlier bench _)

theorem answer_preceded (earlier : Array Event) (bench : Bench) (otherwise : Bool) :
    (bench.preceded earlier).answer otherwise =
      ((bench.answer otherwise).1, (bench.answer otherwise).2.preceded earlier) := by
  obtain ⟨output, forced, scripted, lit, trace⟩ := bench
  cases scripted <;> rfl

theorem registers_agree_preceded (earlier : Array Event) :
    PinDriver.Agree registers registers fun bench other => bench = other.preceded earlier where
  write := by
    rintro _ bench rfl bank mask level
    exact command_preceded earlier bench bank (Register.drive level mask)
  toggle := by
    rintro _ bench rfl bank mask
    change ((bench.preceded earlier).record _).command bank _ = _
    rw [record_preceded, command_preceded]
    rfl
  read := by
    rintro _ bench rfl bank mask
    exact ⟨rfl, record_preceded earlier bench _⟩

theorem recorder_agree_preceded (earlier : Array Event) :
    PinDriver.Agree recorder recorder fun bench other => bench = other.preceded earlier where
  write := by
    rintro _ bench rfl bank mask level
    exact congrArg (setOutput · bank _) (record_preceded earlier bench _)
  toggle := by
    rintro _ bench rfl bank mask
    exact congrArg (setOutput · bank _) (record_preceded earlier bench _)
  read := by
    rintro _ bench rfl bank mask
    simp only [recorder, record_preceded, answer_preceded]
    exact ⟨rfl, rfl⟩

theorem lamp_agree_preceded (earlier : Array Event) :
    LedHardware.Agree lamp lamp fun bench other => bench = other.preceded earlier where
  set := by
    rintro _ bench rfl descriptor lit
    exact congrArg (fun recorded : Bench => { recorded with lit := lit })
      (record_preceded earlier bench _)
  toggle := by
    rintro _ bench rfl descriptor
    exact congrArg (fun recorded : Bench => { recorded with lit := !bench.lit })
      (record_preceded earlier bench _)
  get := by
    rintro _ bench rfl descriptor
    simp only [lamp, record_preceded, answer_preceded]
    exact ⟨rfl, rfl⟩

end Bench

namespace Kind

variable (kind : Kind)

theorem leds_agree_preceded (earlier : Array Event) :
    LedHardware.Agree kind.leds kind.leds fun bench other => bench = other.preceded earlier := by
  cases kind with
  | registers => exact (Bench.registers_agree_preceded earlier).leds
  | recorder | sharedRecorder => exact (Bench.recorder_agree_preceded earlier).leds
  | lamp => exact Bench.lamp_agree_preceded earlier

variable (descriptor : Option Descriptor)

theorem recording_set (lit : Bool) : Bench.Recording (kind.leds.set descriptor lit) :=
  fun earlier _ => (kind.leds_agree_preceded earlier).set rfl descriptor lit

theorem recording_toggle : Bench.Recording (kind.leds.toggle descriptor) :=
  fun earlier _ => (kind.leds_agree_preceded earlier).toggle rfl descriptor

theorem recording_get : Bench.Recording fun bench => (kind.leds.get descriptor bench).2 :=
  fun earlier _ => ((kind.leds_agree_preceded earlier).get rfl descriptor).2

/-- A read does not depend on what was recorded before. -/
theorem get_congr {bench other : Bench} (same : bench.quiet = other.quiet) :
    (kind.leds.get descriptor bench).1 = (kind.leds.get descriptor other).1 := by
  have first := ((kind.leds_agree_preceded bench.trace).get bench.preceded_quiet.symm descriptor).1
  have second := ((kind.leds_agree_preceded other.trace).get other.preceded_quiet.symm descriptor).1
  rw [first, second, same]

end Kind

/-! ## Runs that record -/

/-- A task that pays no attention to what was recorded before. -/
structure Task.Recording (task : Task Bench) : Prop where
  opening : Bench.Recording task.opening
  round : Bench.Recording task.round

theorem Task.Recording.actAt {task : Task Bench} (recording : task.Recording) (time : Nat) :
    Bench.Recording (task.actAt time) := by
  by_cases due : task.interval ∣ time
  · by_cases start : time = 0
    · subst start
      rw [funext task.actAt_zero]
      exact recording.opening.andThen recording.round
    · rw [funext (Task.actAt_of_dvd due start)]
      exact recording.round
  · rw [funext (Task.actAt_of_not_dvd due)]
    exact .none

/-- What a pass records. -/
def Pass.events (pass : Pass Bench) : List Event :=
  pass.after.trace.toList.drop pass.before.trace.size

namespace Executor

/-- What passes record, each event with the time of its pass. -/
def stamped (passes : List (Pass Bench)) : List (Nat × Event) :=
  passes.flatMap fun pass => pass.events.map fun event => (pass.time, event)

theorem map_snd_stamped (passes : List (Pass Bench)) :
    (stamped passes).map Prod.snd = passes.flatMap Pass.events := by
  rw [stamped, List.map_flatMap]
  simp only [List.map_map, Function.comp_def, List.map_id']

variable {tasks : List (Task Bench)}

theorem recording_tick (recording : ∀ task ∈ tasks, task.Recording) (time : Nat) :
    Bench.Recording (tick tasks time) := by
  induction tasks with
  | nil => exact .none
  | cons task rest ih =>
      obtain ⟨first, others⟩ := List.forall_mem_cons.mp recording
      exact (first.actAt time).andThen (ih others)

theorem events_tick (recording : ∀ task ∈ tasks, task.Recording) (time : Nat) (bench : Bench) :
    Pass.events ⟨time, bench, tick tasks time bench⟩ = Bench.recorded (tick tasks time) bench := by
  rw [Pass.events, (recording_tick recording time).trace, ← Array.length_toList,
    List.drop_left]

/-- Until a time a run records what is done at the times before it. -/
theorem trace_reached (recording : ∀ task ∈ tasks, task.Recording) (bench : Bench) (time : Nat) :
    (reached tasks bench time).trace.toList =
      bench.trace.toList ++ ((List.range time).filter (isDue tasks)).flatMap fun earlier =>
        Bench.recorded (tick tasks earlier) (reached tasks bench earlier) := by
  induction time with
  | zero => exact (List.append_nil _).symm
  | succ time ih =>
      rw [reached, (recording_tick recording time).trace, ih, List.range_succ, List.filter_append,
        List.flatMap_append, List.append_assoc]
      congr 2
      cases due : isDue tasks time with
      | true => simp [due]
      | false =>
          have still : tick tasks time = fun bench => bench := funext (tick_of_not_isDue due)
          simp [due, still, Bench.recorded, Bench.quiet]

/-- A run records what its passes record. -/
theorem trace_run (recording : ∀ task ∈ tasks, task.Recording) (limit : Nat) (bench : Bench) :
    (run limit tasks bench).2.trace.toList =
      bench.trace.toList ++ (passes limit tasks bench).flatMap Pass.events := by
  rw [snd_run, trace_reached recording, passes_eq, List.flatMap_map]
  simp only [reached, events_tick recording]

section OneInterval

variable (recording : ∀ task ∈ tasks, task.Recording) {interval : Nat}
  (only : ∀ time, isDue tasks time = decide (interval ∣ time)) {bench : Bench}
  {events : Nat → List Event}
  (recorded : ∀ round, Bench.recorded (tick tasks (round * interval))
    (reached tasks bench (round * interval)) = events round)

include recording only recorded

/-- The passes of a run with what they record, one at each multiple of the interval. -/
theorem timed_passes_of_recorded (limit : Nat) :
    (passes limit tasks bench).map (fun pass => (pass.time, pass.events)) =
      (List.range (limit / interval + 1)).map fun round => (round * interval, events round) := by
  rw [passes_eq_of_isDue_eq only, List.map_map]
  refine List.map_congr_left fun round _ => ?_
  rw [← recorded, ← events_tick recording]
  rfl

theorem trace_run_of_recorded (limit : Nat) :
    (run limit tasks bench).2.trace.toList =
      bench.trace.toList ++ (List.range (limit / interval + 1)).flatMap events := by
  have timed := congrArg (List.flatMap Prod.snd)
    (timed_passes_of_recorded recording only recorded limit)
  rw [List.flatMap_map, List.flatMap_map] at timed
  rw [trace_run recording]
  exact congrArg (bench.trace.toList ++ ·) timed

end OneInterval

end Executor

end LedKit
