import LedKit.Firmware
import LedKit.Proofs.Executor.Records
import LedKit.Proofs.Hardware.Reach

/-!
# Runs of the blink task

The blink task alone makes one iteration at each multiple of its interval, from time zero up to the
limit. On a bound handle an iteration is one toggle and one read of the hardware and a report of
what was read; on an unbound handle it is a complaint. Nothing but the LED's own bits changes, and
those are lit after an odd number of iterations.
-/

namespace LedKit

/-! ## The output registers of every hardware -/

/-- A pin driver that leaves the output registers as the registers themselves do. -/
structure PinDriver.Shadows (driver : PinDriver Bench) : Prop where
  write : ∀ bank mask level bench, (driver.write bank mask level bench).output =
    (Bench.registers.write bank mask level bench).output
  toggle : ∀ bank mask bench, (driver.toggle bank mask bench).output =
    (Bench.registers.toggle bank mask bench).output
  read : ∀ bank mask bench, (driver.read bank mask bench).2.output = bench.output

namespace Bench

theorem output_answer (bench : Bench) (otherwise : Bool) :
    (bench.answer otherwise).2.output = bench.output := by
  obtain ⟨output, forced, scripted, lit, trace⟩ := bench
  cases scripted <;> rfl

theorem registers_shadows : registers.Shadows where
  write _ _ _ _ := rfl
  toggle _ _ _ := rfl
  read _ _ _ := rfl

theorem recorder_shadows : recorder.Shadows where
  write bank mask level bench := output_recorder_write bench bank mask level
  toggle bank mask bench := output_recorder_toggle bench bank mask
  read _ _ _ := output_answer _ _

end Bench

namespace Kind

variable {kind : Kind} (pinned : kind ≠ .lamp) (descriptor : Option Descriptor) (bench : Bench)

include pinned

theorem exists_shadows : ∃ driver : PinDriver Bench, kind.leds = driver.leds ∧ driver.Shadows := by
  cases kind with
  | registers => exact ⟨_, rfl, Bench.registers_shadows⟩
  | recorder | sharedRecorder => exact ⟨_, rfl, Bench.recorder_shadows⟩
  | lamp => exact absurd rfl pinned

/-- Where there are pins, a write leaves the output registers as the registers themselves do. -/
theorem output_set (lit : Bool) :
    (kind.leds.set descriptor lit bench).output =
      (Bench.registers.leds.set descriptor lit bench).output := by
  obtain ⟨driver, leds, shadows⟩ := exists_shadows pinned
  rw [leds]
  cases resolved : Descriptor.resolve descriptor with
  | none => rw [PinDriver.leds_set_of_none resolved, PinDriver.leds_set_of_none resolved]
  | some place =>
      rw [PinDriver.leds_set_of_some resolved, PinDriver.leds_set_of_some resolved, shadows.write]

theorem output_toggle :
    (kind.leds.toggle descriptor bench).output =
      (Bench.registers.leds.toggle descriptor bench).output := by
  obtain ⟨driver, leds, shadows⟩ := exists_shadows pinned
  rw [leds]
  cases resolved : Descriptor.resolve descriptor with
  | none => rw [PinDriver.leds_toggle_of_none resolved, PinDriver.leds_toggle_of_none resolved]
  | some place =>
      rw [PinDriver.leds_toggle_of_some resolved, PinDriver.leds_toggle_of_some resolved,
        shadows.toggle]

omit pinned in
/-- No hardware changes the output registers when it is read. -/
theorem output_get : (kind.leds.get descriptor bench).2.output = bench.output := by
  by_cases pinned : kind = .lamp
  · subst pinned
    exact Bench.output_answer _ _
  · obtain ⟨driver, leds, shadows⟩ := exists_shadows pinned
    rw [leds]
    cases resolved : Descriptor.resolve descriptor with
    | none => rw [PinDriver.leds_get_of_none resolved]
    | some place => rw [PinDriver.leds_get_of_some resolved, shadows.read]

end Kind

namespace Blink

variable (kind : Kind) (binding : Option Descriptor) (descriptor : Descriptor)

/-- The bench after an LED was put to rest and then toggled and read so many times. -/
def driven (lamps : LedHardware Bench) (descriptor : Descriptor) (bench : Bench) : Nat → Bench
  | 0 => lamps.set (some descriptor) restState.isOn bench
  | count + 1 =>
    (lamps.get (some descriptor)
      (lamps.toggle (some descriptor) (driven lamps descriptor bench count))).2

/-- What is recorded when an LED is put to rest. -/
def restEvents (lamps : LedHardware Bench) (binding : Option Descriptor) (bench : Bench) :
    List Event :=
  match binding with
  | none => [.logged (.restFailed .unbound)]
  | some descriptor => Bench.recorded (lamps.set (some descriptor) restState.isOn) bench

/--
What an iteration records after so many others: the events of a toggle and those of a read, the
state that the read gave, and the timer.
-/
def roundEvents (lamps : LedHardware Bench) (binding : Option Descriptor) (interval : Nat)
    (bench : Bench) (round : Nat) : List Event :=
  match binding with
  | none => [.logged (.toggleFailed .unbound), .timer interval]
  | some descriptor =>
    let before := driven lamps descriptor bench round
    let toggled := lamps.toggle (some descriptor) before
    Bench.recorded (lamps.toggle (some descriptor)) before ++
      Bench.recorded (fun bench => (lamps.get (some descriptor) bench).2) toggled ++
        [.logged (.blinked (.ofBool (lamps.get (some descriptor) toggled).1)), .timer interval]

/-- What a pass of the task records: one iteration, and before the first one the LED being put to
rest. -/
def passEvents (lamps : LedHardware Bench) (binding : Option Descriptor) (interval : Nat)
    (bench : Bench) (round : Nat) : List Event :=
  (if round = 0 then restEvents lamps binding bench else []) ++
    roundEvents lamps binding interval bench round

/-- The bench that a handle leaves after so many iterations, apart from what is recorded. -/
def held (lamps : LedHardware Bench) (binding : Option Descriptor) (bench : Bench) (count : Nat) :
    Bench :=
  match binding with
  | none => bench
  | some descriptor => driven lamps descriptor bench count

/-! ## One iteration -/

theorem recording_rest : Bench.Recording (rest kind.leds binding) := by
  cases binding with
  | none => exact Bench.recording_record _
  | some descriptor => exact kind.recording_set (some descriptor) restState.isOn

theorem recording_step : Bench.Recording (step kind.leds binding) := by
  cases binding with
  | none => exact Bench.recording_record _
  | some descriptor =>
      intro earlier bench
      have toggled := kind.recording_toggle (some descriptor) earlier bench
      obtain ⟨shown, after⟩ := (kind.leds_agree_preceded earlier).get toggled (some descriptor)
      change Bench.log _ (.blinked (.ofBool _)) = (Bench.log _ (.blinked (.ofBool _))).preceded _
      rw [shown, after]
      exact Bench.record_preceded earlier _ _

theorem recording_task (interval : Nat) (positive : 0 < interval) :
    (task kind.leds binding interval positive).Recording where
  opening := recording_rest kind binding
  round := (recording_step kind binding).andThen (Bench.recording_record (.timer interval))

theorem recorded_rest (bench : Bench) :
    Bench.recorded (rest kind.leds binding) bench = restEvents kind.leds binding bench := by
  cases binding <;> rfl

/-- A step on a bound handle toggles, reads and reports. -/
theorem recorded_step_bound (bench : Bench) :
    Bench.recorded (step kind.leds (some descriptor)) bench =
      Bench.recorded (kind.leds.toggle (some descriptor)) bench ++
        Bench.recorded (fun bench => (kind.leds.get (some descriptor) bench).2)
          (kind.leds.toggle (some descriptor) bench) ++
        [.logged (.blinked (.ofBool
          (kind.leds.get (some descriptor) (kind.leds.toggle (some descriptor) bench)).1))] := by
  have both := (kind.recording_toggle (some descriptor)).recorded_andThen
    (kind.recording_get (some descriptor)) bench
  have shown := kind.get_congr (some descriptor)
    ((kind.recording_toggle (some descriptor)).quiet bench)
  rw [← both, shown]
  exact Bench.trace_record _ _

section Round

variable {kind binding} {interval : Nat} {positive : 0 < interval} {start bench : Bench}
  {count : Nat}

theorem quiet_rest (start : Bench) :
    (rest kind.leds binding start).quiet = (held kind.leds binding start 0).quiet := by
  cases binding <;> rfl

/-- An iteration after so many others leaves what one more leaves. -/
theorem quiet_round (same : bench.quiet = (held kind.leds binding start count).quiet) :
    ((task kind.leds binding interval positive).round bench).quiet =
      (held kind.leds binding start (count + 1)).quiet := by
  cases binding with
  | none => exact same
  | some descriptor =>
      have both := (kind.recording_toggle (some descriptor)).andThen
        (kind.recording_get (some descriptor))
      exact both.quiet_congr same

/-- An iteration after so many others records its part of the run. -/
theorem recorded_round (same : bench.quiet = (held kind.leds binding start count).quiet) :
    Bench.recorded (task kind.leds binding interval positive).round bench =
      roundEvents kind.leds binding interval start count := by
  rw [Bench.recorded_congr _ same]
  cases binding with
  | none => rfl
  | some descriptor =>
      have both := (recording_step kind (some descriptor)).recorded_andThen
        (Bench.recording_record (.timer interval)) (held kind.leds (some descriptor) start count)
      rw [Bench.recorded_record, recorded_step_bound, List.append_assoc] at both
      exact both

end Round

/-! ## The whole run -/

section Run

variable (interval : Nat) (positive : 0 < interval) (bench : Bench)

theorem isDue_task (time : Nat) :
    Executor.isDue [task kind.leds binding interval positive] time = decide (interval ∣ time) := by
  refine Executor.isDue_eq_of_dvd (List.mem_singleton_self _) (fun other member => ?_) time
  cases List.mem_singleton.mp member
  exact Nat.dvd_refl interval

/-- After each of its passes the run holds what its iterations so far leave. -/
theorem quiet_reached (round : Nat) :
    (Executor.reached [task kind.leds binding interval positive] bench
      (round * interval + 1)).quiet = (held kind.leds binding bench (round + 1)).quiet := by
  induction round with
  | zero =>
      rw [Nat.zero_mul]
      change ((task kind.leds binding interval positive).actAt 0 bench).quiet = _
      rw [Task.actAt_zero]
      exact quiet_round (quiet_rest bench)
  | succ round ih =>
      have next := (task kind.leds binding interval positive).actAt_succ_mul round
      have held := Executor.reached_next (isDue_task kind binding interval positive) bench positive
        round
      refine (congrArg Bench.quiet (next _)).trans ?_
      rw [held]
      exact quiet_round ih

theorem recorded_tick (round : Nat) :
    Bench.recorded (Executor.tick [task kind.leds binding interval positive] (round * interval))
        (Executor.reached [task kind.leds binding interval positive] bench (round * interval)) =
      passEvents kind.leds binding interval bench round := by
  have single (time : Nat) : Executor.tick [task kind.leds binding interval positive] time =
      (task kind.leds binding interval positive).actAt time := rfl
  rw [single]
  cases round with
  | zero =>
      rw [Nat.zero_mul, funext (Task.actAt_zero _), passEvents, if_pos rfl, ← recorded_rest,
        ← recorded_round (quiet_rest bench)]
      exact (recording_rest kind binding).recorded_andThen
        (recording_task kind binding interval positive).round bench
  | succ round =>
      have next := funext ((task kind.leds binding interval positive).actAt_succ_mul round)
      have held := Executor.reached_next (isDue_task kind binding interval positive) bench positive
        round
      rw [held, passEvents, if_neg (Nat.succ_ne_zero round), List.nil_append]
      refine (congrArg (Bench.recorded · _) next).trans ?_
      exact recorded_round (quiet_reached kind binding interval positive bench round)

theorem recording_tasks :
    ∀ blinking ∈ [task kind.leds binding interval positive], blinking.Recording := by
  intro blinking member
  cases List.mem_singleton.mp member
  exact recording_task kind binding interval positive

/-- The passes of a run are its iterations, one at each multiple of the interval. -/
theorem timed_passes (limit : Nat) :
    (Executor.passes limit [task kind.leds binding interval positive] bench).map
        (fun pass => (pass.time, pass.events)) =
      (List.range (limit / interval + 1)).map fun round =>
        (round * interval, passEvents kind.leds binding interval bench round) :=
  Executor.timed_passes_of_recorded (recording_tasks kind binding interval positive)
    (isDue_task kind binding interval positive) (recorded_tick kind binding interval positive bench)
    limit

theorem trace_run (limit : Nat) :
    (Executor.run limit [task kind.leds binding interval positive] bench).2.trace.toList =
      bench.trace.toList ++ (List.range (limit / interval + 1)).flatMap
        (passEvents kind.leds binding interval bench) :=
  Executor.trace_run_of_recorded (recording_tasks kind binding interval positive)
    (isDue_task kind binding interval positive) (recorded_tick kind binding interval positive bench)
    limit

theorem flatMap_passEvents (last : Nat) :
    (List.range (last + 1)).flatMap (passEvents kind.leds binding interval bench) =
      restEvents kind.leds binding bench ++
        (List.range (last + 1)).flatMap (roundEvents kind.leds binding interval bench) :=
  Executor.flatMap_opening _ _ last

theorem quiet_run (limit : Nat) :
    (Executor.run limit [task kind.leds binding interval positive] bench).2.quiet =
      (held kind.leds binding bench (limit / interval + 1)).quiet := by
  rw [Executor.run_eq_of_isDue_eq (isDue_task kind binding interval positive)]
  exact quiet_reached kind binding interval positive bench (limit / interval)

end Run

/-! ## The bits of the LED -/

/-- Where there are pins, the bits of the LED are lit after an odd number of iterations. -/
theorem bit_driven (pinned : kind ≠ .lamp) (bench : Bench) {bank : Bank} {index : Nat}
    (reached : Descriptor.reaches (some descriptor) bank index = true) (count : Nat) :
    (driven kind.leds descriptor bench count).bit bank index = decide (count % 2 = 1) := by
  induction count with
  | zero =>
      rw [driven, Bench.bit, Kind.output_set pinned]
      exact (Bench.bit_leds_set bench (some descriptor) bank index false).trans (if_pos reached)
  | succ count ih =>
      have toggled := Bench.bit_leds_toggle (driven kind.leds descriptor bench count)
        (some descriptor) bank index
      rw [if_pos reached, ih] at toggled
      rw [driven, Bench.bit, Kind.output_get, Kind.output_toggle pinned]
      refine toggled.trans ?_
      rw [← decide_not, decide_eq_decide]
      omega

/-- No iteration changes a bit that the descriptor does not reach. -/
theorem bit_driven_of_not_reaches (bench : Bench) {bank : Bank} {index : Nat}
    (apart : kind = .lamp ∨ Descriptor.reaches (some descriptor) bank index = false)
    (count : Nat) :
    (driven kind.leds descriptor bench count).bit bank index = bench.bit bank index := by
  have pinless : kind ≠ .lamp → Descriptor.reaches (some descriptor) bank index ≠ true := by
    intro pinned reached
    rcases apart with lamp | unreached
    · exact pinned lamp
    · rw [unreached] at reached
      cases reached
  induction count with
  | zero =>
      by_cases lamp : kind = .lamp
      · subst lamp
        rfl
      · rw [driven, Bench.bit, Kind.output_set lamp]
        exact (Bench.bit_leds_set bench _ bank index false).trans (if_neg (pinless lamp))
  | succ count ih =>
      rw [driven, Bench.bit, Kind.output_get, ← ih]
      by_cases lamp : kind = .lamp
      · subst lamp
        rfl
      · rw [Kind.output_toggle lamp]
        exact (Bench.bit_leds_toggle _ _ bank index).trans (if_neg (pinless lamp))

end Blink

/-! ## The law of blink runs -/

namespace Firmware

/-- The passes of a blink run. -/
def blinkPasses (build : Build) (kind : Kind) (target : Option Descriptor) (limit : Nat)
    (bench : Bench) : List (Pass Bench) :=
  Executor.passes limit [blinkTask build kind target] bench

theorem runBlink_eq (build : Build) (kind : Kind) (target : Option Descriptor) (limit : Nat)
    (bench : Bench) :
    runBlink build kind target limit bench =
      (if target = none then .error .missingArgument else .ok (),
        .ofPair (Executor.run limit [blinkTask build kind target] bench)) := by
  cases target <;> rfl

/-- What holds of a run of the blink task alone. -/
structure BlinkLaw (build : Build) (kind : Kind) (target : Option Descriptor) (limit : Nat)
    (bench : Bench) (outcome : Except LedError Unit) (run : Run) : Prop where
  /-- The handle is bound whenever there is a descriptor. -/
  outcome : outcome = if target = none then .error .missingArgument else .ok ()
  /-- There is one iteration at each multiple of the interval up to the limit and no other. -/
  timed : (blinkPasses build kind target limit bench).map (fun pass => (pass.time, pass.events)) =
    (List.range (limit / build.interval + 1)).map fun round =>
      (round * build.interval, Blink.passEvents kind.leds target build.interval bench round)
  /-- The run is what its last pass leaves. -/
  ends : (blinkPasses build kind target limit bench).getLast?.map
    (fun last => (last.time, last.after)) = some (run.clock, run.bench)
  clock : run.clock = limit / build.interval * build.interval
  /-- The run records nothing but the LED being put to rest and the iterations. -/
  trace : run.bench.trace.toList =
    bench.trace.toList ++ Blink.restEvents kind.leds target bench ++
      (List.range (limit / build.interval + 1)).flatMap
        (Blink.roundEvents kind.leds target build.interval bench)
  /-- Without a descriptor the run complains and leaves the bench as it was. -/
  unbound : target = none →
    run.bench.trace.toList =
        bench.trace.toList ++ .logged (.restFailed .unbound) ::
          (List.range (limit / build.interval + 1)).flatMap
            (fun _ => [.logged (.toggleFailed .unbound), .timer build.interval]) ∧
      run.bench.quiet = bench.quiet
  /-- With a descriptor the hardware is where its own accesses bring it. -/
  bound : ∀ descriptor, target = some descriptor →
    run.bench.quiet =
      (Blink.driven kind.leds descriptor bench (limit / build.interval + 1)).quiet
  /-- The LED on a pin is lit when the last of its iterations has an even number. -/
  pin : kind ≠ .lamp → ∀ pin : Pin, target = some pin.descriptor →
    (pin.level run.bench.output = true ↔ limit / build.interval % 2 = 0)
  /-- All other bits are as they were. -/
  others : ∀ bank index, kind = .lamp ∨ Descriptor.reaches target bank index = false →
    run.bench.bit bank index = bench.bit bank index

/-- Every blink run keeps its law. -/
theorem runBlink_law (build : Build) (kind : Kind) (target : Option Descriptor) (limit : Nat)
    (bench : Bench) :
    BlinkLaw build kind target limit bench (runBlink build kind target limit bench).1
      (runBlink build kind target limit bench).2 := by
  have only := Blink.isDue_task kind target build.interval build.interval_pos
  have trace := Blink.trace_run kind target build.interval build.interval_pos bench limit
  rw [Blink.flatMap_passEvents, ← List.append_assoc] at trace
  have quiet := Blink.quiet_run kind target build.interval build.interval_pos bench limit
  rw [runBlink_eq]
  constructor
  case outcome => rfl
  case timed =>
    exact Blink.timed_passes kind target build.interval build.interval_pos bench limit
  case ends => exact Executor.getLast?_passes limit _ bench
  case clock => exact congrArg Prod.fst (Executor.run_eq_of_isDue_eq only limit bench)
  case trace => exact trace
  case unbound =>
    rintro rfl
    exact ⟨trace.trans (List.append_assoc _ _ _), quiet⟩
  case bound =>
    rintro descriptor rfl
    exact quiet
  case pin =>
    rintro pinned pin rfl
    have lit := Blink.bit_driven kind pin.descriptor pinned bench
      (pin.reaches_descriptor_iff.mpr ⟨rfl, rfl⟩) (limit / build.interval + 1)
    have level := (Bench.bit_congr quiet pin.bank pin.number).trans lit
    refine (Bool.eq_iff_iff.mp level).trans ?_
    rw [decide_eq_true_iff]
    omega
  case others =>
    intro bank index apart
    refine (Bench.bit_congr quiet bank index).trans ?_
    cases target with
    | none => rfl
    | some descriptor =>
        exact Blink.bit_driven_of_not_reaches kind descriptor bench apart _

end Firmware

end LedKit
