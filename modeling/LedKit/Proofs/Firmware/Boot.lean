import LedKit.Proofs.Firmware.BlinkRun
import LedKit.Session.Operation

/-!
# Runs of the firmware

The firmware boots and then runs two tasks, one that idles and one that blinks. Its run is the boot
followed by the run of the blink task alone, with an idle event once an hour that comes first where
it meets an iteration. The idle task changes nothing, and boot leaves the LED's pin at the level
that the blink task puts it to anyway.
-/

namespace LedKit

/-! ## Accesses to one pin of the registers -/

/-- What a blink task records on the registers: accesses that concern one pin alone, reports of
what was read, and the timer. -/
inductive Event.OfBlink (pin : Pin) (interval : Nat) : Event → Prop where
  | outputRead (word : Word) : OfBlink pin interval (.outputRead pin.bank word)
  | inputRead (word : Word) : OfBlink pin interval (.inputRead pin.bank word)
  | commanded (command : Word)
      (others : ∀ (word : Word) (index : Nat), index ≠ pin.number →
        (Register.obey word command).getLsbD index = word.getLsbD index) :
      OfBlink pin interval (.commanded pin.bank command)
  | blinked (state : LedState) : OfBlink pin interval (.logged (.blinked state))
  | timer : OfBlink pin interval (.timer interval)

theorem Event.OfBlink.eq_interval {pin : Pin} {interval milliseconds : Nat}
    (blinking : (Event.timer milliseconds).OfBlink pin interval) : milliseconds = interval := by
  cases blinking
  rfl

namespace Pin

variable (pin : Pin) (interval : Nat) (bench : Bench)

theorem getLsbD_mask_of_ne {index : Nat} (ne : index ≠ pin.number) :
    (pinMask (UInt16.ofNat pin.number)).getLsbD index = false := by
  rw [getLsbD_pinMask, toNat_number, decide_eq_false (Ne.symm ne), Bool.and_false]

theorem recorded_set (lit : Bool) :
    Bench.recorded (Bench.registers.leds.set (some pin.descriptor) lit) bench =
      [.commanded pin.bank
        (Register.drive (.ofBool lit) (pinMask (UInt16.ofNat pin.number)))] := by
  rw [Bench.recorded, PinDriver.leds_set_of_some pin.resolve_descriptor]
  rfl

theorem recorded_toggle :
    Bench.recorded (Bench.registers.leds.toggle (some pin.descriptor)) bench =
      [.outputRead pin.bank (bench.output.get pin.bank),
        .commanded pin.bank (Register.invert (bench.output.get pin.bank)
          (pinMask (UInt16.ofNat pin.number)))] := by
  rw [Bench.recorded, PinDriver.leds_toggle_of_some pin.resolve_descriptor]
  rfl

theorem recorded_get :
    Bench.recorded (fun bench => (Bench.registers.leds.get (some pin.descriptor) bench).2) bench =
      [.inputRead pin.bank (bench.input pin.bank)] := by
  rw [Bench.recorded, PinDriver.leds_get_of_some pin.resolve_descriptor]
  rfl

/-- Driving a pin records what concerns that pin alone. -/
theorem ofBlink_set (lit : Bool) {event : Event}
    (member : event ∈ Bench.recorded
      (Bench.registers.leds.set (some pin.descriptor) lit) bench) :
    event.OfBlink pin interval := by
  rw [recorded_set, List.mem_singleton] at member
  subst member
  refine .commanded _ fun word index ne => ?_
  rw [Register.getLsbD_obey_drive_mask, pin.getLsbD_mask_of_ne ne]
  rfl

theorem ofBlink_toggle {event : Event}
    (member : event ∈ Bench.recorded
      (Bench.registers.leds.toggle (some pin.descriptor)) bench) :
    event.OfBlink pin interval := by
  rw [recorded_toggle, List.mem_cons, List.mem_singleton] at member
  rcases member with rfl | rfl
  · exact .outputRead _
  · exact .commanded _ fun word index ne =>
      Register.getLsbD_obey_invert_of_not_mask word _ (pin.getLsbD_mask_of_ne ne)

end Pin

namespace Blink

variable (pin : Pin) (interval : Nat) (bench : Bench)

/-- On the registers a blink task at a pin records nothing that concerns another pin. -/
theorem ofBlink_roundEvents (round : Nat) {event : Event}
    (member : event ∈ roundEvents Bench.registers.leds (some pin.descriptor) interval bench round) :
    event.OfBlink pin interval := by
  simp only [roundEvents, List.mem_append, List.mem_cons, List.not_mem_nil, or_false] at member
  rcases member with (toggled | read) | rfl | rfl
  · exact pin.ofBlink_toggle interval _ toggled
  · rw [Pin.recorded_get, List.mem_singleton] at read
    exact read ▸ .inputRead _
  · exact .blinked _
  · exact .timer

theorem ofBlink_passEvents (round : Nat) {event : Event}
    (member : event ∈ passEvents Bench.registers.leds (some pin.descriptor) interval bench round) :
    event.OfBlink pin interval := by
  rcases List.mem_append.mp member with rested | iterated
  · by_cases first : round = 0
    · rw [if_pos first] at rested
      exact pin.ofBlink_set interval bench restState.isOn rested
    · rw [if_neg first] at rested
      exact absurd rested List.not_mem_nil
  · exact ofBlink_roundEvents pin interval bench round iterated

end Blink

/-! ## The boot -/

/-- What the runs of a build rely on. -/
structure Build.Wired (build : Build) (pin : Pin) : Prop where
  /-- The application's LED is on the pin. -/
  wiring : build.board.wiring Firmware.appSlot = some pin.descriptor
  /-- Boot makes that pin an output. -/
  ledPin : build.ledPin = (pin.bank, UInt16.ofNat pin.number)
  /-- The time between two idle rounds is a number of blink intervals, and not just one. -/
  divides : build.interval ∣ Firmware.idleInterval
  ne : build.interval ≠ Firmware.idleInterval

/-- The pin of the LED on every board. -/
def Build.pinFive : Pin := ⟨.a, 5⟩

theorem Build.wired_of_ofKey? {key : String} {build : Build} (known : ofKey? key = some build) :
    build.Wired pinFive := by
  unfold ofKey? at known
  split at known
  · cases known
    exact ⟨rfl, rfl, by decide, by decide⟩
  · split at known
    · cases known
      exact ⟨rfl, rfl, by decide, by decide⟩
    · cases known

namespace Firmware

/-- What is recorded when a build boots whose LED is on the pin. -/
def bootEvents (build : Build) (pin : Pin) : List Event :=
  [.powered, .logged (.booted build.name), .configured pin.bank pin.number .low,
    .logged (.bound appSlot (some pin.descriptor) build.interval), .spawned]

theorem recording_configure (bank : Bank) (pin : UInt16) (level : Level) :
    Bench.Recording (configure bank pin level) := fun earlier bench =>
  congrArg (Bench.setOutput · bank _) (Bench.record_preceded earlier bench _)

theorem recording_startApp (build : Build) : Bench.Recording (startApp build) := by
  intro earlier bench
  unfold startApp
  split
  · rw [startBlinking, bindApp_eq]
    exact (congrArg (Bench.record · .spawned) (Bench.record_preceded earlier bench _)).trans
      (Bench.record_preceded earlier _ .spawned)
  · exact Bench.record_preceded earlier bench _

theorem recording_boot (build : Build) : Bench.Recording (boot build) :=
  (((Bench.recording_record .powered).andThen
    (Bench.recording_record (.logged (.booted build.name)))).andThen
      (recording_configure build.ledPin.1 build.ledPin.2 .low)).andThen (recording_startApp build)

theorem recording_mainTask (build : Build) : (mainTask build).Recording where
  opening := recording_boot build
  round := Bench.recording_record (.timer idleInterval)

section Wired

variable {build : Build} {pin : Pin} (wired : build.Wired pin)

include wired

theorem isSupported_of_wired : build.board.isSupported (some appSlot) = true := by
  rw [Board.isSupported_some, wired.wiring]
  rfl

theorem appDescriptor_of_wired : appDescriptor build = some pin.descriptor := by
  rw [appDescriptor, Board.descriptor_some, wired.wiring]
  rfl

theorem tasks_of_wired :
    tasks build = [mainTask build, blinkTask build hardware (some pin.descriptor)] := by
  rw [tasks, appTask?, if_pos (isSupported_of_wired wired), bindApp_eq,
    appDescriptor_of_wired wired]
  rfl

theorem boot_of_wired (bench : Bench) :
    boot build bench =
      ((configure pin.bank (UInt16.ofNat pin.number) .low
        ((bench.record .powered).log (.booted build.name))).log
          (.bound appSlot (some pin.descriptor) build.interval)).record .spawned := by
  rw [boot, startApp, if_pos (isSupported_of_wired wired), startBlinking, bindApp_eq,
    appDescriptor_of_wired wired, wired.ledPin]

theorem recorded_boot (bench : Bench) :
    Bench.recorded (boot build) bench = bootEvents build pin := by
  rw [bootEvents, ← pin.toNat_number, Bench.recorded, boot_of_wired wired]
  rfl

/-- Boot leaves the registers as putting the LED to rest does. -/
theorem quiet_boot (bench : Bench) :
    (boot build bench).quiet =
      (Bench.registers.leds.set (some pin.descriptor) Blink.restState.isOn bench).quiet := by
  rw [boot_of_wired wired, PinDriver.leds_set_of_some pin.resolve_descriptor]
  rfl

end Wired

/-! ## The two tasks -/

/-- What boot and the idle rounds record at a time. -/
def mainEvents (build : Build) (pin : Pin) (time : Nat) : List Event :=
  (if time = 0 then bootEvents build pin else []) ++
    if idleInterval ∣ time then [.timer idleInterval] else []

section Wired

variable {build : Build} {pin : Pin} (wired : build.Wired pin)

include wired

theorem recorded_mainTask (time : Nat) (bench : Bench) :
    Bench.recorded ((mainTask build).actAt time) bench = mainEvents build pin time := by
  by_cases due : idleInterval ∣ time
  · rw [mainEvents, if_pos due]
    by_cases start : time = 0
    · subst start
      rw [funext (Task.actAt_zero _), if_pos rfl, ← recorded_boot wired bench]
      exact (recording_boot build).recorded_andThen (Bench.recording_record _) bench
    · rw [funext (Task.actAt_of_dvd due start), if_neg start]
      exact Bench.recorded_record _ bench
  · have later : time ≠ 0 := fun start => due (start ▸ Nat.dvd_zero _)
    rw [funext (Task.actAt_of_not_dvd due), mainEvents, if_neg due, if_neg later]
    rfl

omit wired in
/-- An idle round changes nothing. -/
theorem quiet_mainTask_later {time : Nat} (later : time ≠ 0) (bench : Bench) :
    ((mainTask build).actAt time bench).quiet = bench.quiet := by
  by_cases due : idleInterval ∣ time
  · rw [Task.actAt_of_dvd due later]
    rfl
  · rw [Task.actAt_of_not_dvd due]

theorem quiet_mainTask_zero (bench : Bench) :
    ((mainTask build).actAt 0 bench).quiet =
      (Bench.registers.leds.set (some pin.descriptor) Blink.restState.isOn bench).quiet := by
  rw [Task.actAt_zero]
  exact quiet_boot wired bench

/-- After boot the blink task finds its LED at rest. -/
theorem quiet_rest_mainTask (bench : Bench) :
    (Blink.rest hardware.leds (some pin.descriptor) ((mainTask build).actAt 0 bench)).quiet =
      (Blink.held hardware.leds (some pin.descriptor) bench 0).quiet := by
  -- Boot has left the pin low already, so the write of the task changes nothing.
  have booted := (hardware.recording_set (some pin.descriptor) Blink.restState.isOn).quiet_congr
    (quiet_mainTask_zero wired bench)
  exact booted.trans (Bench.quiet_leds_set_set bench _ _)

theorem tick_of_wired (time : Nat) (bench : Bench) :
    Executor.tick (tasks build) time bench =
      (blinkTask build hardware (some pin.descriptor)).actAt time
        ((mainTask build).actAt time bench) := by
  rw [tasks_of_wired wired]
  rfl

theorem recording_tasks : ∀ task ∈ tasks build, task.Recording := by
  rw [tasks_of_wired wired, List.forall_mem_cons, List.forall_mem_singleton]
  exact ⟨recording_mainTask build, Blink.recording_task hardware _ _ _⟩

/-- The firmware has something to do exactly when its blink task has. -/
theorem isDue_tasks (time : Nat) :
    Executor.isDue (tasks build) time = decide (build.interval ∣ time) := by
  rw [tasks_of_wired wired]
  have member : blinkTask build hardware (some pin.descriptor) ∈
      [mainTask build, blinkTask build hardware (some pin.descriptor)] :=
    List.mem_cons_of_mem _ (List.mem_singleton_self _)
  refine Executor.isDue_eq_of_dvd member ?_ time
  rw [List.forall_mem_cons, List.forall_mem_singleton]
  exact ⟨wired.divides, Nat.dvd_refl _⟩

/-- After each of its passes the firmware holds what its blink task alone would hold. -/
theorem quiet_reached (bench : Bench) (round : Nat) :
    (Executor.reached (tasks build) bench (round * build.interval + 1)).quiet =
      (Blink.held hardware.leds (some pin.descriptor) bench (round + 1)).quiet := by
  induction round with
  | zero =>
      rw [Nat.zero_mul, Executor.reached, tick_of_wired wired, Task.actAt_zero]
      exact Blink.quiet_round (quiet_rest_mainTask wired bench)
  | succ round ih =>
      have next := (blinkTask build hardware (some pin.descriptor)).actAt_succ_mul round
      have later := (blinkTask build hardware (some pin.descriptor)).succ_mul_interval_ne_zero round
      have between := Executor.reached_next (isDue_tasks wired) bench build.interval_pos round
      rw [Executor.reached, tick_of_wired wired]
      refine (congrArg Bench.quiet (next _)).trans ?_
      refine Blink.quiet_round ((quiet_mainTask_later later _).trans ?_)
      rw [between]
      exact ih

/-- A pass of the firmware records what is due of boot and idling, then what a pass of the blink
task alone would record. -/
theorem recorded_tick (bench : Bench) (round : Nat) :
    Bench.recorded (Executor.tick (tasks build) (round * build.interval))
        (Executor.reached (tasks build) bench (round * build.interval)) =
      mainEvents build pin (round * build.interval) ++
        Blink.passEvents hardware.leds (some pin.descriptor) build.interval bench round := by
  have blinking : (blinkTask build hardware (some pin.descriptor)).Recording :=
    Blink.recording_task hardware _ _ _
  have idling := recording_mainTask build
  rw [funext (tick_of_wired wired _), (idling.actAt _).recorded_andThen (blinking.actAt _),
    recorded_mainTask wired]
  congr 1
  cases round with
  | zero =>
      rw [Nat.zero_mul, funext (Task.actAt_zero _), Blink.passEvents, if_pos rfl]
      refine (blinking.opening.recorded_andThen blinking.round _).trans ?_
      congr 1
      · refine (Pin.recorded_set pin _ _).trans (Pin.recorded_set pin bench _).symm
      · exact Blink.recorded_round (quiet_rest_mainTask wired bench)
  | succ round =>
      have next := funext
        ((blinkTask build hardware (some pin.descriptor)).actAt_succ_mul round)
      have later := (blinkTask build hardware (some pin.descriptor)).succ_mul_interval_ne_zero round
      have between := Executor.reached_next (isDue_tasks wired) bench build.interval_pos round
      rw [Blink.passEvents, if_neg (Nat.succ_ne_zero round), List.nil_append]
      refine (congrArg (Bench.recorded · _) next).trans ?_
      refine Blink.recorded_round ((quiet_mainTask_later later _).trans ?_)
      rw [between]
      exact quiet_reached wired bench round

/-- The passes of the firmware come with the iterations of its blink task. -/
theorem timed_passes (limit : Nat) (bench : Bench) :
    (Executor.passes limit (tasks build) bench).map (fun pass => (pass.time, pass.events)) =
      (List.range (limit / build.interval + 1)).map fun round =>
        (round * build.interval,
          mainEvents build pin (round * build.interval) ++
            Blink.passEvents hardware.leds (some pin.descriptor) build.interval bench round) :=
  Executor.timed_passes_of_recorded (recording_tasks wired) (isDue_tasks wired)
    (recorded_tick wired bench) limit

theorem trace_run (limit : Nat) (bench : Bench) :
    (run build limit bench).bench.trace.toList =
      bench.trace.toList ++ (List.range (limit / build.interval + 1)).flatMap fun round =>
        mainEvents build pin (round * build.interval) ++
          Blink.passEvents hardware.leds (some pin.descriptor) build.interval bench round :=
  Executor.trace_run_of_recorded (recording_tasks wired) (isDue_tasks wired)
    (recorded_tick wired bench) limit

/-! ## Idle events -/

omit wired in
theorem filter_idle_mainEvents (time : Nat) :
    (mainEvents build pin time).filter (· = .timer idleInterval) =
      if idleInterval ∣ time then [.timer idleInterval] else [] := by
  rw [mainEvents, List.filter_append]
  split <;> split <;> rfl

omit wired in
theorem filter_active_mainEvents (time : Nat) :
    (mainEvents build pin time).filter (· ≠ .timer idleInterval) =
      if time = 0 then bootEvents build pin else [] := by
  rw [mainEvents, List.filter_append]
  split <;> split <;> rfl

/-- No event of the blink task is an idle event. -/
theorem ne_idle_of_ofBlink {event : Event} (blinking : event.OfBlink pin build.interval) :
    event ≠ .timer idleInterval := by
  rintro rfl
  exact wired.ne blinking.eq_interval.symm

theorem filter_idle_passEvents (bench : Bench) (round : Nat) :
    (Blink.passEvents hardware.leds (some pin.descriptor) build.interval bench round).filter
      (· = .timer idleInterval) = [] := by
  rw [List.filter_eq_nil_iff]
  intro event member
  rw [decide_eq_true_iff]
  exact ne_idle_of_ofBlink wired (Blink.ofBlink_passEvents pin _ bench round member)

theorem filter_active_passEvents (bench : Bench) (round : Nat) :
    (Blink.passEvents hardware.leds (some pin.descriptor) build.interval bench round).filter
        (· ≠ .timer idleInterval) =
      Blink.passEvents hardware.leds (some pin.descriptor) build.interval bench round := by
  rw [List.filter_eq_self]
  intro event member
  rw [decide_eq_true_iff]
  exact ne_idle_of_ofBlink wired (Blink.ofBlink_passEvents pin _ bench round member)

/-- Without its idle events the firmware records its boot and then what its blink task alone
records. -/
theorem filter_active_run (limit : Nat) {bench : Bench} (empty : bench.trace = #[]) :
    (run build limit bench).bench.trace.toList.filter (· ≠ .timer idleInterval) =
      bootEvents build pin ++
        (runBlink build hardware (some pin.descriptor) limit bench).2.bench.trace.toList := by
  have started (round : Nat) : round * build.interval = 0 ↔ round = 0 := by
    rw [Nat.mul_eq_zero, or_iff_left (Nat.ne_of_gt build.interval_pos)]
  have alone := Blink.trace_run hardware (some pin.descriptor) build.interval build.interval_pos
    bench limit
  rw [trace_run wired, runBlink_eq, empty, List.nil_append, List.filter_flatMap]
  simp only [List.filter_append, filter_active_mainEvents, filter_active_passEvents wired, started]
  rw [Executor.flatMap_opening]
  rw [empty] at alone
  exact congrArg (bootEvents build pin ++ ·) alone.symm

/-- Of the events of a pass the idle event alone is one. -/
theorem filter_idle_round (bench : Bench) (round time : Nat) :
    ((mainEvents build pin time ++
        Blink.passEvents hardware.leds (some pin.descriptor) build.interval bench round).map
          fun event => (time, event)).filter (·.2 = .timer idleInterval) =
      [(time, Event.timer idleInterval)].filter (idleInterval ∣ ·.1) := by
  have events : List.filter (fun event => decide (event = Event.timer idleInterval))
      (mainEvents build pin time ++
        Blink.passEvents hardware.leds (some pin.descriptor) build.interval bench round) =
      if idleInterval ∣ time then [.timer idleInterval] else [] := by
    rw [List.filter_append, filter_idle_mainEvents, filter_idle_passEvents wired, List.append_nil]
  rw [List.filter_map]
  refine (congrArg _ events).trans ?_
  by_cases due : idleInterval ∣ time <;> simp [due]

/-- The idle events come once an hour, from the start on. -/
theorem filter_idle_stamped (limit : Nat) (bench : Bench) :
    (Executor.stamped (Executor.passes limit (tasks build) bench)).filter
        (·.2 = .timer idleInterval) =
      (List.range (limit / idleInterval + 1)).map fun hour =>
        (hour * idleInterval, .timer idleInterval) := by
  have timed := congrArg
    (List.flatMap fun pass => pass.2.map fun event => (pass.1, event))
    (timed_passes wired limit bench)
  rw [List.flatMap_map, List.flatMap_map] at timed
  have hourly (time : Nat) :
      (decide (idleInterval ∣ time) && decide (build.interval ∣ time)) =
        decide (idleInterval ∣ time) := by
    rw [← Bool.decide_and, decide_eq_decide, and_iff_left_iff_imp]
    exact Nat.dvd_trans wired.divides
  have hours := congrArg (List.map fun time => (time, Event.timer idleInterval))
    (Executor.filter_dvd_range idleInterval limit)
  rw [List.map_map, ← funext hourly, ← List.filter_filter, Executor.filter_dvd_range] at hours
  rw [Executor.stamped, timed, List.filter_flatMap]
  simp only [filter_idle_round wired]
  rw [← List.filter_flatMap, ← List.map_eq_flatMap]
  refine Eq.trans ?_ hours
  rw [List.filter_map, List.filter_map, List.map_map]
  rfl

/-! ## Other pins -/

omit wired in
theorem commanded_not_mem_bootEvents (bank : Bank) (command : Word) :
    .commanded bank command ∉ bootEvents build pin := by
  simp [bootEvents]

omit wired in
theorem commanded_not_mem_mainEvents (time : Nat) (bank : Bank) (command : Word) :
    .commanded bank command ∉ mainEvents build pin time := by
  intro member
  rcases List.mem_append.mp member with booted | idle
  · split at booted
    · exact commanded_not_mem_bootEvents bank command booted
    · cases booted
  · split at idle
    · cases List.mem_singleton.mp idle
    · cases idle

/-- Every command of the firmware names the pin of its LED and no other. -/
theorem others_of_commanded (limit : Nat) {bench : Bench} (empty : bench.trace = #[])
    {bank : Bank} {command : Word}
    (member : .commanded bank command ∈ (run build limit bench).bench.trace.toList) :
    bank = pin.bank ∧ ∀ (word : Word) (index : Nat), index ≠ pin.number →
      (Register.obey word command).getLsbD index = word.getLsbD index := by
  rw [trace_run wired, empty, List.nil_append, List.mem_flatMap] at member
  obtain ⟨round, _, inside⟩ := member
  rcases List.mem_append.mp inside with idle | blinking
  · exact absurd idle (commanded_not_mem_mainEvents _ bank command)
  · cases Blink.ofBlink_passEvents pin _ bench round blinking with
    | commanded _ others => exact ⟨rfl, others⟩

/-- The firmware records its boot before anything else. -/
theorem exists_trace_run (limit : Nat) {bench : Bench} (empty : bench.trace = #[]) :
    ∃ later, (run build limit bench).bench.trace.toList = bootEvents build pin ++ later := by
  rw [trace_run wired, empty, List.nil_append, List.range_succ_eq_map, List.flatMap_cons,
    Nat.zero_mul, mainEvents, if_pos rfl, List.append_assoc, List.append_assoc]
  exact ⟨_, rfl⟩

/-- Before any command the pin is made an output. -/
theorem configured_before (limit : Nat) {bench : Bench} (empty : bench.trace = #[])
    {earlier later : List Event} {bank : Bank} {command : Word}
    (split : (run build limit bench).bench.trace.toList =
      earlier ++ .commanded bank command :: later) :
    .configured pin.bank pin.number .low ∈ earlier := by
  have configured : .configured pin.bank pin.number .low ∈ bootEvents build pin := by
    simp [bootEvents]
  obtain ⟨rest, booted⟩ := exists_trace_run wired limit empty
  rw [booted] at split
  rcases List.append_eq_append_iff.mp split with ⟨between, rfl, _⟩ | ⟨between, inside, after⟩
  · exact List.mem_append_left between configured
  · cases between with
    | nil =>
        rw [List.append_nil] at inside
        exact inside ▸ configured
    | cons first others =>
        obtain ⟨rfl, _⟩ := List.cons.inj after
        have booted : .commanded bank command ∈ bootEvents build pin :=
          inside ▸ List.mem_append_right earlier List.mem_cons_self
        exact absurd booted (commanded_not_mem_bootEvents bank command)

/-- No pass of the firmware changes another bit than that of its LED. -/
theorem bit_of_mem_passes (limit : Nat) (bench : Bench) {pass : Pass Bench}
    (member : pass ∈ Executor.passes limit (tasks build) bench) {bank : Bank} {index : Nat}
    (apart : ¬(bank = pin.bank ∧ index = pin.number)) :
    pass.after.bit bank index = bench.bit bank index := by
  rw [Executor.passes_eq_of_isDue_eq (isDue_tasks wired)] at member
  obtain ⟨round, _, rfl⟩ := List.mem_map.mp member
  have unreached : Descriptor.reaches (some pin.descriptor) bank index = false := by
    rw [Bool.eq_false_iff]
    intro reached
    obtain ⟨bank, number⟩ := pin.reaches_descriptor_iff.mp reached
    exact apart ⟨bank.symm, number.symm⟩
  refine (Bench.bit_congr (quiet_reached wired bench round) bank index).trans ?_
  exact Blink.bit_driven_of_not_reaches hardware pin.descriptor bench (.inr unreached) (round + 1)

end Wired

/-! ## The law of the firmware -/

/-- The passes of the firmware. -/
def passes (build : Build) (limit : Nat) (bench : Bench) : List (Pass Bench) :=
  Executor.passes limit (tasks build) bench

/--
What holds of a run of the firmware and of a run of its blink task alone, given the passes of the
latter.
-/
structure BootLaw (build : Build) (limit : Nat) (bench : Bench) (run alone : Run)
    (alonePasses : List (Pass Bench)) : Prop where
  /-- Without its idle events the firmware records its boot and then what the task records. -/
  active : run.bench.trace.toList.filter (· ≠ .timer idleInterval) =
    [.powered, .logged (.booted build.name), .configured .a 5 .low,
      .logged (.bound .led1 (some ⟨0, 5⟩) build.interval), .spawned] ++ alone.bench.trace.toList
  output : run.bench.output = alone.bench.output
  clock : run.clock = alone.clock
  /-- Every event is recorded by a pass, and the last pass leaves the run. -/
  recorded : (Executor.stamped (passes build limit bench)).map Prod.snd = run.bench.trace.toList
  ends : (passes build limit bench).getLast?.map (fun last => (last.time, last.after)) =
    some (run.clock, run.bench)
  /-- The idle events come once an hour, from the start on. -/
  idle : (Executor.stamped (passes build limit bench)).filter (·.2 = .timer idleInterval) =
    (List.range (limit / idleInterval + 1)).map fun hour =>
      (hour * idleInterval, .timer idleInterval)
  /-- At the same times as the task alone the firmware records the same, only later than what is
  due of boot and idling. -/
  instants : (passes build limit bench).map (fun pass => (pass.time, pass.events)) =
    alonePasses.map fun pass => (pass.time, mainEvents build Build.pinFive pass.time ++ pass.events)
  /-- The pin of the LED is made an output before any command. -/
  configured : ∀ earlier bank command later,
    run.bench.trace.toList = earlier ++ .commanded bank command :: later →
      .configured .a 5 .low ∈ earlier
  /-- Every command leaves all pins but that of the LED. -/
  commands : ∀ bank command, .commanded bank command ∈ run.bench.trace.toList →
    bank = .a ∧ ∀ (word : Word) (index : Nat), index ≠ 5 →
      (Register.obey word command).getLsbD index = word.getLsbD index
  /-- No pass changes another bit than that of the LED. -/
  others : ∀ pass ∈ passes build limit bench, ∀ bank index, ¬(bank = .a ∧ index = 5) →
    pass.after.bit bank index = bench.bit bank index

/-- Every run of the firmware is its boot followed by the run of its blink task. -/
theorem run_boots_then_blinks {key : String} {build : Build}
    (known : Build.ofKey? key = some build) (limit : Nat) (output : PerBank Word)
    (forced : PerBank (Option Word)) :
    let bench := Bench.start output forced
    let target := (Target.slot 0).descriptor build.board
    BootLaw build limit bench (run build limit bench)
      (runBlink build .registers target limit bench).2
      (blinkPasses build .registers target limit bench) := by
  intro bench target
  have wired := Build.wired_of_ofKey? known
  have bound : target = some Build.pinFive.descriptor := appDescriptor_of_wired wired
  have ends := Executor.getLast?_passes limit (tasks build) bench
  have finished := Executor.run_eq_of_isDue_eq (isDue_tasks wired) limit bench
  have aloneFinished := Executor.run_eq_of_isDue_eq
    (Blink.isDue_task .registers target build.interval build.interval_pos) limit bench
  constructor
  case active =>
    rw [bound]
    exact filter_active_run wired limit rfl
  case output =>
    have held := Blink.quiet_run .registers target build.interval build.interval_pos bench limit
    have reached := quiet_reached wired bench (limit / build.interval)
    rw [← bound] at reached
    have same := congrArg Bench.output (reached.trans held.symm)
    rw [runBlink_eq]
    exact (congrArg (fun pair => pair.2.output) finished).trans same
  case clock =>
    rw [runBlink_eq]
    exact (congrArg Prod.fst finished).trans (congrArg Prod.fst aloneFinished).symm
  case recorded =>
    rw [Executor.map_snd_stamped]
    exact (Executor.trace_run (recording_tasks wired) limit bench).symm
  case ends => exact ends
  case idle => exact filter_idle_stamped wired limit bench
  case instants =>
    have timed := congrArg
      (List.map fun pass => (pass.1, mainEvents build Build.pinFive pass.1 ++ pass.2))
      (Blink.timed_passes .registers target build.interval build.interval_pos bench limit)
    rw [List.map_map, List.map_map] at timed
    refine (timed_passes wired limit bench).trans ?_
    rw [← bound]
    exact timed.symm
  case configured =>
    intro earlier bank command later split
    exact configured_before wired limit rfl split
  case commands =>
    intro bank command member
    exact others_of_commanded wired limit rfl member
  case others =>
    intro pass member bank index apart
    exact bit_of_mem_passes wired limit bench member apart

theorem run_boots_then_blinks_g474re :
    Build.ofKey? "g474re" = some Build.g474re ∧
      BootLaw Build.g474re 7200000 Bench.fresh (run Build.g474re 7200000 Bench.fresh)
        (runBlink Build.g474re .registers (some ⟨0, 5⟩) 7200000 Bench.fresh).2
        (blinkPasses Build.g474re .registers (some ⟨0, 5⟩) 7200000 Bench.fresh) := by
  have known : Build.ofKey? "g474re" = some Build.g474re := by simp [Build.ofKey?]
  exact ⟨known, run_boots_then_blinks known 7200000 (.fill 0) (.fill none)⟩

end Firmware

end LedKit
