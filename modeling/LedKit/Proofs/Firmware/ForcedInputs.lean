import LedKit.Proofs.Firmware.BlinkRun
import LedKit.Proofs.Session.ForcedInputs

/-!
# Forced inputs have no say

A word that is forced on an input register reaches no output: neither in a session nor in a run of
the blink task or of the firmware. Only what reads show, and what is reported of it, can differ.
-/

namespace LedKit

/-! ## Runs from related states -/

/-- A task that leaves related states related. -/
structure Task.Respects {σ : Type} (related : σ → σ → Prop) (task : Task σ) : Prop where
  opening : ∀ {state other}, related state other →
    related (task.opening state) (task.opening other)
  round : ∀ {state other}, related state other →
    related (task.round state) (task.round other)

theorem Task.Respects.actAt {σ : Type} {related : σ → σ → Prop} {task : Task σ}
    (respects : task.Respects related) {state other : σ} (start : related state other)
    (time : Nat) : related (task.actAt time state) (task.actAt time other) := by
  unfold Task.actAt
  split
  · split
    · exact respects.round (respects.opening start)
    · exact respects.round start
  · exact start

namespace Executor

variable {σ : Type} {related : σ → σ → Prop} {tasks : List (Task σ)}

theorem tick_related (respects : ∀ task ∈ tasks, task.Respects related) {state other : σ}
    (start : related state other) (time : Nat) :
    related (tick tasks time state) (tick tasks time other) := by
  induction tasks generalizing state other with
  | nil => exact start
  | cons task rest ih =>
      obtain ⟨first, others⟩ := List.forall_mem_cons.mp respects
      exact ih others (first.actAt start time)

theorem reached_related (respects : ∀ task ∈ tasks, task.Respects related) {state other : σ}
    (start : related state other) (time : Nat) :
    related (reached tasks state time) (reached tasks other time) := by
  induction time with
  | zero => exact start
  | succ time ih => exact tick_related respects ih time

/-- When a run ends does not depend on the state that it starts from. -/
theorem fst_run_eq (limit : Nat) (tasks : List (Task σ)) (state other : σ) :
    (run limit tasks state).1 = (run limit tasks other).1 := by
  have ends (state : σ) : some (run limit tasks state).1 =
      ((List.range (limit + 1)).filter (isDue tasks)).getLast? := by
    have last := getLast?_passes limit tasks state
    rw [passes_eq, List.getLast?_map] at last
    cases found : ((List.range (limit + 1)).filter (isDue tasks)).getLast? with
    | none => rw [found] at last; cases last
    | some time => rw [found] at last; exact congrArg (Option.map Prod.fst) last.symm
  exact Option.some.inj ((ends state).trans (ends other).symm)

theorem run_related (respects : ∀ task ∈ tasks, task.Respects related) {state other : σ}
    (start : related state other) (limit : Nat) :
    related (run limit tasks state).2 (run limit tasks other).2 := by
  rw [snd_run, snd_run]
  exact reached_related respects start (limit + 1)

end Executor

/-! ## The tasks of the firmware -/

/-- The event without what a read shows, be it a register's word or the state reported of it. -/
def Event.hideRead : Event → Event
  | .inputRead bank _ => .inputRead bank 0
  | .logged (.blinked _) => .logged (.blinked .off)
  | event => event

theorem Blink.respects_task (binding : Option Descriptor) (interval : Nat)
    (positive : 0 < interval) :
    (task Bench.registers.leds binding interval positive).Respects
      (Bench.DrivenAlike Event.hideRead) where
  opening alike := by
    cases binding with
    | none => exact alike.record (.logged (.restFailed .unbound))
    | some descriptor =>
        exact alike.serve (fun _ _ _ => rfl) (.set (some descriptor) restState.isOn)
  round {bench other} alike := by
    cases binding with
    | none => exact (alike.record (.logged (.toggleFailed .unbound))).record (.timer interval)
    | some descriptor =>
        have read := alike.replay (fun _ _ _ => rfl)
          [.toggle (some descriptor), .get (some descriptor)]
        have veiled (shown another : LedState) : Event.hideRead (.logged (.blinked shown)) =
            Event.hideRead (.logged (.blinked another)) := rfl
        exact (read.record_veiled (veiled _ _)).record (.timer interval)

namespace Firmware

theorem drivenAlike_configure {veil : Event → Event} {bench other : Bench}
    (alike : Bench.DrivenAlike veil bench other) (bank : Bank) (pin : UInt16) (level : Level) :
    Bench.DrivenAlike veil (configure bank pin level bench) (configure bank pin level other) where
  output := congrArg (fun output : PerBank Word => output.set bank
    (Register.obey (output.get bank) (Register.drive level (pinMask pin)))) alike.output
  trace := (alike.record (.configured bank pin.toNat level)).trace

theorem respects_mainTask (build : Build) :
    (mainTask build).Respects (Bench.DrivenAlike Event.hideRead) where
  opening alike := by
    have powered := (alike.record .powered).record (.logged (.booted build.name))
    have configured := drivenAlike_configure powered build.ledPin.1 build.ledPin.2 .low
    change Bench.DrivenAlike _ (startApp build _) (startApp build _)
    unfold startApp
    split
    · have bound := configured.record
        (.logged (.bound appSlot (appDescriptor build) build.interval))
      exact bound.record .spawned
    · exact configured.record (.logged (.nothingToBlink build.name appSlot))
  round alike := alike.record (.timer idleInterval)

theorem respects_tasks (build : Build) :
    ∀ task ∈ tasks build, task.Respects (Bench.DrivenAlike Event.hideRead) := by
  have blinking : (blinkTask build hardware (appDescriptor build)).Respects
      (Bench.DrivenAlike Event.hideRead) := Blink.respects_task _ _ _
  rw [tasks, List.forall_mem_cons]
  refine ⟨respects_mainTask build, ?_⟩
  unfold appTask?
  split
  · exact List.forall_mem_singleton.mpr blinking
  · rintro task ⟨⟩

end Firmware

/-! ## Runs -/

/-- Runs that differ at most in what reads show and in what is reported of it. -/
structure Run.AlikeButReads (run other : Run) : Prop where
  clock : run.clock = other.clock
  output : run.bench.output = other.bench.output
  events : run.eventCount = other.eventCount
  trace : run.bench.trace.toList.map Event.hideRead = other.bench.trace.toList.map Event.hideRead

theorem Run.alikeButReads_ofPair {tasks : List (Task Bench)}
    (respects : ∀ task ∈ tasks, task.Respects (Bench.DrivenAlike Event.hideRead))
    {bench other : Bench} (start : Bench.DrivenAlike Event.hideRead bench other) (limit : Nat) :
    AlikeButReads (.ofPair (Executor.run limit tasks bench))
      (.ofPair (Executor.run limit tasks other)) := by
  have ends := Executor.run_related respects start limit
  have lengths := congrArg List.length ends.trace
  rw [List.length_map, List.length_map, Array.length_toList, Array.length_toList] at lengths
  exact ⟨Executor.fst_run_eq limit tasks bench other, ends.output, lengths, ends.trace⟩

/--
What is forced on the input registers decides what reads show and nothing else: sessions that pull
the same banks to different words look alike at every operation, and so do runs of the blink task
and of the firmware that start with different forced words.
-/
theorem forced_inputs_have_no_say :
    (∀ (board : Board) (operations others : List Op),
        operations.map Op.hidePull = others.map Op.hidePull →
          ∀ (place : Nat) (operation : Op), operations[place]? = some operation →
            ∃ other seen another, others[place]? = some other ∧
              (Session.run .registers board operations)[place]? = some seen ∧
              (Session.run .registers board others)[place]? = some another ∧
              Observation.AlikeButReads operation other seen another) ∧
      (∀ (build : Build) (target : Option Descriptor) (limit : Nat) (output : PerBank Word)
        (forced others : PerBank (Option Word)),
          let run := Firmware.runBlink build .registers target limit (.start output forced)
          let another := Firmware.runBlink build .registers target limit (.start output others)
          run.1 = another.1 ∧ run.2.AlikeButReads another.2) ∧
      ∀ (build : Build) (limit : Nat) (output : PerBank Word)
        (forced others : PerBank (Option Word)),
          (Firmware.run build limit (.start output forced)).AlikeButReads
            (Firmware.run build limit (.start output others)) := by
  have started (output : PerBank Word) (forced others : PerBank (Option Word)) :
      Bench.DrivenAlike Event.hideRead (.start output forced) (.start output others) :=
    ⟨rfl, rfl⟩
  refine ⟨?_, ?_, ?_⟩
  · intro board operations others same place operation found
    exact Session.runFrom_hidePull board same ⟨rfl, rfl, rfl⟩ found
  · intro build target limit output forced others run another
    have blinking : ∀ task ∈ [Firmware.blinkTask build .registers target],
        task.Respects (Bench.DrivenAlike Event.hideRead) := by
      rw [List.forall_mem_singleton]
      exact Blink.respects_task target build.interval build.interval_pos
    have alike := Run.alikeButReads_ofPair blinking (started output forced others) limit
    simp only [run, another, Firmware.runBlink_eq]
    exact ⟨trivial, alike⟩
  · intro build limit output forced others
    exact Run.alikeButReads_ofPair (Firmware.respects_tasks build) (started output forced others)
      limit

/-- One word forced on the pin of an LED shows it lit and another shows it dark. -/
theorem forced_inputs_have_no_say_blinkStep :
    let session (word : Option Word) : List Op :=
      [.new, .onHandle 0 (.bind (.direct ⟨0, 5⟩)), .pull .a word, .onHandle 0 .blinkStep]
    (session (some 0x20)).map Op.hidePull = (session (some 0)).map Op.hidePull ∧
      (∃ other seen another, (session (some 0))[3]? = some other ∧
        (Session.run .registers Board.empty (session (some 0x20)))[3]? = some seen ∧
        (Session.run .registers Board.empty (session (some 0)))[3]? = some another ∧
        Observation.AlikeButReads (.onHandle 0 .blinkStep) other seen another) ∧
      (Session.run .registers Board.empty (session (some 0x20))).map Observation.answer ≠
        (Session.run .registers Board.empty (session (some 0))).map Observation.answer := by
  intro session
  refine ⟨rfl, ?_, by decide +kernel⟩
  exact forced_inputs_have_no_say.1 Board.empty (session (some 0x20)) (session (some 0)) rfl 3
    (.onHandle 0 .blinkStep) rfl

end LedKit
