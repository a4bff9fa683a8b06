import LedKit.Proofs.Hardware.Agreement
import LedKit.Session

/-!
# Sessions as runs of steps

What is seen of one operation of a session depends on the operations before it alone. Sessions over
pin drivers that agree take the same steps, save for those operations that arrange the bench itself.
-/

namespace LedKit

/-- The operations that arrange the bench instead of using its hardware. -/
def Op.arranges : Op → Bool
  | .script _ | .poke _ _ | .pull _ _ => true
  | _ => false

/-- The binding of a handle that was not given up. -/
def Handle.binding? : Handle → Option (Option Descriptor)
  | live binding => some binding
  | gone => none

/-- The binding of the handle with a number, if it is there and was not given up. -/
def Handle.bindingAt? (handles : List Handle) (number : Nat) : Option (Option Descriptor) :=
  handles[number]?.bind Handle.binding?

theorem Handle.bindingAt?_eq_some_iff {handles : List Handle} {number : Nat}
    {binding : Option Descriptor} :
    bindingAt? handles number = some binding ↔ handles[number]? = some (live binding) := by
  unfold bindingAt?
  cases handles[number]? with
  | none => simp
  | some handle => cases handle <;> simp [binding?]

/-- To put back the handle that is there changes no table. -/
theorem Handle.set_live_self {handles : List Handle} {number : Nat}
    {binding : Option Descriptor} (found : bindingAt? handles number = some binding) :
    handles.set number (.live binding) = handles := by
  obtain ⟨inside, same⟩ := List.getElem?_eq_some_iff.mp (bindingAt?_eq_some_iff.mp found)
  rw [← same, List.set_getElem_self inside]

namespace Session

section Steps

variable {kind : Kind} {board : Board} {session : Session} {number : UInt8} {place : Nat}

theorem onPins_of_none (missing : kind.pins? = none ∨ Bank.ofNumber? number = none)
    (access : PinDriver Bench → Bank → Bench → Answer × Bench) :
    session.onPins kind number access = (.noPins, session) := by
  rcases missing with missing | missing <;> simp [onPins, missing]

theorem onPins_of_some {driver : PinDriver Bench} {bank : Bank} (pins : kind.pins? = some driver)
    (known : Bank.ofNumber? number = some bank)
    (access : PinDriver Bench → Bank → Bench → Answer × Bench) :
    session.onPins kind number access =
      ((access driver bank session.bench).1,
        { session with bench := (access driver bank session.bench).2 }) := by
  simp [onPins, pins, known]

/-- An access to the pins leaves the handles as they were. -/
theorem handles_onPins (access : PinDriver Bench → Bank → Bench → Answer × Bench) :
    (session.onPins kind number access).2.handles = session.handles := by
  unfold onPins
  split <;> rfl

theorem onHandle_of_none (missing : Handle.bindingAt? session.handles place = none)
    (access : Led Bench → Answer × Handle × Bench) :
    session.onHandle place access = (.noHandle, session) := by
  unfold onHandle
  split
  · next binding found => rw [Handle.bindingAt?_eq_some_iff.mpr found] at missing; cases missing
  · rfl

theorem onHandle_of_some {binding : Option Descriptor}
    (found : Handle.bindingAt? session.handles place = some binding)
    (access : Led Bench → Answer × Handle × Bench) :
    session.onHandle place access =
      ((access ⟨binding, session.bench⟩).1,
        ⟨(access ⟨binding, session.bench⟩).2.2,
          session.handles.set place (access ⟨binding, session.bench⟩).2.1⟩) := by
  simp [onHandle, Handle.bindingAt?_eq_some_iff.mp found]

theorem step_pinWrite_of_none (missing : kind.pins? = none ∨ Bank.ofNumber? number = none)
    (mask : Mask) (level : Level) :
    step kind board session (.pinWrite number mask level) = (.noPins, session) := by
  rw [step, onPins_of_none missing]

theorem step_pinToggle_of_none (missing : kind.pins? = none ∨ Bank.ofNumber? number = none)
    (mask : Mask) : step kind board session (.pinToggle number mask) = (.noPins, session) := by
  rw [step, onPins_of_none missing]

theorem step_pinRead_of_none (missing : kind.pins? = none ∨ Bank.ofNumber? number = none)
    (mask : Mask) : step kind board session (.pinRead number mask) = (.noPins, session) := by
  rw [step, onPins_of_none missing]

section Pins

variable {driver : PinDriver Bench} {bank : Bank} (pins : kind.pins? = some driver)
  (known : Bank.ofNumber? number = some bank)

include pins known

theorem step_pinWrite_of_some (mask : Mask) (level : Level) :
    step kind board session (.pinWrite number mask level) =
      (.nothing, { session with bench := driver.write bank mask level session.bench }) := by
  rw [step, onPins_of_some pins known]

theorem step_pinToggle_of_some (mask : Mask) :
    step kind board session (.pinToggle number mask) =
      (.nothing, { session with bench := driver.toggle bank mask session.bench }) := by
  rw [step, onPins_of_some pins known]

theorem step_pinRead_of_some (mask : Mask) :
    step kind board session (.pinRead number mask) =
      (.level (driver.read bank mask session.bench).1,
        { session with bench := (driver.read bank mask session.bench).2 }) := by
  rw [step, onPins_of_some pins known]

end Pins

theorem step_release_of_none (missing : Handle.bindingAt? session.handles place = none)
    (target : Target) : step kind board session (.release place target) = (.noHandle, session) := by
  rw [step, onHandle_of_none missing]

theorem step_onHandle_of_none (missing : Handle.bindingAt? session.handles place = none)
    (operation : HandleOp) :
    step kind board session (.onHandle place operation) = (.noHandle, session) := by
  rw [step, onHandle_of_none missing]

section Live

variable {binding : Option Descriptor}
  (found : Handle.bindingAt? session.handles place = some binding)

include found

theorem step_release_of_some (target : Target) :
    step kind board session (.release place target) =
      (.nothing, ⟨kind.leds.toggle (target.descriptor board) session.bench,
        session.handles.set place .gone⟩) := by
  rw [step, onHandle_of_some found]

theorem step_onHandle_of_some (operation : HandleOp) :
    step kind board session (.onHandle place operation) =
      (.handled (operation.run kind.leds board ⟨binding, session.bench⟩).1,
        ⟨(operation.run kind.leds board ⟨binding, session.bench⟩).2.hardware,
          session.handles.set place
            (.live (operation.run kind.leds board ⟨binding, session.bench⟩).2.binding)⟩) := by
  rw [step, onHandle_of_some found]

end Live

end Steps

section Observations

variable (kind : Kind) (board : Board)

/-- The session with nothing recorded. -/
def quiet (session : Session) : Session := { session with bench := session.bench.quiet }

theorem observe_eq (session : Session) (operation : Op) :
    observe kind board session operation =
      (⟨(step kind board session.quiet operation).1,
        (step kind board session.quiet operation).2.bench.trace,
        (step kind board session.quiet operation).2.bench.output,
        (step kind board session.quiet operation).2.handles⟩,
        (step kind board session.quiet operation).2) := rfl

/-- What is seen of an operation that follows others on a fresh bench. -/
def seen (before : List Op) (operation : Op) : Observation :=
  (observe kind board (after kind board fresh before) operation).1

/-- The observation of an operation stands where the operation stands. -/
theorem getElem?_run (before : List Op) (operation : Op) (rest : List Op) :
    (run kind board (before ++ operation :: rest))[before.length]? =
      some (seen kind board before operation) := by
  rw [run, runFrom_append, List.getElem?_append_right (by simp), length_runFrom, Nat.sub_self]
  rfl

/-- The session after one more operation. -/
theorem after_append_singleton (session : Session) (before : List Op) (operation : Op) :
    after kind board session (before ++ [operation]) =
      (observe kind board (after kind board session before) operation).2 := by
  rw [after_append]
  rfl

theorem output_seen (before : List Op) (operation : Op) :
    (seen kind board before operation).output =
      (after kind board fresh (before ++ [operation])).bench.output := by
  rw [after_append_singleton]
  rfl

theorem handles_seen (before : List Op) (operation : Op) :
    (seen kind board before operation).handles =
      (after kind board fresh (before ++ [operation])).handles := by
  rw [after_append_singleton]
  rfl

end Observations

/-- Sessions with the same handles over related benches. -/
structure Alike (related : Bench → Bench → Prop) (session other : Session) : Prop where
  handles : session.handles = other.handles
  bench : related session.bench other.bench

section Agreement

variable {first second : Kind} {driver substitute : PinDriver Bench}
  {related : Bench → Bench → Prop}

theorem leds_of_pins? (pins : first.pins? = some driver) : first.leds = driver.leds := by
  rw [Kind.leds, pins]

/-- A use of the hardware has one answer in alike sessions and leaves them alike. -/
theorem step_alike (pins : first.pins? = some driver) (others : second.pins? = some substitute)
    (agree : PinDriver.Agree driver substitute related) (board : Board) {operation : Op}
    (uses : operation.arranges = false) {session other : Session}
    (alike : Alike related session other) :
    (step first board session operation).1 = (step second board other operation).1 ∧
      Alike related (step first board session operation).2
        (step second board other operation).2 := by
  obtain ⟨same, start⟩ := alike
  have leds : LedHardware.Agree first.leds second.leds related := by
    rw [leds_of_pins? pins, leds_of_pins? others]
    exact agree.leds
  cases operation with
  | new => exact ⟨by simp [step, same], by simp [step, same], start⟩
  | descriptor slot => exact ⟨rfl, same, start⟩
  | supported slot => exact ⟨rfl, same, start⟩
  | supportedSlots => exact ⟨rfl, same, start⟩
  | ledSet target lit => exact ⟨rfl, same, leds.set start _ _⟩
  | ledToggle target => exact ⟨rfl, same, leds.toggle start _⟩
  | ledGet target =>
      obtain ⟨lit, after⟩ := leds.get start (target.descriptor board)
      exact ⟨congrArg Answer.flag lit, same, after⟩
  | pinWrite number mask level =>
      cases known : Bank.ofNumber? number with
      | none =>
          rw [step_pinWrite_of_none (.inr known), step_pinWrite_of_none (.inr known)]
          exact ⟨rfl, same, start⟩
      | some bank =>
          rw [step_pinWrite_of_some pins known, step_pinWrite_of_some others known]
          exact ⟨rfl, same, agree.write start bank mask level⟩
  | pinToggle number mask =>
      cases known : Bank.ofNumber? number with
      | none =>
          rw [step_pinToggle_of_none (.inr known), step_pinToggle_of_none (.inr known)]
          exact ⟨rfl, same, start⟩
      | some bank =>
          rw [step_pinToggle_of_some pins known, step_pinToggle_of_some others known]
          exact ⟨rfl, same, agree.toggle start bank mask⟩
  | pinRead number mask =>
      cases known : Bank.ofNumber? number with
      | none =>
          rw [step_pinRead_of_none (.inr known), step_pinRead_of_none (.inr known)]
          exact ⟨rfl, same, start⟩
      | some bank =>
          obtain ⟨level, after⟩ := agree.read start bank mask
          rw [step_pinRead_of_some pins known, step_pinRead_of_some others known]
          exact ⟨congrArg Answer.level level, same, after⟩
  | script high => cases uses
  | poke bank word => cases uses
  | pull bank word => cases uses
  | borrow operations =>
      have new : Led.Alike related (Led.new session.bench) (Led.new other.bench) := ⟨rfl, start⟩
      obtain ⟨answers, after⟩ := HandleOp.runAll_alike leds board operations new
      exact ⟨congrArg Answer.borrowed answers, same, after.hardware⟩
  | release number target =>
      cases found : Handle.bindingAt? session.handles number with
      | none =>
          rw [step_release_of_none found, step_release_of_none (same ▸ found)]
          exact ⟨rfl, same, start⟩
      | some binding =>
          rw [step_release_of_some found, step_release_of_some (same ▸ found), same]
          exact ⟨rfl, rfl, leds.toggle start _⟩
  | onHandle number operation =>
      cases found : Handle.bindingAt? session.handles number with
      | none =>
          rw [step_onHandle_of_none found, step_onHandle_of_none (same ▸ found)]
          exact ⟨rfl, same, start⟩
      | some binding =>
          have held : Led.Alike related ⟨binding, session.bench⟩ ⟨binding, other.bench⟩ :=
            ⟨rfl, start⟩
          obtain ⟨answer, after⟩ := HandleOp.run_alike leds board operation held
          rw [step_onHandle_of_some found, step_onHandle_of_some (same ▸ found), same]
          exact ⟨congrArg Answer.handled answer, by simp only [after.binding], after.hardware⟩

/-- A use of the hardware keeps what its pin driver keeps. -/
theorem step_keep {kept : Bench → Prop} (pins : first.pins? = some driver)
    (keep : PinDriver.Keep driver kept) (board : Board) {operation : Op}
    (uses : operation.arranges = false) {session : Session} (start : kept session.bench) :
    kept (step first board session operation).2.bench :=
  (step_alike pins pins keep.agree board uses ⟨rfl, rfl, start⟩).2.bench.2

end Agreement

end Session

end LedKit
