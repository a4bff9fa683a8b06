import LedKit.Proofs.Hardware.Pin
import LedKit.Proofs.Session.Handles

/-!
# The history of a pin

The operations of a session give, one after another, the touches of each pin: those that name the
pin by its descriptor, by the binding of their handle or in their mask, and the pokes of its bank.
On the registers the level of a pin is what its touches leave, and nothing else has a part in it. A
read of the pin shows that level, unless a word is forced on the input register of its bank.
-/

namespace LedKit

/-! ## The touches of an operation -/

namespace HandleOp

/-- The touches of a pin by an operation on a handle with a binding. -/
def touches (board : Board) (pin : Pin) (binding : Option Descriptor) : HandleOp → List Touch
  | .setState state => pin.touchedBy binding (.drive state.isOn)
  | .toggle | .blinkStep => pin.touchedBy binding .invert
  | .drive target lit => pin.touchedBy (target.descriptor board) (.drive lit)
  | .bind _ | .isBound | .binding | .getState | .getStateInto _ => []

/-- The touches of a pin by operations on one handle, one after another. -/
def touchesAll (board : Board) (pin : Pin) (binding : Option Descriptor) :
    List HandleOp → List Touch
  | [] => []
  | operation :: rest =>
      operation.touches board pin binding ++
        touchesAll board pin (operation.rebind board binding) rest

theorem touchesAll_append_singleton (board : Board) (pin : Pin) (binding : Option Descriptor)
    (operations : List HandleOp) (operation : HandleOp) :
    touchesAll board pin binding (operations ++ [operation]) =
      touchesAll board pin binding operations ++
        operation.touches board pin (rebindAll board binding operations) := by
  induction operations generalizing binding with
  | nil => exact List.append_nil _
  | cons first rest ih =>
      rw [List.cons_append, touchesAll, touchesAll, ih, List.append_assoc]
      rfl

/-- An operation leaves a pin as its touches leave it. -/
theorem level_run (board : Board) (pin : Pin) (operation : HandleOp) (led : Led Bench) :
    pin.level (operation.run Kind.registers.leds board led).2.hardware.output =
      Touch.settle (pin.level led.hardware.output) (operation.touches board pin led.binding) := by
  obtain ⟨binding, bench⟩ := led
  cases operation with
  | bind target => cases wanted : target.descriptor board <;> simp [run, wanted] <;> rfl
  | isBound => rfl
  | binding => rfl
  | setState state =>
      cases binding with
      | none => rfl
      | some descriptor => exact pin.level_leds_set bench (some descriptor) state.isOn
  | toggle =>
      cases binding with
      | none => rfl
      | some descriptor => exact pin.level_leds_toggle bench (some descriptor)
  | getState =>
      cases binding with
      | none => rfl
      | some descriptor => exact congrArg pin.level (Pin.output_leds_get bench (some descriptor))
  | getStateInto place =>
      cases place with
      | none => rfl
      | some content =>
          cases binding with
          | none => rfl
          | some descriptor =>
              exact congrArg pin.level (Pin.output_leds_get bench (some descriptor))
  | blinkStep =>
      cases binding with
      | none => rfl
      | some descriptor =>
          exact (congrArg pin.level (Pin.output_leds_get _ (some descriptor))).trans
            (pin.level_leds_toggle bench (some descriptor))
  | drive target lit => exact pin.level_leds_set bench (target.descriptor board) lit

/-- Operations on one handle leave a pin as their touches leave it. -/
theorem level_runAll (board : Board) (pin : Pin) (operations : List HandleOp) (led : Led Bench) :
    pin.level (runAll Kind.registers.leds board operations led).2.hardware.output =
      Touch.settle (pin.level led.hardware.output)
        (touchesAll board pin led.binding operations) := by
  induction operations generalizing led with
  | nil => rfl
  | cons operation rest ih =>
      change pin.level (runAll Kind.registers.leds board rest
        (operation.run Kind.registers.leds board led).2).2.hardware.output = _
      rw [ih, level_run, binding_run, touchesAll, Touch.settle_append]

end HandleOp

/-- The touches of a pin by an operation that finds these handles. -/
def Op.touches (board : Board) (pin : Pin) (handles : List Handle) : Op → List Touch
  | .ledSet target lit => pin.touchedBy (target.descriptor board) (.drive lit)
  | .ledToggle target => pin.touchedBy (target.descriptor board) .invert
  | .pinWrite number mask level =>
      match Bank.ofNumber? number with
      | some bank => pin.touchedIn bank mask (.drive level.isHigh)
      | none => []
  | .pinToggle number mask =>
      match Bank.ofNumber? number with
      | some bank => pin.touchedIn bank mask .invert
      | none => []
  | .poke bank word => if bank = pin.bank then [.drive (word.getLsbD pin.number)] else []
  | .borrow operations => HandleOp.touchesAll board pin none operations
  | .release number target =>
      match Handle.bindingAt? handles number with
      | some _ => pin.touchedBy (target.descriptor board) .invert
      | none => []
  | .onHandle number operation =>
      match Handle.bindingAt? handles number with
      | some binding => operation.touches board pin binding
      | none => []
  | .new | .descriptor _ | .supported _ | .supportedSlots | .ledGet _ | .pinRead _ _ | .script _
  | .pull _ _ => []

/-- The touches of a pin by operations one after another, the first of which finds these handles. -/
def Pin.historyFrom (board : Board) (pin : Pin) (handles : List Handle) : List Op → List Touch
  | [] => []
  | operation :: rest =>
      operation.touches board pin handles ++
        historyFrom board pin (operation.handlesAfter board handles) rest

/-- The touches of a pin by the operations of a session. -/
def Pin.history (board : Board) (pin : Pin) (operations : List Op) : List Touch :=
  pin.historyFrom board [] operations

namespace Session

/-- A step leaves a pin as its touches leave it. -/
theorem level_step (board : Board) (pin : Pin) (session : Session) (operation : Op) :
    pin.level (step .registers board session operation).2.bench.output =
      Touch.settle (pin.level session.bench.output)
        (operation.touches board pin session.handles) := by
  cases operation with
  | ledSet target lit => exact pin.level_leds_set session.bench _ lit
  | ledToggle target => exact pin.level_leds_toggle session.bench _
  | ledGet target =>
      exact congrArg pin.level (Pin.output_leds_get session.bench (target.descriptor board))
  | pinWrite number mask level =>
      cases known : Bank.ofNumber? number with
      | none =>
          rw [step_pinWrite_of_none (.inr known), Op.touches, known]
          rfl
      | some bank =>
          rw [step_pinWrite_of_some rfl known, Op.touches, known]
          exact pin.level_write session.bench bank mask level
  | pinToggle number mask =>
      cases known : Bank.ofNumber? number with
      | none =>
          rw [step_pinToggle_of_none (.inr known), Op.touches, known]
          rfl
      | some bank =>
          rw [step_pinToggle_of_some rfl known, Op.touches, known]
          exact pin.level_toggle session.bench bank mask
  | pinRead number mask =>
      cases known : Bank.ofNumber? number with
      | none =>
          rw [step_pinRead_of_none (.inr known)]
          rfl
      | some bank =>
          rw [step_pinRead_of_some rfl known]
          rfl
  | poke bank word =>
      change pin.level (session.bench.output.set bank word) = _
      rw [Pin.level, PerBank.get_set, Op.touches]
      by_cases same : bank = pin.bank
      · rw [if_pos same.symm, if_pos same]
        rfl
      · rw [if_neg fun other => same other.symm, if_neg same]
        rfl
  | borrow operations => exact HandleOp.level_runAll board pin operations (Led.new session.bench)
  | release number target =>
      cases found : Handle.bindingAt? session.handles number with
      | none =>
          rw [step_release_of_none found, Op.touches, found]
          rfl
      | some binding =>
          rw [step_release_of_some found, Op.touches, found]
          exact pin.level_leds_toggle session.bench _
  | onHandle number operation =>
      cases found : Handle.bindingAt? session.handles number with
      | none =>
          rw [step_onHandle_of_none found, Op.touches, found]
          rfl
      | some binding =>
          rw [step_onHandle_of_some found, Op.touches, found]
          exact HandleOp.level_run board pin operation ⟨binding, session.bench⟩
  | _ => rfl

/-- A session leaves a pin as its history leaves it. -/
theorem level_after (board : Board) (pin : Pin) (session : Session) (operations : List Op) :
    pin.level (after .registers board session operations).bench.output =
      Touch.settle (pin.level session.bench.output)
        (pin.historyFrom board session.handles operations) := by
  induction operations generalizing session with
  | nil => rfl
  | cons operation rest ih =>
      have stepped : pin.level (observe .registers board session operation).2.bench.output =
          Touch.settle (pin.level session.bench.output)
            (operation.touches board pin session.handles) :=
        level_step board pin session.quiet operation
      have table : (observe .registers board session operation).2.handles =
          operation.handlesAfter board session.handles :=
        handles_step .registers board session.quiet operation
      rw [after_cons, ih, stepped, table, Pin.historyFrom, Touch.settle_append]

end Session

/-! ## The words forced on the input registers -/

/-- What an operation decides about a word forced on the input register of a bank. -/
def Op.pullOf? (bank : Bank) : Op → Option (Option Word)
  | .pull other word => if other = bank then some word else none
  | _ => none

/-- The word that the last pull of a bank forces on its input register, if it forces one. -/
def Op.forcedBy (bank : Bank) (operations : List Op) : Option Word :=
  (operations.filterMap (pullOf? bank)).getLast?.getD none

/-- Calls on a handle change no forced word. -/
theorem HandleOp.forced_runAll (board : Board) (operations : List HandleOp) (led : Led Bench) :
    (runAll Kind.registers.leds board operations led).2.hardware.forced = led.hardware.forced := by
  have kept : Led.Alike (fun bench other => other = bench ∧ bench.forced = led.hardware.forced)
      led led := ⟨rfl, rfl, rfl⟩
  have agree := (Pin.registers_keep_forced led.hardware.forced).agree.leds
  exact (runAll_alike agree board operations kept).2.hardware.2

namespace Session

/-- Only a pull changes a forced word. -/
theorem forced_step (board : Board) (bank : Bank) (session : Session) (operation : Op) :
    (step .registers board session operation).2.bench.forced.get bank =
      (operation.pullOf? bank).getD (session.bench.forced.get bank) := by
  by_cases arranged : operation.arranges = true
  · cases operation with
    | script | poke => rfl
    | pull other word =>
        change (session.bench.forced.set other word).get bank = _
        rw [PerBank.get_set, Op.pullOf?]
        by_cases same : other = bank
        · rw [if_pos same.symm, if_pos same, Option.getD_some]
        · rw [if_neg fun reversed => same reversed.symm, if_neg same, Option.getD_none]
    | _ => cases arranged
  · have kept : (step .registers board session operation).2.bench.forced = session.bench.forced :=
      step_keep Kind.pins?_registers (Pin.registers_keep_forced session.bench.forced) board
        (by simpa using arranged) rfl
    have unpulled : operation.pullOf? bank = none := by
      cases operation with
      | pull other word => exact absurd rfl arranged
      | _ => rfl
    rw [kept, unpulled, Option.getD_none]

/-- A forced word is that of the last pull. -/
theorem forced_after (board : Board) (bank : Bank) (session : Session) (operations : List Op) :
    (after .registers board session operations).bench.forced.get bank =
      (operations.filterMap (Op.pullOf? bank)).getLast?.getD (session.bench.forced.get bank) := by
  induction operations generalizing session with
  | nil => rfl
  | cons operation rest ih =>
      have stepped : (observe .registers board session operation).2.bench.forced.get bank =
          (operation.pullOf? bank).getD (session.bench.forced.get bank) :=
        forced_step board bank session.quiet operation
      rw [after_cons, ih, stepped]
      cases pulled : operation.pullOf? bank with
      | none => simp [pulled]
      | some word => simp [pulled, List.getLast?_cons]

end Session

/-! ## Reads of a pin -/

/-- The operation reports the state of the LED that its handle is bound to. -/
def HandleOp.reads : HandleOp → Bool
  | .getState | .getStateInto (some _) | .blinkStep => true
  | _ => false

/-- The state that an answer reports, itself or in the place it was given. -/
def HandleAnswer.reported? : HandleAnswer → Option LedState
  | .state (.ok shown) => some shown
  | .stored (.ok ()) content => content
  | _ => none

/-- A read on a handle bound to a pin reports the pin, after the read's own toggle if it has one. -/
theorem HandleOp.reported?_run (board : Board) (pin : Pin) {operation : HandleOp}
    (reads : operation.reads = true) {led : Led Bench} (bound : led.binding = some pin.descriptor) :
    (operation.run Kind.registers.leds board led).1.reported? =
      some (LedState.ofBool (pin.shows (led.hardware.forced.get pin.bank)
        (Touch.settle (pin.level led.hardware.output)
          (operation.touches board pin led.binding)))) := by
  obtain ⟨binding, bench⟩ := led
  change binding = some pin.descriptor at bound
  subst bound
  cases operation with
  | getState => exact congrArg (some <| LedState.ofBool ·) (pin.leds_get_descriptor bench)
  | getStateInto place =>
      cases place with
      | none => cases reads
      | some content => exact congrArg (some <| LedState.ofBool ·) (pin.leds_get_descriptor bench)
  | blinkStep =>
      -- The read looks at the bench that the toggle left.
      have forced : (Bench.registers.leds.toggle (some pin.descriptor) bench).forced =
          bench.forced := forced_runAll board [.toggle] ⟨some pin.descriptor, bench⟩
      have shown := pin.leds_get_descriptor
        (Bench.registers.leds.toggle (some pin.descriptor) bench)
      rw [forced, Pin.level_leds_toggle] at shown
      exact congrArg (some <| LedState.ofBool ·) shown
  | _ => cases reads

namespace Session

/-! ## The law of pins -/

/--
What holds of a pin when an operation runs on the registers after others on a fresh bench and is
seen to do what it does.
-/
structure PinLaw (board : Board) (pin : Pin) (before : List Op) (operation : Op)
    (seen : Observation) : Prop where
  /-- The pin was low at first and its touches so far have made it what it is. -/
  level : pin.level seen.output =
    Touch.settle false (pin.history board (before ++ [operation]))
  /-- A read with the descriptor of the pin shows the pin. -/
  get : ∀ target, operation = .ledGet target → target.descriptor board = some pin.descriptor →
    seen.answer = .flag (pin.shows (Op.forcedBy pin.bank before)
      (Touch.settle false (pin.history board before)))
  /-- A read on a handle bound to the pin reports the pin as it is after the call itself. -/
  call : ∀ binding, operation.callee? (Op.handlesAfterAll board [] before) = some binding →
    ∀ earlier call later, operation.calls = earlier ++ call :: later → call.reads = true →
      HandleOp.rebindAll board binding earlier = some pin.descriptor →
        ∃ answer, seen.answer.calls[earlier.length]? = some answer ∧
          answer.reported? = some (LedState.ofBool (pin.shows (Op.forcedBy pin.bank before)
            (Touch.settle false (pin.history board before ++
              HandleOp.touchesAll board pin binding (earlier ++ [call])))))

/-- In every session on the registers every pin keeps its law at every operation. -/
theorem pin_law (board : Board) (before : List Op) (operation : Op) (rest : List Op) :
    ∃ seen, (run .registers board (before ++ operation :: rest))[before.length]? = some seen ∧
      ∀ pin, PinLaw board pin before operation seen := by
  refine ⟨seen .registers board before operation, getElem?_run .registers board before operation
    rest, fun pin => ?_⟩
  have low : pin.level fresh.bench.output = false := by
    have cleared : fresh.bench.output.get pin.bank = 0 := PerBank.get_fill 0 pin.bank
    rw [Pin.level, cleared]
    exact BitVec.getLsbD_zero
  have settled (operations : List Op) :
      pin.level (after .registers board fresh operations).bench.output =
        Touch.settle false (pin.history board operations) := by
    rw [level_after, low]
    rfl
  have forced : (after .registers board fresh before).bench.forced.get pin.bank =
      Op.forcedBy pin.bank before := by
    rw [forced_after]
    exact congrArg _ (PerBank.get_fill none pin.bank)
  constructor
  case level => rw [output_seen, settled]
  case get =>
    rintro target rfl reached
    have shown := pin.leds_get_descriptor (after .registers board fresh before).bench.quiet
    rw [← reached] at shown
    rw [← settled, ← forced]
    exact congrArg Answer.flag shown
  case call =>
    intro binding callee earlier call later calls reads bound
    have table : (after .registers board fresh before).handles =
        Op.handlesAfterAll board [] before := handles_after .registers board fresh before
    rw [← table] at callee
    refine ⟨_, calls_seen .registers board callee calls, ?_⟩
    have held : (HandleOp.runAll Kind.registers.leds board earlier
        ⟨binding, (after .registers board fresh before).bench.quiet⟩).2.binding =
          some pin.descriptor := by
      rw [HandleOp.binding_runAll, bound]
    rw [HandleOp.reported?_run board pin reads held, HandleOp.forced_runAll, HandleOp.level_runAll,
      HandleOp.binding_runAll, ← Touch.settle_append, ← HandleOp.touchesAll_append_singleton,
      Touch.settle_append, ← settled, ← forced]
    rfl

end Session

end LedKit
