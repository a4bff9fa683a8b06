import LedKit.Proofs.Hardware.Delegation

/-!
# What a session asks of its hardware

An operation that names LEDs by descriptors or handles makes a fixed list of calls of the LED
hardware, which its arguments and the handles that it finds give. On every hardware those calls are
all that happens to the bench. On a pin driver a call is one access to the pins that its descriptor
resolves to, or nothing.
-/

namespace LedKit

/-! ## Calls on pins -/

/-- The answer to a call whose descriptor reaches nothing. -/
def LedCall.darkAnswer : LedCall → Option Bool
  | set _ _ | toggle _ => none
  | get _ => some false

namespace PinDriver

variable {σ : Type} {driver : PinDriver σ} {call : LedCall}

/-- The access to the pins of a bank that a call makes. -/
def access (driver : PinDriver σ) (bank : Bank) (mask : Mask) (state : σ) : LedCall → σ
  | .set _ lit => driver.write bank mask (.ofBool lit) state
  | .toggle _ => driver.toggle bank mask state
  | .get _ => (driver.read bank mask state).2

/-- The answer to a call that accesses the pins of a bank. -/
def answer (driver : PinDriver σ) (bank : Bank) (mask : Mask) (state : σ) : LedCall → Option Bool
  | .set _ _ | .toggle _ => none
  | .get _ => some (driver.read bank mask state).1.isHigh

theorem serve_eq_of_none (unreachable : Descriptor.resolve call.descriptor = none) (state : σ) :
    driver.leds.serve state call = (call.darkAnswer, state) := by
  cases call with
  | set descriptor lit => exact congrArg (none, ·) (leds_set_of_none unreachable lit state)
  | toggle descriptor => exact congrArg (none, ·) (leds_toggle_of_none unreachable state)
  | get descriptor =>
      exact congrArg (fun read : Bool × σ => (some read.1, read.2))
        (leds_get_of_none unreachable state)

theorem serve_eq_of_some {bank : Bank} {mask : Mask}
    (reached : Descriptor.resolve call.descriptor = some (bank, mask)) (state : σ) :
    driver.leds.serve state call =
      (driver.answer bank mask state call, driver.access bank mask state call) := by
  cases call with
  | set descriptor lit => exact congrArg (none, ·) (leds_set_of_some reached lit state)
  | toggle descriptor => exact congrArg (none, ·) (leds_toggle_of_some reached state)
  | get descriptor =>
      exact congrArg (fun read : Bool × σ => (some read.1, read.2)) (leds_get_of_some reached state)

theorem serve_of_none (unreachable : Descriptor.resolve call.descriptor = none) (state : σ) :
    (driver.leds.serve state call).2 = state :=
  congrArg Prod.snd (serve_eq_of_none unreachable state)

theorem serve_of_some {bank : Bank} {mask : Mask}
    (reached : Descriptor.resolve call.descriptor = some (bank, mask)) (state : σ) :
    (driver.leds.serve state call).2 = driver.access bank mask state call :=
  congrArg Prod.snd (serve_eq_of_some reached state)

end PinDriver

/-! ## Calls of an operation -/

/-- The operations that access the pins of a bank through a mask. -/
def Op.usesPins : Op → Bool
  | .pinWrite _ _ _ | .pinToggle _ _ | .pinRead _ _ => true
  | _ => false

/-- The calls that an operation makes of the LED hardware when it finds these handles. -/
def Op.ledCalls (board : Board) (handles : List Handle) : Op → List LedCall
  | .ledSet target lit => [.set (target.descriptor board) lit]
  | .ledToggle target => [.toggle (target.descriptor board)]
  | .ledGet target => [.get (target.descriptor board)]
  | .borrow operations => HandleOp.ledCallsAll board none operations
  | .release number target =>
      match Handle.bindingAt? handles number with
      | some _ => [.toggle (target.descriptor board)]
      | none => []
  | .onHandle number operation =>
      match Handle.bindingAt? handles number with
      | some binding => operation.ledCalls board binding
      | none => []
  | .new | .descriptor _ | .supported _ | .supportedSlots | .pinWrite _ _ _ | .pinToggle _ _
  | .pinRead _ _ | .script _ | .poke _ _ | .pull _ _ => []

/-- An operation on LEDs brings the bench where its calls alone bring it. -/
theorem Session.bench_step (kind : Kind) (board : Board) (session : Session) {operation : Op}
    (uses : operation.arranges = false) (leds : operation.usesPins = false) :
    (step kind board session operation).2.bench =
      kind.leds.replay session.bench (operation.ledCalls board session.handles) := by
  cases operation with
  | script | poke | pull => cases uses
  | pinWrite | pinToggle | pinRead => cases leds
  | borrow operations =>
      exact congrArg Led.hardware (HandleOp.runAll_snd_eq kind.leds board operations none
        session.bench)
  | release number target =>
      cases found : Handle.bindingAt? session.handles number with
      | none =>
          rw [step_release_of_none found, Op.ledCalls, found]
          rfl
      | some binding =>
          rw [step_release_of_some found, Op.ledCalls, found]
          rfl
  | onHandle number operation =>
      cases found : Handle.bindingAt? session.handles number with
      | none =>
          rw [step_onHandle_of_none found, Op.ledCalls, found]
          rfl
      | some binding =>
          rw [step_onHandle_of_some found, Op.ledCalls, found, HandleOp.run_eq]
  | _ => rfl

end LedKit
