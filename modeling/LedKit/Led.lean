import LedKit.Hardware
import LedKit.LedError

/-!
# LED handles

A handle joins LED hardware with the descriptor that it is bound to. A new handle is unbound and
refuses to drive anything. Binding needs a descriptor and touches no hardware; a bound handle may
be bound anew. A refused operation changes neither the handle nor the hardware.
-/

namespace LedKit

variable {σ : Type}

/-- A handle on one LED of some hardware. -/
structure Led (σ : Type) where
  binding : Option Descriptor
  hardware : σ

namespace Led

/-- An unbound handle. -/
def new (hardware : σ) : Led σ := ⟨none, hardware⟩

/-- Bind the handle to a descriptor. Without one the binding stays as it was. -/
def bind (led : Led σ) (descriptor : Option Descriptor) : Except LedError Unit × Led σ :=
  match descriptor with
  | none => (.error .missingArgument, led)
  | some descriptor => (.ok (), { led with binding := some descriptor })

def isBound (led : Led σ) : Bool := led.binding.isSome

/-- Run an access with the descriptor that the handle is bound to; without one it is refused. -/
def whenBound {α : Type} (led : Led σ) (access : Option Descriptor → σ → α × σ) :
    Except LedError α × Led σ :=
  match led.binding with
  | none => (.error .unbound, led)
  | some descriptor =>
    let (answer, after) := access (some descriptor) led.hardware
    (.ok answer, { led with hardware := after })

variable (lamps : LedHardware σ)

/-- Put the LED into a state. -/
def setState (led : Led σ) (state : LedState) : Except LedError Unit × Led σ :=
  led.whenBound fun descriptor hardware => ((), lamps.set descriptor state.isOn hardware)

/-- Turn the LED on if it is off and off if it is on. -/
def toggle (led : Led σ) : Except LedError Unit × Led σ :=
  led.whenBound fun descriptor hardware => ((), lamps.toggle descriptor hardware)

/-- The state that the hardware reports. -/
def getState (led : Led σ) : Except LedError LedState × Led σ :=
  led.whenBound fun descriptor hardware =>
    let (lit, after) := lamps.get descriptor hardware
    (LedState.ofBool lit, after)

/-- Write the reported state into a place, if there is one. The result holds the content of the
place afterwards, which a refused read leaves as it was. -/
def getStateInto (led : Led σ) (place : Option LedState) :
    Except LedError Unit × Option LedState × Led σ :=
  match place with
  | none => (.error .missingArgument, none, led)
  | some content =>
    match led.getState lamps with
    | (.error error, after) => (.error error, some content, after)
    | (.ok state, after) => (.ok (), some state, after)

/-- Toggle the LED, then report its state. -/
def blinkStep (led : Led σ) : Except LedError LedState × Led σ :=
  match led.toggle lamps with
  | (.error error, after) => (.error error, after)
  | (.ok (), after) => after.getState lamps

section Laws

variable {lamps} (hardware : σ) (descriptor : Descriptor)

@[simp] theorem bind_none (led : Led σ) : led.bind none = (.error .missingArgument, led) := rfl

@[simp] theorem bind_some (led : Led σ) :
    led.bind (some descriptor) = (.ok (), { led with binding := some descriptor }) := rfl

@[simp] theorem setState_unbound (state : LedState) :
    setState lamps ⟨none, hardware⟩ state = (.error .unbound, ⟨none, hardware⟩) := rfl

@[simp] theorem setState_bound (state : LedState) :
    setState lamps ⟨some descriptor, hardware⟩ state =
      (.ok (), ⟨some descriptor, lamps.set (some descriptor) state.isOn hardware⟩) := rfl

@[simp] theorem toggle_unbound :
    toggle lamps ⟨none, hardware⟩ = (.error .unbound, ⟨none, hardware⟩) := rfl

@[simp] theorem toggle_bound :
    toggle lamps ⟨some descriptor, hardware⟩ =
      (.ok (), ⟨some descriptor, lamps.toggle (some descriptor) hardware⟩) := rfl

@[simp] theorem getState_unbound :
    getState lamps ⟨none, hardware⟩ = (.error .unbound, ⟨none, hardware⟩) := rfl

@[simp] theorem getState_bound :
    getState lamps ⟨some descriptor, hardware⟩ =
      (.ok (LedState.ofBool (lamps.get (some descriptor) hardware).1),
        ⟨some descriptor, (lamps.get (some descriptor) hardware).2⟩) := rfl

@[simp] theorem getStateInto_none (led : Led σ) :
    getStateInto lamps led none = (.error .missingArgument, none, led) := rfl

@[simp] theorem getStateInto_unbound (content : LedState) :
    getStateInto lamps ⟨none, hardware⟩ (some content) =
      (.error .unbound, some content, ⟨none, hardware⟩) := rfl

@[simp] theorem getStateInto_bound (content : LedState) :
    getStateInto lamps ⟨some descriptor, hardware⟩ (some content) =
      (.ok (), some (LedState.ofBool (lamps.get (some descriptor) hardware).1),
        ⟨some descriptor, (lamps.get (some descriptor) hardware).2⟩) := rfl

@[simp] theorem blinkStep_unbound :
    blinkStep lamps ⟨none, hardware⟩ = (.error .unbound, ⟨none, hardware⟩) := rfl

@[simp] theorem blinkStep_bound :
    blinkStep lamps ⟨some descriptor, hardware⟩ =
      getState lamps ⟨some descriptor, lamps.toggle (some descriptor) hardware⟩ := rfl

end Laws

end Led

end LedKit
