import LedKit.Descriptor
import LedKit.Level

/-!
# Hardware below the LED handles

A pin driver accesses the pins of a bank through a mask. LED hardware drives LEDs by descriptor.
A pin driver serves as LED hardware: each descriptor is resolved to a bank and a mask, and what
resolves to nothing is left alone and reads as dark.
-/

namespace LedKit

/-- Access to the pins of a bank, over a state that each access may change. -/
structure PinDriver (σ : Type) where
  write : Bank → Mask → Level → σ → σ
  toggle : Bank → Mask → σ → σ
  read : Bank → Mask → σ → Level × σ

/-- Access to LEDs by descriptor, over a state that each access may change. -/
structure LedHardware (σ : Type) where
  set : Option Descriptor → Bool → σ → σ
  toggle : Option Descriptor → σ → σ
  get : Option Descriptor → σ → Bool × σ

namespace LedHardware

/-- The hardware used through a reference: each access goes to the hardware behind it. -/
def shared {σ : Type} (lamps : LedHardware σ) : LedHardware σ where
  set descriptor lit state := lamps.set descriptor lit state
  toggle descriptor state := lamps.toggle descriptor state
  get descriptor state := lamps.get descriptor state

@[simp] theorem shared_eq {σ : Type} (lamps : LedHardware σ) : lamps.shared = lamps := rfl

end LedHardware

namespace PinDriver

variable {σ : Type}

/-- The driver used through a reference: each access goes to the driver behind it. -/
def shared (driver : PinDriver σ) : PinDriver σ where
  write bank mask level state := driver.write bank mask level state
  toggle bank mask state := driver.toggle bank mask state
  read bank mask state := driver.read bank mask state

@[simp] theorem shared_eq (driver : PinDriver σ) : driver.shared = driver := rfl

/-- LEDs on the pins of a driver. -/
def leds (driver : PinDriver σ) : LedHardware σ where
  set descriptor lit state :=
    match Descriptor.resolve descriptor with
    | none => state
    | some (bank, mask) => driver.write bank mask (Level.ofBool lit) state
  toggle descriptor state :=
    match Descriptor.resolve descriptor with
    | none => state
    | some (bank, mask) => driver.toggle bank mask state
  get descriptor state :=
    match Descriptor.resolve descriptor with
    | none => (false, state)
    | some (bank, mask) =>
      let (level, after) := driver.read bank mask state
      (level.isHigh, after)

variable {driver : PinDriver σ} {descriptor : Option Descriptor} {bank : Bank} {mask : Mask}

theorem leds_set_of_none (unreachable : Descriptor.resolve descriptor = none) (lit : Bool)
    (state : σ) : driver.leds.set descriptor lit state = state := by
  simp [leds, unreachable]

theorem leds_toggle_of_none (unreachable : Descriptor.resolve descriptor = none) (state : σ) :
    driver.leds.toggle descriptor state = state := by
  simp [leds, unreachable]

theorem leds_get_of_none (unreachable : Descriptor.resolve descriptor = none) (state : σ) :
    driver.leds.get descriptor state = (false, state) := by
  simp [leds, unreachable]

theorem leds_set_of_some (reached : Descriptor.resolve descriptor = some (bank, mask)) (lit : Bool)
    (state : σ) :
    driver.leds.set descriptor lit state = driver.write bank mask (Level.ofBool lit) state := by
  simp [leds, reached]

theorem leds_toggle_of_some (reached : Descriptor.resolve descriptor = some (bank, mask))
    (state : σ) : driver.leds.toggle descriptor state = driver.toggle bank mask state := by
  simp [leds, reached]

theorem leds_get_of_some (reached : Descriptor.resolve descriptor = some (bank, mask))
    (state : σ) :
    driver.leds.get descriptor state =
      ((driver.read bank mask state).1.isHigh, (driver.read bank mask state).2) := by
  simp [leds, reached]

end PinDriver

end LedKit
