import LedKit.Bench
import LedKit.Executor
import LedKit.Led

/-!
# The blink task

The task puts an LED to rest and then toggles it at fixed intervals, logging the state that it
reads back. A refused operation is logged and the task goes on.
-/

namespace LedKit

namespace Blink

/-- The state that an LED is put into before it blinks. -/
def restState : LedState := .off

variable (lamps : LedHardware Bench) (binding : Option Descriptor)

/-- Put the LED to rest. -/
def rest (bench : Bench) : Bench :=
  match Led.setState lamps ⟨binding, bench⟩ restState with
  | (.ok (), led) => led.hardware
  | (.error error, led) => led.hardware.log (.restFailed error)

/-- Toggle the LED and log the state read back, or the reason that it was refused. -/
def step (bench : Bench) : Bench :=
  match Led.blinkStep lamps ⟨binding, bench⟩ with
  | (.ok state, led) => led.hardware.log (.blinked state)
  | (.error error, led) => led.hardware.log (.toggleFailed error)

/-- The task that blinks the LED that a handle is bound to. -/
def task (interval : Nat) (interval_pos : 0 < interval) : Task Bench where
  opening := rest lamps binding
  round bench := (step lamps binding bench).record (.timer interval)
  interval
  interval_pos

end Blink

end LedKit
