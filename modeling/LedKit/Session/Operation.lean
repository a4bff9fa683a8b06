import LedKit.Board
import LedKit.Led
import LedKit.Register

/-!
# Operations of a session

What a session can ask for: operations on one handle, and operations on the board, the hardware
and the registers. A descriptor is given directly, through a slot of the board in use, or not at
all.
-/

namespace LedKit

/-- How an operation names the LED it is about. -/
inductive Target where
  | absent
  | direct (descriptor : Descriptor)
  | slot (number : Int)
  deriving DecidableEq

/-- The descriptor that a target stands for on a board. -/
def Target.descriptor (board : Board) : Target → Option Descriptor
  | absent => none
  | direct descriptor => some descriptor
  | slot number => board.descriptor (Slot.ofNumber? number)

/-- An operation on one handle. -/
inductive HandleOp where
  | bind (target : Target)
  | isBound
  | binding
  | setState (state : LedState)
  | toggle
  | getState
  | getStateInto (place : Option LedState)
  | blinkStep
  /-- Drive an LED of the hardware below the handle, whatever the handle is bound to. -/
  | drive (target : Target) (lit : Bool)
  deriving DecidableEq

/-- The answer to an operation on a handle. -/
inductive HandleAnswer where
  | done (outcome : Except LedError Unit)
  | state (outcome : Except LedError LedState)
  /-- The outcome of a read into a place, and what the place holds afterwards. -/
  | stored (outcome : Except LedError Unit) (content : Option LedState)
  | flag (value : Bool)
  | descriptor (value : Option Descriptor)
  | nothing
  deriving DecidableEq

/-- An operation of a session. -/
inductive Op where
  /-- Make an unbound handle. -/
  | new
  | descriptor (slot : Int)
  | supported (slot : Int)
  | supportedSlots
  | ledSet (target : Target) (lit : Bool)
  | ledToggle (target : Target)
  | ledGet (target : Target)
  | pinWrite (bank : UInt8) (mask : Mask) (level : Level)
  | pinToggle (bank : UInt8) (mask : Mask)
  | pinRead (bank : UInt8) (mask : Mask)
  /-- Script the next answer of a stand-in. -/
  | script (high : Bool)
  /-- Overwrite an output register. -/
  | poke (bank : Bank) (word : Word)
  /-- Force a word on an input register, or stop doing so. -/
  | pull (bank : Bank) (word : Option Word)
  /-- Run operations on a handle made for them over the same hardware. -/
  | borrow (operations : List HandleOp)
  /-- Give up a handle and toggle an LED of the hardware that it gives back. -/
  | release (handle : Nat) (target : Target)
  | onHandle (handle : Nat) (operation : HandleOp)
  deriving DecidableEq

/-- The answer to an operation of a session. -/
inductive Answer where
  | nothing
  | created (handle : Nat)
  | descriptor (value : Option Descriptor)
  | flag (value : Bool)
  | slots (supported : List Slot)
  | level (value : Level)
  | handled (answer : HandleAnswer)
  | borrowed (answers : List HandleAnswer)
  /-- There is no such handle, or it was given up. -/
  | noHandle
  /-- The hardware has no pins, or no such bank. -/
  | noPins
  deriving DecidableEq

namespace HandleOp

/-- Run an operation on a handle over LED hardware. -/
def run {σ : Type} (lamps : LedHardware σ) (board : Board) (operation : HandleOp) (led : Led σ) :
    HandleAnswer × Led σ :=
  match operation with
  | bind target =>
    let (outcome, after) := led.bind (target.descriptor board)
    (.done outcome, after)
  | isBound => (.flag led.isBound, led)
  | binding => (.descriptor led.binding, led)
  | setState state =>
    let (outcome, after) := led.setState lamps state
    (.done outcome, after)
  | toggle =>
    let (outcome, after) := led.toggle lamps
    (.done outcome, after)
  | getState =>
    let (outcome, after) := led.getState lamps
    (.state outcome, after)
  | getStateInto place =>
    let (outcome, content, after) := led.getStateInto lamps place
    (.stored outcome content, after)
  | blinkStep =>
    let (outcome, after) := led.blinkStep lamps
    (.state outcome, after)
  | drive target lit =>
    (.nothing, { led with hardware := lamps.set (target.descriptor board) lit led.hardware })

/-- Run operations one after another on the same handle. -/
def runAll {σ : Type} (lamps : LedHardware σ) (board : Board) :
    List HandleOp → Led σ → List HandleAnswer × Led σ
  | [], led => ([], led)
  | operation :: rest, led =>
    let (answer, between) := operation.run lamps board led
    let (answers, after) := runAll lamps board rest between
    (answer :: answers, after)

/-- Operations in two groups run like one group. -/
theorem runAll_append {σ : Type} (lamps : LedHardware σ) (board : Board)
    (first second : List HandleOp) (led : Led σ) :
    runAll lamps board (first ++ second) led =
      ((runAll lamps board first led).1 ++
          (runAll lamps board second (runAll lamps board first led).2).1,
        (runAll lamps board second (runAll lamps board first led).2).2) := by
  induction first generalizing led with
  | nil => rfl
  | cons operation rest ih => simp [runAll, ih]

end HandleOp

end LedKit
