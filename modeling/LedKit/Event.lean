import LedKit.Descriptor
import LedKit.LedError
import LedKit.Level
import LedKit.Register
import LedKit.Slot

/-!
# Observable events

Everything that a run does to its surroundings is an event: an access to a register or a pin, a
timer, a line of the log. Each kind of event has one text.
-/

namespace LedKit

/-- What the firmware reports. -/
inductive Message where
  /-- The board has started. -/
  | booted (board : String)
  /-- A slot's LED is bound and blinks with this many milliseconds between steps. -/
  | bound (slot : Slot) (descriptor : Option Descriptor) (interval : Nat)
  /-- The slot's LED could not be bound. -/
  | bindFailed (slot : Slot) (error : LedError)
  /-- The board declares no LED for the slot. -/
  | nothingToBlink (board : String) (slot : Slot)
  /-- A blink step read this state back. -/
  | blinked (state : LedState)
  /-- The LED could not be put into its first state. -/
  | restFailed (error : LedError)
  /-- A blink step was refused. -/
  | toggleFailed (error : LedError)
  deriving DecidableEq

/-- The text of a message with the weight it is logged with. -/
def Message.text : Message → String
  | booted board => "info: Boot: " ++ board
  | bound slot descriptor interval =>
    "info: LED " ++ slot.name ++ " bound to " ++ Descriptor.optionText descriptor ++
      ", blinking every " ++ Text.decimal interval ++ " ms"
  | bindFailed slot error => "error: LED " ++ slot.name ++ ": init failed: " ++ error.name
  | nothingToBlink board slot =>
    "warn: " ++ board ++ " has no " ++ slot.name ++ " - nothing to blink"
  | blinked state => "info: Blink! LED " ++ state.name
  | restFailed error => "error: LED: initial set_state failed: " ++ error.name
  | toggleFailed error => "error: LED: toggle failed: " ++ error.name

/-- One observable step of a run. -/
inductive Event where
  /-- The clocks and banks of the chip are set up. -/
  | powered
  /-- A pin becomes an output that starts at a level. -/
  | configured (bank : Bank) (pin : Nat) (level : Level)
  /-- A task starts beside the running one. -/
  | spawned
  /-- A timer is set for this many milliseconds. -/
  | timer (milliseconds : Nat)
  | logged (message : Message)
  /-- The output register of a bank is read and holds a word. -/
  | outputRead (bank : Bank) (word : Word)
  /-- The input register of a bank is read and shows a word. -/
  | inputRead (bank : Bank) (word : Word)
  /-- A command is written to a bank. -/
  | commanded (bank : Bank) (command : Word)
  | pinsWritten (bank : Bank) (mask : Mask) (level : Level)
  | pinsToggled (bank : Bank) (mask : Mask)
  | pinsRead (bank : Bank) (mask : Mask)
  | lampSet (descriptor : Option Descriptor) (lit : Bool)
  | lampToggled (descriptor : Option Descriptor)
  | lampRead (descriptor : Option Descriptor)
  deriving DecidableEq

namespace Event

def wordText (word : Word) : String := "0x" ++ Text.hexadecimal 8 word.toNat

def maskText (mask : Mask) : String := "0x" ++ Text.hexadecimal 4 mask.toNat

/-- A pin by its two numbers, or the lack of one. -/
def placeText : Option Descriptor → String
  | none => "none"
  | some descriptor =>
    Text.decimal descriptor.bank.toNat ++ "/" ++ Text.decimal descriptor.pin.toNat

def text : Event → String
  | powered => "init"
  | configured bank pin level =>
    "output P" ++ bank.name ++ Text.decimal pin ++ " " ++ level.name ++ " Low"
  | spawned => "spawn"
  | timer milliseconds => "timer " ++ Text.decimal milliseconds
  | logged message => message.text
  | outputRead bank word => "read " ++ bank.name ++ ".ODR " ++ wordText word
  | inputRead bank word => "read " ++ bank.name ++ ".IDR " ++ wordText word
  | commanded bank command => "write " ++ bank.name ++ ".BSRR " ++ wordText command
  | pinsWritten bank mask level =>
    "write_pin " ++ bank.name ++ " " ++ maskText mask ++ " " ++ level.name
  | pinsToggled bank mask => "toggle_pin " ++ bank.name ++ " " ++ maskText mask
  | pinsRead bank mask => "read_pin " ++ bank.name ++ " " ++ maskText mask
  | lampSet descriptor lit => "set_state " ++ placeText descriptor ++ " " ++ toString lit
  | lampToggled descriptor => "toggle " ++ placeText descriptor
  | lampRead descriptor => "get_state " ++ placeText descriptor

end Event

end LedKit
