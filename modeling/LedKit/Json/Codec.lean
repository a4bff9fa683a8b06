import LedKit.Json.Choice
import LedKit.Json.Members
import LedKit.Level
import LedKit.Slot

/-!
# Values as JSON texts

Slots, LED states and descriptors are written as one compact JSON text each. Reading accepts that
text and every other form of the same value, with blanks around its tokens and nothing after it.
-/

namespace LedKit.Json

/-- A way to read and write values of a type. -/
structure Codec (α : Type) where
  read : List Char → Read α
  write : α → String

/-- The value of a text that holds nothing else. -/
def Codec.decode {α : Type} (codec : Codec α) (text : String) : Except Fault α :=
  match codec.read text.toList with
  | .error fault => .error fault
  | .ok (value, rest) => if dropBlanks rest = [] then .ok value else .error .malformed

/-- A name between quotes. The names of choices need no escapes. -/
def quotedName (name : String) : String := "\"" ++ name ++ "\""

/-- A slot, or the lack of one, by name. -/
def slotCodec : Codec (Option Slot) where
  read := readChoice Slot.ofName?
  write slot := quotedName (Slot.nameOf slot)

/-- An LED state by name. -/
def stateCodec : Codec LedState where
  read := readChoice LedState.ofName?
  write state := quotedName state.name

/-- The compact object of a descriptor. -/
def objectText (descriptor : Descriptor) : String :=
  "\x7b\"port_index\":" ++ Text.decimal descriptor.bank.toNat ++ ",\"pin\":" ++
    Text.decimal descriptor.pin.toNat ++ "\x7d"

/-- A descriptor as an object. -/
def descriptorCodec : Codec Descriptor where
  read := readDescriptor
  write := objectText

end LedKit.Json
