import LedKit.Proofs.Session.Calls

/-!
# Shifts and look-ups that could fail

A shift by as many bits as the word has, or a look-up past the end of a table, stops the program.
Here every call of LEDs on pins runs with shifts and look-ups that fail in those cases, and none of
them does: whatever the numbers of the descriptor are, the call gives the result of the plain one.
-/

namespace LedKit

/-- A shift to the left, which fails when nothing of the word would be left. -/
def shiftLeft? {width : Nat} (word : BitVec width) (count : Nat) : Option (BitVec width) :=
  if count < width then some (word <<< count) else none

theorem shiftLeft?_eq_some {width : Nat} (word : BitVec width) {count : Nat}
    (inside : count < width) : shiftLeft? word count = some (word <<< count) := if_pos inside

/-- The member of a family at the number of its bank, which fails beyond the last bank. -/
def PerBank.look? {α : Type} (family : PerBank α) (number : UInt8) : Option α :=
  family.toList[number.toNat]?

/-- Every number of a bank is inside the tables. -/
theorem PerBank.look?_number {α : Type} (family : PerBank α) (bank : Bank) :
    family.look? bank.number = some (family.get bank) := by
  cases bank <;> rfl

/-- The mask of one pin. The shift is not reached for a pin number beyond the last pin. -/
def pinMask? (pin : UInt16) : Option Mask :=
  if pin > 15 then some 0 else shiftLeft? 1#16 pin.toNat

theorem pinMask?_eq (pin : UInt16) : pinMask? pin = some (pinMask pin) := by
  unfold pinMask? pinMask
  split
  · rfl
  · next inside =>
      have low : pin.toNat ≤ 15 := UInt16.le_iff_toNat_le.mp (UInt16.not_lt.mp inside)
      exact shiftLeft?_eq_some _ (Nat.lt_succ_of_le low)

/-- The bank and mask of a descriptor, where the mask may fail. -/
def Descriptor.resolve? : Option Descriptor → Option (Option (Bank × Mask))
  | none => some none
  | some descriptor =>
    match Bank.ofNumber? descriptor.bank with
    | none => some none
    | some bank => (pinMask? descriptor.pin).map fun mask => some (bank, mask)

theorem Descriptor.resolve?_eq (descriptor : Option Descriptor) :
    resolve? descriptor = some (resolve descriptor) := by
  cases descriptor with
  | none => rfl
  | some descriptor =>
      rw [resolve?, resolve_some]
      cases Bank.ofNumber? descriptor.bank with
      | none => rfl
      | some bank => exact congrArg (·.map fun mask => some (bank, mask)) (pinMask?_eq _)

namespace Register

/-- The command that drives the pins of a mask, where its shift may fail. -/
def drive? (level : Level) (mask : Mask) : Option Word :=
  match level with
  | .high => some (mask.setWidth 32)
  | .low => shiftLeft? (mask.setWidth 32) 16

/-- The command that inverts the pins of a mask, where its shift may fail. -/
def invert? (output : Word) (mask : Mask) : Option Word :=
  let pins := output &&& 0xFFFF
  (shiftLeft? (pins &&& mask.setWidth 32) 16).map (· ||| (~~~pins &&& mask.setWidth 32))

theorem drive?_eq (level : Level) (mask : Mask) : drive? level mask = some (drive level mask) := by
  cases level with
  | low => exact shiftLeft?_eq_some _ (by decide)
  | high => rfl

theorem invert?_eq (output : Word) (mask : Mask) :
    invert? output mask = some (invert output mask) := by
  rw [invert?, shiftLeft?_eq_some _ (by decide)]
  rfl

end Register

/-- Access to the pins of a bank that may fail. -/
structure CheckedDriver (σ : Type) where
  write : Bank → Mask → Level → σ → Option σ
  toggle : Bank → Mask → σ → Option σ
  read : Bank → Mask → σ → Option (Level × σ)

/-- No access fails, and each does what the plain one does. -/
structure CheckedDriver.Total {σ : Type} (checked : CheckedDriver σ) (driver : PinDriver σ) :
    Prop where
  write : ∀ bank mask level state,
    checked.write bank mask level state = some (driver.write bank mask level state)
  toggle : ∀ bank mask state, checked.toggle bank mask state = some (driver.toggle bank mask state)
  read : ∀ bank mask state, checked.read bank mask state = some (driver.read bank mask state)

namespace CheckedDriver

variable {σ : Type}

/-- A call that accesses the pins of a bank. -/
def access? (checked : CheckedDriver σ) (bank : Bank) (mask : Mask) (state : σ) :
    LedCall → Option (Option Bool × σ)
  | .set _ lit => (checked.write bank mask (.ofBool lit) state).map fun after => (none, after)
  | .toggle _ => (checked.toggle bank mask state).map fun after => (none, after)
  | .get _ => (checked.read bank mask state).map fun read => (some read.1.isHigh, read.2)

/-- A call of LEDs on pins, where its mask and its access may fail. -/
def serve? (checked : CheckedDriver σ) (state : σ) (call : LedCall) : Option (Option Bool × σ) :=
  (Descriptor.resolve? call.descriptor).bind fun
    | none => some (call.darkAnswer, state)
    | some (bank, mask) => checked.access? bank mask state call

namespace Total

variable {checked : CheckedDriver σ} {driver : PinDriver σ}

theorem access?_eq (total : Total checked driver) (bank : Bank) (mask : Mask) (state : σ)
    (call : LedCall) : checked.access? bank mask state call =
      some (driver.answer bank mask state call, driver.access bank mask state call) := by
  cases call with
  | set descriptor lit => rw [access?, total.write]; rfl
  | toggle descriptor => rw [access?, total.toggle]; rfl
  | get descriptor => rw [access?, total.read]; rfl

/-- No call of LEDs fails when no access to the pins does. -/
theorem serve?_eq (total : Total checked driver) (state : σ) (call : LedCall) :
    checked.serve? state call = some (driver.leds.serve state call) := by
  rw [serve?, Descriptor.resolve?_eq, Option.bind_some]
  cases resolved : Descriptor.resolve call.descriptor with
  | none => rw [PinDriver.serve_eq_of_none resolved]
  | some place =>
      rw [PinDriver.serve_eq_of_some resolved]
      exact total.access?_eq place.1 place.2 state call

end Total

end CheckedDriver

namespace Bench

/-- The registers, with shifts and look-ups that may fail. -/
def checkedRegisters : CheckedDriver Bench where
  write bank mask level bench := do
    let word ← bench.output.look? bank.number
    let command ← Register.drive? level mask
    some ((bench.record (.commanded bank command)).setOutput bank (Register.obey word command))
  toggle bank mask bench := do
    let word ← bench.output.look? bank.number
    let command ← Register.invert? word mask
    some (((bench.record (.outputRead bank word)).record (.commanded bank command)).setOutput bank
      (Register.obey word command))
  read bank mask bench := do
    let forced ← bench.forced.look? bank.number
    let word ← bench.output.look? bank.number
    let seen := forced.getD word
    some (Register.levelOf seen mask, bench.record (.inputRead bank seen))

/-- The recorder, with look-ups that may fail. -/
def checkedRecorder : CheckedDriver Bench where
  write bank mask level bench := do
    let word ← bench.output.look? bank.number
    let after := match level with
      | .high => word ||| mask.setWidth 32
      | .low => word &&& ~~~mask.setWidth 32
    some ((bench.record (.pinsWritten bank mask level)).setOutput bank after)
  toggle bank mask bench := do
    let word ← bench.output.look? bank.number
    some ((bench.record (.pinsToggled bank mask)).setOutput bank (word ^^^ mask.setWidth 32))
  read bank mask bench := do
    let word ← bench.output.look? bank.number
    let (high, after) := (bench.record (.pinsRead bank mask)).answer
      (word &&& mask.setWidth 32 != 0)
    some (.ofBool high, after)

theorem checkedRegisters_total : CheckedDriver.Total checkedRegisters registers := by
  constructor
  case write =>
    intro bank mask level bench
    simp only [checkedRegisters, PerBank.look?_number, Register.drive?_eq, Option.bind_eq_bind,
      Option.bind_some]
    rfl
  case toggle =>
    intro bank mask bench
    simp only [checkedRegisters, PerBank.look?_number, Register.invert?_eq, Option.bind_eq_bind,
      Option.bind_some]
    rfl
  case read =>
    intro bank mask bench
    simp only [checkedRegisters, PerBank.look?_number, Option.bind_eq_bind, Option.bind_some]
    rfl

theorem checkedRecorder_total : CheckedDriver.Total checkedRecorder recorder := by
  constructor
  case write =>
    intro bank mask level bench
    simp only [checkedRecorder, PerBank.look?_number, Option.bind_eq_bind, Option.bind_some]
    rfl
  case toggle =>
    intro bank mask bench
    simp only [checkedRecorder, PerBank.look?_number, Option.bind_eq_bind, Option.bind_some]
    rfl
  case read =>
    intro bank mask bench
    simp only [checkedRecorder, PerBank.look?_number, Option.bind_eq_bind, Option.bind_some]
    rfl

end Bench

end LedKit
