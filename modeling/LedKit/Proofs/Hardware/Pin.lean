import LedKit.Bench
import LedKit.Proofs.Hardware.Agreement

/-!
# One pin of the registers

Each pin has one bit in the output register of its bank. An access to the registers drives that bit
to a level, inverts it or leaves it alone, and its mask or descriptor alone decides which. A read
with the descriptor of a pin shows the bit of that pin in the input register.
-/

namespace LedKit

/-- A descriptor resolves when its bank is there, to that bank and the mask of its pin. -/
theorem Descriptor.resolve_eq_some_iff {descriptor : Option Descriptor} {bank : Bank}
    {mask : Mask} :
    resolve descriptor = some (bank, mask) ↔
      ∃ given, descriptor = some given ∧ bank.number = given.bank ∧ mask = pinMask given.pin := by
  cases descriptor with
  | none => simp
  | some given =>
      rw [resolve_some, Option.map_eq_some_iff]
      constructor
      · rintro ⟨found, known, same⟩
        obtain ⟨rfl, rfl⟩ := Prod.mk.inj same
        exact ⟨given, rfl, (Bank.ofNumber?_eq_some_iff.mp known).symm, rfl⟩
      · rintro ⟨_, ⟨rfl⟩, known, rfl⟩
        exact ⟨bank, Bank.ofNumber?_eq_some_iff.mpr known.symm, rfl⟩

/-- A descriptor resolves to nothing without a descriptor or with a bank that is not there. -/
theorem Descriptor.resolve_eq_none_iff {descriptor : Option Descriptor} :
    resolve descriptor = none ↔ ∀ given, descriptor = some given → 3 < given.bank := by
  cases descriptor with
  | none => simp
  | some given => simp [resolve_some, Bank.ofNumber?_eq_none_iff]

/-- What an access does to a pin that it touches. -/
inductive Touch where
  | drive (high : Bool)
  | invert
  deriving DecidableEq

namespace Touch

/-- The level of a pin after a touch. -/
def apply (high : Bool) : Touch → Bool
  | drive driven => driven
  | invert => !high

/-- The level of a pin after touches, one after another. -/
def settle (high : Bool) (touches : List Touch) : Bool := touches.foldl apply high

theorem settle_append (high : Bool) (first second : List Touch) :
    settle high (first ++ second) = settle (settle high first) second := List.foldl_append

end Touch

/-- A pin that is there. -/
structure Pin where
  bank : Bank
  number : Fin 16
  deriving DecidableEq

namespace Pin

/-- The descriptor with the numbers of the pin. -/
def descriptor (pin : Pin) : Descriptor := ⟨pin.bank.number, UInt16.ofNat pin.number⟩

/-- The bit of the pin in the output register of its bank. -/
def level (pin : Pin) (output : PerBank Word) : Bool := (output.get pin.bank).getLsbD pin.number

/-- The touches of a pin by an access to the pins of a mask. -/
def touchedIn (pin : Pin) (bank : Bank) (mask : Mask) (touch : Touch) : List Touch :=
  if bank = pin.bank ∧ mask.getLsbD pin.number = true then [touch] else []

/-- The touches of a pin by an access with a descriptor. -/
def touchedBy (pin : Pin) (descriptor : Option Descriptor) (touch : Touch) : List Touch :=
  if descriptor = some pin.descriptor then [touch] else []

theorem toNat_number (pin : Pin) : (UInt16.ofNat pin.number).toNat = pin.number := by
  have inside := pin.number.isLt
  rw [UInt16.toNat_ofNat']
  omega

/-- A descriptor is that of the pin exactly when its mask selects the pin. -/
theorem eq_descriptor_iff {pin : Pin} {descriptor : Descriptor} {bank : Bank}
    (known : Bank.ofNumber? descriptor.bank = some bank) :
    descriptor = pin.descriptor ↔
      bank = pin.bank ∧ (pinMask descriptor.pin).getLsbD pin.number = true := by
  have selected : (pinMask descriptor.pin).getLsbD pin.number = true ↔
      descriptor.pin.toNat = pin.number := by
    rw [getLsbD_pinMask, decide_eq_true pin.number.isLt, Bool.true_and, decide_eq_true_iff]
  rw [selected]
  constructor
  · rintro rfl
    rw [descriptor, Bank.ofNumber?_number] at known
    exact ⟨(Option.some.inj known).symm, pin.toNat_number⟩
  · rintro ⟨rfl, number⟩
    have sameBank : descriptor.bank = pin.bank.number := Bank.ofNumber?_eq_some_iff.mp known
    have samePin : descriptor.pin = UInt16.ofNat pin.number :=
      UInt16.toNat_inj.mp (number.trans pin.toNat_number.symm)
    rw [Pin.descriptor, ← sameBank, ← samePin]

theorem touchedBy_of_none (pin : Pin) {descriptor : Option Descriptor}
    (unreachable : Descriptor.resolve descriptor = none) (touch : Touch) :
    pin.touchedBy descriptor touch = [] := by
  rw [touchedBy, if_neg]
  rintro rfl
  rw [Descriptor.resolve_some, Pin.descriptor, Bank.ofNumber?_number] at unreachable
  cases unreachable

theorem touchedBy_of_some (pin : Pin) {descriptor : Option Descriptor} {bank : Bank} {mask : Mask}
    (reached : Descriptor.resolve descriptor = some (bank, mask)) (touch : Touch) :
    pin.touchedBy descriptor touch = pin.touchedIn bank mask touch := by
  obtain ⟨given, rfl, known, rfl⟩ := Descriptor.resolve_eq_some_iff.mp reached
  have iff : some given = some pin.descriptor ↔ _ :=
    Option.some_inj.trans (eq_descriptor_iff (Bank.ofNumber?_eq_some_iff.mpr known.symm))
  simp only [touchedBy, touchedIn, iff]

theorem resolve_descriptor (pin : Pin) :
    Descriptor.resolve (some pin.descriptor) =
      some (pin.bank, pinMask (UInt16.ofNat pin.number)) := by
  rw [Descriptor.resolve_some, descriptor, Bank.ofNumber?_number]
  rfl

/-! ## The accesses of the registers -/

variable (pin : Pin) (bench : Bench)

/-- A write drives the pins of its mask and no other. -/
theorem level_write (bank : Bank) (mask : Mask) (wanted : Level) :
    pin.level (Bench.registers.write bank mask wanted bench).output =
      Touch.settle (pin.level bench.output) (pin.touchedIn bank mask (.drive wanted.isHigh)) := by
  rw [level, Bench.output_registers_write, PerBank.get_set, touchedIn]
  by_cases same : pin.bank = bank
  · subst same
    rw [if_pos rfl, Register.getLsbD_obey_drive _ _ _ pin.number.isLt]
    cases mask.getLsbD pin.number <;> simp [Touch.settle, Touch.apply, level]
  · rw [if_neg same, if_neg fun both => same both.1.symm]
    rfl

/-- A toggle inverts the pins of its mask and no other. -/
theorem level_toggle (bank : Bank) (mask : Mask) :
    pin.level (Bench.registers.toggle bank mask bench).output =
      Touch.settle (pin.level bench.output) (pin.touchedIn bank mask .invert) := by
  rw [level, Bench.output_registers_toggle, PerBank.get_set, touchedIn]
  by_cases same : pin.bank = bank
  · subst same
    rw [if_pos rfl, Register.getLsbD_obey_invert _ _ pin.number.isLt]
    cases mask.getLsbD pin.number <;> simp [Touch.settle, Touch.apply, level]
  · rw [if_neg same, if_neg fun both => same both.1.symm]
    rfl

theorem level_leds_set (descriptor : Option Descriptor) (lit : Bool) :
    pin.level (Bench.registers.leds.set descriptor lit bench).output =
      Touch.settle (pin.level bench.output) (pin.touchedBy descriptor (.drive lit)) := by
  cases reached : Descriptor.resolve descriptor with
  | none => rw [PinDriver.leds_set_of_none reached, touchedBy_of_none pin reached]; rfl
  | some place =>
      rw [PinDriver.leds_set_of_some reached, level_write, Level.isHigh_ofBool,
        touchedBy_of_some pin reached]

theorem level_leds_toggle (descriptor : Option Descriptor) :
    pin.level (Bench.registers.leds.toggle descriptor bench).output =
      Touch.settle (pin.level bench.output) (pin.touchedBy descriptor .invert) := by
  cases reached : Descriptor.resolve descriptor with
  | none => rw [PinDriver.leds_toggle_of_none reached, touchedBy_of_none pin reached]; rfl
  | some place =>
      rw [PinDriver.leds_toggle_of_some reached, level_toggle, touchedBy_of_some pin reached]

/-- A read leaves every output register as it was. -/
theorem output_leds_get (descriptor : Option Descriptor) :
    (Bench.registers.leds.get descriptor bench).2.output = bench.output := by
  cases reached : Descriptor.resolve descriptor with
  | none => rw [PinDriver.leds_get_of_none reached]
  | some place => rw [PinDriver.leds_get_of_some reached]; rfl

/-- What a read of the pin shows: the bit of a word forced on the input register of its bank, or
else its level. -/
def shows (forced : Option Word) (high : Bool) : Bool :=
  match forced with
  | some word => word.getLsbD pin.number
  | none => high

/-- A read with the descriptor of the pin shows the pin alone. -/
theorem leds_get_descriptor :
    (Bench.registers.leds.get (some pin.descriptor) bench).1 =
      pin.shows (bench.forced.get pin.bank) (pin.level bench.output) := by
  have selects : ∀ index, (pinMask (UInt16.ofNat pin.number)).getLsbD index = true ↔
      index = pin.number := by
    intro index
    have inside := pin.number.isLt
    rw [getLsbD_pinMask, toNat_number, Bool.and_eq_true, decide_eq_true_iff, decide_eq_true_iff]
    omega
  have shown : (Bench.registers.leds.get (some pin.descriptor) bench).1 =
      (bench.input pin.bank).getLsbD pin.number := by
    rw [PinDriver.leds_get_of_some pin.resolve_descriptor]
    change (Register.levelOf (bench.input pin.bank) _).isHigh = _
    cases high : (bench.input pin.bank).getLsbD pin.number with
    | true => rw [Register.levelOf_eq_high_iff.mpr ⟨pin.number, (selects _).mpr rfl, high⟩]; rfl
    | false =>
        cases read : Register.levelOf (bench.input pin.bank)
            (pinMask (UInt16.ofNat pin.number)) with
        | low => rfl
        | high =>
            obtain ⟨index, selected, driven⟩ := Register.levelOf_eq_high_iff.mp read
            rw [(selects index).mp selected, high] at driven
            cases driven
  rw [shown, Bench.input]
  cases bench.forced.get pin.bank <;> rfl

/-- No access changes the words forced on the input registers. -/
theorem registers_keep_forced (forced : PerBank (Option Word)) :
    PinDriver.Keep Bench.registers fun bench => bench.forced = forced where
  write kept _ _ _ := kept
  toggle kept _ _ := kept
  read kept _ _ := kept

end Pin

end LedKit
