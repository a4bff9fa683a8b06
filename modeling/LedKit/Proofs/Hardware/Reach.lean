import LedKit.Proofs.Hardware.Commands
import LedKit.Proofs.Hardware.Pin

/-!
# The bits that a descriptor reaches

A descriptor that resolves reaches the bits of its mask in one output register; any other reaches
none. An access to the registers changes the bits that its descriptor reaches and no other, and a
read sees those bits alone.
-/

namespace LedKit

/-- A descriptor reaches the bits of its mask in the register of its bank. -/
def Descriptor.reaches (descriptor : Option Descriptor) (bank : Bank) (index : Nat) : Bool :=
  match resolve descriptor with
  | none => false
  | some (reached, mask) => reached = bank && mask.getLsbD index

theorem Descriptor.reaches_of_none {descriptor : Option Descriptor}
    (unreachable : resolve descriptor = none) (bank : Bank) (index : Nat) :
    reaches descriptor bank index = false := by
  rw [reaches, unreachable]

theorem Descriptor.reaches_of_some {descriptor : Option Descriptor} {reached : Bank} {mask : Mask}
    (resolved : resolve descriptor = some (reached, mask)) (bank : Bank) (index : Nat) :
    reaches descriptor bank index = (decide (reached = bank) && mask.getLsbD index) := by
  rw [reaches, resolved]

/-- The descriptor of a pin reaches the bit of the pin. -/
theorem Pin.reaches_descriptor_iff (pin : Pin) {bank : Bank} {index : Nat} :
    Descriptor.reaches (some pin.descriptor) bank index = true ↔
      pin.bank = bank ∧ pin.number = index := by
  rw [Descriptor.reaches_of_some pin.resolve_descriptor, Bool.and_eq_true, decide_eq_true_iff,
    getLsbD_pinMask, toNat_number, Bool.and_eq_true, decide_eq_true_iff, decide_eq_true_iff]
  constructor
  · rintro ⟨bank, _, number⟩
    exact ⟨bank, number⟩
  · rintro ⟨bank, rfl⟩
    exact ⟨bank, pin.number.isLt, rfl⟩

namespace Register

/-- A bit of the mask takes the level that it is driven to; any other, of a pin or not, stays. -/
theorem getLsbD_obey_drive_mask (output : Word) (level : Level) (mask : Mask) (index : Nat) :
    (obey output (drive level mask)).getLsbD index =
      if mask.getLsbD index = true then level.isHigh else output.getLsbD index := by
  by_cases low : index < 16
  · exact getLsbD_obey_drive output level mask low
  · have high := Nat.le_of_not_lt low
    rw [getLsbD_obey_of_le _ _ high, BitVec.getLsbD_of_ge mask index high]
    rfl

/-- A bit of the mask is inverted; any other, of a pin or not, stays. -/
theorem getLsbD_obey_invert_mask (output : Word) (mask : Mask) (index : Nat) :
    (obey output (invert output mask)).getLsbD index =
      if mask.getLsbD index = true then !output.getLsbD index else output.getLsbD index := by
  by_cases low : index < 16
  · exact getLsbD_obey_invert output mask low
  · have high := Nat.le_of_not_lt low
    rw [getLsbD_obey_of_le _ _ high, BitVec.getLsbD_of_ge mask index high]
    rfl

/-- Inverting the pins of a mask, whatever they were taken to be, leaves every other bit. -/
theorem getLsbD_obey_invert_of_not_mask (output word : Word) {mask : Mask} {index : Nat}
    (unselected : mask.getLsbD index = false) :
    (obey output (invert word mask)).getLsbD index = output.getLsbD index := by
  rw [(names_invert word mask).getLsbD_obey, unselected]
  rfl

/-- A read through a mask depends on the pins of the mask alone. -/
theorem levelOf_congr_mask {input other : Word} {mask : Mask}
    (same : ∀ index, mask.getLsbD index = true → input.getLsbD index = other.getLsbD index) :
    levelOf input mask = levelOf other mask := by
  have high : levelOf input mask = .high ↔ levelOf other mask = .high := by
    rw [levelOf_eq_high_iff, levelOf_eq_high_iff]
    constructor
    · rintro ⟨index, selected, driven⟩
      exact ⟨index, selected, same index selected ▸ driven⟩
    · rintro ⟨index, selected, driven⟩
      exact ⟨index, selected, (same index selected).symm ▸ driven⟩
  cases first : levelOf input mask with
  | high => exact (high.mp first).symm
  | low =>
      cases second : levelOf other mask with
      | low => rfl
      | high => rw [high.mpr second] at first; cases first

end Register

namespace Bench

/-- A bit of an output register. -/
def bit (bench : Bench) (bank : Bank) (index : Nat) : Bool := (bench.output.get bank).getLsbD index

/-- Benches with the same bits have the same output registers. -/
theorem output_eq_of_bit_eq {bench other : Bench}
    (same : ∀ bank index, bench.bit bank index = other.bit bank index) :
    bench.output = other.output := by
  apply PerBank.ext_get
  intro bank
  exact BitVec.eq_of_getLsbD_eq fun index _ => same bank index

theorem bit_quiet (bench : Bench) (bank : Bank) (index : Nat) :
    bench.quiet.bit bank index = bench.bit bank index := rfl

theorem bit_congr {bench other : Bench} (same : bench.quiet = other.quiet) (bank : Bank)
    (index : Nat) : bench.bit bank index = other.bit bank index := by
  rw [← bit_quiet bench, same, bit_quiet]

section Accesses

variable (bench : Bench) (descriptor : Option Descriptor) (bank : Bank) (index : Nat)

theorem bit_setOutput (written : Bank) (word : Word) :
    (bench.setOutput written word).bit bank index =
      if bank = written then word.getLsbD index else bench.bit bank index := by
  rw [bit, setOutput, PerBank.get_set]
  split <;> rfl

/-- A write drives the bits that its descriptor reaches. -/
theorem bit_leds_set (lit : Bool) :
    (registers.leds.set descriptor lit bench).bit bank index =
      if Descriptor.reaches descriptor bank index = true then lit else bench.bit bank index := by
  cases resolved : Descriptor.resolve descriptor with
  | none => rw [PinDriver.leds_set_of_none resolved, Descriptor.reaches_of_none resolved]; rfl
  | some place =>
      obtain ⟨reached, mask⟩ := place
      rw [PinDriver.leds_set_of_some resolved, Descriptor.reaches_of_some resolved]
      change (setOutput _ reached _).bit bank index = _
      rw [bit_setOutput]
      by_cases same : bank = reached
      · subst same
        rw [if_pos rfl, Register.getLsbD_obey_drive_mask, Level.isHigh_ofBool, decide_eq_true rfl,
          Bool.true_and]
        rfl
      · rw [if_neg same, decide_eq_false (Ne.symm same)]
        rfl

/-- A write changes nothing but the output registers. -/
theorem quiet_leds_set (lit : Bool) :
    (registers.leds.set descriptor lit bench).quiet =
      { bench.quiet with output := (registers.leds.set descriptor lit bench).output } := by
  cases resolved : Descriptor.resolve descriptor with
  | none => rw [PinDriver.leds_set_of_none resolved]; rfl
  | some place => rw [PinDriver.leds_set_of_some resolved]; rfl

/-- The same write twice does what it does once. -/
theorem quiet_leds_set_set (lit : Bool) :
    (registers.leds.set descriptor lit (registers.leds.set descriptor lit bench)).quiet =
      (registers.leds.set descriptor lit bench).quiet := by
  have output : (registers.leds.set descriptor lit
      (registers.leds.set descriptor lit bench)).output =
        (registers.leds.set descriptor lit bench).output := by
    apply output_eq_of_bit_eq
    intro bank index
    rw [bit_leds_set, bit_leds_set]
    split <;> rfl
  rw [quiet_leds_set, output]
  rfl

/-- A toggle inverts the bits that its descriptor reaches. -/
theorem bit_leds_toggle :
    (registers.leds.toggle descriptor bench).bit bank index =
      if Descriptor.reaches descriptor bank index = true then !bench.bit bank index
      else bench.bit bank index := by
  cases resolved : Descriptor.resolve descriptor with
  | none => rw [PinDriver.leds_toggle_of_none resolved, Descriptor.reaches_of_none resolved]; rfl
  | some place =>
      obtain ⟨reached, mask⟩ := place
      rw [PinDriver.leds_toggle_of_some resolved, Descriptor.reaches_of_some resolved]
      change (setOutput _ reached _).bit bank index = _
      rw [bit_setOutput]
      by_cases same : bank = reached
      · subst same
        rw [if_pos rfl, output_record, Register.getLsbD_obey_invert_mask, decide_eq_true rfl,
          Bool.true_and]
        rfl
      · rw [if_neg same, decide_eq_false (Ne.symm same)]
        rfl

/-- A read leaves every bit as it was. -/
theorem bit_leds_get :
    (registers.leds.get descriptor bench).2.bit bank index = bench.bit bank index := by
  rw [bit, Pin.output_leds_get]
  rfl

end Accesses

/-- A read sees the bits that its descriptor reaches, unless a word is forced on the register. -/
theorem leds_get_congr {bench other : Bench} {descriptor : Option Descriptor}
    (forced : bench.forced = other.forced)
    (same : ∀ bank index, Descriptor.reaches descriptor bank index = true →
      bench.bit bank index = other.bit bank index) :
    (registers.leds.get descriptor bench).1 = (registers.leds.get descriptor other).1 := by
  cases resolved : Descriptor.resolve descriptor with
  | none => rw [PinDriver.leds_get_of_none resolved, PinDriver.leds_get_of_none resolved]
  | some place =>
      obtain ⟨reached, mask⟩ := place
      rw [PinDriver.leds_get_of_some resolved, PinDriver.leds_get_of_some resolved]
      change (Register.levelOf (bench.input reached) mask).isHigh =
        (Register.levelOf (other.input reached) mask).isHigh
      have inputs : ∀ index, mask.getLsbD index = true →
          (bench.input reached).getLsbD index = (other.input reached).getLsbD index := by
        intro index selected
        rw [input, input, forced]
        cases other.forced.get reached with
        | some word => rfl
        | none =>
            apply same
            rw [Descriptor.reaches_of_some resolved, decide_eq_true rfl, selected]
            rfl
      rw [Register.levelOf_congr_mask inputs]

end Bench

end LedKit
