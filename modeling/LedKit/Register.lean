import LedKit.Descriptor
import LedKit.Level

/-!
# Output registers

Each bank has an output register, whose low half holds one bit for each pin, and an input register
with the levels seen at the pins. The output register is changed through a command word: its low
half names pins to set and its high half names pins to clear, so that one write changes the pins
it names and no other.
-/

namespace LedKit

/-- The content of a register. -/
abbrev Word := BitVec 32

namespace Register

/-- The command that drives the pins of a mask to a level. -/
def drive (level : Level) (mask : Mask) : Word :=
  match level with
  | .high => mask.setWidth 32
  | .low => mask.setWidth 32 <<< 16

/-- The command that inverts the pins of a mask, given what the output register held: clear those
that were high and set those that were low. -/
def invert (output : Word) (mask : Mask) : Word :=
  let pins := output &&& 0xFFFF
  ((pins &&& mask.setWidth 32) <<< 16) ||| (~~~pins &&& mask.setWidth 32)

/-- The output register after a command. -/
def obey (output command : Word) : Word :=
  (output &&& ~~~(command >>> 16)) ||| (command &&& 0xFFFF)

/-- The level read through a mask is high when one of its pins is. -/
def levelOf (input : Word) (mask : Mask) : Level := Level.ofBool (input &&& mask.setWidth 32 != 0)

theorem getLsbD_lowHalf (index : Nat) : (0xFFFF : Word).getLsbD index = decide (index < 16) := by
  have low : (0xFFFF : Word) = (BitVec.allOnes 16).setWidth 32 := by decide
  rw [low, BitVec.getLsbD_setWidth, BitVec.getLsbD_allOnes]
  by_cases inside : index < 16
  · have wide : index < 32 := by omega
    simp [inside, wide]
  · simp [inside]

/-- A command sets what its low half names, clears what only its high half names, and leaves
everything else. -/
theorem getLsbD_obey (output command : Word) (index : Nat) :
    (obey output command).getLsbD index =
      ((output.getLsbD index && !command.getLsbD (16 + index)) ||
        (command.getLsbD index && decide (index < 16))) := by
  simp only [obey, BitVec.getLsbD_or, BitVec.getLsbD_and, BitVec.getLsbD_not,
    BitVec.getLsbD_ushiftRight, getLsbD_lowHalf]
  by_cases wide : index < 32
  · simp only [wide, decide_true, Bool.true_and]
  · rw [BitVec.getLsbD_of_ge output index (Nat.le_of_not_lt wide), Bool.false_and, Bool.false_and]

/-- No command reaches the high half of an output register. -/
theorem getLsbD_obey_of_le (output command : Word) {index : Nat} (high : 16 ≤ index) :
    (obey output command).getLsbD index = output.getLsbD index := by
  have beyond : command.getLsbD (16 + index) = false :=
    BitVec.getLsbD_of_ge command (16 + index) (by omega)
  rw [getLsbD_obey, beyond, decide_eq_false (by omega)]
  simp

theorem getLsbD_drive (level : Level) (mask : Mask) (index : Nat) :
    (drive level mask).getLsbD index =
      match level with
      | .high => mask.getLsbD index
      | .low => decide (16 ≤ index) && mask.getLsbD (index - 16) := by
  cases level with
  | low =>
    simp only [drive, BitVec.getLsbD_shiftLeft, BitVec.getLsbD_setWidth]
    cases selected : mask.getLsbD (index - 16) with
    | false => simp
    | true =>
      have inside := BitVec.lt_of_getLsbD selected
      have wide : index < 32 := by omega
      have near : index - 16 < 32 := by omega
      by_cases low : index < 16 <;> simp [wide, near, low, Nat.le_of_not_lt]
  | high =>
    simp only [drive, BitVec.getLsbD_setWidth]
    cases selected : mask.getLsbD index with
    | false => simp
    | true =>
      have inside := BitVec.lt_of_getLsbD selected
      have wide : index < 32 := by omega
      simp [wide]

/-- Driving pins high sets their bits. -/
theorem obey_drive_high (output : Word) (mask : Mask) :
    obey output (drive .high mask) = output ||| mask.setWidth 32 := by
  apply BitVec.eq_of_getLsbD_eq
  intro index inside
  have beyond : mask.getLsbD (16 + index) = false :=
    BitVec.getLsbD_of_ge mask (16 + index) (Nat.le_add_right 16 index)
  simp only [getLsbD_obey, getLsbD_drive, BitVec.getLsbD_or, BitVec.getLsbD_setWidth, beyond]
  by_cases low : index < 16
  · simp [inside, low]
  · simp [BitVec.getLsbD_of_ge mask index (Nat.le_of_not_lt low)]

/-- Driving pins low clears their bits. -/
theorem obey_drive_low (output : Word) (mask : Mask) :
    obey output (drive .low mask) = output &&& ~~~mask.setWidth 32 := by
  apply BitVec.eq_of_getLsbD_eq
  intro index inside
  simp only [getLsbD_obey, getLsbD_drive, BitVec.getLsbD_and, BitVec.getLsbD_not,
    BitVec.getLsbD_setWidth, Nat.add_sub_cancel_left]
  by_cases low : index < 16 <;> simp [inside, low, Nat.not_le_of_lt]

theorem getLsbD_invert (output : Word) (mask : Mask) (index : Nat) :
    (invert output mask).getLsbD index =
      if index < 16 then !output.getLsbD index && mask.getLsbD index
      else output.getLsbD (index - 16) && mask.getLsbD (index - 16) := by
  simp only [invert, BitVec.getLsbD_or, BitVec.getLsbD_and, BitVec.getLsbD_not,
    BitVec.getLsbD_shiftLeft, BitVec.getLsbD_setWidth, getLsbD_lowHalf]
  by_cases low : index < 16
  · have wide : index < 32 := by omega
    simp [low, wide]
  · rw [if_neg low, BitVec.getLsbD_of_ge mask index (Nat.le_of_not_lt low)]
    cases selected : mask.getLsbD (index - 16) with
    | false => simp
    | true =>
      have inside := BitVec.lt_of_getLsbD selected
      have wide : index < 32 := by omega
      have near : index - 16 < 32 := by omega
      simp [low, inside, wide, near]

/-- Inverting what the register holds flips the bits of the mask. -/
theorem obey_invert (output : Word) (mask : Mask) :
    obey output (invert output mask) = output ^^^ mask.setWidth 32 := by
  apply BitVec.eq_of_getLsbD_eq
  intro index inside
  have beyond : ¬16 + index < 16 := by omega
  simp only [getLsbD_obey, getLsbD_invert, BitVec.getLsbD_xor, BitVec.getLsbD_setWidth,
    if_neg beyond, Nat.add_sub_cancel_left]
  by_cases low : index < 16
  · rw [if_pos low, decide_eq_true low, decide_eq_true inside]
    cases output.getLsbD index <;> cases mask.getLsbD index <;> rfl
  · simp [low, BitVec.getLsbD_of_ge mask index (Nat.le_of_not_lt low)]

/-- A pin of the mask takes the level that it is driven to, any other keeps its own. -/
theorem getLsbD_obey_drive (output : Word) (level : Level) (mask : Mask) {index : Nat}
    (inside : index < 16) :
    (obey output (drive level mask)).getLsbD index =
      if mask.getLsbD index = true then level.isHigh else output.getLsbD index := by
  have wide : index < 32 := by omega
  cases level with
  | low =>
    rw [obey_drive_low, BitVec.getLsbD_and, BitVec.getLsbD_not, BitVec.getLsbD_setWidth]
    cases mask.getLsbD index <;> simp [wide, Level.isHigh]
  | high =>
    rw [obey_drive_high, BitVec.getLsbD_or, BitVec.getLsbD_setWidth]
    cases mask.getLsbD index <;> simp [wide, Level.isHigh]

/-- A pin of the mask is inverted, any other keeps its level. -/
theorem getLsbD_obey_invert (output : Word) (mask : Mask) {index : Nat} (inside : index < 16) :
    (obey output (invert output mask)).getLsbD index =
      if mask.getLsbD index = true then !output.getLsbD index else output.getLsbD index := by
  have wide : index < 32 := by omega
  rw [obey_invert, BitVec.getLsbD_xor, BitVec.getLsbD_setWidth]
  cases mask.getLsbD index <;> simp [wide]

/-- A read is high exactly when a pin of the mask is high. -/
theorem levelOf_eq_high_iff {input : Word} {mask : Mask} :
    levelOf input mask = .high ↔
      ∃ index, mask.getLsbD index = true ∧ input.getLsbD index = true := by
  have levels : levelOf input mask = .high ↔ input &&& mask.setWidth 32 ≠ 0 := by
    by_cases none : input &&& mask.setWidth 32 = 0 <;> simp [levelOf, Level.ofBool, none]
  rw [levels]
  constructor
  · intro some
    refine Classical.byContradiction fun absent => some ?_
    apply BitVec.eq_of_getLsbD_eq
    intro index inside
    rw [BitVec.getLsbD_and, BitVec.getLsbD_setWidth, decide_eq_true inside, Bool.true_and]
    cases selected : mask.getLsbD index with
    | false => simp
    | true =>
      cases driven : input.getLsbD index with
      | false => simp
      | true => exact absurd ⟨index, selected, driven⟩ absent
  · rintro ⟨index, selected, driven⟩ empty
    have bit := congrArg (·.getLsbD index) empty
    have inside : index < 16 := BitVec.lt_of_getLsbD selected
    simp [selected, driven] at bit
    omega

/-- Only the low half of an input register is read. -/
theorem levelOf_congr {input other : Word} (mask : Mask)
    (same : ∀ index < 16, input.getLsbD index = other.getLsbD index) :
    levelOf input mask = levelOf other mask := by
  have pins : input &&& mask.setWidth 32 = other &&& mask.setWidth 32 := by
    apply BitVec.eq_of_getLsbD_eq
    intro index inside
    simp only [BitVec.getLsbD_and, BitVec.getLsbD_setWidth]
    by_cases low : index < 16
    · rw [same index low]
    · simp [BitVec.getLsbD_of_ge mask index (by omega)]
  rw [levelOf, levelOf, pins]

end Register

end LedKit
