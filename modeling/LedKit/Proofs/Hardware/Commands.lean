import LedKit.Register

/-!
# Commands and the pins they name

A command names the pins that it sets in one half and the pins that it clears in the other. When no
pin stands in both halves, the named pins take the level of their half and every other bit keeps
what it holds as the command lands. The commands that drive and invert the pins of a mask name
exactly the mask, whatever the output register held when it was read.
-/

namespace LedKit

namespace Register

/-- The pins that a command sets. -/
def setPins (command : Word) : Mask := command.setWidth 16

/-- The pins that a command clears, those aside that it sets as well. -/
def clearedPins (command : Word) : Mask := (command >>> 16).setWidth 16

/-- A command names each pin of a mask in exactly one half, and no other pin. -/
structure Names (command : Word) (mask : Mask) : Prop where
  disjoint : setPins command &&& clearedPins command = 0
  union : setPins command ||| clearedPins command = mask

theorem getLsbD_setPins (command : Word) {index : Nat} (low : index < 16) :
    (setPins command).getLsbD index = command.getLsbD index := by
  rw [setPins, BitVec.getLsbD_setWidth, decide_eq_true low, Bool.true_and]

theorem getLsbD_clearedPins (command : Word) {index : Nat} (low : index < 16) :
    (clearedPins command).getLsbD index = command.getLsbD (16 + index) := by
  rw [clearedPins, BitVec.getLsbD_setWidth, decide_eq_true low, Bool.true_and,
    BitVec.getLsbD_ushiftRight]

/-- The bits of a command are those of its halves. -/
theorem getLsbD_eq_halves (command : Word) (index : Nat) :
    command.getLsbD index =
      if index < 16 then (setPins command).getLsbD index
      else (clearedPins command).getLsbD (index - 16) := by
  split
  · next low => exact (getLsbD_setPins command low).symm
  · next high =>
      by_cases inside : index - 16 < 16
      · rw [getLsbD_clearedPins command inside, Nat.add_sub_cancel' (Nat.le_of_not_lt high)]
      · rw [BitVec.getLsbD_of_ge command index (by omega),
          BitVec.getLsbD_of_ge (clearedPins command) _ (Nat.le_of_not_lt inside)]

theorem setPins_drive_high (mask : Mask) : setPins (drive .high mask) = mask := by
  apply BitVec.eq_of_getLsbD_eq
  intro index low
  rw [getLsbD_setPins _ low, getLsbD_drive]

theorem clearedPins_drive_high (mask : Mask) : clearedPins (drive .high mask) = 0 := by
  apply BitVec.eq_of_getLsbD_eq
  intro index low
  rw [getLsbD_clearedPins _ low, getLsbD_drive]
  exact (BitVec.getLsbD_of_ge mask _ (Nat.le_add_right 16 index)).trans BitVec.getLsbD_zero.symm

theorem setPins_drive_low (mask : Mask) : setPins (drive .low mask) = 0 := by
  apply BitVec.eq_of_getLsbD_eq
  intro index low
  rw [getLsbD_setPins _ low, getLsbD_drive]
  simp [Nat.not_le_of_lt low]

theorem clearedPins_drive_low (mask : Mask) : clearedPins (drive .low mask) = mask := by
  apply BitVec.eq_of_getLsbD_eq
  intro index low
  rw [getLsbD_clearedPins _ low, getLsbD_drive]
  simp

theorem setPins_invert (output : Word) (mask : Mask) :
    setPins (invert output mask) = ~~~output.setWidth 16 &&& mask := by
  apply BitVec.eq_of_getLsbD_eq
  intro index low
  rw [getLsbD_setPins _ low, getLsbD_invert, if_pos low, BitVec.getLsbD_and, BitVec.getLsbD_not,
    BitVec.getLsbD_setWidth, decide_eq_true low, Bool.true_and, Bool.true_and]

theorem clearedPins_invert (output : Word) (mask : Mask) :
    clearedPins (invert output mask) = output.setWidth 16 &&& mask := by
  apply BitVec.eq_of_getLsbD_eq
  intro index low
  rw [getLsbD_clearedPins _ low, getLsbD_invert, if_neg (by omega), Nat.add_sub_cancel_left,
    BitVec.getLsbD_and, BitVec.getLsbD_setWidth, decide_eq_true low, Bool.true_and]

theorem names_drive (level : Level) (mask : Mask) : Names (drive level mask) mask := by
  cases level with
  | low =>
      constructor
      · rw [setPins_drive_low]
        exact BitVec.zero_and
      · rw [setPins_drive_low, clearedPins_drive_low]
        exact BitVec.zero_or
  | high =>
      constructor
      · rw [clearedPins_drive_high]
        exact BitVec.and_zero
      · rw [setPins_drive_high, clearedPins_drive_high]
        exact BitVec.or_zero

theorem names_invert (output : Word) (mask : Mask) : Names (invert output mask) mask := by
  constructor
  · rw [setPins_invert, clearedPins_invert, BitVec.and_comm (output.setWidth 16) mask,
      ← BitVec.and_assoc, BitVec.and_assoc _ mask mask, BitVec.and_self, BitVec.and_assoc,
      BitVec.and_comm mask, ← BitVec.and_assoc, BitVec.not_and_self]
    exact BitVec.zero_and
  · rw [setPins_invert, clearedPins_invert, ← BitVec.and_or_distrib_right, BitVec.not_or_self]
    exact BitVec.allOnes_and

namespace Names

variable {command : Word} {mask : Mask}

theorem getLsbD_union (names : Names command mask) (index : Nat) :
    ((setPins command).getLsbD index || (clearedPins command).getLsbD index) =
      mask.getLsbD index := by
  rw [← names.union, BitVec.getLsbD_or]

theorem getLsbD_disjoint (names : Names command mask) (index : Nat) :
    ((setPins command).getLsbD index && (clearedPins command).getLsbD index) = false := by
  rw [← BitVec.getLsbD_and, names.disjoint]
  exact BitVec.getLsbD_zero

/-- Wherever a command lands, a named pin takes the level of its half and any other bit stays. -/
theorem getLsbD_obey (names : Names command mask) (output : Word) (index : Nat) :
    (obey output command).getLsbD index =
      if mask.getLsbD index = true then (setPins command).getLsbD index
      else output.getLsbD index := by
  by_cases low : index < 16
  · have union := names.getLsbD_union index
    have disjoint := names.getLsbD_disjoint index
    rw [Register.getLsbD_obey, ← getLsbD_setPins command low, ← getLsbD_clearedPins command low,
      decide_eq_true low, Bool.and_true, ← union]
    cases set : (setPins command).getLsbD index <;>
      cases cleared : (clearedPins command).getLsbD index <;> simp_all
  · have high := Nat.le_of_not_lt low
    rw [getLsbD_obey_of_le _ _ high, BitVec.getLsbD_of_ge mask index high]
    rfl

/-- A command names pins of its mask alone, in one half or the other. -/
theorem mask_of_getLsbD (names : Names command mask) {index : Nat}
    (named : command.getLsbD index = true) : mask.getLsbD (index % 16) = true := by
  rw [getLsbD_eq_halves] at named
  split at named
  · next low =>
      rw [Nat.mod_eq_of_lt low, ← names.getLsbD_union, named, Bool.true_or]
  · next high =>
      have inside : index - 16 < 16 := BitVec.lt_of_getLsbD named
      have place : index % 16 = index - 16 := by omega
      rw [place, ← names.getLsbD_union, named, Bool.or_true]

/-- A command that names no pin is no command at all. -/
theorem eq_zero (names : Names command 0) : command = 0 := by
  apply BitVec.eq_of_getLsbD_eq
  intro index _
  rw [Bool.eq_iff_iff]
  refine ⟨fun named => ?_, fun impossible => ?_⟩
  · exact absurd (names.mask_of_getLsbD named) (by simp)
  · exact absurd impossible (by simp)

/-- A command that names one pin has one bit, which stands for that pin in one half or the other. -/
theorem single {pin : UInt16} (names : Names command (pinMask pin)) (inside : pin ≤ 15) :
    ∃ index, index % 16 = pin.toNat ∧ ∀ other, command.getLsbD other = decide (other = index) := by
  have low : pin.toNat < 16 := Nat.lt_succ_of_le (UInt16.le_iff_toNat_le.mp inside)
  have named : (pinMask pin).getLsbD pin.toNat = true := by
    rw [getLsbD_pinMask, decide_eq_true low, decide_eq_true rfl, Bool.true_and]
  have union := names.getLsbD_union pin.toNat
  have disjoint := names.getLsbD_disjoint pin.toNat
  rw [named, getLsbD_setPins command low, getLsbD_clearedPins command low] at union
  rw [getLsbD_setPins command low, getLsbD_clearedPins command low] at disjoint
  have place : ∀ other, command.getLsbD other = true →
      other = pin.toNat ∨ other = 16 + pin.toNat := by
    intro other bit
    have wide : other < 32 := BitVec.lt_of_getLsbD bit
    have selected := names.mask_of_getLsbD bit
    rw [getLsbD_pinMask, Bool.and_eq_true, decide_eq_true_iff, decide_eq_true_iff] at selected
    omega
  cases set : command.getLsbD pin.toNat with
  | true =>
      refine ⟨pin.toNat, Nat.mod_eq_of_lt low, fun other => ?_⟩
      rw [Bool.eq_iff_iff, decide_eq_true_iff]
      constructor
      · intro bit
        rcases place other bit with same | rfl
        · exact same
        · rw [set, bit] at disjoint
          cases disjoint
      · rintro rfl
        exact set
  | false =>
      refine ⟨16 + pin.toNat, by omega, fun other => ?_⟩
      rw [Bool.eq_iff_iff, decide_eq_true_iff]
      constructor
      · intro bit
        rcases place other bit with rfl | same
        · rw [set] at bit
          cases bit
        · exact same
      · rintro rfl
        rwa [set, Bool.false_or] at union

end Names

end Register

end LedKit
