import LedKit.Text.Decimal

/-!
# Pin descriptors

A descriptor gives the pin of an LED as a bank number and a pin number. Both may be out of range:
a number beyond the four banks reaches nothing, and a pin number beyond the sixteen pins reaches
the bank with a mask that selects no pin.
-/

namespace LedKit

/-- A group of sixteen pins with registers of its own. -/
inductive Bank where
  | a
  | b
  | c
  | d
  deriving DecidableEq

namespace Bank

def all : List Bank := [a, b, c, d]

@[simp] theorem mem_all (bank : Bank) : bank ∈ all := by cases bank <;> decide

/-- The number that descriptors use for the bank. -/
def number : Bank → UInt8
  | a => 0
  | b => 1
  | c => 2
  | d => 3

def ofNumber? (number : UInt8) : Option Bank := all.find? (·.number = number)

@[simp] theorem ofNumber?_number (bank : Bank) : ofNumber? bank.number = some bank := by
  cases bank <;> rfl

theorem ofNumber?_eq_some_iff {number : UInt8} {bank : Bank} :
    ofNumber? number = some bank ↔ number = bank.number := by
  constructor
  · intro named
    have found := List.find?_some named
    exact (of_decide_eq_true found).symm
  · rintro rfl
    exact ofNumber?_number bank

/-- Only numbers beyond three belong to no bank. -/
theorem ofNumber?_eq_none_iff {number : UInt8} : ofNumber? number = none ↔ 3 < number := by
  have everyNumber : ∀ value : Fin 256,
      ofNumber? (UInt8.ofFin value) = none ↔ 3 < UInt8.ofFin value := by decide +kernel
  exact everyNumber number.toFin

def name : Bank → String
  | a => "A"
  | b => "B"
  | c => "C"
  | d => "D"

end Bank

/-- The pins of a bank that an access selects, one bit for each pin. -/
abbrev Mask := BitVec 16

/-- The mask of one pin. A pin number beyond the last pin selects no pin. -/
def pinMask (pin : UInt16) : Mask := if pin > 15 then 0 else 1#16 <<< pin.toNat

/-- The mask of a pin selects that pin and no other. -/
theorem getLsbD_pinMask (pin : UInt16) (index : Nat) :
    (pinMask pin).getLsbD index = (decide (index < 16) && decide (pin.toNat = index)) := by
  have bound : pin > 15 ↔ 15 < pin.toNat := UInt16.lt_iff_toNat_lt
  by_cases large : pin > 15
  · have := bound.mp large
    rw [pinMask, if_pos large]
    by_cases inside : index < 16
    · have : pin.toNat ≠ index := by omega
      simp [this]
    · simp [inside]
  · have := mt bound.mpr large
    rw [pinMask, if_neg large]
    simp only [BitVec.getLsbD_shiftLeft, BitVec.getLsbD_one]
    grind

/-- The pin of an LED by numbers that need not exist. -/
structure Descriptor where
  bank : UInt8
  pin : UInt16
  deriving DecidableEq

namespace Descriptor

/-- The descriptor that a table holds where nothing was declared. -/
def zero : Descriptor := ⟨0, 0⟩

/-- The bank and mask that an access through a descriptor uses. Without a descriptor, or without
such a bank, there is nothing to access. -/
def resolve (descriptor : Option Descriptor) : Option (Bank × Mask) :=
  descriptor.bind fun descriptor =>
    (Bank.ofNumber? descriptor.bank).map fun bank => (bank, pinMask descriptor.pin)

@[simp] theorem resolve_none : resolve none = none := rfl

theorem resolve_some (descriptor : Descriptor) :
    resolve (some descriptor) =
      (Bank.ofNumber? descriptor.bank).map fun bank => (bank, pinMask descriptor.pin) := rfl

/-- The descriptor's text, with its fields by name. -/
def text (descriptor : Descriptor) : String :=
  "HwDescriptor \x7b port_index: " ++ Text.decimal descriptor.bank.toNat ++
    ", pin: " ++ Text.decimal descriptor.pin.toNat ++ " \x7d"

/-- The text of what may be no descriptor. -/
def optionText : Option Descriptor → String
  | none => "None"
  | some descriptor => "Some(" ++ descriptor.text ++ ")"

end Descriptor

end LedKit
