/-!
# LED slots

A board has three places for an LED. Outside numbers name them from zero; every other number names
no slot.
-/

namespace LedKit

/-- A place for an LED in a board's table. -/
inductive Slot where
  | led1
  | led2
  | led3
  deriving DecidableEq

namespace Slot

/-- Every slot, in table order. -/
def all : List Slot := [led1, led2, led3]

@[simp] theorem mem_all (slot : Slot) : slot ∈ all := by cases slot <;> decide

/-- The position of the slot in a board's table. -/
def index : Slot → Nat
  | led1 => 0
  | led2 => 1
  | led3 => 2

/-- The slot that a number from outside names, if it names one. -/
def ofNumber? (number : Int) : Option Slot := all.find? (·.index = number)

@[simp] theorem ofNumber?_index (slot : Slot) : ofNumber? slot.index = some slot := by
  cases slot <;> rfl

theorem ofNumber?_eq_some_iff {number : Int} {slot : Slot} :
    ofNumber? number = some slot ↔ number = slot.index := by
  constructor
  · intro named
    have found := List.find?_some named
    exact (of_decide_eq_true found).symm
  · rintro rfl
    exact ofNumber?_index slot

/-- Only the numbers below the count of slots name one. -/
theorem ofNumber?_eq_none_iff {number : Int} :
    ofNumber? number = none ↔ number < 0 ∨ (all.length : Int) ≤ number := by
  have count : (all.length : Int) = 3 := rfl
  rw [Option.eq_none_iff_forall_ne_some, count]
  constructor
  · intro unnamed
    have first := mt ofNumber?_eq_some_iff.mpr (unnamed led1)
    have second := mt ofNumber?_eq_some_iff.mpr (unnamed led2)
    have third := mt ofNumber?_eq_some_iff.mpr (unnamed led3)
    simp only [index] at first second third
    omega
  · intro outside slot named
    rw [ofNumber?_eq_some_iff] at named
    cases slot <;> simp only [index] at named <;> omega

def name : Slot → String
  | led1 => "Led1"
  | led2 => "Led2"
  | led3 => "Led3"

/-- The name of what may be no slot at all. -/
def nameOf : Option Slot → String
  | none => "None"
  | some slot => slot.name

/-- What the names stand for, no slot first. -/
def choices : List (Option Slot) := none :: all.map some

@[simp] theorem mem_choices (slot : Option Slot) : slot ∈ choices := by
  rcases slot with _ | slot
  · exact List.mem_cons_self
  · exact List.mem_cons_of_mem none (List.mem_map_of_mem (mem_all slot))

/-- The slot, or the lack of one, that a name stands for. -/
def ofName? (name : String) : Option (Option Slot) := choices.find? (nameOf · = name)

@[simp] theorem ofName?_nameOf (slot : Option Slot) : ofName? (nameOf slot) = some slot := by
  rcases slot with _ | slot
  · decide +kernel
  · cases slot <;> decide +kernel

end Slot

end LedKit
