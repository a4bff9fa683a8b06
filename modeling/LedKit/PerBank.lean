import LedKit.Descriptor

/-!
# One value for each bank

A family of values over the four banks, with reading and writing of one member. A write is seen by
a read of the same bank and by no other read.
-/

namespace LedKit

structure PerBank (α : Type) where
  a : α
  b : α
  c : α
  d : α
  deriving DecidableEq

namespace PerBank

variable {α β : Type}

/-- The same value for every bank. -/
def fill (value : α) : PerBank α := ⟨value, value, value, value⟩

def get (family : PerBank α) : Bank → α
  | .a => family.a
  | .b => family.b
  | .c => family.c
  | .d => family.d

def set (family : PerBank α) (bank : Bank) (value : α) : PerBank α :=
  match bank with
  | .a => { family with a := value }
  | .b => { family with b := value }
  | .c => { family with c := value }
  | .d => { family with d := value }

/-- The values in the order of the banks. -/
def toList (family : PerBank α) : List α := [family.a, family.b, family.c, family.d]

/-- The family of the first four members of a list, filled up with a value. -/
def ofList (values : List α) (filler : α) : PerBank α :=
  ⟨values.getD 0 filler, values.getD 1 filler, values.getD 2 filler, values.getD 3 filler⟩

@[ext] theorem ext_get {first second : PerBank α}
    (same : ∀ bank, first.get bank = second.get bank) : first = second := by
  cases first
  cases second
  simp only [PerBank.mk.injEq]
  exact ⟨same .a, same .b, same .c, same .d⟩

@[simp] theorem get_fill (value : α) (bank : Bank) : (fill value).get bank = value := by
  cases bank <;> rfl

@[simp] theorem get_set_self (family : PerBank α) (bank : Bank) (value : α) :
    (family.set bank value).get bank = value := by cases bank <;> rfl

theorem get_set_of_ne (family : PerBank α) {bank other : Bank} (value : α) (ne : other ≠ bank) :
    (family.set bank value).get other = family.get other := by
  cases bank <;> cases other <;> simp_all [get, set]

theorem get_set (family : PerBank α) (bank other : Bank) (value : α) :
    (family.set bank value).get other = if other = bank then value else family.get other := by
  by_cases same : other = bank
  · rw [if_pos same, same, get_set_self]
  · rw [if_neg same, get_set_of_ne family value same]

@[simp] theorem set_get_self (family : PerBank α) (bank : Bank) :
    family.set bank (family.get bank) = family := by cases bank <;> rfl

end PerBank

end LedKit
