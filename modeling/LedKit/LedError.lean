/-!
# Why an LED operation is refused

An operation on an LED handle is refused for one of two reasons: something it needs was not given,
or the handle is not bound to a pin.
-/

namespace LedKit

inductive LedError where
  /-- The descriptor or the place for the answer is absent. -/
  | missingArgument
  /-- The handle is not bound to a pin. -/
  | unbound
  deriving DecidableEq

namespace LedError

/-- Both reasons, an absent argument first. -/
def all : List LedError := [missingArgument, unbound]

def name : LedError → String
  | missingArgument => "InvalidParameter"
  | unbound => "NotInitialized"

def message : LedError → String
  | missingArgument => "invalid parameter"
  | unbound => "LED not initialized"

end LedError

/-- Outcomes of operations can be compared. -/
instance decidableEqExcept {ε α : Type} [DecidableEq ε] [DecidableEq α] : DecidableEq (Except ε α)
  | .ok first, .ok second => decidable_of_iff (first = second) (by simp)
  | .error first, .error second => decidable_of_iff (first = second) (by simp)
  | .ok _, .error _ => isFalse (by simp)
  | .error _, .ok _ => isFalse (by simp)

end LedKit
