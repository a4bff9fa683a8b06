/-!
# LED states and pin levels

An LED is off or on and a pin is low or high. LEDs are wired active high, so on is high.
-/

namespace LedKit

/-- Whether an LED gives light. An LED is off until something turns it on. -/
inductive LedState where
  | off
  | on
  deriving DecidableEq, Inhabited

namespace LedState

def ofBool (lit : Bool) : LedState := if lit then on else off

def isOn : LedState → Bool
  | off => false
  | on => true

def name : LedState → String
  | off => "Off"
  | on => "On"

@[simp] theorem isOn_ofBool (lit : Bool) : (ofBool lit).isOn = lit := by cases lit <;> rfl

@[simp] theorem ofBool_isOn (state : LedState) : ofBool state.isOn = state := by cases state <;> rfl

/-- The states, the resting state first. -/
def all : List LedState := [off, on]

def ofName? (name : String) : Option LedState := all.find? (·.name = name)

@[simp] theorem ofName?_name (state : LedState) : ofName? state.name = some state := by
  cases state <;> decide +kernel

end LedState

/-- The electrical level of a pin. -/
inductive Level where
  | low
  | high
  deriving DecidableEq, Inhabited

namespace Level

def ofBool (driven : Bool) : Level := if driven then high else low

def isHigh : Level → Bool
  | low => false
  | high => true

def name : Level → String
  | low => "Low"
  | high => "High"

@[simp] theorem isHigh_ofBool (driven : Bool) : (ofBool driven).isHigh = driven := by
  cases driven <;> rfl

@[simp] theorem ofBool_isHigh (level : Level) : ofBool level.isHigh = level := by
  cases level <;> rfl

end Level

end LedKit
