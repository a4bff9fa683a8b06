/-!
# Why a JSON text is refused

A text is read from the left and refused at the first problem: it is not JSON, or it is JSON of
another shape than the one asked for.
-/

namespace LedKit.Json

inductive Fault where
  /-- The text is no JSON text, or goes on after its value. -/
  | malformed
  /-- A name that none of the choices has. -/
  | unknownName
  /-- A value of another type. -/
  | wrongType
  /-- A number out of range. -/
  | outOfRange
  /-- Too few values in a list. -/
  | tooShort
  /-- A member that is needed and not there. -/
  | missingMember
  /-- A member that is there twice. -/
  | repeatedMember
  deriving DecidableEq

def Fault.text : Fault → String
  | malformed => "syntax"
  | unknownName => "unknown variant"
  | wrongType => "invalid type"
  | outOfRange => "invalid value"
  | tooShort => "invalid length"
  | missingMember => "missing field"
  | repeatedMember => "duplicate field"

/-- What a reader gives: a value and the text after it, or why there is none. -/
abbrev Read (α : Type) := Except Fault (α × List Char)

end LedKit.Json
