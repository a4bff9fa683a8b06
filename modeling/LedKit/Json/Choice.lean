import LedKit.Json.Value

/-!
# Choices by name

A choice is written as the name of what was chosen. It may also be given as an object with that
name as its one key and `null` as its value. The name is looked up before anything after it is
looked at, and where it should stand nothing else is taken for a value.
-/

namespace LedKit.Json

variable {α : Type}

/-- What a name that was read stands for. -/
def lookUp (ofName? : String → Option α) (name : List Char) : Except Fault α :=
  match ofName? (String.ofList name) with
  | none => .error .unknownName
  | some chosen => .ok chosen

/-- The text after the value `null`. -/
def expectNull (text : List Char) : Except Fault (List Char) :=
  let solid := dropBlanks text
  match dropWord? "null".toList solid with
  | some rest => .ok rest
  | none => .error (mismatch solid)

/-- Read a name, and look it up. -/
def readName (ofName? : String → Option α) (text : List Char) :
    Except Fault (α × List Char) := do
  let (name, rest) ← readText text
  let chosen ← lookUp ofName? name
  return (chosen, rest)

/-- Read a choice. -/
def readChoice (ofName? : String → Option α) (text : List Char) :
    Except Fault (α × List Char) :=
  match dropBlanks text with
  | '"' :: rest => readName ofName? ('"' :: rest)
  | '{' :: rest => do
    let (chosen, rest) ← readName ofName? rest
    let rest ← expect [':'] rest
    let rest ← expectNull rest
    let rest ← expect ['}'] rest
    return (chosen, rest)
  | _ => .error .malformed

end LedKit.Json
