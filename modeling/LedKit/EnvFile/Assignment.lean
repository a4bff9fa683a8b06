import LedKit.EnvFile.Value
import LedKit.Text.Blank

/-!
# Assignments

A line of a settings file is blank, a comment, or an assignment: a key, an equals sign and a value,
perhaps after the word `export`.
-/

namespace LedKit.EnvFile

open LedKit.Text

/-- What a line says about a key. -/
structure Assignment where
  key : List Char
  value : Value
  deriving DecidableEq

namespace Assignment

/-- The setting that an assignment makes in an environment. -/
def setting (assignment : Assignment) (environment : Environment) : Setting :=
  ⟨assignment.key, assignment.value.expand environment⟩

def isKeyStart (character : Char) : Bool := character.isAlpha || character = '_'

def isKeyPart (character : Char) : Bool :=
  character.isAlphanum || character = '_' || character = '.'

/-- The key that a text begins with, and the rest after blanks. -/
def takeKey? (text : List Char) : Option (List Char × List Char) :=
  match text with
  | [] => none
  | first :: _ =>
    if isKeyStart first then some (text.takeWhile isKeyPart, trimStart (text.dropWhile isKeyPart))
    else none

/-- What follows the equals sign that a text begins with. -/
def dropEquals? : List Char → Option (List Char)
  | '=' :: rest => some rest
  | _ => none

/-- There is nothing before a comment. -/
def isVoid (text : List Char) : Bool := text.head?.all (· = '#')

/-- The assignment to a key of what follows its equals sign. -/
def ofKey (key text : List Char) : Except BadLine (Option Assignment) :=
  let text := trimStart text
  if isVoid text then .ok (some ⟨key, []⟩)
  else
    match Value.read text with
    | .error bad => .error bad
    | .ok value => .ok (some ⟨key, value⟩)

/-- The assignment on a line, if there is one. -/
def ofLine (line : List Char) : Except BadLine (Option Assignment) :=
  let whole := trimEnd line
  let start := trimStart whole
  let badAt (rest : List Char) : Except BadLine (Option Assignment) :=
    .error ⟨line, byteCount whole - byteCount rest⟩
  if isVoid start then .ok none
  else
    match takeKey? start with
    | none => badAt start
    | some (key, rest) =>
      match dropEquals? rest with
      | some text => ofKey key text
      | none =>
        if key = "export".toList then
          match takeKey? rest with
          | none => badAt rest
          | some (key, rest) =>
            match dropEquals? rest with
            | some text => ofKey key text
            | none => badAt rest
        else badAt rest

end Assignment

end LedKit.EnvFile
