import LedKit.EnvFile.Assignment
import LedKit.EnvFile.LogicalLine
import LedKit.Text.Decimal

/-!
# Settings files

A settings file is loaded into the environment from its first line to its last, or to the first
line that is no setting. The settings before such a line count, and a variable that is set already
keeps its text. A reference in a value sees the environment as the lines before it left it.
-/

namespace LedKit.EnvFile

/-- Why there is no settings file to rely on. -/
inductive Failure where
  /-- There is no file. -/
  | missing
  /-- A line of the file is no setting. -/
  | badLine (line : BadLine)
  deriving DecidableEq

def Failure.message : Failure → String
  | missing => "path not found"
  | badLine line =>
    "Error parsing line: '" ++ String.ofList line.text ++ "', error at line index: " ++
      Text.decimal line.position

/-- How the loading of a file ends. -/
inductive Finish where
  | complete
  | failed (failure : Failure)
  /-- A setting cannot be stored. -/
  | unstorable (setting : Setting)
  deriving DecidableEq

/-- The environment that the loading of a file leaves, and how the loading ended. -/
structure Loaded where
  environment : Environment
  finish : Finish
  deriving DecidableEq

/-- Load logical lines in order. -/
def loadLines (environment : Environment) : List LogicalLine → Loaded
  | [] => ⟨environment, .complete⟩
  | .unfinished text :: _ => ⟨environment, .failed (.badLine ⟨text, byteCount text⟩)⟩
  | .complete text :: rest =>
    match Assignment.ofLine text with
    | .error bad => ⟨environment, .failed (.badLine bad)⟩
    | .ok none => loadLines environment rest
    | .ok (some assignment) =>
      let setting := assignment.setting environment
      match environment.store? setting with
      | none => ⟨environment, .unstorable setting⟩
      | some after => loadLines after rest

/-- A text without the mark that some editors put at its beginning. -/
def dropMark : List Char → List Char
  | '\ufeff' :: rest => rest
  | text => text

/-- Load the text of a file. -/
def loadText (environment : Environment) (text : String) : Loaded :=
  loadLines environment (logicalLines (dropMark text.toList))

/-- Load a file that may be missing. -/
def load (environment : Environment) : Option String → Loaded
  | none => ⟨environment, .failed .missing⟩
  | some text => loadText environment text

end LedKit.EnvFile
