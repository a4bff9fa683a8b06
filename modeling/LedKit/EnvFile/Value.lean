import LedKit.Environment
import LedKit.Text.Alphanumeric

/-!
# Values

The value of a setting is written with quotes, backslashes and dollar signs. Single quotes keep
everything as it stands, double quotes allow the others, and after an unquoted blank only a comment
may follow. A dollar sign makes the letters and digits after it, or all that stands between braces
after it, the name of a variable; the character that ends a name without braces is taken as it
stands, even a quote.
-/

namespace LedKit.EnvFile

open LedKit.Text

/-- A text that is no setting, with the position where that shows. -/
structure BadLine where
  text : List Char
  position : Nat
  deriving DecidableEq

/-- The bytes that a text takes. -/
def byteCount (text : List Char) : Nat :=
  text.foldl (fun bytes character => bytes + character.utf8Size) 0

/-- A part of a value: a character, or the text of the variable that a name refers to. -/
inductive Piece where
  | literal (character : Char)
  | reference (name : List Char)
  deriving DecidableEq

/-- The text that a piece stands for in an environment. -/
def Piece.expand (environment : Environment) : Piece → List Char
  | literal character => [character]
  | reference name => environment.referent name

/-- A value before its references are looked up. -/
abbrev Value := List Piece

namespace Value

/-- The text that a value stands for in an environment. -/
def expand (value : Value) (environment : Environment) : List Char :=
  value.flatMap (Piece.expand environment)

/-- Without references a value stands for its own characters everywhere. -/
theorem expand_literals (text : List Char) (environment : Environment) :
    expand (text.map .literal) environment = text := by
  induction text with
  | nil => rfl
  | cons character rest ih => exact congrArg (character :: ·) ih

/-- Where a value stands: outside of quotes, after the blank that ends it, between quotes, after a
backslash, in a name after a dollar sign, or in a name between braces. The last three remember
whether double quotes are open, the last two the name so far. -/
inductive Place where
  | bare
  | ended
  | strong
  | weak
  | escaped (quoted : Bool)
  | named (quoted : Bool) (name : List Char)
  | braced (quoted : Bool) (name : List Char)
  deriving DecidableEq

/-- Where a value goes wrong: at one of its characters, or at its end with a quote or brace open. -/
inductive Fault where
  | character (index : Nat)
  | unclosed
  deriving DecidableEq

/-- What a character after a backslash stands for. -/
def escapeOf? (character : Char) : Option Char :=
  if character = 'n' then some '\n'
  else if character ∈ ['\\', '\'', '"', '$', ' '] then some character
  else none

namespace Place

/-- Where a value goes on after an escape or a reference. -/
def resume (quoted : Bool) : Place := if quoted then weak else bare

/-- The effect of one character: what it adds to the value, and where the value stands then. -/
def next? (place : Place) (character : Char) : Option (Value × Place) :=
  match place with
  | bare =>
    if character = '$' then some ([], named false [])
    else if character = '\'' then some ([], strong)
    else if character = '"' then some ([], weak)
    else if character = '\\' then some ([], escaped false)
    else if character = ' ' || character = '\t' then some ([], ended)
    else some ([.literal character], bare)
  | ended => if character = ' ' || character = '\t' then some ([], ended) else none
  | strong => if character = '\'' then some ([], bare) else some ([.literal character], strong)
  | weak =>
    if character = '$' then some ([], named true [])
    else if character = '"' then some ([], bare)
    else if character = '\\' then some ([], escaped true)
    else some ([.literal character], weak)
  | escaped quoted => (escapeOf? character).map fun meant => ([.literal meant], resume quoted)
  | named quoted name =>
    if isAlphanumeric character then some ([], named quoted (name ++ [character]))
    else if character = '{' ∧ name = [] then some ([], braced quoted [])
    else if character = '$' then some ([.reference name], named quoted [])
    else some ([.reference name, .literal character], resume quoted)
  | braced quoted name =>
    if character = '}' then some ([.reference name], resume quoted)
    else some ([], braced quoted (name ++ [character]))

/-- What a value gains when its text ends, or nothing if something is left open. -/
def finish? : Place → Option Value
  | bare | ended | escaped false => some []
  | named false name => some [.reference name]
  | strong | weak | escaped true | named true _ | braced _ _ => none

end Place

/-- Read a value from a place in it. -/
def readFrom (place : Place) (index : Nat) : List Char → Except Fault Value
  | [] =>
    match place.finish? with
    | some added => .ok added
    | none => .error .unclosed
  | character :: rest =>
    if place = .ended ∧ character = '#' then
      .ok []
    else
      match place.next? character with
      | none => .error (.character index)
      | some (added, after) =>
        match readFrom after (index + 1) rest with
        | .error fault => .error fault
        | .ok value => .ok (added ++ value)

/-- The value that a text makes. -/
def read (text : List Char) : Except BadLine Value :=
  match readFrom .bare 0 text with
  | .ok value => .ok value
  | .error (.character index) => .error ⟨text, index⟩
  | .error .unclosed => .error ⟨text, byteCount text - 1⟩

end Value

end LedKit.EnvFile
