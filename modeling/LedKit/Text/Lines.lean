/-!
# Lines

A line ends with a newline, or with a carriage return and a newline. The last line of a text may be
without an end.
-/

namespace LedKit.Text

/-- The physical lines of a text, each with its line end. -/
def physicalLines : List Char → List (List Char)
  | [] => []
  | character :: rest =>
    if character = '\n' then
      [character] :: physicalLines rest
    else
      match physicalLines rest with
      | [] => [[character]]
      | line :: lines => (character :: line) :: lines

/-- A text without a line end, followed by one, is a line of its own. -/
theorem physicalLines_append_newline {line : List Char} (single : '\n' ∉ line)
    (rest : List Char) :
    physicalLines (line ++ '\n' :: rest) = (line ++ ['\n']) :: physicalLines rest := by
  induction line with
  | nil => rfl
  | cons character others ih =>
    rw [List.mem_cons, not_or] at single
    have lines := ih single.2
    rw [List.cons_append, physicalLines, if_neg (Ne.symm single.1), lines]
    rfl

/-- A text without a line end is one line, if it is not empty. -/
theorem physicalLines_of_single {line : List Char} (single : '\n' ∉ line) (filled : line ≠ []) :
    physicalLines line = [line] := by
  induction line with
  | nil => exact absurd rfl filled
  | cons character others ih =>
    rw [List.mem_cons, not_or] at single
    rw [physicalLines, if_neg (Ne.symm single.1)]
    cases others with
    | nil => rfl
    | cons next more => rw [ih single.2 (List.cons_ne_nil next more)]

/-- The line without the line end that closes it. -/
def dropLineEnd (line : List Char) : List Char :=
  if line.getLast? = some '\n' then
    if line.dropLast.getLast? = some '\r' then line.dropLast.dropLast else line.dropLast
  else line

/-- The lines of a text without their ends. -/
def lines (text : List Char) : List (List Char) := (physicalLines text).map dropLineEnd

end LedKit.Text
