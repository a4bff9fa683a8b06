import LedKit.Json.Fault
import LedKit.Json.Number
import LedKit.Json.Scan
import LedKit.Json.Text

/-!
# JSON values

A value that nobody asked for is passed over: it has to be well formed, but its numbers may be of
any size and its texts may hold any units. Lists and objects may be nested to any depth. A value
that stands where another type is asked for is looked at as far as it takes to name its type.
-/

namespace LedKit.Json

/-- The text after a value without parts: a text, a number or a word. -/
def skipScalar? (text : List Char) : Option (List Char) :=
  match text.head? with
  | none => none
  | some first =>
    if first = '"' then skipText? text
    else if first = '-' ∨ first.isDigit then (takeNumeral? text).map (·.2)
    else dropAnyWord? text

theorem length_lt_of_skipScalar? {text rest : List Char} (found : skipScalar? text = some rest) :
    rest.length < text.length := by
  unfold skipScalar? at found
  split at found
  · contradiction
  · split at found
    · exact length_lt_of_skipText? found
    · split at found
      · obtain ⟨⟨numeral, after⟩, taken, rfl⟩ := Option.map_eq_some_iff.mp found
        exact length_lt_of_takeNumeral? taken
      · exact length_lt_of_dropAnyWord? found

/-- The text after a key and its colon. -/
def skipKey? (text : List Char) : Option (List Char) :=
  (skipText? (dropBlanks text)).bind fun rest => dropWord? [':'] (dropBlanks rest)

theorem length_lt_of_skipKey? {text rest : List Char} (found : skipKey? text = some rest) :
    rest.length < text.length := by
  obtain ⟨between, skipped, dropped⟩ := Option.bind_eq_some_iff.mp found
  have first := length_lt_of_skipText? skipped
  have second := congrArg List.length (dropWord?_eq_some_iff.mp dropped)
  have := length_dropBlanks_le text
  have := length_dropBlanks_le between
  rw [List.length_append] at second
  omega

/-- A value with parts that is still open. -/
inductive Frame where
  | list
  | object
  deriving DecidableEq

/-- The character that closes a value with parts. -/
def Frame.closing : Frame → Char
  | list => ']'
  | object => '}'

mutual

/-- The text after the value that a text begins with and after all that is open around it. -/
def skipWithin? (frames : List Frame) (text : List Char) : Option (List Char) :=
  match _solid : dropBlanks text with
  | [] => none
  | first :: rest =>
    if first = '[' then skipFirst? .list frames rest
    else if first = '{' then skipFirst? .object frames rest
    else
      match _skipped : skipScalar? (first :: rest) with
      | none => none
      | some after => skipOut? frames after
termination_by (text.length, 0)
decreasing_by
  all_goals
    have bound := length_dropBlanks_le text
    rw [_solid] at bound
    simp only [List.length_cons] at bound
  · exact Prod.Lex.left _ _ (by omega)
  · exact Prod.Lex.left _ _ (by omega)
  · have := length_lt_of_skipScalar? _skipped
    rw [List.length_cons] at this
    exact Prod.Lex.left _ _ (by omega)

/-- The text after a value with parts whose opening has just been read. -/
def skipFirst? (frame : Frame) (frames : List Frame) (text : List Char) : Option (List Char) :=
  match _closed : dropWord? [frame.closing] (dropBlanks text) with
  | some after => skipOut? frames after
  | none => skipPart? frame frames text
termination_by (text.length, 2)
decreasing_by
  · have bound := length_dropBlanks_le text
    rw [dropWord?_eq_some_iff.mp _closed, List.length_append, List.length_singleton] at bound
    exact Prod.Lex.left _ _ (by omega)
  · exact Prod.Lex.right _ (by omega)

/-- The text after a value with parts that goes on with a part. -/
def skipPart? (frame : Frame) (frames : List Frame) (text : List Char) : Option (List Char) :=
  match frame with
  | .list => skipWithin? (.list :: frames) text
  | .object =>
    match _key : skipKey? text with
    | none => none
    | some rest => skipWithin? (.object :: frames) rest
termination_by (text.length, 1)
decreasing_by
  · exact Prod.Lex.right _ (by omega)
  · exact Prod.Lex.left _ _ (length_lt_of_skipKey? _key)

/-- The text after all that is open, from the end of one of its parts. -/
def skipOut? (frames : List Frame) (text : List Char) : Option (List Char) :=
  match frames with
  | [] => some text
  | frame :: frames =>
    match _solid : dropBlanks text with
    | [] => none
    | first :: rest =>
      if first = ',' then skipPart? frame frames rest
      else if first = frame.closing then skipOut? frames rest
      else none
termination_by (text.length, 0)
decreasing_by
  all_goals
    have bound := length_dropBlanks_le text
    rw [_solid] at bound
    simp only [List.length_cons] at bound
    exact Prod.Lex.left _ _ (by omega)

end

theorem length_skip :
    (∀ frames text rest, skipWithin? frames text = some rest → rest.length < text.length) ∧
    (∀ frames text rest, skipOut? frames text = some rest → rest.length ≤ text.length) ∧
    (∀ frame frames text rest,
      skipPart? frame frames text = some rest → rest.length < text.length) ∧
    (∀ frame frames text rest,
      skipFirst? frame frames text = some rest → rest.length < text.length) := by
  have solid {text : List Char} {first : Char} {others : List Char}
      (same : dropBlanks text = first :: others) : others.length < text.length := by
    have bound := length_dropBlanks_le text
    rw [same, List.length_cons] at bound
    exact bound
  apply skipWithin?.mutual_induct
    (fun frames text => ∀ rest, skipWithin? frames text = some rest → rest.length < text.length)
    (fun frames text => ∀ rest, skipOut? frames text = some rest → rest.length ≤ text.length)
    (fun frame frames text =>
      ∀ rest, skipPart? frame frames text = some rest → rest.length < text.length)
    (fun frame frames text =>
      ∀ rest, skipFirst? frame frames text = some rest → rest.length < text.length)
  · grind [skipWithin?]
  · grind [skipWithin?]
  · grind [skipWithin?]
  · grind [skipWithin?]
  · intro frames text first rest same _ _ after skipped ih target found
    have := length_lt_of_skipScalar? skipped
    grind [skipWithin?]
  · grind [skipOut?]
  · grind [skipOut?]
  · grind [skipOut?]
  · grind [skipOut?]
  · grind [skipOut?]
  · grind [skipPart?]
  · grind [skipPart?]
  · intro frames text after skipped ih target found
    have := length_lt_of_skipKey? skipped
    grind [skipPart?]
  · grind [skipFirst?, dropWord?_eq_some_iff, length_dropBlanks_le]
  · grind [skipFirst?]

/-- The text after the value that a text begins with. -/
def skipValue? (text : List Char) : Option (List Char) := skipWithin? [] text

theorem length_lt_of_skipValue? {text rest : List Char} (found : skipValue? text = some rest) :
    rest.length < text.length :=
  length_skip.1 [] text rest found

/-- The text begins like a number. -/
def beginsNumeral (text : List Char) : Bool :=
  text.head?.any fun first => first = '-' || first.isDigit

/-- The fault of a value that stands where another type is asked for. A list or an object is told
by its first character, any other value only once it is well formed. -/
def mismatch (text : List Char) : Fault :=
  if text.head? = some '[' ∨ text.head? = some '{' then .wrongType
  else if text.head? = some '"' then
    if (takeText? text).isSome then .wrongType else .malformed
  else if beginsNumeral text then
    match takeNumeral? text with
    | none => .malformed
    | some (numeral, _) => if numeral.magnitude = .tooLarge then .malformed else .wrongType
  else if (dropAnyWord? text).isSome then .wrongType
  else .malformed

/-- The text after a word that a text begins with after blanks. -/
def expect (word text : List Char) : Except Fault (List Char) :=
  match dropWord? word (dropBlanks text) with
  | none => .error .malformed
  | some rest => .ok rest

theorem length_lt_of_expect {character : Char} {text rest : List Char}
    (found : expect [character] text = .ok rest) : rest.length < text.length := by
  unfold expect at found
  split at found
  · contradiction
  · next dropped =>
    simp only [Except.ok.injEq] at found
    have bound := length_dropBlanks_le text
    rw [dropWord?_eq_some_iff.mp dropped, found, List.length_append, List.length_singleton] at bound
    omega

/-- Read a natural number below a bound. -/
def readNatural (bound : Nat) (text : List Char) : Read Nat :=
  let solid := dropBlanks text
  if beginsNumeral solid then
    match takeNumeral? solid with
    | none => .error .malformed
    | some (numeral, rest) =>
      match numeral.magnitude with
      | .natural value => if value < bound then .ok (value, rest) else .error .outOfRange
      | .negative _ => .error .outOfRange
      | .real => .error .wrongType
      | .tooLarge => .error .malformed
  else .error (mismatch solid)

/-- What is read is within the bound and leaves a shorter text. -/
theorem of_readNatural {bound value : Nat} {text rest : List Char}
    (found : readNatural bound text = .ok (value, rest)) :
    value < bound ∧ rest.length < text.length := by
  simp only [readNatural] at found
  split at found
  · split at found
    · contradiction
    · next taken =>
      split at found
      · split at found
        · next within =>
          simp only [Except.ok.injEq, Prod.mk.injEq] at found
          obtain ⟨rfl, rfl⟩ := found
          have := length_lt_of_takeNumeral? taken
          have := length_dropBlanks_le text
          exact ⟨within, by omega⟩
        · contradiction
      · contradiction
      · contradiction
      · contradiction
  · contradiction

/-- Read a text value where nothing else can stand. -/
def readText (text : List Char) : Read (List Char) :=
  match takeText? (dropBlanks text) with
  | none => .error .malformed
  | some found => .ok found

end LedKit.Json
