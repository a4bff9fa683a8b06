/-!
# Blanks and words in JSON texts

Between the tokens of a JSON text there may be blanks. Three values are written as words.
-/

namespace LedKit.Json

/-- The characters that may stand between tokens. -/
def isBlank (character : Char) : Bool :=
  character = ' ' || character = '\n' || character = '\t' || character = '\r'

/-- The text after the blanks it begins with. -/
def dropBlanks (text : List Char) : List Char := text.dropWhile isBlank

theorem length_dropBlanks_le (text : List Char) : (dropBlanks text).length ≤ text.length := by
  induction text with
  | nil => exact Nat.le_refl _
  | cons character rest ih =>
    by_cases blank : isBlank character = true
    · have : dropBlanks (character :: rest) = dropBlanks rest := List.dropWhile_cons_of_pos blank
      rw [this, List.length_cons]
      omega
    · have : dropBlanks (character :: rest) = character :: rest :=
        List.dropWhile_cons_of_neg blank
      exact Nat.le_of_eq (congrArg List.length this)

theorem dropBlanks_append {blanks : List Char}
    (allBlank : ∀ character ∈ blanks, isBlank character = true) (text : List Char) :
    dropBlanks (blanks ++ text) = dropBlanks text :=
  List.dropWhile_append_of_pos allBlank

theorem dropBlanks_cons_of_not {character : Char} (solid : isBlank character = false)
    (rest : List Char) : dropBlanks (character :: rest) = character :: rest :=
  List.dropWhile_cons_of_neg (by simp [solid])

/-- The text after a word that it begins with. -/
def dropWord? : List Char → List Char → Option (List Char)
  | [], text => some text
  | _ :: _, [] => none
  | expected :: word, character :: rest =>
    if expected = character then dropWord? word rest else none

theorem dropWord?_eq_some_iff {word text rest : List Char} :
    dropWord? word text = some rest ↔ text = word ++ rest := by
  induction word generalizing text with
  | nil => simp [dropWord?]
  | cons expected word ih =>
    cases text with
    | nil => simp [dropWord?]
    | cons character after =>
      by_cases same : expected = character
      · simp [dropWord?, same, ih]
      · simp [dropWord?, same, Ne.symm same]

/-- The words that are values. -/
def words : List (List Char) := ["null".toList, "true".toList, "false".toList]

/-- The text after a word that is a value. -/
def dropAnyWord? (text : List Char) : Option (List Char) := words.findSome? (dropWord? · text)

theorem length_lt_of_dropAnyWord? {text rest : List Char} (found : dropAnyWord? text = some rest) :
    rest.length < text.length := by
  obtain ⟨word, member, dropped⟩ := List.exists_of_findSome?_eq_some found
  rw [dropWord?_eq_some_iff.mp dropped, List.length_append]
  have nonempty : ∀ word ∈ words, 0 < word.length := by decide
  have := nonempty word member
  omega

end LedKit.Json
