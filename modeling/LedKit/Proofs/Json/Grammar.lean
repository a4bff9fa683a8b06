import LedKit.Proofs.Json.Forms

/-!
# The grammar of JSON values

A JSON value is a word, a number, a text, or parts between brackets that are values themselves. The
grammar says nothing of open brackets and of what is still to read, which is all that a scan keeps.
Each symbol of the grammar therefore stands for what a scan does when it meets a text of it, and a
derivation carries that over from its parts.
-/

namespace LedKit.Json

open LedKit.Text

/-- The character that opens a value with parts. -/
def Frame.opening : Frame → Char
  | .list => '['
  | .object => '{'

/-- What a stretch of JSON text can be. -/
inductive Symbol where
  | value
  /-- One part of a value, with the blanks around it. -/
  | part (frame : Frame)
  /-- Parts of a value between commas, at least one. -/
  | parts (frame : Frame)

/-- The stretches of well-formed JSON text. -/
inductive Derives : Symbol → List Char → Prop where
  | word {text : List Char} (known : text ∈ words) : Derives .value text
  | number (form : NumberForm) : Derives .value form.text
  | text (form : TextForm) : Derives .value form.text
  | empty (frame : Frame) (gap : Gap) :
      Derives .value (frame.opening :: (gap.text ++ [frame.closing]))
  | filled {frame : Frame} {inside : List Char} (parts : Derives (.parts frame) inside) :
      Derives .value (frame.opening :: (inside ++ [frame.closing]))
  | item (before after : Gap) {value : List Char} (derives : Derives .value value) :
      Derives (.part .list) (before.text ++ (value ++ after.text))
  | member (before : Gap) (key : TextForm) (afterKey beforeValue after : Gap) {value : List Char}
      (derives : Derives .value value) :
      Derives (.part .object) (before.text ++
        (key.text ++ (afterKey.text ++ ':' :: (beforeValue.text ++ (value ++ after.text)))))
  | last {frame : Frame} {part : List Char} (derives : Derives (.part frame) part) :
      Derives (.parts frame) part
  | more {frame : Frame} {part parts : List Char} (first : Derives (.part frame) part)
      (others : Derives (.parts frame) parts) : Derives (.parts frame) (part ++ ',' :: parts)

/-! ## How a stretch begins -/

/-- After blanks the text goes on with a character that nothing ends with. -/
def Begins (text : List Char) : Prop :=
  ∃ (gap : Gap) (first : Char) (others : List Char),
    isEnd first = false ∧ text = gap.text ++ first :: others

theorem solid_of_inside {first : Char} (inside : isEnd first = false) : isBlank first = false :=
  (Bool.or_eq_false_iff.mp inside).1

theorem begins_cons {first : Char} (inside : isEnd first = false) (others : List Char) :
    Begins (first :: others) :=
  ⟨.none, first, others, inside, rfl⟩

namespace Begins

variable {text : List Char}

theorem append_right (begins : Begins text) (rest : List Char) : Begins (text ++ rest) := by
  obtain ⟨gap, first, others, inside, rfl⟩ := begins
  exact ⟨gap, first, others ++ rest, inside, by simp⟩

theorem append_left (gap : Gap) (begins : Begins text) : Begins (gap.text ++ text) := by
  obtain ⟨own, first, others, inside, rfl⟩ := begins
  exact ⟨gap.append own, first, others, inside, by simp [Gap.append]⟩

theorem head?_dropBlanks_ne (begins : Begins text) {ending : Char} (ends : isEnd ending = true) :
    (dropBlanks text).head? ≠ some ending := by
  obtain ⟨gap, first, others, inside, rfl⟩ := begins
  rw [gap.dropBlanks_append_cons (solid_of_inside inside)]
  rintro ⟨⟩
  rw [ends] at inside
  cases inside

end Begins

theorem isEnd_of_isDigit {first : Char} (digit : first.isDigit = true) : isEnd first = false := by
  refine Bool.eq_false_iff.mpr fun ending => ?_
  have other := (ends_cons ending []).noDigit first rfl
  rw [digit] at other
  cases other

theorem NumberForm.begins (form : NumberForm) : Begins form.text := by
  obtain ⟨first, others, split, sign | digit⟩ := form.exists_first
  · exact split ▸ begins_cons (by rw [sign]; decide) others
  · exact split ▸ begins_cons (isEnd_of_isDigit digit) others

theorem Frame.isEnd_closing (frame : Frame) : isEnd frame.closing = true := by
  cases frame <;> decide

theorem Frame.solid_closing (frame : Frame) : isBlank frame.closing = false := by
  cases frame <;> decide

theorem Frame.inside_opening (frame : Frame) : isEnd frame.opening = false := by
  cases frame <;> decide

theorem exists_first_of_mem_words {word : List Char} (known : word ∈ words) :
    ∃ first others, word = first :: others ∧ first ∈ ['n', 't', 'f'] := by
  simp only [words, List.mem_cons, List.not_mem_nil, or_false] at known
  rcases known with rfl | rfl | rfl
  · exact ⟨'n', _, rfl, by decide⟩
  · exact ⟨'t', _, rfl, by decide⟩
  · exact ⟨'f', _, rfl, by decide⟩

/-- The first letters of words belong to nothing else. -/
theorem letter_of_mem {first : Char} (member : first ∈ ['n', 't', 'f']) :
    isEnd first = false ∧ first.isDigit = false ∧ first ∉ ['[', '{', '"', '-'] := by
  simp only [List.mem_cons, List.not_mem_nil, or_false] at member
  rcases member with rfl | rfl | rfl <;> decide

theorem Derives.begins {symbol : Symbol} {text : List Char} (derives : Derives symbol text) :
    Begins text := by
  induction derives with
  | word known =>
      obtain ⟨first, others, rfl, letter⟩ := exists_first_of_mem_words known
      exact begins_cons (letter_of_mem letter).1 others
  | number form => exact form.begins
  | text form => exact begins_cons (by decide) _
  | empty frame => exact begins_cons frame.inside_opening _
  | @filled frame => exact begins_cons frame.inside_opening _
  | item before after derives ih => exact (ih.append_right _).append_left before
  | member before key => exact ((begins_cons (by decide) _).append_right _).append_left before
  | last derives ih => exact ih
  | more first others ih => exact ih.append_right _

/-! ## Steps of a scan -/

theorem skipWithin?_of_solid {frames : List Frame} {text rest : List Char} {first : Char}
    (solid : dropBlanks text = first :: rest) :
    skipWithin? frames text =
      if first = '[' then skipFirst? .list frames rest
      else if first = '{' then skipFirst? .object frames rest
      else (skipScalar? (first :: rest)).bind (skipOut? frames) := by
  rw [skipWithin?]
  grind

/-- Blanks are passed over before the value. -/
theorem skipWithin?_append (frames : List Frame) (gap : Gap) {text : List Char}
    (begins : Begins text) : skipWithin? frames (gap.text ++ text) = skipWithin? frames text := by
  obtain ⟨own, first, others, inside, rfl⟩ := begins
  have solid := own.dropBlanks_append_cons (solid_of_inside inside) others
  rw [skipWithin?_of_solid solid, skipWithin?_of_solid ((gap.dropBlanks_append _).trans solid)]

theorem skipWithin?_opening (frame : Frame) (frames : List Frame) (rest : List Char) :
    skipWithin? frames (frame.opening :: rest) = skipFirst? frame frames rest := by
  rw [skipWithin?_of_solid (dropBlanks_cons_of_not (solid_of_inside frame.inside_opening) rest)]
  cases frame with
  | list => exact if_pos rfl
  | object => exact (if_neg (by decide)).trans (if_pos rfl)

theorem skipFirst?_eq (frame : Frame) (frames : List Frame) (text : List Char) :
    skipFirst? frame frames text =
      if (dropBlanks text).head? = some frame.closing then skipOut? frames (dropBlanks text).tail
      else skipPart? frame frames text := by
  rw [skipFirst?]
  cases dropBlanks text <;> grind [dropWord?]

theorem skipPart?_object (frames : List Frame) (text : List Char) :
    skipPart? .object frames text = (skipKey? text).bind (skipWithin? (.object :: frames)) := by
  rw [skipPart?]
  grind

theorem skipOut?_of_solid (frame : Frame) (frames : List Frame) {text rest : List Char}
    {first : Char} (solid : dropBlanks text = first :: rest) :
    skipOut? (frame :: frames) text =
      if first = ',' then skipPart? frame frames rest
      else if first = frame.closing then skipOut? frames rest
      else none := by
  rw [skipOut?]
  grind

/-- Blanks are passed over behind a part. -/
theorem skipOut?_append (frame : Frame) (frames : List Frame) (gap : Gap) (rest : List Char) :
    skipOut? (frame :: frames) (gap.text ++ rest) = skipOut? (frame :: frames) rest := by
  cases solid : dropBlanks rest with
  | nil =>
      rw [skipOut?, skipOut?]
      grind [Gap.dropBlanks_append]
  | cons first others =>
      rw [skipOut?_of_solid frame frames solid,
        skipOut?_of_solid frame frames ((gap.dropBlanks_append rest).trans solid)]

theorem skipOut?_closing (frame : Frame) (frames : List Frame) (rest : List Char) :
    skipOut? (frame :: frames) (frame.closing :: rest) = skipOut? frames rest := by
  rw [skipOut?_of_solid frame frames (dropBlanks_cons_of_not frame.solid_closing rest),
    if_neg (by cases frame <;> decide), if_pos rfl]

theorem skipOut?_comma (frame : Frame) (frames : List Frame) (rest : List Char) :
    skipOut? (frame :: frames) (',' :: rest) = skipPart? frame frames rest := by
  rw [skipOut?_of_solid frame frames (dropBlanks_cons_of_not (by decide) rest), if_pos rfl]

/-- A value without parts is passed over, and the scan goes on behind it. -/
theorem skipWithin?_of_skipScalar? (frames : List Frame) {text rest : List Char} {first : Char}
    (inside : isEnd first = false) (noList : first ≠ '[') (noObject : first ≠ '{')
    (skipped : skipScalar? (first :: text) = some rest) :
    skipWithin? frames (first :: text) = skipOut? frames rest := by
  rw [skipWithin?_of_solid (dropBlanks_cons_of_not (solid_of_inside inside) text), if_neg noList,
    if_neg noObject, skipped]
  rfl

theorem skipScalar?_numeral {first : Char} {others rest : List Char} {numeral : Numeral}
    (begins : first = '-' ∨ first.isDigit = true)
    (taken : takeNumeral? (first :: others) = some (numeral, rest)) :
    skipScalar? (first :: others) = some rest := by
  have noQuote : first ≠ '"' := by
    rintro rfl
    exact absurd begins (by decide)
  rw [skipScalar?, List.head?_cons]
  simp only [if_neg noQuote, if_pos begins, taken]
  rfl

theorem dropAnyWord?_append {word : List Char} (known : word ∈ words) (rest : List Char) :
    dropAnyWord? (word ++ rest) = some rest := by
  simp only [words, List.mem_cons, List.not_mem_nil, or_false] at known
  rcases known with rfl | rfl | rfl <;> rfl

theorem skipKey?_append (before : Gap) (key : TextForm) (afterKey : Gap) (rest : List Char) :
    skipKey? (before.text ++ (key.text ++ (afterKey.text ++ ':' :: rest))) = some rest := by
  rw [skipKey?, before.dropBlanks_append, key.text_append,
    dropBlanks_cons_of_not (by decide), ← key.text_append, key.skipText?_append, Option.bind_some,
    afterKey.dropBlanks_append_cons (by decide)]
  rfl

/-! ## A scan follows the grammar -/

/-- What a scan does when it meets a text of a symbol. -/
def Symbol.Scans : Symbol → List Char → Prop
  | value, text =>
      ∀ (frames : List Frame) {rest : List Char}, Ends rest →
        skipWithin? frames (text ++ rest) = skipOut? frames rest
  | part frame, text =>
      ∀ (frames : List Frame) {rest : List Char}, Ends rest →
        skipPart? frame frames (text ++ rest) = skipOut? (frame :: frames) rest
  | parts frame, text =>
      ∀ (frames : List Frame) (rest : List Char),
        skipPart? frame frames (text ++ frame.closing :: rest) = skipOut? frames rest

theorem Symbol.scans_word {text : List Char} (known : text ∈ words) : value.Scans text := by
  intro frames rest ends
  have found := dropAnyWord?_append known rest
  obtain ⟨first, others, rfl, letter⟩ := exists_first_of_mem_words known
  obtain ⟨inside, noDigit, other⟩ := letter_of_mem letter
  simp only [List.mem_cons, List.not_mem_nil, or_false, not_or] at other
  obtain ⟨noList, noObject, noQuote, noSign⟩ := other
  have scalar : skipScalar? (first :: others ++ rest) = some rest := by
    simpa [skipScalar?, noQuote, noSign, noDigit] using found
  exact skipWithin?_of_skipScalar? frames inside noList noObject scalar

theorem Symbol.scans_number (form : NumberForm) : value.Scans form.text := by
  intro frames rest ends
  have taken := form.takeNumeral?_append ends
  obtain ⟨first, others, split, begins⟩ := form.exists_first
  rw [split] at taken ⊢
  have inside : isEnd first = false := by
    rcases begins with rfl | digit
    · decide
    · exact isEnd_of_isDigit digit
  have noBracket : first ≠ '[' ∧ first ≠ '{' := by
    constructor
    · rintro rfl
      exact absurd begins (by decide)
    · rintro rfl
      exact absurd begins (by decide)
  exact skipWithin?_of_skipScalar? frames inside noBracket.1 noBracket.2
    (skipScalar?_numeral begins taken)

theorem Symbol.scans_text (form : TextForm) : value.Scans form.text := by
  intro frames rest _
  have skipped := form.skipText?_append rest
  rw [form.text_append] at skipped ⊢
  exact skipWithin?_of_skipScalar? frames (by decide) (by decide) (by decide) skipped

/-- A scan passes over what the grammar derives, up to its end. -/
theorem Derives.scans {symbol : Symbol} {text : List Char} (derives : Derives symbol text) :
    symbol.Scans text := by
  induction derives with
  | word known => exact Symbol.scans_word known
  | number form => exact Symbol.scans_number form
  | text form => exact Symbol.scans_text form
  | empty frame gap =>
      intro frames rest _
      have solid : dropBlanks (gap.text ++ frame.closing :: rest) = frame.closing :: rest :=
        gap.dropBlanks_append_cons frame.solid_closing rest
      rw [List.cons_append, List.append_assoc, List.singleton_append, skipWithin?_opening,
        skipFirst?_eq, solid]
      exact if_pos rfl
  | @filled frame inside parts ih =>
      -- The first part does not begin like an end, so the scan does not close the value at once.
      intro frames rest _
      have unclosed := (parts.begins.append_right (frame.closing :: rest)).head?_dropBlanks_ne
        frame.isEnd_closing
      rw [List.cons_append, List.append_assoc, List.singleton_append, skipWithin?_opening,
        skipFirst?_eq, if_neg unclosed]
      exact ih frames rest
  | item before after derives ih =>
      -- The blanks behind the value are an end for it and are dropped by the scan of the frame.
      intro frames rest ends
      rw [List.append_assoc, List.append_assoc, skipPart?,
        skipWithin?_append _ before (derives.begins.append_right _), ih _ (after.ends_append ends),
        skipOut?_append]
  | member before key afterKey beforeValue after derives ih =>
      intro frames rest ends
      simp only [List.append_assoc, List.cons_append]
      rw [skipPart?_object, skipKey?_append, Option.bind_some,
        skipWithin?_append _ beforeValue (derives.begins.append_right _),
        ih _ (after.ends_append ends), skipOut?_append]
  | @last frame part derives ih =>
      intro frames rest
      rw [ih frames (ends_cons frame.isEnd_closing rest), skipOut?_closing]
  | more first others firstScans othersScan =>
      intro frames rest
      rw [List.append_assoc, List.cons_append, firstScans frames (ends_cons (by decide) _),
        skipOut?_comma]
      exact othersScan frames rest

/-- A well-formed value is passed over, with the blanks before it. -/
theorem skipValue?_append (before : Gap) {value rest : List Char} (derives : Derives .value value)
    (ends : Ends rest) : skipValue? (before.text ++ (value ++ rest)) = some rest := by
  rw [skipValue?, skipWithin?_append _ before (derives.begins.append_right rest),
    derives.scans [] ends, skipOut?]

end LedKit.Json
