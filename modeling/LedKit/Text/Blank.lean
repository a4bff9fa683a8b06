import LedKit.Text.Ranges

/-!
# Blank characters

A character is blank when it has the property White_Space. Trimming takes blanks off the ends of
a text and leaves those inside.
-/

namespace LedKit.Text

/-- The code points with the property White_Space. -/
def blankRanges : List (Nat × Nat) :=
  [(9, 13), (32, 32), (133, 133), (160, 160), (5760, 5760), (8192, 8202), (8232, 8233),
   (8239, 8239), (8287, 8287), (12288, 12288)]

/-- A character with the property White_Space. -/
def isBlank (character : Char) : Bool := inRanges blankRanges character

/-- No digit is blank. -/
theorem isBlank_of_isDigit {character : Char} (isDigit : character.isDigit = true) :
    isBlank character = false := by
  obtain ⟨first, last⟩ := Bool.and_eq_true_iff.mp isDigit
  have lower : 48 ≤ character.toNat := of_decide_eq_true first
  have upper : character.toNat ≤ 57 := of_decide_eq_true last
  refine Bool.eq_false_iff.mpr fun blank => ?_
  obtain ⟨range, member, above, below⟩ := inRanges_iff.mp blank
  have apart : ∀ range ∈ blankRanges, range.2 < 48 ∨ 57 < range.1 := by decide
  rcases apart range member with before | after <;> omega

/-- The text without the blanks it begins with. -/
def trimStart (text : List Char) : List Char := text.dropWhile isBlank

/-- The text without the blanks it ends with. -/
def trimEnd (text : List Char) : List Char := (text.reverse.dropWhile isBlank).reverse

/-- The text without the blanks around it. -/
def trim (text : List Char) : List Char := trimEnd (trimStart text)

theorem trimStart_append_of_blank {blanks text : List Char}
    (allBlank : ∀ character ∈ blanks, isBlank character = true) :
    trimStart (blanks ++ text) = trimStart text :=
  List.dropWhile_append_of_pos allBlank

theorem trimEnd_append_of_blank {blanks text : List Char}
    (allBlank : ∀ character ∈ blanks, isBlank character = true) :
    trimEnd (text ++ blanks) = trimEnd text := by
  rw [trimEnd, List.reverse_append, List.dropWhile_append_of_pos, trimEnd]
  simpa using allBlank

theorem trimStart_cons_of_not_blank {character : Char} (shown : isBlank character = false)
    (rest : List Char) : trimStart (character :: rest) = character :: rest :=
  List.dropWhile_cons_of_neg (by simp [shown])

/-- Trimming the end stops at the last character that is not blank. -/
theorem trimEnd_append_cons {character : Char} (shown : isBlank character = false)
    (text rest : List Char) :
    trimEnd (text ++ character :: rest) = text ++ character :: trimEnd rest := by
  have turned : (text ++ character :: rest).reverse =
      rest.reverse ++ character :: text.reverse := by simp
  have stays : (character :: text.reverse).dropWhile isBlank = character :: text.reverse :=
    List.dropWhile_cons_of_neg (by simp [shown])
  rw [trimEnd, turned, List.dropWhile_append, stays, trimEnd]
  cases dropped : rest.reverse.dropWhile isBlank <;> simp

theorem trimEnd_of_blank {blanks : List Char}
    (allBlank : ∀ character ∈ blanks, isBlank character = true) : trimEnd blanks = [] := by
  rw [← List.nil_append blanks, trimEnd_append_of_blank allBlank]
  rfl

/-- What trimming the start removes is blank. -/
theorem exists_blanks_append_trimStart (text : List Char) :
    ∃ blanks, (∀ character ∈ blanks, isBlank character = true) ∧
      text = blanks ++ trimStart text :=
  ⟨text.takeWhile isBlank, fun _ member => List.all_eq_true.mp (List.all_takeWhile) _ member,
    List.takeWhile_append_dropWhile.symm⟩

/-- What trimming the end removes is blank. -/
theorem exists_trimEnd_append_blanks (text : List Char) :
    ∃ blanks, (∀ character ∈ blanks, isBlank character = true) ∧
      text = trimEnd text ++ blanks := by
  obtain ⟨blanks, allBlank, split⟩ := exists_blanks_append_trimStart text.reverse
  refine ⟨blanks.reverse, by simpa using allBlank, ?_⟩
  have turned := congrArg List.reverse split
  simpa [trimEnd, trimStart] using turned

/-- Trimming leaves what stands between blanks and has none itself. -/
theorem trim_between {before text after : List Char}
    (blankBefore : ∀ character ∈ before, isBlank character = true)
    (blankAfter : ∀ character ∈ after, isBlank character = true) (nonempty : text ≠ [])
    (noBlank : ∀ character ∈ text, isBlank character = false) :
    trim (before ++ text ++ after) = text := by
  have start : trimStart (text ++ after) = text ++ after := by
    obtain ⟨first, rest, rfl⟩ := List.exists_cons_of_ne_nil nonempty
    exact trimStart_cons_of_not_blank (noBlank first List.mem_cons_self) _
  have stop : trimEnd text = text := by
    have turnable : text.reverse ≠ [] := mt List.reverse_eq_nil_iff.mp nonempty
    obtain ⟨last, rest, turned⟩ := List.exists_cons_of_ne_nil turnable
    have shown := noBlank last (List.mem_reverse.mp (turned ▸ List.mem_cons_self))
    rw [trimEnd, turned, List.dropWhile_cons_of_neg (by simp [shown]), ← turned,
      List.reverse_reverse]
  rw [trim, List.append_assoc, trimStart_append_of_blank blankBefore, start,
    trimEnd_append_of_blank blankAfter, stop]

end LedKit.Text
