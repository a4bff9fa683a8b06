import LedKit.Json.Codec

/-!
# Written numbers and texts

A number is written as an optional minus sign, a whole part, and perhaps a fraction and an exponent;
a text as pieces between quotes. Whatever stands behind them that could not belong to them, numbers
and texts are read as they are written, up to their end.
-/

namespace LedKit.Json

open LedKit.Text

/-! ## What stands around a value -/

/-- Blanks between tokens, perhaps none. -/
structure Gap where
  text : List Char
  blank : ∀ character ∈ text, isBlank character = true

namespace Gap

/-- No blanks at all. -/
def none : Gap := ⟨[], nofun⟩

theorem dropBlanks_append (gap : Gap) (text : List Char) :
    dropBlanks (gap.text ++ text) = dropBlanks text :=
  Json.dropBlanks_append gap.blank text

theorem dropBlanks_append_cons (gap : Gap) {first : Char} (solid : isBlank first = false)
    (rest : List Char) : dropBlanks (gap.text ++ first :: rest) = first :: rest := by
  rw [gap.dropBlanks_append, dropBlanks_cons_of_not solid]

/-- Two gaps, one after the other. -/
def append (gap other : Gap) : Gap where
  text := gap.text ++ other.text
  blank := List.forall_mem_append.mpr ⟨gap.blank, other.blank⟩

end Gap

/-- The characters that can stand right behind a value. -/
def isEnd (character : Char) : Bool := isBlank character || character ∈ [',', ']', '}']

theorem isEnd_iff {character : Char} :
    isEnd character = true ↔ character ∈ [' ', '\n', '\t', '\r', ',', ']', '}'] := by
  simp [isEnd, isBlank, or_assoc]

/-- A value can end before this text. -/
def Ends (rest : List Char) : Prop := ∀ first, rest.head? = some first → isEnd first = true

theorem ends_cons {first : Char} (ending : isEnd first = true) (rest : List Char) :
    Ends (first :: rest) := by
  rintro _ ⟨⟩
  exact ending

theorem Gap.ends_append (gap : Gap) {rest : List Char} (ends : Ends rest) :
    Ends (gap.text ++ rest) := by
  obtain ⟨text, blank⟩ := gap
  cases text with
  | nil => exact ends
  | cons first others =>
      exact ends_cons (by rw [isEnd, blank first List.mem_cons_self]; rfl) _

/-- The text does not go on with a digit. -/
def NoDigit (rest : List Char) : Prop := ∀ first, rest.head? = some first → first.isDigit = false

theorem noDigit_cons {first : Char} (other : first.isDigit = false) (rest : List Char) :
    NoDigit (first :: rest) := by
  rintro _ ⟨⟩
  exact other

theorem Ends.noDigit {rest : List Char} (ends : Ends rest) : NoDigit rest := by
  intro first head
  have ending := isEnd_iff.mp (ends first head)
  simp only [List.mem_cons, List.not_mem_nil, or_false] at ending
  rcases ending with rfl | rfl | rfl | rfl | rfl | rfl | rfl <;> rfl

theorem Ends.head?_ne {rest : List Char} (ends : Ends rest) {first : Char}
    (inside : isEnd first = false) : rest.head? ≠ some first := by
  intro head
  rw [ends first head] at inside
  cases inside

/-! ## Numbers -/

/-- Digits, at least one. -/
structure Digits where
  text : List Char
  filled : text ≠ []
  digits : ∀ character ∈ text, character.isDigit = true

/-- The power of ten that a number is multiplied by. -/
structure Exponent where
  letter : Char
  isLetter : letter = 'e' ∨ letter = 'E'
  sign : List Char
  isSign : sign = [] ∨ sign = ['+'] ∨ sign = ['-']
  digits : Digits

/-- A number as it is written. Its whole part has no zeros before it. -/
structure NumberForm where
  isNegative : Bool
  whole : Digits
  leading : whole.text.head? = some '0' → whole.text = ['0']
  fraction : Option Digits
  exponent : Option Exponent

theorem takeDigits?_append (digits : Digits) {rest : List Char} (stops : NoDigit rest) :
    takeDigits? (digits.text ++ rest) = some (digits.text, rest) := by
  have none : rest.takeWhile Char.isDigit = [] ∧ rest.dropWhile Char.isDigit = rest := by
    cases rest with
    | nil => exact ⟨rfl, rfl⟩
    | cons first others =>
        have other := stops first rfl
        exact ⟨List.takeWhile_cons_of_neg (by simp [other]),
          List.dropWhile_cons_of_neg (by simp [other])⟩
  have taken : (digits.text ++ rest).takeWhile Char.isDigit = digits.text := by
    rw [List.takeWhile_append_of_pos digits.digits, none.1, List.append_nil]
  rw [takeDigits?, taken, if_neg digits.filled, List.dropWhile_append_of_pos digits.digits, none.2]

namespace Exponent

/-- The exponent as it is written. -/
def text (exponent : Exponent) : List Char :=
  exponent.letter :: (exponent.sign ++ exponent.digits.text)

theorem dropSign_append (exponent : Exponent) (rest : List Char) :
    dropSign (exponent.sign ++ (exponent.digits.text ++ rest)) =
      (decide (exponent.sign = ['-']), exponent.digits.text ++ rest) := by
  obtain ⟨first, others, split⟩ := List.exists_cons_of_ne_nil exponent.digits.filled
  have digit : first.isDigit = true :=
    exponent.digits.digits first (split ▸ List.mem_cons_self)
  rcases exponent.isSign with none | plus | minus
  · rw [none, split, List.nil_append, List.cons_append, dropSign]
    · rfl
    · rintro _ ⟨⟩; cases digit
    · rintro _ ⟨⟩; cases digit
  · rw [plus]; rfl
  · rw [minus]; rfl

theorem takeExponent?_append (exponent : Exponent) {rest : List Char} (stops : NoDigit rest) :
    takeExponent? (exponent.text ++ rest) =
      some (some (decide (exponent.sign = ['-']), exponent.digits.text), rest) := by
  rw [text, List.cons_append, List.append_assoc, takeExponent?, if_pos exponent.isLetter,
    exponent.dropSign_append, takeDigits?_append exponent.digits stops]
  rfl

end Exponent

namespace NumberForm

/-- The sign as it is written. -/
def signText (form : NumberForm) : List Char := if form.isNegative then ['-'] else []

/-- The fraction as it is written. -/
def fractionText (form : NumberForm) : List Char :=
  match form.fraction with
  | none => []
  | some digits => '.' :: digits.text

/-- The exponent as it is written. -/
def exponentText (form : NumberForm) : List Char :=
  match form.exponent with
  | none => []
  | some exponent => exponent.text

/-- The number as it is written. -/
def text (form : NumberForm) : List Char :=
  form.signText ++ (form.whole.text ++ (form.fractionText ++ form.exponentText))

/-- The number as it is read. -/
def numeral (form : NumberForm) : Numeral where
  isNegative := form.isNegative
  whole := form.whole.text
  fraction := form.fraction.map Digits.text
  exponent := form.exponent.map fun exponent =>
    (decide (exponent.sign = ['-']), exponent.digits.text)

variable (form : NumberForm) {rest : List Char}

theorem takeWhole?_append (stops : NoDigit rest) :
    takeWhole? (form.whole.text ++ rest) = some (form.whole.text, rest) := by
  rw [takeWhole?, takeDigits?_append form.whole stops]
  refine if_neg ?_
  rintro ⟨zero, long⟩
  rw [form.leading zero] at long
  exact absurd long (by decide)

theorem takeFraction?_append (stops : NoDigit rest) (noPoint : rest.head? ≠ some '.') :
    takeFraction? (form.fractionText ++ rest) = some (form.fraction.map Digits.text, rest) := by
  unfold fractionText
  cases form.fraction with
  | none =>
      rw [List.nil_append, takeFraction?]
      · rfl
      · rintro _ rfl
        exact noPoint rfl
  | some digits =>
      rw [List.cons_append, takeFraction?, takeDigits?_append digits stops]
      rfl

theorem takeExponent?_append (ends : Ends rest) :
    takeExponent? (form.exponentText ++ rest) =
      some (form.numeral.exponent, rest) := by
  unfold exponentText numeral
  cases form.exponent with
  | some exponent => exact exponent.takeExponent?_append ends.noDigit
  | none =>
      cases rest with
      | nil => rfl
      | cons letter others =>
          rw [List.nil_append, takeExponent?, if_neg]
          · rfl
          · rintro (rfl | rfl)
            · exact ends.head?_ne (by decide) rfl
            · exact ends.head?_ne (by decide) rfl

/-- Behind the fraction stands an exponent or the end of the number. -/
theorem head?_exponentText_append (ends : Ends rest) {first : Char}
    (head : (form.exponentText ++ rest).head? = some first) :
    first = 'e' ∨ first = 'E' ∨ isEnd first = true := by
  unfold exponentText at head
  split at head
  · exact .inr (.inr (ends first head))
  · next exponent _ =>
      cases head
      exact exponent.isLetter.imp_right .inl

theorem noDigit_exponentText_append (ends : Ends rest) : NoDigit (form.exponentText ++ rest) := by
  intro first head
  rcases form.head?_exponentText_append ends head with rfl | rfl | ending
  · decide
  · decide
  · exact (ends_cons ending []).noDigit first rfl

theorem noPoint_exponentText_append (ends : Ends rest) :
    (form.exponentText ++ rest).head? ≠ some '.' := by
  intro head
  have first := form.head?_exponentText_append ends head
  exact absurd first (by decide)

theorem noDigit_fractionText_append (ends : Ends rest) :
    NoDigit (form.fractionText ++ (form.exponentText ++ rest)) := by
  unfold fractionText
  split
  · exact form.noDigit_exponentText_append ends
  · exact noDigit_cons (by decide) _

theorem takeUnsigned?_append (ends : Ends rest) :
    takeUnsigned? form.isNegative
        (form.whole.text ++ (form.fractionText ++ (form.exponentText ++ rest))) =
      some (form.numeral, rest) := by
  rw [takeUnsigned?, form.takeWhole?_append (form.noDigit_fractionText_append ends)]
  simp only [form.takeFraction?_append (form.noDigit_exponentText_append ends)
    (form.noPoint_exponentText_append ends), form.takeExponent?_append ends]
  rfl

theorem exists_whole : ∃ first others, form.whole.text = first :: others ∧
    first.isDigit = true := by
  obtain ⟨first, others, split⟩ := List.exists_cons_of_ne_nil form.whole.filled
  exact ⟨first, others, split, form.whole.digits first (split ▸ List.mem_cons_self)⟩

/-- A number is read as it is written, up to its end. -/
theorem takeNumeral?_append (ends : Ends rest) :
    takeNumeral? (form.text ++ rest) = some (form.numeral, rest) := by
  have unsigned := form.takeUnsigned?_append ends
  obtain ⟨first, others, split, digit⟩ := form.exists_whole
  simp only [text, signText, List.append_assoc]
  cases sign : form.isNegative with
  | true =>
      rw [sign] at unsigned
      exact unsigned
  | false =>
      rw [sign, split] at unsigned
      rw [split]
      refine Eq.trans ?_ unsigned
      change takeNumeral? (first :: _) = _
      rw [takeNumeral?]
      · rfl
      · rintro _ ⟨⟩
        cases digit

/-- A number begins with a minus sign or a digit. -/
theorem exists_first : ∃ first others, form.text = first :: others ∧
    (first = '-' ∨ first.isDigit = true) := by
  obtain ⟨first, others, split, digit⟩ := form.exists_whole
  unfold text signText
  split
  · exact ⟨'-', _, rfl, .inl rfl⟩
  · exact ⟨first, _, by rw [split]; rfl, .inr digit⟩

end NumberForm

/-! ## Texts -/

/-- A hexadecimal digit with its value. -/
structure HexDigit where
  character : Char
  value : Nat
  spelled : Text.hexValue? character = some value

/-- The characters that a text can be written with as they are. -/
def Shown (character : Char) : Prop :=
  32 ≤ character.toNat ∧ character ≠ '"' ∧ character ≠ '\\'

instance (character : Char) : Decidable (Shown character) := inferInstanceAs (Decidable (_ ∧ _))

/-- A piece of a text as it is written. -/
inductive PieceForm where
  /-- A character that stands for itself. -/
  | plain (character : Char) (shown : Shown character)
  | short (letter meant : Char) (known : escaped? letter = some meant)
  /-- A UTF-16 unit by its number. -/
  | unit (first second third fourth : HexDigit)

namespace PieceForm

/-- The piece as it is written. -/
def text : PieceForm → List Char
  | plain character _ => [character]
  | short letter _ _ => ['\\', letter]
  | unit first second third fourth =>
      ['\\', 'u', first.character, second.character, third.character, fourth.character]

/-- What the piece is read as. -/
def piece : PieceForm → Piece
  | plain character _ => .character character
  | short _ meant _ => .character meant
  | unit first second third fourth =>
      .unit (((first.value * 16 + second.value) * 16 + third.value) * 16 + fourth.value)

theorem takePiece?_append (form : PieceForm) (rest : List Char) :
    takePiece? (form.text ++ rest) = some (form.piece, rest) := by
  cases form with
  | plain character shown =>
      obtain ⟨visible, _, direct⟩ := shown
      change takePiece? (character :: rest) = _
      rw [takePiece?, if_neg direct, if_neg (Nat.not_lt.mpr visible)]
      rfl
  | short letter meant known =>
      have noUnit : letter ≠ 'u' := by
        rintro rfl
        cases known
      change takeEscape? (letter :: rest) = _
      rw [takeEscape?, if_neg noUnit, known]
      rfl
  | unit first second third fourth =>
      change (takeUnit? (first.character :: second.character :: third.character ::
        fourth.character :: rest)).map _ = _
      rw [takeUnit?, first.spelled, second.spelled, third.spelled, fourth.spelled]
      rfl

theorem head?_append_ne (form : PieceForm) (rest : List Char) :
    (form.text ++ rest).head? ≠ some '"' := by
  cases form with
  | plain character shown => exact fun same => shown.2.1 (Option.some.inj same)
  | short | unit => exact fun same => absurd (Option.some.inj same) (by decide)

end PieceForm

theorem takePieces?_quote (rest : List Char) : takePieces? ('"' :: rest) = some ([], rest) := by
  rw [takePieces?]
  rfl

theorem takePieces?_of_takePiece? {text rest : List Char} {piece : Piece}
    (inside : text.head? ≠ some '"') (taken : takePiece? text = some (piece, rest)) :
    takePieces? text =
      (takePieces? rest).map fun (pieces, after) => (piece :: pieces, after) := by
  rw [takePieces?, if_neg inside]
  grind

/-- A text as it is written, between quotes. -/
structure TextForm where
  pieces : List PieceForm

namespace TextForm

/-- The text as it is written. -/
def text (form : TextForm) : List Char := '"' :: (form.pieces.flatMap PieceForm.text ++ ['"'])

/-- The text that the pieces stand for, if they stand for one. -/
def content? (form : TextForm) : Option (List Char) := decode? (form.pieces.map PieceForm.piece)

theorem takePieces?_append (pieces : List PieceForm) (rest : List Char) :
    takePieces? (pieces.flatMap PieceForm.text ++ '"' :: rest) =
      some (pieces.map PieceForm.piece, rest) := by
  induction pieces with
  | nil => exact takePieces?_quote rest
  | cons form others ih =>
      rw [List.flatMap_cons, List.append_assoc,
        takePieces?_of_takePiece? (form.head?_append_ne _) (form.takePiece?_append _), ih]
      rfl

variable (form : TextForm) (rest : List Char)

theorem text_append : form.text ++ rest =
    '"' :: (form.pieces.flatMap PieceForm.text ++ '"' :: rest) := by
  simp [text]

/-- A text is passed over up to its closing quote, whatever units it holds. -/
theorem skipText?_append : skipText? (form.text ++ rest) = some rest := by
  rw [form.text_append, skipText?, takePieces?_append]
  rfl

/-- A text is read as what its pieces stand for. -/
theorem takeText?_append :
    takeText? (form.text ++ rest) = form.content?.map fun content => (content, rest) := by
  rw [form.text_append, takeText?, takePieces?_append]
  rfl

end TextForm

/-- A text between quotes that needs no escapes. -/
def quoted (content : List Char) : List Char := '"' :: (content ++ ['"'])

theorem shown_of_all {content : List Char}
    (all : (content.all fun character => decide (Shown character)) = true) :
    ∀ character ∈ content, Shown character :=
  fun character member => of_decide_eq_true (List.all_eq_true.mp all character member)

/-- A text that is written as it is. -/
def TextForm.plain (content : List Char) (shown : ∀ character ∈ content, Shown character) :
    TextForm where
  pieces := content.pmap .plain shown

theorem TextForm.text_plain (content : List Char)
    (shown : ∀ character ∈ content, Shown character) :
    (plain content shown).text = quoted content := by
  have written : (content.pmap .plain shown).flatMap PieceForm.text = content := by
    induction content with
    | nil => rfl
    | cons first rest ih =>
        rw [List.pmap_cons, List.flatMap_cons, ih]
        rfl
  rw [text, plain, written, quoted]

theorem TextForm.content?_plain (content : List Char)
    (shown : ∀ character ∈ content, Shown character) :
    (plain content shown).content? = some content := by
  rw [content?, plain]
  induction content with
  | nil => rfl
  | cons first rest ih =>
      rw [List.pmap_cons, List.map_cons, PieceForm.piece, decode?, ih]
      rfl

end LedKit.Json
