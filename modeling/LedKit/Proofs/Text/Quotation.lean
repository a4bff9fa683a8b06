import LedKit.Text.Quoted
import Mathlib.Data.List.Forall2

/-!
# Quotations

A quotation stands between double quotes and writes a text character by character: a visible
character as it is, unless it is a quote or a backslash, every other one as an escape. Nothing in a
quotation is hidden, and reading it gives the text back.
-/

namespace LedKit.Text

/-! ## Ways to write a character -/

/-- The letters that escape a character after a backslash, each with the character it is for. -/
def shortEscapes : List (Char × Char) :=
  [('0', '\x00'), ('t', '\t'), ('r', '\r'), ('n', '\n'), ('"', '"'), ('\\', '\\')]

/-- A character that needs no escape. -/
def Plain (character : Char) : Prop :=
  isHidden character = false ∧ character ≠ '"' ∧ character ≠ '\\'

/-- The ways to write a character in a quotation. -/
inductive Written (character : Char) : List Char → Prop where
  | plain (plain : Plain character) : Written character [character]
  | short (letter : Char) (known : (letter, character) ∈ shortEscapes) :
      Written character ['\\', letter]
  /-- A hidden character without a letter of its own is written as its code point. -/
  | codePoint (hidden : isHidden character = true)
      (unknown : ∀ letter, (letter, character) ∉ shortEscapes) :
      Written character ('\\' :: 'u' :: '{' :: (Nat.toDigits 16 character.toNat ++ ['}']))

/-- No printable character of ASCII is hidden. -/
theorem isHidden_of_ascii {character : Char} (low : 32 ≤ character.toNat)
    (high : character.toNat ≤ 126) : isHidden character = false := by
  have apart (ranges : List (Nat × Nat))
      (outside : ∀ range ∈ ranges, range.2 < 32 ∨ 126 < range.1) :
      inRanges ranges character = false := by
    rw [Bool.eq_false_iff]
    intro inside
    obtain ⟨range, member, above, below⟩ := inRanges_iff.mp inside
    rcases outside range member with before | after <;> omega
  have printable : isUnprintable character = false := apart unprintableRanges (by decide +kernel)
  have alone : isGraphemeExtend character = false :=
    apart graphemeExtendRanges (by decide +kernel)
  have letter : isFiller character = false := by
    rw [isFiller, decide_eq_false_iff_not]
    intro filler
    simp only [List.mem_cons, List.not_mem_nil, or_false] at filler
    rcases filler with rfl | rfl | rfl | rfl <;> exact absurd high (by decide)
  rw [isHidden, printable, alone, letter]
  rfl

theorem written_quotedChar (character : Char) :
    Written character (quotedChar character).toList := by
  unfold quotedChar
  split
  · exact .short '0' (by decide)
  · exact .short 't' (by decide)
  · exact .short 'r' (by decide)
  · exact .short 'n' (by decide)
  · exact .short '"' (by decide)
  · exact .short '\\' (by decide)
  · next null tab back newline quote backslash =>
      split
      · next hidden =>
          rw [String.toList_append, String.toList_append, toList_hexadecimal_one]
          refine .codePoint hidden fun letter known => ?_
          simp only [shortEscapes, List.mem_cons, Prod.mk.injEq, List.not_mem_nil, or_false]
            at known
          rcases known with known | known | known | known | known | known
          · exact null known.2
          · exact tab known.2
          · exact back known.2
          · exact newline known.2
          · exact quote known.2
          · exact backslash known.2
      · next visible =>
          rw [Char.toString_eq_singleton, String.toList_singleton]
          exact .plain ⟨Bool.eq_false_iff.mpr visible, quote, backslash⟩

namespace Written

variable {character : Char} {form : List Char}

/-- A plain character is never escaped. -/
theorem eq_of_plain (written : Written character form) (plain : Plain character) :
    form = [character] := by
  obtain ⟨visible, quote, backslash⟩ := plain
  cases written with
  | plain => rfl
  | codePoint hidden =>
      rw [visible] at hidden
      cases hidden
  | short letter known =>
      have escaped : ∀ pair ∈ shortEscapes,
          isHidden pair.2 = true ∨ pair.2 = '"' ∨ pair.2 = '\\' := by decide +kernel
      rcases escaped _ known with hidden | rfl | rfl
      · rw [visible] at hidden
        cases hidden
      · exact absurd rfl quote
      · exact absurd rfl backslash

/-- A written character shows nothing hidden. -/
theorem isHidden_of_mem (written : Written character form) {shown : Char}
    (member : shown ∈ form) : isHidden shown = false := by
  cases written with
  | plain plain =>
      rw [List.mem_singleton.mp member]
      exact plain.1
  | short letter known =>
      have ascii : ∀ pair ∈ shortEscapes, 32 ≤ pair.1.toNat ∧ pair.1.toNat ≤ 126 := by decide
      rw [List.mem_cons, List.mem_singleton] at member
      rcases member with rfl | rfl
      · exact isHidden_of_ascii (by decide) (by decide)
      · exact isHidden_of_ascii (ascii _ known).1 (ascii _ known).2
  | codePoint hidden unknown =>
      simp only [List.mem_cons, List.mem_append, List.not_mem_nil, or_false] at member
      rcases member with rfl | rfl | rfl | digit | rfl
      case inr.inr.inr.inl =>
        obtain ⟨value, small, rfl⟩ := exists_digitChar_of_mem_toDigits digit
        have ascii : ∀ value < 16,
            32 ≤ (Nat.digitChar value).toNat ∧ (Nat.digitChar value).toNat ≤ 126 := by decide
        exact isHidden_of_ascii (ascii value small).1 (ascii value small).2
      all_goals exact isHidden_of_ascii (by decide) (by decide)

end Written

/-! ## Reading a quotation -/

/-- Where a reader stands in a quotation: at its beginning, between two characters, after a
backslash, before a code point, in one with the number so far, or behind its end. -/
inductive Stand where
  | start
  | between
  | escape
  | brace
  | code (number : Nat)
  | stop
  deriving DecidableEq

/-- What the next character says of the text, and where the reader stands after it. -/
def Stand.next? (stand : Stand) (character : Char) : Option (List Char × Stand) :=
  match stand with
  | start => if character = '"' then some ([], between) else none
  | between =>
    if character = '"' then some ([], stop)
    else if character = '\\' then some ([], escape)
    else some ([character], between)
  | escape =>
    if character = 'u' then some ([], brace)
    else (shortEscapes.lookup character).map fun meant => ([meant], between)
  | brace => if character = '{' then some ([], code 0) else none
  | code number =>
    if character = '}' then some ([Char.ofNat number], between)
    else (hexValue? character).map fun value => ([], code (number * 16 + value))
  | stop => none

/-- The rest of the text, read from a stand in its quotation. -/
def readQuotation? (stand : Stand) : List Char → Option (List Char)
  | [] => if stand = .stop then some [] else none
  | character :: rest =>
    match stand.next? character with
    | none => none
    | some (said, after) => (readQuotation? after rest).map (said ++ ·)

/-- The text that a quotation is of. -/
def unquote? (quotation : String) : Option String :=
  (readQuotation? .start quotation.toList).map String.ofList

section Reading

variable {stand after : Stand} {character : Char}

theorem readQuotation?_of_silent (silent : stand.next? character = some ([], after))
    (rest : List Char) :
    readQuotation? stand (character :: rest) = readQuotation? after rest := by
  rw [readQuotation?, silent]
  exact Option.map_id'

theorem readQuotation?_of_means {meant : Char}
    (means : stand.next? character = some ([meant], after)) (rest : List Char) :
    readQuotation? stand (character :: rest) =
      (readQuotation? after rest).map (meant :: ·) := by
  rw [readQuotation?, means]
  rfl

/-- The digits of a number leave the reader with the number. -/
theorem readQuotation?_toDigits (number : Nat) (rest : List Char) :
    readQuotation? (.code 0) (Nat.toDigits 16 number ++ rest) =
      readQuotation? (.code number) rest := by
  have digit (before value : Nat) (small : value < 16) :
      (Stand.code before).next? (Nat.digitChar value) =
        some ([], .code (before * 16 + value)) := by
    have goesOn : ∀ value < 16, Nat.digitChar value ≠ '}' := by decide
    rw [Stand.next?, if_neg (goesOn value small), hexValue?_digitChar small]
    rfl
  induction number using Nat.strongRecOn generalizing rest with
  | ind number ih =>
      by_cases small : number < 16
      · rw [Nat.toDigits_of_lt_base small, List.singleton_append,
          readQuotation?_of_silent (digit 0 number small), Nat.zero_mul, Nat.zero_add]
      · rw [Nat.toDigits_of_base_le (by decide) (Nat.le_of_not_lt small), List.append_assoc,
          ih (number / 16) (by omega), List.singleton_append,
          readQuotation?_of_silent (digit _ _ (Nat.mod_lt _ (by decide))),
          Nat.div_add_mod']

/-- A written character is read as the character. -/
theorem readQuotation?_written {form : List Char} (written : Written character form)
    (rest : List Char) :
    readQuotation? .between (form ++ rest) =
      (readQuotation? .between rest).map (character :: ·) := by
  have escaped : Stand.between.next? '\\' = some ([], .escape) := rfl
  cases written with
  | plain plain =>
      obtain ⟨_, quote, backslash⟩ := plain
      refine readQuotation?_of_means ?_ rest
      rw [Stand.next?, if_neg quote, if_neg backslash]
  | short letter known =>
      have escapes : ∀ pair ∈ shortEscapes,
          Stand.escape.next? pair.1 = some ([pair.2], .between) := by decide
      exact (readQuotation?_of_silent escaped _).trans
        (readQuotation?_of_means (escapes _ known) rest)
  | codePoint =>
      have marked : Stand.escape.next? 'u' = some ([], .brace) := rfl
      have opened : Stand.brace.next? '{' = some ([], .code 0) := rfl
      have ends : (Stand.code character.toNat).next? '}' = some ([character], .between) := by
        rw [Stand.next?, if_pos rfl, Char.ofNat_toNat]
      simp only [List.cons_append, List.append_assoc, List.nil_append]
      rw [readQuotation?_of_silent escaped, readQuotation?_of_silent marked,
        readQuotation?_of_silent opened, readQuotation?_toDigits, readQuotation?_of_means ends]

/-- Written characters with the closing quote behind them are read as a text. -/
theorem readQuotation?_forms {text : List Char} {forms : List (List Char)}
    (written : List.Forall₂ Written text forms) :
    readQuotation? .between (forms.flatten ++ ['"']) = some text := by
  induction written with
  | nil => rfl
  | cons first rest ih =>
      rw [List.flatten_cons, List.append_assoc, readQuotation?_written first, ih]
      rfl

end Reading

/-! ## The quotation of a text -/

/-- What holds of a quotation of a text. -/
structure Quotation (text quotation : String) : Prop where
  /-- The characters stand between quotes, one after another. -/
  written : ∃ forms, List.Forall₂ Written text.toList forms ∧
    quotation.toList = '"' :: (forms.flatten ++ ['"'])
  /-- A text of plain characters stands there as it is. -/
  plain : (∀ character ∈ text.toList, Plain character) → quotation = "\"" ++ text ++ "\""
  /-- Nothing in it is hidden. -/
  shown : ∀ character ∈ quotation.toList, isHidden character = false
  /-- Reading it gives the text back. -/
  read : unquote? quotation = some text

theorem toList_quoted (text : String) :
    (quoted text).toList =
      '"' :: ((text.toList.map fun character => (quotedChar character).toList).flatten ++
        ['"']) := by
  rw [quoted, String.toList_append, String.toList_append, String.toList_join, List.flatMap_map]
  rfl

theorem quotation_quoted (text : String) : Quotation text (quoted text) := by
  have forms : List.Forall₂ Written text.toList
      (text.toList.map fun character => (quotedChar character).toList) := by
    rw [List.forall₂_map_right_iff, List.forall₂_same]
    exact fun character _ => written_quotedChar character
  constructor
  case written => exact ⟨_, forms, toList_quoted text⟩
  case plain =>
    intro plain
    have same : (text.toList.map fun character => (quotedChar character).toList) =
        text.toList.map fun character => [character] :=
      List.map_congr_left fun character member =>
        (written_quotedChar character).eq_of_plain (plain character member)
    rw [← String.toList_inj, toList_quoted, same, ← List.flatMap_def, List.flatMap_singleton',
      String.toList_append, String.toList_append]
    rfl
  case shown =>
    intro character member
    have mark : isHidden '"' = false := isHidden_of_ascii (by decide) (by decide)
    rw [toList_quoted, List.mem_cons, List.mem_append, List.mem_singleton] at member
    rcases member with rfl | inside | rfl
    · exact mark
    · obtain ⟨form, written, member⟩ := List.mem_flatten.mp inside
      obtain ⟨source, _, rfl⟩ := List.mem_map.mp written
      exact (written_quotedChar source).isHidden_of_mem member
    · exact mark
  case read =>
    have opened : Stand.start.next? '"' = some ([], .between) := rfl
    rw [unquote?, toList_quoted, readQuotation?_of_silent opened, readQuotation?_forms forms,
      Option.map_some, String.ofList_toList]

example : unquote? "\"7\\n\\u\x7b200b\x7d\"" = some "7\n\u200b" := by decide +kernel

end LedKit.Text
