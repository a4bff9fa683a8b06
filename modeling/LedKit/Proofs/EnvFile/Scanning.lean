import LedKit.EnvFile

/-!
# Scanning and reading parts of a line

A part of a line without quotes and backslashes leaves the scanner outside of quotes, and so does a
part between quotes that are closed. What a line makes of such parts is read part by part: the key,
the value, and what may trail behind it.
-/

namespace LedKit.EnvFile

open LedKit.Text

/-! ## Scanning -/

/-- The character opens neither quotes nor an escape. -/
def isCalm (character : Char) : Bool := character ∉ ['\\', '"', '\'']

namespace Scan

/-- No quote and no escape is open. -/
def isOutside : Scan → Bool
  | plain | afterBlank => true
  | _ => false

/-- Outside of quotes the text leaves the scanner outside, and is no comment. -/
def Mild (text : List Char) : Prop :=
  ∀ scan : Scan, scan.isOutside = true → ∃ after : Scan, after.isOutside = true ∧
    (scan.line text).2 = some after

/-- Outside of quotes the text leaves nothing open, and is no comment. -/
def Closed (text : List Char) : Prop :=
  ∀ scan : Scan, scan.isOutside = true → (scan.line text).2 = some plain

theorem opening_of_isCalm {character : Char} (calm : isCalm character = true) :
    opening character = plain := by
  simp only [isCalm, decide_eq_true_eq, List.mem_cons, List.not_mem_nil, or_false, not_or] at calm
  obtain ⟨backslash, weak, strong⟩ := calm
  rw [opening, if_neg backslash, if_neg weak, if_neg strong]

theorem isOutside_next {scan : Scan} (outside : scan.isOutside = true) {character : Char}
    (calm : isCalm character = true) : (scan.next character).isOutside = true := by
  cases scan with
  | plain =>
      unfold next
      dsimp only
      split
      · rfl
      · rw [opening_of_isCalm calm]; rfl
  | afterBlank =>
      change (opening character).isOutside = true
      rw [opening_of_isCalm calm]
      rfl
  | _ => cases outside

/-- The character leaves no blank open. -/
def isSettling (character : Char) : Bool := !isBlank character || character = '\n'

theorem next_of_isSettling {scan : Scan} (outside : scan.isOutside = true) {character : Char}
    (calm : isCalm character = true) (settling : isSettling character = true) :
    scan.next character = plain := by
  cases scan with
  | plain =>
      have skipped : ¬(isBlank character && character != '\n' && character != '\r') = true := by
        rw [isSettling, Bool.or_eq_true, Bool.not_eq_true', decide_eq_true_iff] at settling
        rcases settling with shown | rfl
        · simp [shown]
        · simp
      unfold next
      dsimp only
      rw [if_neg skipped, opening_of_isCalm calm]
  | afterBlank => exact opening_of_isCalm calm
  | _ => cases outside

/-- A text is scanned part by part. -/
theorem line_append {scan after : Scan} {text : List Char}
    (passes : (scan.line text).2 = some after) (rest : List Char) :
    scan.line (text ++ rest) = (text ++ (after.line rest).1, (after.line rest).2) := by
  induction text generalizing scan with
  | nil =>
      cases passes
      rfl
  | cons character others ih =>
      rw [line] at passes
      rw [List.cons_append, line]
      split at passes
      · cases passes
      · next comment =>
          rw [if_neg comment, ih passes]
          rfl

/-- What follows a comment is not scanned. -/
theorem line_append_of_ended {scan : Scan} {text : List Char} (ended : (scan.line text).2 = none)
    (rest : List Char) : scan.line (text ++ rest) = scan.line text := by
  induction text generalizing scan with
  | nil => cases ended
  | cons character others ih =>
      rw [line] at ended
      rw [List.cons_append, line, line]
      split at ended
      · next comment => rw [if_pos comment, if_pos comment]
      · next comment => rw [if_neg comment, if_neg comment, ih ended]

theorem line_cons_of_ne {scan : Scan} {character : Char} (start : character ≠ '#')
    (rest : List Char) :
    scan.line (character :: rest) =
      (character :: ((scan.next character).line rest).1, ((scan.next character).line rest).2) := by
  rw [line, if_neg fun comment => start comment.2]

theorem line_plain_cons (character : Char) (rest : List Char) :
    plain.line (character :: rest) =
      (character :: ((plain.next character).line rest).1,
        ((plain.next character).line rest).2) := by
  rw [line, if_neg fun comment => nomatch comment.1]

theorem mild_nil : Mild [] := fun scan outside => ⟨scan, outside, rfl⟩

theorem Closed.mild {text : List Char} (closed : Closed text) : Mild text :=
  fun scan outside => ⟨plain, rfl, closed scan outside⟩

theorem Mild.append {first second : List Char} (mild : Mild first) (others : Mild second) :
    Mild (first ++ second) := by
  intro scan outside
  obtain ⟨between, still, passes⟩ := mild scan outside
  obtain ⟨after, last, rest⟩ := others between still
  exact ⟨after, last, by rw [line_append passes, rest]⟩

theorem Mild.append_closed {first second : List Char} (mild : Mild first)
    (closed : Closed second) : Closed (first ++ second) := by
  intro scan outside
  obtain ⟨between, still, passes⟩ := mild scan outside
  rw [line_append passes, closed between still]

/-- Calm characters among which is no number sign. -/
theorem mild_of_isCalm {text : List Char}
    (calm : ∀ character ∈ text, isCalm character = true ∧ character ≠ '#') : Mild text := by
  induction text with
  | nil => exact mild_nil
  | cons character rest ih =>
      obtain ⟨first, others⟩ := List.forall_mem_cons.mp calm
      intro scan outside
      obtain ⟨after, last, passes⟩ := ih others _ (isOutside_next outside first.1)
      exact ⟨after, last, by rw [line_cons_of_ne first.2, passes]⟩

/-- A word that does not begin like a comment. -/
theorem closed_of_word {first : Char} {rest : List Char} (start : first ≠ '#')
    (word : ∀ character ∈ first :: rest, isCalm character = true ∧ isBlank character = false) :
    Closed (first :: rest) := by
  have step {scan : Scan} (outside : scan.isOutside = true) {character : Char}
      (inside : isCalm character = true ∧ isBlank character = false) :
      scan.next character = plain :=
    next_of_isSettling outside inside.1 (by simp [isSettling, inside.2])
  have onwards : ∀ text : List Char,
      (∀ character ∈ text, isCalm character = true ∧ isBlank character = false) →
        (plain.line text).2 = some plain := by
    intro text inside
    induction text with
    | nil => rfl
    | cons character others ih =>
        obtain ⟨head, tail⟩ := List.forall_mem_cons.mp inside
        rw [line_plain_cons, step rfl head]
        exact ih tail
  obtain ⟨head, tail⟩ := List.forall_mem_cons.mp word
  intro scan outside
  rw [line_cons_of_ne start, step outside head]
  exact onwards rest tail

/-- What stands between quotes that open a state and close it. -/
theorem closed_of_quoted {quote : Char} {inside : Scan} (start : quote ≠ '#')
    (opens : opening quote = inside) (shown : isBlank quote = false)
    (closes : inside.next quote = plain) (within : inside ≠ afterBlank) {content : List Char}
    (kept : ∀ character ∈ content, inside.next character = inside) :
    Closed (quote :: content ++ [quote]) := by
  have next {scan : Scan} (outside : scan.isOutside = true) : scan.next quote = inside := by
    cases scan with
    | plain =>
        unfold Scan.next
        dsimp only
        rw [shown]
        exact opens
    | afterBlank => exact opens
    | _ => cases outside
  have onwards : (inside.line (content ++ [quote])).2 = some plain := by
    induction content with
    | nil => rw [List.nil_append, line, if_neg fun comment => within comment.1, closes]; rfl
    | cons character rest ih =>
        obtain ⟨first, others⟩ := List.forall_mem_cons.mp kept
        rw [List.cons_append, line, if_neg fun comment => within comment.1, first]
        exact ih others
  intro scan outside
  rw [List.cons_append, line_cons_of_ne start, next outside]
  exact onwards

/-- Calm characters pass or end at a comment. -/
theorem line_of_isCalm {text : List Char} (calm : ∀ character ∈ text, isCalm character = true)
    {scan : Scan} (outside : scan.isOutside = true) :
    (∃ kept rest, text = kept ++ '#' :: rest ∧ scan.line text = (kept, none)) ∨
      ∃ after : Scan, after.isOutside = true ∧ (scan.line text).2 = some after := by
  induction text generalizing scan with
  | nil => exact .inr ⟨scan, outside, rfl⟩
  | cons character others ih =>
      obtain ⟨first, tail⟩ := List.forall_mem_cons.mp calm
      by_cases comment : scan = afterBlank ∧ character = '#'
      · refine .inl ⟨[], others, ?_, ?_⟩
        · rw [comment.2]; rfl
        · rw [line, if_pos comment]
      · rcases ih tail (isOutside_next outside first) with ⟨kept, rest, split, ended⟩ | passes
        · refine .inl ⟨character :: kept, rest, by rw [split]; rfl, ?_⟩
          rw [line, if_neg comment, ended]
        · refine .inr ?_
          rw [line, if_neg comment]
          exact passes

/-- The text leaves no blank open at its end. -/
def Settles (text : List Char) : Prop :=
  text = [] ∨ ∃ most last, text = most ++ [last] ∧ isSettling last = true

/-- Calm characters that settle leave nothing open where no comment ends them. -/
theorem line_of_settles {text : List Char} (calm : ∀ character ∈ text, isCalm character = true)
    (settles : Settles text) :
    (∃ kept rest, text = kept ++ '#' :: rest ∧ plain.line text = (kept, none)) ∨
      (plain.line text).2 = some plain := by
  rcases settles with rfl | ⟨most, last, rfl, settling⟩
  · exact .inr rfl
  obtain ⟨first, final⟩ := List.forall_mem_append.mp calm
  have outside : plain.isOutside = true := rfl
  rcases line_of_isCalm first outside with ⟨kept, rest, split, ended⟩ | ⟨between, still, passes⟩
  · refine .inl ⟨kept, rest ++ [last], ?_, ?_⟩
    · rw [split, List.append_assoc, List.cons_append]
    · rw [line_append_of_ended (congrArg Prod.snd ended), ended]
  · rw [line_append passes]
    by_cases comment : between = afterBlank ∧ last = '#'
    · refine .inl ⟨most, [], by rw [comment.2], ?_⟩
      rw [line, if_pos comment, List.append_nil]
    · refine .inr ?_
      rw [line, if_neg comment,
        next_of_isSettling still (final last List.mem_cons_self) settling]
      rfl

end Scan

/-! ## Lines -/

section Join

variable {line kept : List Char} (rest : List (List Char))

theorem joinAfter_of_startsComment (comment : startsComment line = true) :
    joinAfter [] .plain (line :: rest) = .complete [] :: joinAfter [] .plain rest := by
  simp [joinAfter, comment]

theorem joinAfter_of_ended (setting : startsComment line = false)
    (ended : Scan.plain.line line = (kept, none)) :
    joinAfter [] .plain (line :: rest) = .complete kept :: joinAfter [] .plain rest := by
  simp [joinAfter, setting, ended]

theorem joinAfter_of_closed (setting : startsComment line = false)
    (closed : (Scan.plain.line line).2 = some .plain) :
    joinAfter [] .plain (line :: rest) =
      .complete (dropLineEnd line) :: joinAfter [] .plain rest := by
  have scanned : Scan.plain.line line = ((Scan.plain.line line).1, some .plain) := by
    rw [← closed]
  rw [joinAfter, List.nil_append, setting, scanned]
  rfl

end Join

/-- Dropping the line end is no difference to a line whose end is trimmed. -/
theorem trimEnd_dropLineEnd (line : List Char) : trimEnd (dropLineEnd line) = trimEnd line := by
  unfold dropLineEnd
  split
  · next newline =>
      obtain ⟨most, rfl⟩ := List.getLast?_eq_some_iff.mp newline
      have ending : trimEnd (most ++ ['\n']) = trimEnd most :=
        trimEnd_append_of_blank (List.forall_mem_singleton.mpr (by decide))
      rw [List.dropLast_concat, ending]
      split
      · next carriageReturn =>
          obtain ⟨former, rfl⟩ := List.getLast?_eq_some_iff.mp carriageReturn
          rw [List.dropLast_concat]
          exact (trimEnd_append_of_blank (List.forall_mem_singleton.mpr (by decide))).symm
      · rfl
  · rfl

/-! ## Keys and values -/

namespace Assignment

theorem isKeyPart_iff {character : Char} :
    isKeyPart character = true ↔
      (character.isAlphanum = true ∨ character = '_') ∨ character = '.' := by
  rw [isKeyPart, Bool.or_eq_true_iff, Bool.or_eq_true_iff, decide_eq_true_iff, decide_eq_true_iff]

/-- A character of a key is neither blank nor does it open anything. -/
theorem isCalm_and_shown_of_isKeyPart {character : Char} (part : isKeyPart character = true) :
    isCalm character = true ∧ isBlank character = false := by
  have bounds : 46 ≤ character.toNat ∧ character.toNat ≤ 122 := by
    rcases isKeyPart_iff.mp part with (ascii | rfl) | rfl
    · obtain ⟨range, member, above, below⟩ := inRanges_iff.mp (inRanges_of_isAlphanum ascii)
      have inside : ∀ range ∈ asciiRanges, 46 ≤ range.1 ∧ range.2 ≤ 122 := by decide
      exact ⟨Nat.le_trans (inside range member).1 above, Nat.le_trans below (inside range member).2⟩
    · decide
    · decide
  constructor
  · rw [isCalm, decide_eq_true_iff]
    intro opens
    simp only [List.mem_cons, List.not_mem_nil, or_false] at opens
    rcases opens with rfl | rfl | rfl <;> exact absurd part (by decide)
  · refine Bool.eq_false_iff.mpr fun blank => ?_
    obtain ⟨range, member, above, below⟩ := inRanges_iff.mp blank
    have apart : ∀ range ∈ blankRanges, range.2 < 46 ∨ 122 < range.1 := by decide
    rcases apart range member with before | after <;> omega

theorem isKeyPart_of_isKeyStart {character : Char} (start : isKeyStart character = true) :
    isKeyPart character = true := by
  rw [isKeyPart_iff]
  rcases Bool.or_eq_true_iff.mp start with letter | underscore
  · exact .inl (.inl (Bool.or_eq_true_iff.mpr (.inl letter)))
  · exact .inl (.inr (of_decide_eq_true underscore))

end Assignment

/-- Spaces and tabs. -/
structure Gap where
  text : List Char
  blank : ∀ character ∈ text, character = ' ' ∨ character = '\t'

theorem Gap.isBlank_of_mem (gap : Gap) {character : Char} (member : character ∈ gap.text) :
    isBlank character = true := by
  rcases gap.blank character member with rfl | rfl <;> decide

/-- The key of a setting. -/
structure Key where
  first : Char
  others : List Char
  start : Assignment.isKeyStart first = true
  parts : ∀ character ∈ others, Assignment.isKeyPart character = true

namespace Key

def text (key : Key) : List Char := key.first :: key.others

/-- The word that may stand before a key. -/
def exportWord : Key := ⟨'e', "xport".toList, by decide, List.all_eq_true.mp (by decide)⟩

theorem text_exportWord : exportWord.text = "export".toList := by decide

theorem isKeyPart_of_mem (key : Key) :
    ∀ character ∈ key.text, Assignment.isKeyPart character = true :=
  List.forall_mem_cons.mpr ⟨Assignment.isKeyPart_of_isKeyStart key.start, key.parts⟩

theorem isBlank_first (key : Key) : isBlank key.first = false :=
  (Assignment.isCalm_and_shown_of_isKeyPart (Assignment.isKeyPart_of_isKeyStart key.start)).2

theorem first_ne {character : Char} (never : Assignment.isKeyStart character = false) (key : Key) :
    key.first ≠ character := by
  rintro rfl
  rw [key.start] at never
  cases never

end Key

namespace Assignment

/-- A key is taken up to the blanks behind it, or up to what is no part of a key. -/
theorem takeKey?_append (key : Key) (gap : Gap) {stop : Char} (shown : isBlank stop = false)
    (apart : gap.text ≠ [] ∨ isKeyPart stop = false) (rest : List Char) :
    takeKey? (key.text ++ (gap.text ++ stop :: rest)) = some (key.text, stop :: rest) := by
  obtain ⟨next, after, split, stops⟩ : ∃ next after, gap.text ++ stop :: rest = next :: after ∧
      isKeyPart next = false := by
    cases held : gap.text with
    | nil => exact ⟨stop, rest, rfl, apart.resolve_left fun filled => filled held⟩
    | cons next after =>
        refine ⟨next, after ++ stop :: rest, rfl, Bool.eq_false_iff.mpr fun part => ?_⟩
        have white := gap.isBlank_of_mem (held ▸ List.mem_cons_self)
        rw [(isCalm_and_shown_of_isKeyPart part).2] at white
        cases white
  have taken : (key.text ++ (gap.text ++ stop :: rest)).takeWhile isKeyPart = key.text := by
    rw [List.takeWhile_append_of_pos key.isKeyPart_of_mem, split,
      List.takeWhile_cons_of_neg (by simp [stops]), List.append_nil]
  have dropped : (key.text ++ (gap.text ++ stop :: rest)).dropWhile isKeyPart =
      gap.text ++ stop :: rest := by
    rw [List.dropWhile_append_of_pos key.isKeyPart_of_mem, split,
      List.dropWhile_cons_of_neg (by simp [stops])]
  have begun : takeKey? (key.text ++ (gap.text ++ stop :: rest)) =
      some ((key.text ++ (gap.text ++ stop :: rest)).takeWhile isKeyPart,
        trimStart ((key.text ++ (gap.text ++ stop :: rest)).dropWhile isKeyPart)) :=
    if_pos key.start
  rw [begun, taken, dropped, trimStart_append_of_blank fun _ => gap.isBlank_of_mem,
    trimStart_cons_of_not_blank shown]

section Lines

variable {line after : List Char} (lead : Gap) (key : Key) (before : Gap)

theorem isVoid_key (rest : List Char) : isVoid (key.text ++ rest) = false :=
  decide_eq_false (Key.first_ne (by decide) key)

theorem trimStart_key (rest : List Char) :
    trimStart (lead.text ++ (key.text ++ rest)) = key.text ++ rest := by
  rw [trimStart_append_of_blank fun _ => lead.isBlank_of_mem]
  exact trimStart_cons_of_not_blank key.isBlank_first _

theorem takeKey?_equals :
    takeKey? (key.text ++ (before.text ++ '=' :: after)) = some (key.text, '=' :: after) :=
  takeKey?_append key before (by decide) (.inr (by decide)) after

/-- A key with an equals sign behind it has for its value what follows. -/
theorem ofLine_of_key
    (written : trimEnd line = lead.text ++ (key.text ++ (before.text ++ '=' :: after))) :
    ofLine line = ofKey key.text after := by
  rw [ofLine]
  simp only [written, trimStart_key, isVoid_key, takeKey?_equals]
  rfl

theorem dropEquals?_key (rest : List Char) : dropEquals? (key.text ++ rest) = none := by
  unfold dropEquals?
  split
  · next others same => exact absurd (List.cons.inj same).1 (Key.first_ne (by decide) key)
  · rfl

/-- The word before a key, with blanks between them, makes no difference. -/
theorem ofLine_of_export (exported : Gap) (apart : exported.text ≠ [])
    (written : trimEnd line =
      lead.text ++ (Key.exportWord.text ++ (exported.text ++
        (key.text ++ (before.text ++ '=' :: after))))) :
    ofLine line = ofKey key.text after := by
  have wordTaken : takeKey? (Key.exportWord.text ++ (exported.text ++ (key.text ++
      (before.text ++ '=' :: after)))) =
        some (Key.exportWord.text, key.text ++ (before.text ++ '=' :: after)) :=
    takeKey?_append Key.exportWord exported key.isBlank_first (.inl apart) _
  rw [ofLine]
  simp only [written, trimStart_key, isVoid_key, wordTaken, dropEquals?_key, takeKey?_equals]
  rw [if_neg Bool.false_ne_true, if_pos Key.text_exportWord]
  rfl

end Lines

end Assignment

namespace Value

/-- Characters that stand for themselves at a place are kept there. -/
theorem readFrom_literals {place : Place} (within : place ≠ .ended) {text : List Char}
    (kept : ∀ character ∈ text, place.next? character = some ([.literal character], place))
    {rest : List Char} {value : Value} {index : Nat}
    (read : ∀ later, readFrom place later rest = .ok value) :
    readFrom place index (text ++ rest) = .ok (text.map .literal ++ value) := by
  induction text generalizing index with
  | nil => exact read index
  | cons character others ih =>
      obtain ⟨first, tail⟩ := List.forall_mem_cons.mp kept
      rw [List.cons_append, readFrom, if_neg fun comment => within comment.1, first]
      simp only [ih tail]
      rfl

/-- A character that adds nothing moves to its place. -/
theorem readFrom_cons {place after : Place} (within : place ≠ .ended) {character : Char}
    (moves : place.next? character = some ([], after)) {rest : List Char} {value : Value}
    {index : Nat} (read : readFrom after (index + 1) rest = .ok value) :
    readFrom place index (character :: rest) = .ok value := by
  rw [readFrom, if_neg fun comment => within comment.1, moves]
  simp only [read]
  rfl

end Value

/-- What may trail behind a value: nothing but blanks, or blanks and a comment. -/
def Trails (text : List Char) : Prop :=
  (∀ character ∈ text, isBlank character = true) ∨
    ∃ (gap : Gap) (rest : List Char), gap.text ≠ [] ∧ text = gap.text ++ '#' :: rest

namespace Value

theorem readFrom_ended_gap (gap : Gap) (rest : List Char) (index : Nat) :
    readFrom .ended index (gap.text ++ '#' :: rest) = .ok [] := by
  obtain ⟨text, blank⟩ := gap
  dsimp only
  induction text generalizing index with
  | nil => rfl
  | cons character others ih =>
      obtain ⟨first, tail⟩ := List.forall_mem_cons.mp blank
      have moves : Place.next? .ended character = some ([], .ended) := by
        rcases first with rfl | rfl <;> rfl
      have plain : character ≠ '#' := by rcases first with rfl | rfl <;> decide
      rw [List.cons_append, readFrom, if_neg fun comment => plain comment.2, moves]
      simp only [ih _ tail]
      rfl

/-- What trails behind a value adds nothing to it. -/
theorem readFrom_trails {text : List Char} (trails : Trails text) (index : Nat) :
    readFrom .bare index (trimEnd text) = .ok [] := by
  rcases trails with blank | ⟨gap, rest, filled, rfl⟩
  · rw [trimEnd_of_blank blank]
    rfl
  · rw [trimEnd_append_cons (by decide)]
    obtain ⟨first, others, split⟩ := List.exists_cons_of_ne_nil filled
    have moves : Place.next? .bare first = some ([], .ended) := by
      rcases gap.blank first (split ▸ List.mem_cons_self) with rfl | rfl <;> rfl
    have blank : ∀ character ∈ others, character = ' ' ∨ character = '\t' := fun character member =>
      gap.blank character (split ▸ List.mem_cons_of_mem first member)
    have within : Place.bare ≠ .ended := by decide
    rw [split]
    exact readFrom_cons within moves (readFrom_ended_gap ⟨others, blank⟩ (trimEnd rest) _)

end Value

end LedKit.EnvFile
