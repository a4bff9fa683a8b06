import LedKit.Text.Decimal

/-!
# Texts in JSON

A JSON text value stands between double quotes. A backslash begins an escape: a short one, or the
number of a UTF-16 unit in four hexadecimal digits. Units of a surrogate pair stand for one
character; a unit of a pair on its own stands for none. A value that is only passed over may hold
such units, a value that is used may not.
-/

namespace LedKit.Json

/-- A piece of a text value: a character, or a UTF-16 unit by its number. -/
inductive Piece where
  | character (value : Char)
  | unit (number : Nat)
  deriving DecidableEq

/-- The number that four hexadecimal digits give, and the text after them. -/
def takeUnit? : List Char → Option (Nat × List Char)
  | first :: second :: third :: fourth :: rest =>
    match Text.hexValue? first, Text.hexValue? second, Text.hexValue? third,
      Text.hexValue? fourth with
    | some a, some b, some c, some d => some (((a * 16 + b) * 16 + c) * 16 + d, rest)
    | _, _, _, _ => none
  | _ => none

theorem length_lt_of_takeUnit? {text rest : List Char} {number : Nat}
    (found : takeUnit? text = some (number, rest)) : rest.length < text.length := by
  unfold takeUnit? at found
  split at found
  · split at found
    · simp only [Option.some.injEq, Prod.mk.injEq] at found
      rw [← found.2]
      simp only [List.length_cons]
      omega
    · contradiction
  · contradiction

/-- What a short escape stands for. -/
def escaped? (character : Char) : Option Char :=
  match character with
  | '"' => some '"'
  | '\\' => some '\\'
  | '/' => some '/'
  | 'b' => some '\x08'
  | 'f' => some '\x0c'
  | 'n' => some '\n'
  | 'r' => some '\r'
  | 't' => some '\t'
  | _ => none

/-- The piece that follows a backslash, and the text after it. -/
def takeEscape? : List Char → Option (Piece × List Char)
  | [] => none
  | character :: rest =>
    if character = 'u' then (takeUnit? rest).map fun (number, after) => (.unit number, after)
    else (escaped? character).map fun meant => (.character meant, rest)

theorem length_lt_of_takeEscape? {text rest : List Char} {piece : Piece}
    (found : takeEscape? text = some (piece, rest)) : rest.length < text.length := by
  unfold takeEscape? at found
  split at found
  · contradiction
  · split at found
    · obtain ⟨⟨number, after⟩, taken, same⟩ := Option.map_eq_some_iff.mp found
      have := length_lt_of_takeUnit? taken
      simp only [Prod.mk.injEq] at same
      rw [← same.2, List.length_cons]
      omega
    · obtain ⟨meant, _, same⟩ := Option.map_eq_some_iff.mp found
      simp only [Prod.mk.injEq] at same
      rw [← same.2, List.length_cons]
      omega

/-- The piece that a text begins with inside of quotes, and the text after it. Control characters
have to be escaped. -/
def takePiece? : List Char → Option (Piece × List Char)
  | [] => none
  | character :: rest =>
    if character = '\\' then takeEscape? rest
    else if character.toNat < 32 then none
    else some (.character character, rest)

theorem length_lt_of_takePiece? {text rest : List Char} {piece : Piece}
    (found : takePiece? text = some (piece, rest)) : rest.length < text.length := by
  unfold takePiece? at found
  split at found
  · contradiction
  · split at found
    · have := length_lt_of_takeEscape? found
      rw [List.length_cons]
      omega
    · split at found
      · contradiction
      · simp only [Option.some.injEq, Prod.mk.injEq] at found
        rw [← found.2, List.length_cons]
        omega

/-- The pieces up to the closing quote, and the text after it. -/
def takePieces? (text : List Char) : Option (List Piece × List Char) :=
  if text.head? = some '"' then
    some ([], text.tail)
  else
    match _taken : takePiece? text with
    | none => none
    | some (piece, rest) =>
      match takePieces? rest with
      | none => none
      | some (pieces, after) => some (piece :: pieces, after)
termination_by text.length
decreasing_by exact length_lt_of_takePiece? _taken

theorem length_lt_of_takePieces? {text rest : List Char} {pieces : List Piece}
    (found : takePieces? text = some (pieces, rest)) : rest.length < text.length := by
  fun_induction takePieces? text generalizing pieces rest with
  | case1 text quote =>
    simp only [Option.some.injEq, Prod.mk.injEq] at found
    rw [← found.2]
    cases text with
    | nil => simp at quote
    | cons first others => simp
  | case2 => contradiction
  | case3 => contradiction
  | case4 text notQuote piece between taken others after rests ih =>
    simp only [Option.some.injEq, Prod.mk.injEq] at found
    have := length_lt_of_takePiece? taken
    have := ih rests
    rw [← found.2]
    omega

/-- The unit begins a surrogate pair. -/
def isLeading (number : Nat) : Bool := 0xD800 ≤ number && number ≤ 0xDBFF

/-- The unit ends a surrogate pair. -/
def isTrailing (number : Nat) : Bool := 0xDC00 ≤ number && number ≤ 0xDFFF

/-- The character that a surrogate pair stands for. -/
def pairValue (leading trailing : Nat) : Char :=
  Char.ofNat (0x10000 + (leading - 0xD800) * 0x400 + (trailing - 0xDC00))

/-- The text that pieces stand for. -/
def decode? : List Piece → Option (List Char)
  | [] => some []
  | .character value :: rest => (decode? rest).map (value :: ·)
  | .unit number :: rest =>
    if isLeading number then
      match rest with
      | .unit trailing :: rest =>
        if isTrailing trailing then (decode? rest).map (pairValue number trailing :: ·) else none
      | _ => none
    else if isTrailing number then none
    else (decode? rest).map (Char.ofNat number :: ·)

/-- The text after a text value that it begins with, whatever units that holds. -/
def skipText? : List Char → Option (List Char)
  | '"' :: rest => (takePieces? rest).map (·.2)
  | _ => none

/-- The text value that a text begins with, and the text after it. -/
def takeText? : List Char → Option (List Char × List Char)
  | '"' :: rest =>
    (takePieces? rest).bind fun (pieces, after) => (decode? pieces).map fun value => (value, after)
  | _ => none

theorem length_lt_of_skipText? {text rest : List Char} (found : skipText? text = some rest) :
    rest.length < text.length := by
  unfold skipText? at found
  split at found
  · obtain ⟨⟨pieces, after⟩, taken, rfl⟩ := Option.map_eq_some_iff.mp found
    exact Nat.lt_succ_of_lt (length_lt_of_takePieces? taken)
  · contradiction

/-- A text value that can be used can be passed over, up to the same place. -/
theorem skipText?_of_takeText? {text rest value : List Char}
    (found : takeText? text = some (value, rest)) : skipText? text = some rest := by
  unfold takeText? at found
  unfold skipText?
  split at found
  · obtain ⟨⟨pieces, after⟩, taken, decoded⟩ := Option.bind_eq_some_iff.mp found
    obtain ⟨_, _, same⟩ := Option.map_eq_some_iff.mp decoded
    simp only [Prod.mk.injEq] at same
    simp [taken, same.2]
  · contradiction

theorem length_lt_of_takeText? {text rest value : List Char}
    (found : takeText? text = some (value, rest)) : rest.length < text.length :=
  length_lt_of_skipText? (skipText?_of_takeText? found)

end LedKit.Json
