import LedKit.Json.Codec
import LedKit.Proofs.Json.Literals

/-!
# More text behind what was read

A reader never looks further than one character behind what it takes. When it left some text, it
takes the same from a longer text and leaves that much more. A text value even ends with its own
last character, so nothing need be left behind it.
-/

namespace LedKit.Json

variable {text rest : List Char}

/-! ## Blanks, words and texts -/

theorem dropBlanks_append_of_ne_nil (solid : dropBlanks text ≠ []) (more : List Char) :
    dropBlanks (text ++ more) = dropBlanks text ++ more := by
  have filled : (text.dropWhile isBlank).isEmpty = false := by
    rw [List.isEmpty_eq_false_iff]
    exact solid
  rw [dropBlanks, List.dropWhile_append, filled]
  rfl

theorem head?_append_of_ne_nil (filled : text ≠ []) (more : List Char) :
    (text ++ more).head? = text.head? := by
  obtain ⟨first, others, rfl⟩ := List.exists_cons_of_ne_nil filled
  rfl

/-- What takes nothing from no text was given some. -/
theorem ne_nil_of_eq_some {α : Type} {scan : List Char → Option α} {result : α}
    (found : scan text = some result) (fails : scan [] = none) : text ≠ [] := by
  rintro rfl
  rw [fails] at found
  cases found

theorem dropWord?_append {word : List Char} (found : dropWord? word text = some rest)
    (more : List Char) : dropWord? word (text ++ more) = some (rest ++ more) := by
  rw [dropWord?_eq_some_iff] at found ⊢
  rw [found, List.append_assoc]

theorem dropAnyWord?_extends (found : dropAnyWord? text = some rest) (more : List Char) :
    dropAnyWord? (text ++ more) = some (rest ++ more) := by
  obtain ⟨word, known, dropped⟩ := List.exists_of_findSome?_eq_some found
  rw [dropWord?_eq_some_iff.mp dropped, List.append_assoc]
  exact dropAnyWord?_append known (rest ++ more)

theorem takeUnit?_extends {number : Nat} (found : takeUnit? text = some (number, rest))
    (more : List Char) : takeUnit? (text ++ more) = some (number, rest ++ more) := by
  unfold takeUnit? at found
  split at found
  · split at found
    · next a b c d _ _ _ _ =>
      cases found
      simp only [List.cons_append, takeUnit?, *]
    · cases found
  · cases found

theorem takeEscape?_extends {piece : Piece} (found : takeEscape? text = some (piece, rest))
    (more : List Char) : takeEscape? (text ++ more) = some (piece, rest ++ more) := by
  unfold takeEscape? at found
  split at found
  · cases found
  · next character others =>
    rw [List.cons_append, takeEscape?]
    split at found
    · next unit =>
      obtain ⟨⟨number, after⟩, taken, same⟩ := Option.map_eq_some_iff.mp found
      cases same
      rw [if_pos unit, takeUnit?_extends taken]
      rfl
    · next other =>
      obtain ⟨meant, known, same⟩ := Option.map_eq_some_iff.mp found
      cases same
      rw [if_neg other, known]
      rfl

theorem takePiece?_extends {piece : Piece} (found : takePiece? text = some (piece, rest))
    (more : List Char) : takePiece? (text ++ more) = some (piece, rest ++ more) := by
  unfold takePiece? at found
  split at found
  · cases found
  · next character others =>
    rw [List.cons_append, takePiece?]
    split at found
    · next escape =>
      rw [if_pos escape]
      exact takeEscape?_extends found more
    · next direct =>
      split at found
      · cases found
      · next shown =>
        cases found
        rw [if_neg direct, if_neg shown]

theorem takePieces?_extends {pieces : List Piece} (found : takePieces? text = some (pieces, rest))
    (more : List Char) : takePieces? (text ++ more) = some (pieces, rest ++ more) := by
  fun_induction takePieces? text generalizing pieces rest with
  | case1 text quote =>
      cases found
      obtain ⟨others, rfl⟩ : ∃ others, text = '"' :: others := by
        cases text with
        | nil => cases quote
        | cons first others => exact ⟨others, by cases quote; rfl⟩
      exact takePieces?_quote (others ++ more)
  | case2 => cases found
  | case3 => cases found
  | case4 text inside piece between taken others after rests ih =>
      cases found
      have filled : text ≠ [] := ne_nil_of_eq_some taken rfl
      have direct : (text ++ more).head? ≠ some '"' := by
        rwa [head?_append_of_ne_nil filled]
      rw [takePieces?_of_takePiece? direct (takePiece?_extends taken more), ih rests]
      rfl

/-- A text value ends by itself. -/
theorem takeText?_extends {value : List Char} (found : takeText? text = some (value, rest))
    (more : List Char) : takeText? (text ++ more) = some (value, rest ++ more) := by
  unfold takeText? at found
  split at found
  · obtain ⟨⟨pieces, after⟩, taken, decoded⟩ := Option.bind_eq_some_iff.mp found
    obtain ⟨content, known, same⟩ := Option.map_eq_some_iff.mp decoded
    cases same
    rw [List.cons_append, takeText?, takePieces?_extends taken]
    simp [known]
  · cases found

theorem skipText?_extends (found : skipText? text = some rest) (more : List Char) :
    skipText? (text ++ more) = some (rest ++ more) := by
  unfold skipText? at found
  split at found
  · obtain ⟨⟨pieces, after⟩, taken, rfl⟩ := Option.map_eq_some_iff.mp found
    rw [List.cons_append, skipText?, takePieces?_extends taken]
    rfl
  · cases found

theorem skipKey?_extends (found : skipKey? text = some rest) (more : List Char) :
    skipKey? (text ++ more) = some (rest ++ more) := by
  obtain ⟨between, skipped, dropped⟩ := Option.bind_eq_some_iff.mp found
  have key : dropBlanks text ≠ [] := ne_nil_of_eq_some skipped rfl
  have colon : dropBlanks between ≠ [] := ne_nil_of_eq_some dropped rfl
  rw [skipKey?, dropBlanks_append_of_ne_nil key, skipText?_extends skipped, Option.bind_some,
    dropBlanks_append_of_ne_nil colon, dropWord?_append dropped]

/-! ## Numbers -/

theorem takeDigits?_extends {digits : List Char} (found : takeDigits? text = some (digits, rest))
    (left : rest ≠ []) (more : List Char) :
    takeDigits? (text ++ more) = some (digits, rest ++ more) := by
  simp only [takeDigits?, Option.ite_none_left_eq_some, Option.some.injEq, Prod.mk.injEq] at found
  obtain ⟨filled, rfl, rfl⟩ := found
  have parts := congrArg List.length
    (List.takeWhile_append_dropWhile (p := Char.isDigit) (l := text))
  have short : ¬ (text.takeWhile Char.isDigit).length = text.length := by
    have := List.length_pos_iff.mpr left
    rw [List.length_append] at parts
    omega
  have stops : ¬ (text.dropWhile Char.isDigit).isEmpty = true := by
    rwa [List.isEmpty_iff]
  rw [takeDigits?, List.takeWhile_append, if_neg short, if_neg filled, List.dropWhile_append,
    if_neg stops]

theorem takeWhole?_extends {digits : List Char} (found : takeWhole? text = some (digits, rest))
    (left : rest ≠ []) (more : List Char) :
    takeWhole? (text ++ more) = some (digits, rest ++ more) := by
  unfold takeWhole? at found
  split at found
  · cases found
  · next taken =>
    split at found
    · cases found
    · next leading =>
      cases found
      simp only [takeWhole?, takeDigits?_extends taken left, if_neg leading]

theorem takeFraction?_extends {fraction : Option (List Char)}
    (found : takeFraction? text = some (fraction, rest)) (left : rest ≠ []) (more : List Char) :
    takeFraction? (text ++ more) = some (fraction, rest ++ more) := by
  unfold takeFraction? at found
  split at found
  · obtain ⟨⟨digits, after⟩, taken, same⟩ := Option.map_eq_some_iff.mp found
    cases same
    rw [List.cons_append, takeFraction?, takeDigits?_extends taken left]
    rfl
  · next noPoint =>
    cases found
    rw [takeFraction?]
    · intro others same
      obtain ⟨first, after, rfl⟩ := List.exists_cons_of_ne_nil left
      cases same
      exact noPoint after rfl

theorem dropSign_append (filled : text ≠ []) (more : List Char) :
    dropSign (text ++ more) = ((dropSign text).1, (dropSign text).2 ++ more) := by
  obtain ⟨first, others, rfl⟩ := List.exists_cons_of_ne_nil filled
  by_cases plus : first = '+'
  · rw [plus]
    rfl
  by_cases minus : first = '-'
  · rw [minus]
    rfl
  have unsigned (after : List Char) : dropSign (first :: after) = (false, first :: after) := by
    rw [dropSign]
    · rintro _ ⟨⟩
      exact plus rfl
    · rintro _ ⟨⟩
      exact minus rfl
  rw [List.cons_append, unsigned, unsigned]
  rfl

theorem takeExponent?_extends {exponent : Option (Bool × List Char)}
    (found : takeExponent? text = some (exponent, rest)) (left : rest ≠ []) (more : List Char) :
    takeExponent? (text ++ more) = some (exponent, rest ++ more) := by
  unfold takeExponent? at found
  split at found
  · cases found
    exact absurd rfl left
  · next letter others =>
    rw [List.cons_append, takeExponent?]
    split at found
    · next isLetter =>
      obtain ⟨⟨digits, after⟩, taken, same⟩ := Option.map_eq_some_iff.mp found
      cases same
      have filled : others ≠ [] := by
        rintro rfl
        cases taken
      rw [if_pos isLetter, dropSign_append filled, takeDigits?_extends taken left]
      rfl
    · next noLetter =>
      cases found
      rw [if_neg noLetter]
      rfl

theorem ne_nil_of_length_le {after : List Char} (shorter : rest.length ≤ after.length)
    (left : rest ≠ []) : after ≠ [] :=
  List.ne_nil_of_length_pos (Nat.lt_of_lt_of_le (List.length_pos_iff.mpr left) shorter)

theorem takeUnsigned?_extends {isNegative : Bool} {numeral : Numeral}
    (found : takeUnsigned? isNegative text = some (numeral, rest)) (left : rest ≠ [])
    (more : List Char) :
    takeUnsigned? isNegative (text ++ more) = some (numeral, rest ++ more) := by
  unfold takeUnsigned? at found
  split at found
  · cases found
  · next whole =>
    split at found
    · cases found
    · next fraction =>
      split at found
      · cases found
      · next exponent =>
        cases found
        have leftFraction := ne_nil_of_length_le (length_le_of_takeExponent? exponent) left
        have leftWhole := ne_nil_of_length_le (length_le_of_takeFraction? fraction) leftFraction
        simp only [takeUnsigned?, takeWhole?_extends whole leftWhole,
          takeFraction?_extends fraction leftFraction, takeExponent?_extends exponent left]

/-- A number ends before the first character that cannot belong to it. -/
theorem takeNumeral?_extends {numeral : Numeral}
    (found : takeNumeral? text = some (numeral, rest)) (left : rest ≠ []) (more : List Char) :
    takeNumeral? (text ++ more) = some (numeral, rest ++ more) := by
  unfold takeNumeral? at found
  split at found
  · rw [List.cons_append, takeNumeral?]
    exact takeUnsigned?_extends found left more
  · next noSign =>
    rw [takeNumeral?]
    · exact takeUnsigned?_extends found left more
    · intro others same
      have filled : text ≠ [] := ne_nil_of_eq_some found rfl
      obtain ⟨first, after, rfl⟩ := List.exists_cons_of_ne_nil filled
      cases same
      exact noSign after rfl

/-! ## Values that are passed over -/

theorem skipScalar?_extends (found : skipScalar? text = some rest) (left : rest ≠ [])
    (more : List Char) : skipScalar? (text ++ more) = some (rest ++ more) := by
  unfold skipScalar? at found
  split at found
  · cases found
  · next first head =>
    have filled : text ≠ [] := ne_nil_of_eq_some head rfl
    simp only [skipScalar?, head?_append_of_ne_nil filled, head]
    split at found
    · next quote =>
      rw [if_pos quote]
      exact skipText?_extends found more
    · next noQuote =>
      rw [if_neg noQuote]
      split at found
      · next begins =>
        obtain ⟨⟨numeral, after⟩, taken, rfl⟩ := Option.map_eq_some_iff.mp found
        rw [if_pos begins, takeNumeral?_extends taken left]
        rfl
      · next other =>
        rw [if_neg other]
        exact dropAnyWord?_extends found more

/-- The scan takes the same when more text follows, if it leaves some. -/
def Extends (scan : List Char → Option (List Char)) (text : List Char) : Prop :=
  ∀ rest, scan text = some rest → rest ≠ [] → ∀ more, scan (text ++ more) = some (rest ++ more)

theorem dropBlanks_extends {first : Char} {others : List Char}
    (solid : dropBlanks text = first :: others) (more : List Char) :
    dropBlanks (text ++ more) = first :: (others ++ more) := by
  rw [dropBlanks_append_of_ne_nil (solid ▸ List.cons_ne_nil _ _), solid]
  rfl

theorem dropBlanks_ne_nil_of_skipPart? {frame : Frame} {frames : List Frame}
    (found : skipPart? frame frames text = some rest) : dropBlanks text ≠ [] := by
  intro none
  cases frame with
  | list =>
      rw [skipPart?, skipWithin?] at found
      grind
  | object =>
      rw [skipPart?_object, skipKey?, none] at found
      cases found

theorem head?_ne_of_dropWord? {expected : Char} (other : dropWord? [expected] text = none) :
    text.head? ≠ some expected := by
  cases text with
  | nil => exact nofun
  | cons first others =>
      rintro ⟨⟩
      rw [dropWord?, if_pos rfl] at other
      cases other

/-- What is passed over stays the same, whatever is open around it. -/
theorem skip_extends :
    (∀ frames text, Extends (skipWithin? frames) text) ∧
    (∀ frames text, Extends (skipOut? frames) text) ∧
    (∀ frame frames text, Extends (skipPart? frame frames) text) ∧
    (∀ frame frames text, Extends (skipFirst? frame frames) text) := by
  -- The induction follows the scan; where it fails there is nothing to show.
  apply skipWithin?.mutual_induct
    (fun frames text => Extends (skipWithin? frames) text)
    (fun frames text => Extends (skipOut? frames) text)
    (fun frame frames text => Extends (skipPart? frame frames) text)
    (fun frame frames text => Extends (skipFirst? frame frames) text)
  case case1 =>
    intro frames text none rest found
    rw [skipWithin?] at found
    grind
  case case2 =>
    intro frames text others solid ih rest found left more
    rw [skipWithin?_of_solid solid, if_pos rfl] at found
    rw [skipWithin?_of_solid (dropBlanks_extends solid more), if_pos rfl, ih rest found left more]
  case case3 =>
    intro frames text others solid other ih rest found left more
    rw [skipWithin?_of_solid solid, if_neg other, if_pos rfl] at found
    rw [skipWithin?_of_solid (dropBlanks_extends solid more), if_neg other, if_pos rfl,
      ih rest found left more]
  case case4 =>
    intro frames text first others solid noList noObject none rest found
    rw [skipWithin?_of_solid solid, if_neg noList, if_neg noObject, none] at found
    cases found
  case case5 =>
    intro frames text first others solid noList noObject after skipped ih rest found left more
    rw [skipWithin?_of_solid solid, if_neg noList, if_neg noObject, skipped] at found
    have behind := ne_nil_of_length_le (length_skip.2.1 _ _ _ found) left
    have scalar := skipScalar?_extends skipped behind more
    rw [skipWithin?_of_solid (dropBlanks_extends solid more), if_neg noList, if_neg noObject,
      ← List.cons_append, scalar]
    exact ih rest found left more
  case case6 =>
    intro text rest found left more
    rw [skipOut?] at found ⊢
    cases found
    rfl
  case case7 =>
    intro text frame frames none rest found
    rw [skipOut?] at found
    grind
  case case8 =>
    intro text frame frames others solid ih rest found left more
    rw [skipOut?_of_solid frame frames solid, if_pos rfl] at found
    rw [skipOut?_of_solid frame frames (dropBlanks_extends solid more), if_pos rfl,
      ih rest found left more]
  case case9 =>
    intro text frame frames others solid other ih rest found left more
    rw [skipOut?_of_solid frame frames solid, if_neg other, if_pos rfl] at found
    rw [skipOut?_of_solid frame frames (dropBlanks_extends solid more), if_neg other, if_pos rfl,
      ih rest found left more]
  case case10 =>
    intro text frame frames first others solid noComma noClosing rest found
    rw [skipOut?_of_solid frame frames solid, if_neg noComma, if_neg noClosing] at found
    cases found
  case case11 =>
    intro frames text ih rest found left more
    rw [skipPart?] at found ⊢
    exact ih rest found left more
  case case12 =>
    intro frames text none rest found
    rw [skipPart?_object, none] at found
    cases found
  case case13 =>
    intro frames text after key ih rest found left more
    rw [skipPart?_object, key] at found
    rw [skipPart?_object, skipKey?_extends key]
    exact ih rest found left more
  case case14 =>
    intro frame frames text after closed ih rest found left more
    have solid := dropWord?_eq_some_iff.mp closed
    rw [skipFirst?_eq, solid] at found
    rw [skipFirst?_eq, dropBlanks_extends solid more]
    simp only [List.singleton_append, List.head?_cons, if_true, List.tail_cons] at found ⊢
    exact ih rest found left more
  case case15 =>
    intro frame frames text unclosed ih rest found left more
    have outside := head?_ne_of_dropWord? unclosed
    rw [skipFirst?_eq, if_neg outside] at found
    have solid := dropBlanks_ne_nil_of_skipPart? found
    rw [skipFirst?_eq, dropBlanks_append_of_ne_nil solid, head?_append_of_ne_nil solid,
      if_neg outside]
    exact ih rest found left more

/-- A value that is passed over stays the same when more text follows. -/
theorem skipValue?_extends (found : skipValue? text = some rest) (left : rest ≠ [])
    (more : List Char) : skipValue? (text ++ more) = some (rest ++ more) :=
  skip_extends.1 [] text rest found left more

/-! ## Readers -/

theorem expect_extends {expected : Char} (found : expect [expected] text = .ok rest)
    (more : List Char) : expect [expected] (text ++ more) = .ok (rest ++ more) := by
  unfold expect at found
  split at found
  · cases found
  · next dropped =>
    cases found
    have solid : dropBlanks text = expected :: rest := dropWord?_eq_some_iff.mp dropped
    simp [expect, dropBlanks_extends solid more, dropWord?]

theorem readNatural_extends {bound value : Nat} (found : readNatural bound text = .ok (value, rest))
    (left : rest ≠ []) (more : List Char) :
    readNatural bound (text ++ more) = .ok (value, rest ++ more) := by
  by_cases begins : beginsNumeral (dropBlanks text) = true
  · have solid : dropBlanks text ≠ [] := by
      intro none
      rw [none] at begins
      cases begins
    have same := dropBlanks_append_of_ne_nil solid more
    have stillBegins : beginsNumeral (dropBlanks (text ++ more)) = true := by
      rwa [same, beginsNumeral, head?_append_of_ne_nil solid]
    cases taken : takeNumeral? (dropBlanks text) with
    | none =>
        simp only [readNatural, if_pos begins, taken] at found
        cases found
    | some result =>
        obtain ⟨numeral, after⟩ := result
        rw [readNatural_of_takeNumeral? bound begins taken] at found
        cases number : asNatural bound numeral.magnitude with
        | error fault =>
            rw [number] at found
            cases found
        | ok own =>
            rw [number] at found
            cases found
            have extended := takeNumeral?_extends taken left more
            rw [← same] at extended
            rw [readNatural_of_takeNumeral? bound stillBegins extended, number]
            rfl
  · simp only [readNatural, if_neg begins] at found
    cases found

theorem readValueOf_extends {draft after : Draft} {key : List Char}
    (found : readValueOf draft key text = .ok (after, rest)) (left : rest ≠ []) (more : List Char) :
    readValueOf draft key (text ++ more) = .ok (after, rest ++ more) := by
  unfold readValueOf at found ⊢
  split at found
  · next unknown =>
    split at found
    · cases found
    · next colon =>
      split at found
      · cases found
      · next skipped =>
        cases found
        simp only [expect_extends colon, skipValue?_extends skipped left]
  · next member known =>
    split at found
    · cases found
    · next missing =>
      split at found
      · cases found
      · next colon =>
        split at found
        · cases found
        · next read =>
          cases found
          simp only [if_neg missing, expect_extends colon, readNatural_extends read left]

theorem readMember_extends {draft after : Draft}
    (found : readMember draft text = .ok (after, rest)) (left : rest ≠ []) (more : List Char) :
    readMember draft (text ++ more) = .ok (after, rest ++ more) := by
  unfold readMember at found
  split at found
  · cases found
  · next key between taken =>
    have solid : dropBlanks text ≠ [] := ne_nil_of_eq_some taken rfl
    simp only [readMember, dropBlanks_append_of_ne_nil solid, takeText?_extends taken]
    exact readValueOf_extends found left more

theorem dropBlanks_ne_nil_of_readMember {draft after : Draft}
    (found : readMember draft text = .ok (after, rest)) : dropBlanks text ≠ [] := by
  intro none
  rw [readMember, none] at found
  cases found

theorem dropBlanks_ne_nil_of_expect {expected : Char} (found : expect [expected] text = .ok rest) :
    dropBlanks text ≠ [] := by
  intro none
  rw [expect, none] at found
  cases found

theorem dropWord?_eq_none_append {expected : Char} (other : dropWord? [expected] text = none)
    (filled : text ≠ []) (more : List Char) : dropWord? [expected] (text ++ more) = none := by
  obtain ⟨first, others, rfl⟩ := List.exists_cons_of_ne_nil filled
  have different : expected ≠ first := fun same =>
    head?_ne_of_dropWord? other (congrArg some same.symm)
  exact if_neg different

/-- The members of an object end with its closing brace. -/
theorem readMembers_extends {draft : Draft} {isFirst : Bool} {descriptor : Descriptor}
    (found : readMembers draft isFirst text = .ok (descriptor, rest)) (more : List Char) :
    readMembers draft isFirst (text ++ more) = .ok (descriptor, rest ++ more) := by
  fun_induction readMembers draft isFirst text generalizing rest with
  | case1 | case3 | case4 => cases found
  | case2 draft isFirst text after closed result finished =>
      cases found
      have solid := dropBlanks_extends (dropWord?_eq_some_iff.mp closed) more
      have stillClosed : dropWord? ['}'] (dropBlanks (text ++ more)) = some (after ++ more) := by
        rw [solid]
        rfl
      rw [readMembers]
      grind
  | case5 draft isFirst text unclosed member separated after behind read ih =>
      have extended := ih found
      have left : behind ≠ [] := by
        rintro rfl
        rw [readMembers] at found
        cases found
      have readMore := readMember_extends read left more
      have solid : dropBlanks text ≠ [] := by
        cases isFirst with
        | true =>
            cases separated
            exact dropBlanks_ne_nil_of_readMember read
        | false => exact dropBlanks_ne_nil_of_expect separated
      have separatedMore : (if isFirst then .ok (text ++ more) else expect [','] (text ++ more)) =
          .ok (member ++ more) := by
        cases isFirst with
        | true =>
            cases separated
            rfl
        | false => exact expect_extends separated more
      have stillOpen : dropWord? ['}'] (dropBlanks (text ++ more)) = none := by
        rw [dropBlanks_append_of_ne_nil solid]
        exact dropWord?_eq_none_append unclosed solid more
      rw [readMembers]
      grind

theorem head?_dropBlanks_append (solid : dropBlanks text ≠ []) (more : List Char) :
    (dropBlanks (text ++ more)).head? = (dropBlanks text).head? := by
  rw [dropBlanks_append_of_ne_nil solid, head?_append_of_ne_nil solid]

theorem dropBlanks_ne_nil_of_readNatural {bound value : Nat}
    (found : readNatural bound text = .ok (value, rest)) : dropBlanks text ≠ [] := by
  intro none
  simp only [readNatural, none] at found
  cases found

theorem readItem_extends {bound value : Nat} (found : readItem bound text = .ok (value, rest))
    (left : rest ≠ []) (more : List Char) :
    readItem bound (text ++ more) = .ok (value, rest ++ more) := by
  unfold readItem at found
  split at found
  · cases found
  · next goesOn =>
    have solid := dropBlanks_ne_nil_of_readNatural found
    rw [readItem, head?_dropBlanks_append solid, if_neg goesOn]
    exact readNatural_extends found left more

theorem expectNext_extends (found : expectNext text = .ok rest) (left : dropBlanks rest ≠ [])
    (more : List Char) : expectNext (text ++ more) = .ok (rest ++ more) := by
  unfold expectNext at found
  split at found
  · cases found
  · next goesOn =>
    split at found
    · cases found
    · next comma =>
      split at found
      · cases found
      · next noEnd =>
        cases found
        have solid := dropBlanks_ne_nil_of_expect comma
        simp only [expectNext, head?_dropBlanks_append solid, if_neg goesOn,
          expect_extends comma, head?_dropBlanks_append left, if_neg noEnd]

theorem bind_eq_ok_iff {α β : Type} {result : Except Fault α} {next : α → Except Fault β}
    {value : β} :
    result.bind next = .ok value ↔ ∃ first, result = .ok first ∧ next first = .ok value := by
  cases result with
  | error fault => simp [Except.bind]
  | ok first => simp [Except.bind]

/-- The two numbers of a list end with its closing bracket. -/
theorem readPair_extends {descriptor : Descriptor} (found : readPair text = .ok (descriptor, rest))
    (more : List Char) : readPair (text ++ more) = .ok (descriptor, rest ++ more) := by
  obtain ⟨⟨bank, afterBank⟩, bankRead, found⟩ := bind_eq_ok_iff.mp found
  obtain ⟨afterComma, commaRead, found⟩ := bind_eq_ok_iff.mp found
  obtain ⟨⟨pin, afterPin⟩, pinRead, found⟩ := bind_eq_ok_iff.mp found
  obtain ⟨afterEnd, endRead, found⟩ := bind_eq_ok_iff.mp found
  cases found
  have leftBank : afterBank ≠ [] := by
    rintro rfl
    cases commaRead
  have leftPin : afterPin ≠ [] := by
    rintro rfl
    cases endRead
  refine bind_eq_ok_iff.mpr ⟨_, readItem_extends bankRead leftBank more, ?_⟩
  refine bind_eq_ok_iff.mpr
    ⟨_, expectNext_extends commaRead (dropBlanks_ne_nil_of_readNatural pinRead) more, ?_⟩
  refine bind_eq_ok_iff.mpr ⟨_, readNatural_extends pinRead leftPin more, ?_⟩
  exact bind_eq_ok_iff.mpr ⟨_, expect_extends endRead more, rfl⟩

theorem readDescriptor_extends {descriptor : Descriptor}
    (found : readDescriptor text = .ok (descriptor, rest)) (more : List Char) :
    readDescriptor (text ++ more) = .ok (descriptor, rest ++ more) := by
  unfold readDescriptor at found
  split at found
  · next others solid =>
    rw [readDescriptor, dropBlanks_extends solid more]
    exact readMembers_extends found more
  · next others solid =>
    rw [readDescriptor, dropBlanks_extends solid more]
    exact readPair_extends found more
  · cases found

theorem readName_extends {α : Type} {ofName? : String → Option α} {chosen : α}
    (found : readName ofName? text = .ok (chosen, rest)) (more : List Char) :
    readName ofName? (text ++ more) = .ok (chosen, rest ++ more) := by
  obtain ⟨⟨name, afterName⟩, nameRead, found⟩ := bind_eq_ok_iff.mp found
  obtain ⟨value, known, found⟩ := bind_eq_ok_iff.mp found
  cases found
  unfold readText at nameRead
  split at nameRead
  · cases nameRead
  · next taken =>
    cases nameRead
    have solid : dropBlanks text ≠ [] := ne_nil_of_eq_some taken rfl
    have textRead : readText (text ++ more) = .ok (name, rest ++ more) := by
      rw [readText, dropBlanks_append_of_ne_nil solid, takeText?_extends taken]
    exact bind_eq_ok_iff.mpr ⟨_, textRead, bind_eq_ok_iff.mpr ⟨_, known, rfl⟩⟩

theorem expectNull_extends (found : expectNull text = .ok rest) (more : List Char) :
    expectNull (text ++ more) = .ok (rest ++ more) := by
  simp only [expectNull] at found
  split at found
  · next dropped =>
    cases found
    have solid : dropBlanks text ≠ [] := ne_nil_of_eq_some dropped rfl
    simp only [expectNull, dropBlanks_append_of_ne_nil solid, dropWord?_append dropped]
  · cases found

/-- A choice ends with the quote of its name or with the brace of its object. -/
theorem readChoice_extends {α : Type} {ofName? : String → Option α} {chosen : α}
    (found : readChoice ofName? text = .ok (chosen, rest)) (more : List Char) :
    readChoice ofName? (text ++ more) = .ok (chosen, rest ++ more) := by
  unfold readChoice at found
  split at found
  · next others solid =>
    rw [readChoice, dropBlanks_extends solid more]
    exact readName_extends found more
  · next others solid =>
    obtain ⟨⟨value, afterName⟩, nameRead, found⟩ := bind_eq_ok_iff.mp found
    obtain ⟨afterColon, colonRead, found⟩ := bind_eq_ok_iff.mp found
    obtain ⟨afterNull, nullRead, found⟩ := bind_eq_ok_iff.mp found
    obtain ⟨afterEnd, endRead, found⟩ := bind_eq_ok_iff.mp found
    cases found
    rw [readChoice, dropBlanks_extends solid more]
    refine bind_eq_ok_iff.mpr ⟨_, readName_extends nameRead more, ?_⟩
    refine bind_eq_ok_iff.mpr ⟨_, expect_extends colonRead more, ?_⟩
    refine bind_eq_ok_iff.mpr ⟨_, expectNull_extends nullRead more, ?_⟩
    exact bind_eq_ok_iff.mpr ⟨_, expect_extends endRead more, rfl⟩
  · cases found

end LedKit.Json
