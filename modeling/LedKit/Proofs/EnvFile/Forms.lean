import LedKit.Proofs.EnvFile.Loading
import LedKit.Proofs.EnvFile.Scanning

/-!
# The forms of lines

A settings file is made of blank lines, comments and settings. A setting is a key, an equals sign
and a value with blanks around each of them, perhaps after the word `export` and perhaps with a
comment behind it. The value is nothing, a word, or any text between quotes of one kind. Such a file
is loaded to its end, and the first setting of each key counts.
-/

namespace LedKit.EnvFile

open LedKit.Text

/-! ## Values -/

/-- The kind of quotes around a value. -/
inductive Quote where
  | strong
  | weak
  deriving DecidableEq

namespace Quote

/-- The character that opens and closes the quotes. -/
def mark : Quote → Char
  | strong => '\''
  | weak => '"'

/-- The characters that do not stand for themselves between the quotes, or end the line. -/
def excluded : Quote → List Char
  | strong => ['\'', '\\', '\n', '\x00']
  | weak => ['"', '\\', '$', '\n', '\x00']

/-- The character stands for itself between the quotes. -/
def keeps (quote : Quote) (character : Char) : Bool := character ∉ quote.excluded

/-- What the scanner has open between the quotes. -/
def scan : Quote → Scan
  | strong => .inStrong
  | weak => .inWeak

/-- Where the value stands between the quotes. -/
def place : Quote → Value.Place
  | strong => .strong
  | weak => .weak

variable {quote : Quote} {character : Char}

theorem next_scan (kept : quote.keeps character = true) :
    quote.scan.next character = quote.scan := by
  cases quote <;> simp_all [keeps, excluded, scan, Scan.next]

theorem next?_place (kept : quote.keeps character = true) :
    quote.place.next? character = some ([.literal character], quote.place) := by
  cases quote <;> simp_all [keeps, excluded, place, Value.Place.next?]

end Quote

/-- The character stands for itself in a value without quotes. -/
def isPlain (character : Char) : Bool :=
  isCalm character && !isBlank character && character ∉ ['$', '\x00']

theorem isPlain_iff {character : Char} :
    isPlain character = true ↔
      (isCalm character = true ∧ isBlank character = false) ∧ character ≠ '$' ∧
        character ≠ '\x00' := by
  simp [isPlain]

/-- A plain character is kept where a value stands outside of quotes. -/
theorem next?_bare {character : Char} (plain : isPlain character = true) :
    Value.Place.bare.next? character = some ([.literal character], .bare) := by
  obtain ⟨⟨calm, shown⟩, dollar, -⟩ := isPlain_iff.mp plain
  simp only [isCalm, decide_eq_true_eq, List.mem_cons, List.not_mem_nil, or_false, not_or] at calm
  have space : character ≠ ' ' := by rintro rfl; cases shown
  have tab : character ≠ '\t' := by rintro rfl; cases shown
  simp [Value.Place.next?, dollar, calm, space, tab]

/-- A value that is not empty. -/
inductive Body where
  /-- A word as it stands. -/
  | bare (first : Char) (others : List Char) (start : first ≠ '#')
      (plain : ∀ character ∈ first :: others, isPlain character = true)
  | quoted (quote : Quote) (content : List Char)
      (inside : ∀ character ∈ content, quote.keeps character = true)

namespace Body

/-- The value as it is written. -/
def text : Body → List Char
  | bare first others _ _ => first :: others
  | quoted quote content _ => quote.mark :: content ++ [quote.mark]

/-- The value without its quotes. -/
def content : Body → List Char
  | bare first others _ _ => first :: others
  | quoted _ content _ => content

theorem exists_first (body : Body) :
    ∃ first rest, body.text = first :: rest ∧ isBlank first = false ∧ first ≠ '#' := by
  cases body with
  | bare first others start plain =>
      exact ⟨first, others, rfl, (isPlain_iff.mp (plain first List.mem_cons_self)).1.2, start⟩
  | quoted quote content inside =>
      exact ⟨quote.mark, content ++ [quote.mark], rfl, by cases quote <;> decide,
        by cases quote <;> decide⟩

theorem exists_last (body : Body) :
    ∃ most last, body.text = most ++ [last] ∧ isBlank last = false := by
  cases body with
  | bare first others start plain =>
      have filled : first :: others ≠ [] := List.cons_ne_nil first others
      exact ⟨_, _, (List.dropLast_concat_getLast filled).symm,
        (isPlain_iff.mp (plain _ (List.getLast_mem filled))).1.2⟩
  | quoted quote content inside =>
      exact ⟨quote.mark :: content, quote.mark, rfl, by cases quote <;> decide⟩

theorem not_mem_content (body : Body) : '\n' ∉ body.content ∧ '\x00' ∉ body.content := by
  cases body with
  | bare first others start plain =>
      constructor
      · exact fun member => absurd (plain _ member) (by decide)
      · exact fun member => absurd (plain _ member) (by decide)
  | quoted quote content inside =>
      constructor
      · exact fun member => absurd (inside _ member) (by cases quote <;> decide)
      · exact fun member => absurd (inside _ member) (by cases quote <;> decide)

theorem newline_not_mem (body : Body) : '\n' ∉ body.text := by
  have content := body.not_mem_content.1
  cases body with
  | bare first others start plain => exact content
  | quoted quote inner inside =>
      have other : '\n' ≠ quote.mark := by cases quote <;> decide
      simp only [text, List.cons_append, List.mem_cons, List.mem_append, List.not_mem_nil, or_false,
        other, false_or]
      exact content

theorem closed (body : Body) : Scan.Closed body.text := by
  cases body with
  | bare first others start plain =>
      exact Scan.closed_of_word start fun character member =>
        (isPlain_iff.mp (plain character member)).1
  | quoted quote content inside =>
      have opens : Scan.opening quote.mark = quote.scan := by cases quote <;> decide
      refine Scan.closed_of_quoted ?_ opens ?_ ?_ ?_ fun character member =>
        Quote.next_scan (inside character member)
      all_goals cases quote <;> decide

/-- A value is read as its content, whatever trails behind it. -/
theorem read (body : Body) {trail : List Char} (trails : Trails trail) :
    Value.readFrom .bare 0 (body.text ++ trimEnd trail) = .ok (body.content.map .literal) := by
  have ends : ∀ later, Value.readFrom .bare later (trimEnd trail) = .ok [] :=
    Value.readFrom_trails trails
  have outside : Value.Place.bare ≠ .ended := by decide
  rw [← List.append_nil (body.content.map Piece.literal)]
  cases body with
  | bare first others start plain =>
      exact Value.readFrom_literals outside
        (fun character member => next?_bare (plain character member)) ends
  | quoted quote content inside =>
      have opens : Value.Place.bare.next? quote.mark = some ([], quote.place) := by
        cases quote <;> decide
      have closes : quote.place.next? quote.mark = some ([], .bare) := by cases quote <;> decide
      have within : quote.place ≠ .ended := by cases quote <;> decide
      rw [text, List.cons_append, List.cons_append, List.append_assoc]
      refine Value.readFrom_cons outside opens
        (Value.readFrom_literals within (fun character member =>
          Quote.next?_place (inside character member)) fun later => ?_)
      exact Value.readFrom_cons within closes (ends _)

end Body

/-! ## What trails behind a value -/

/-- How a line ends. -/
inductive LineEnd where
  | newline
  | carriageReturn
  deriving DecidableEq

def LineEnd.text : LineEnd → List Char
  | newline => ['\n']
  | carriageReturn => ['\r', '\n']

/--
What stands behind a value. A comment begins after a blank. Only after a single one does it keep
quotes and backslashes from opening anything.
-/
inductive Tail where
  | blank (gap : Gap)
  | comment (gap : Gap) (text : List Char) (single : '\n' ∉ text)
      (apart : gap.text.length = 1 ∨
        gap.text ≠ [] ∧ ∀ character ∈ text, isCalm character = true)

namespace Tail

def text : Tail → List Char
  | blank gap => gap.text
  | comment gap text _ _ => gap.text ++ '#' :: text

/-- The tail may end the file without a line end. -/
def Closes : Tail → Prop
  | blank gap => gap.text = []
  | comment gap text _ _ =>
      gap.text.length = 1 ∨ ∀ last, text.getLast? = some last → isBlank last = false

end Tail

/-- The ways in which a line that may or may not close the file ends. -/
inductive Ends (closes : Prop) : List Char → Prop where
  | line (lineEnd : LineEnd) : Ends closes lineEnd.text
  | file (closed : closes) : Ends closes []

namespace Ends

variable {closes : Prop} {ending : List Char}

theorem forall_mem (ends : Ends closes ending) {character : Char} (member : character ∈ ending) :
    isBlank character = true ∧ isCalm character = true := by
  cases ends with
  | line lineEnd =>
      cases lineEnd <;>
        simp only [LineEnd.text, List.mem_cons, List.not_mem_nil, or_false] at member
      · subst member; decide
      · rcases member with rfl | rfl <;> decide
  | file closed => cases member

end Ends

theorem Gap.isCalm_of_mem (gap : Gap) {character : Char} (member : character ∈ gap.text) :
    isCalm character = true := by
  rcases gap.blank character member with rfl | rfl <;> decide

theorem Gap.newline_not_mem (gap : Gap) : '\n' ∉ gap.text := by
  intro member
  exact absurd (gap.blank _ member) (by decide)

theorem Key.newline_not_mem (key : Key) : '\n' ∉ key.text := by
  intro member
  exact absurd (key.isKeyPart_of_mem _ member) (by decide)

/-- The part of a trail before a number sign trails itself. -/
theorem Trails.of_append {kept rest : List Char} (trails : Trails (kept ++ '#' :: rest)) :
    Trails kept := by
  rcases trails with blank | ⟨gap, others, filled, split⟩
  · have sign := blank '#' (List.mem_append_right kept List.mem_cons_self)
    exact absurd sign (by decide)
  · rcases List.append_eq_append_iff.mp split with ⟨more, within, _⟩ | ⟨more, beyond, rest⟩
    · refine .inl fun character member => gap.isBlank_of_mem ?_
      rw [within]
      exact List.mem_append_left more member
    · cases more with
      | nil =>
          rw [List.append_nil] at beyond
          exact .inl fun character member => gap.isBlank_of_mem (beyond ▸ member)
      | cons sign more =>
          obtain ⟨rfl, _⟩ := List.cons.inj rest
          exact .inr ⟨gap, more, filled, beyond⟩

/-- What trails is nothing of its own. -/
theorem Trails.isVoid {trail : List Char} (trails : Trails trail) :
    Assignment.isVoid (trimStart (trimEnd trail)) = true := by
  rcases trails with blank | ⟨gap, rest, _, rfl⟩
  · rw [trimEnd_of_blank blank]
    rfl
  · rw [trimEnd_append_cons (by decide),
      trimStart_append_of_blank fun character => gap.isBlank_of_mem,
      trimStart_cons_of_not_blank (by decide)]
    rfl

namespace Tail

variable {tail : Tail} {ending : List Char}

theorem trails (ends : Ends tail.Closes ending) : Trails (tail.text ++ ending) := by
  cases tail with
  | blank gap =>
      refine .inl fun character member => ?_
      rcases List.mem_append.mp member with within | last
      · exact gap.isBlank_of_mem within
      · exact (ends.forall_mem last).1
  | comment gap text single apart =>
      have filled : gap.text ≠ [] := by
        rcases apart with one | many
        · exact List.ne_nil_of_length_eq_add_one one
        · exact many.1
      exact .inr ⟨gap, text ++ ending, filled, by rw [Tail.text, List.append_assoc]; rfl⟩

/-- A comment after a single blank ends what is scanned. -/
theorem line_of_single {gap : Gap} (one : gap.text.length = 1) (rest : List Char) :
    Scan.plain.line (gap.text ++ '#' :: rest) = (gap.text, none) := by
  obtain ⟨blank, held⟩ := List.length_eq_one_iff.mp one
  rw [held]
  rcases gap.blank blank (held ▸ List.mem_cons_self) with rfl | rfl <;> rfl

theorem newline_not_mem (tail : Tail) : '\n' ∉ tail.text := by
  have sign : '\n' ≠ '#' := by decide
  cases tail with
  | blank gap => exact gap.newline_not_mem
  | comment gap text single apart => simp [Tail.text, gap.newline_not_mem, sign, single]

theorem settles_append (text : List Char) (lineEnd : LineEnd) :
    Scan.Settles (text ++ lineEnd.text) := by
  cases lineEnd with
  | newline => exact .inr ⟨text, '\n', rfl, by decide⟩
  | carriageReturn => exact .inr ⟨text ++ ['\r'], '\n', by simp [LineEnd.text], by decide⟩

/-- Behind a closed value nothing stays open, and a comment keeps only what trails. -/
theorem scanned (ends : Ends tail.Closes ending) :
    (∃ kept, Scan.plain.line (tail.text ++ ending) = (kept, none) ∧ Trails kept) ∨
      (Scan.plain.line (tail.text ++ ending)).2 = some .plain := by
  have settled (calm : ∀ character ∈ tail.text, isCalm character = true)
      (settles : Scan.Settles (tail.text ++ ending)) :
      (∃ kept, Scan.plain.line (tail.text ++ ending) = (kept, none) ∧ Trails kept) ∨
        (Scan.plain.line (tail.text ++ ending)).2 = some .plain := by
    have allCalm : ∀ character ∈ tail.text ++ ending, isCalm character = true :=
      List.forall_mem_append.mpr ⟨calm, fun character member => (ends.forall_mem member).2⟩
    refine (Scan.line_of_settles allCalm settles).imp_left ?_
    rintro ⟨kept, rest, split, ended⟩
    have whole := trails ends
    rw [split] at whole
    exact ⟨kept, ended, whole.of_append⟩
  cases tail with
  | blank gap =>
      refine settled (fun character => gap.isCalm_of_mem) ?_
      cases ends with
      | line lineEnd => exact settles_append _ lineEnd
      | file closed => exact .inl ((List.append_nil _).trans closed)
  | comment gap text single apart =>
      by_cases one : gap.text.length = 1
      · rw [Tail.text, List.append_assoc, List.cons_append, line_of_single one]
        exact .inl ⟨gap.text, rfl, .inl fun character => gap.isBlank_of_mem⟩
      · have calm := (apart.resolve_left one).2
        refine settled ?_ ?_
        · refine List.forall_mem_append.mpr ⟨fun character => gap.isCalm_of_mem, ?_⟩
          exact List.forall_mem_cons.mpr ⟨by decide, calm⟩
        · cases ends with
          | line lineEnd => exact settles_append _ lineEnd
          | file closed =>
              rw [List.append_nil]
              cases last : text.getLast? with
              | none =>
                  rw [List.getLast?_eq_none_iff] at last
                  subst last
                  exact .inr ⟨gap.text, '#', rfl, by decide⟩
              | some final =>
                  have shown := closed.resolve_left one final last
                  obtain ⟨most, rfl⟩ := List.getLast?_eq_some_iff.mp last
                  refine .inr ⟨gap.text ++ '#' :: most, final, by simp [Tail.text], ?_⟩
                  rw [Scan.isSettling, shown]
                  rfl

end Tail

/-! ## Settings -/

/-- A value behind the blanks after an equals sign, or nothing. -/
inductive Written where
  | empty
  | filled (gap : Gap) (body : Body)

namespace Written

def text : Written → List Char
  | empty => []
  | filled gap body => gap.text ++ body.text

def content : Written → List Char
  | empty => []
  | filled _ body => body.content

theorem newline_not_mem (written : Written) : '\n' ∉ written.text := by
  cases written with
  | empty => exact List.not_mem_nil
  | filled gap body => simp [text, gap.newline_not_mem, body.newline_not_mem]

/-- The value of a key is what is written, whatever trails behind it. -/
theorem ofKey (written : Written) (key : List Char) {trail : List Char} (trails : Trails trail) :
    Assignment.ofKey key (trimEnd (written.text ++ trail)) =
      .ok (some ⟨key, written.content.map .literal⟩) := by
  cases written with
  | empty =>
      exact if_pos trails.isVoid
  | filled gap body =>
      obtain ⟨first, rest, head, shown, apart⟩ := body.exists_first
      obtain ⟨most, last, whole, stays⟩ := body.exists_last
      have trimmed : trimEnd (gap.text ++ body.text ++ trail) =
          gap.text ++ (body.text ++ trimEnd trail) := by
        rw [whole]
        simp only [List.append_assoc, List.singleton_append]
        rw [← List.append_assoc, trimEnd_append_cons stays, List.append_assoc]
      have started : trimStart (gap.text ++ (body.text ++ trimEnd trail)) =
          body.text ++ trimEnd trail := by
        rw [trimStart_append_of_blank fun character => gap.isBlank_of_mem, head, List.cons_append,
          trimStart_cons_of_not_blank shown]
      have filled : Assignment.isVoid (body.text ++ trimEnd trail) = false := by
        rw [head]
        exact decide_eq_false apart
      have read := body.read trails
      rw [text, trimmed, Assignment.ofKey]
      simp only [started, filled, Value.read, read]
      rfl

end Written

/-- A line that makes a setting. -/
structure Statement where
  lead : Gap
  /-- The blanks behind the word before the key, where the word is there. -/
  exported : Option {gap : Gap // gap.text ≠ []}
  key : Key
  before : Gap
  written : Written
  tail : Tail

namespace Statement

variable (statement : Statement)

/-- The word before the key with the blanks behind it. -/
def start : List Char :=
  match statement.exported with
  | none => []
  | some gap => Key.exportWord.text ++ gap.val.text

/-- What stands before the equals sign. -/
def head : List Char :=
  statement.lead.text ++ (statement.start ++ (statement.key.text ++ statement.before.text))

def text : List Char :=
  statement.head ++ '=' :: (statement.written.text ++ statement.tail.text)

/-- The setting that the line makes. -/
def setting : Setting := ⟨statement.key.text, statement.written.content⟩

theorem closed_key (key : Key) : Scan.Closed key.text :=
  Scan.closed_of_word (Key.first_ne (by decide) key) fun character member =>
    Assignment.isCalm_and_shown_of_isKeyPart (key.isKeyPart_of_mem character member)

theorem mild_gap (gap : Gap) : Scan.Mild gap.text := by
  refine Scan.mild_of_isCalm fun character member => ⟨gap.isCalm_of_mem member, ?_⟩
  rcases gap.blank character member with rfl | rfl <;> decide

/-- What stands before the tail leaves nothing open. -/
theorem closed_body : Scan.Closed (statement.head ++ '=' :: statement.written.text) := by
  have start : Scan.Mild statement.start := by
    unfold start
    split
    · exact Scan.mild_nil
    · exact (closed_key Key.exportWord).mild.append (mild_gap _)
  have head : Scan.Mild statement.head :=
    (mild_gap _).append (start.append ((closed_key _).mild.append (mild_gap _)))
  have equals : Scan.Closed ['='] :=
    Scan.closed_of_word (by decide) (List.forall_mem_singleton.mpr (by decide))
  cases written : statement.written with
  | empty => exact head.append_closed equals
  | filled gap body =>
      have value : Scan.Closed (gap.text ++ body.text) := (mild_gap gap).append_closed body.closed
      exact head.append_closed (equals.mild.append_closed value)

/-- A line that ends like the statement with something trailing behind it makes the setting. -/
theorem ofLine {line trail : List Char} (trails : Trails trail)
    (ends : trimEnd line = trimEnd (statement.head ++ '=' :: (statement.written.text ++ trail))) :
    Assignment.ofLine line =
      .ok (some ⟨statement.key.text, statement.written.content.map .literal⟩) := by
  rw [trimEnd_append_cons (by decide)] at ends
  rw [← statement.written.ofKey statement.key.text trails]
  cases exported : statement.exported with
  | none =>
      rw [head, start, exported] at ends
      exact Assignment.ofLine_of_key statement.lead statement.key statement.before
        (by simpa using ends)
  | some gap =>
      rw [head, start, exported] at ends
      exact Assignment.ofLine_of_export statement.lead statement.key statement.before gap.val
        gap.property (by simpa using ends)

/-- After its blanks the line begins with a key or with the word before it. -/
theorem exists_word :
    ∃ (word : Key) (rest : List Char),
      statement.text = statement.lead.text ++ (word.text ++ rest) := by
  cases exported : statement.exported with
  | none =>
      refine ⟨statement.key,
        statement.before.text ++ '=' :: (statement.written.text ++ statement.tail.text), ?_⟩
      simp [text, head, start, exported]
  | some gap =>
      refine ⟨Key.exportWord, gap.val.text ++ (statement.key.text ++
        (statement.before.text ++ '=' :: (statement.written.text ++ statement.tail.text))), ?_⟩
      simp [text, head, start, exported]

theorem startsComment_eq_false (rest : List Char) :
    startsComment (statement.text ++ rest) = false := by
  obtain ⟨word, more, split⟩ := statement.exists_word
  have other : word.first ≠ '#' := Key.first_ne (by decide) word
  rw [split, startsComment, List.append_assoc, List.append_assoc, Assignment.trimStart_key]
  simp [Key.text, other]

theorem newline_not_mem : '\n' ∉ statement.text := by
  have equals : '\n' ≠ '=' := by decide
  have start : '\n' ∉ statement.start := by
    unfold start
    split
    · exact List.not_mem_nil
    · next gap _ => simp [Key.exportWord.newline_not_mem, gap.val.newline_not_mem]
  simp [text, head, start, equals, statement.lead.newline_not_mem, statement.key.newline_not_mem,
    statement.before.newline_not_mem, statement.written.newline_not_mem,
    statement.tail.newline_not_mem]

/-- The line of the statement is one logical line, which makes the setting. -/
theorem joined {ending : List Char} (ends : Ends statement.tail.Closes ending) :
    ∃ logical, (∀ rest, joinAfter [] .plain ((statement.text ++ ending) :: rest) =
        .complete logical :: joinAfter [] .plain rest) ∧
      Assignment.ofLine logical =
        .ok (some ⟨statement.key.text, statement.written.content.map .literal⟩) := by
  have setting := statement.startsComment_eq_false ending
  have split : statement.text ++ ending =
      (statement.head ++ '=' :: statement.written.text) ++ (statement.tail.text ++ ending) := by
    simp [text]
  have scanned := Scan.line_append (statement.closed_body .plain rfl)
    (statement.tail.text ++ ending)
  rw [← split] at scanned
  rcases Tail.scanned ends with ⟨kept, ended, trails⟩ | closed
  · rw [ended] at scanned
    refine ⟨_, fun rest => joinAfter_of_ended rest setting scanned, ?_⟩
    exact statement.ofLine trails (by simp)
  · have final : (Scan.plain.line (statement.text ++ ending)).2 = some .plain := by
      rw [scanned, closed]
    refine ⟨_, fun rest => joinAfter_of_closed rest setting final, ?_⟩
    refine statement.ofLine (Tail.trails ends) ?_
    rw [trimEnd_dropLineEnd, split]
    simp

end Statement

/-! ## Lines -/

/-- A line in one of the forms. -/
inductive Form where
  | blank (gap : Gap)
  | comment (gap : Gap) (text : List Char) (single : '\n' ∉ text)
  | assign (statement : Statement)

namespace Form

def text : Form → List Char
  | blank gap => gap.text
  | comment gap text _ => gap.text ++ '#' :: text
  | assign statement => statement.text

/-- The setting that the line makes, if it makes one. -/
def setting? : Form → Option Setting
  | blank _ | comment _ _ _ => none
  | assign statement => some statement.setting

/-- The line may end the file without a line end. -/
def Closes : Form → Prop
  | blank _ => False
  | comment _ _ _ => True
  | assign statement => statement.tail.Closes

/-- A setting as an assignment of its own characters. -/
def assignment (setting : Setting) : Assignment := ⟨setting.key, setting.value.map .literal⟩

theorem ofLine_of_trails {line trail : List Char} (trails : Trails trail)
    (ends : trimEnd line = trimEnd trail) : Assignment.ofLine line = .ok none := by
  have void := trails.isVoid
  rw [← ends] at void
  exact if_pos void

theorem joined_blank (gap : Gap) {ending : List Char} (ends : Ends (Tail.blank gap).Closes ending) :
    ∃ logical, (∀ rest, joinAfter [] .plain ((gap.text ++ ending) :: rest) =
        .complete logical :: joinAfter [] .plain rest) ∧
      Assignment.ofLine logical = .ok none := by
  have setting : startsComment (gap.text ++ ending) = false := by
    have white : ∀ character ∈ gap.text ++ ending, isBlank character = true :=
      List.forall_mem_append.mpr
        ⟨fun character => gap.isBlank_of_mem, fun character member => (ends.forall_mem member).1⟩
    rw [startsComment, ← List.append_nil (gap.text ++ ending), trimStart_append_of_blank white]
    rfl
  rcases Tail.scanned ends with ⟨kept, ended, trails⟩ | closed
  · exact ⟨kept, fun rest => joinAfter_of_ended rest setting ended, ofLine_of_trails trails rfl⟩
  · exact ⟨_, fun rest => joinAfter_of_closed rest setting closed,
      ofLine_of_trails (Tail.trails ends) (trimEnd_dropLineEnd _)⟩

/-- Each line in one of the forms is one logical line, which makes the setting of the form. -/
theorem joined (form : Form) {ending : List Char} (ends : Ends form.Closes ending) :
    ∃ logical, (∀ rest, joinAfter [] .plain ((form.text ++ ending) :: rest) =
        .complete logical :: joinAfter [] .plain rest) ∧
      Assignment.ofLine logical = .ok (form.setting?.map assignment) := by
  cases form with
  | blank gap =>
      cases ends with
      | line lineEnd => exact joined_blank gap (.line lineEnd)
      | file closed => exact closed.elim
  | comment gap text single =>
      have sign : startsComment (gap.text ++ '#' :: text ++ ending) = true := by
        rw [startsComment, List.append_assoc,
          trimStart_append_of_blank fun character => gap.isBlank_of_mem, List.cons_append,
          trimStart_cons_of_not_blank (by decide)]
        rfl
      exact ⟨[], fun rest => joinAfter_of_startsComment rest sign, rfl⟩
  | assign statement => exact statement.joined ends

theorem newline_not_mem (form : Form) : '\n' ∉ form.text := by
  have sign : '\n' ≠ '#' := by decide
  cases form with
  | blank gap => exact gap.newline_not_mem
  | comment gap text single => simp [Form.text, gap.newline_not_mem, sign, single]
  | assign statement => exact statement.newline_not_mem

/-- A line that may end the file is not empty. -/
theorem text_ne_nil {form : Form} (closes : form.Closes) : form.text ≠ [] := by
  cases form with
  | blank gap => exact closes.elim
  | comment gap text single => exact List.append_ne_nil_of_right_ne_nil _ (List.cons_ne_nil _ _)
  | assign statement => exact List.append_ne_nil_of_right_ne_nil _ (List.cons_ne_nil _ _)

/-- No line brings a mark to the beginning of a file. -/
theorem head?_append_ne_mark (form : Form) {rest : List Char}
    (unmarked : rest.head? ≠ some '\ufeff') : (form.text ++ rest).head? ≠ some '\ufeff' := by
  have start (gap : Gap) {others : List Char} (others_unmarked : others.head? ≠ some '\ufeff') :
      (gap.text ++ others).head? ≠ some '\ufeff' := by
    cases held : gap.text with
    | nil => exact others_unmarked
    | cons first more =>
        intro same
        have white := gap.isBlank_of_mem (held ▸ List.mem_cons_self)
        rw [Option.some.inj same] at white
        exact absurd white (by decide)
  cases form with
  | blank gap => exact start gap unmarked
  | comment gap text single =>
      rw [Form.text, List.append_assoc]
      exact start gap fun same => absurd (Option.some.inj same) (by decide)
  | assign statement =>
      obtain ⟨word, more, split⟩ := statement.exists_word
      rw [Form.text, split, List.append_assoc]
      refine start statement.lead fun same => ?_
      exact Key.first_ne (by decide) word (Option.some.inj same)

end Form

/-! ## Files -/

/-- A file of lines in these forms, the last of which may be without a line end. -/
structure File where
  lines : List (Form × LineEnd)
  last : Option Form
  closes : ∀ form, last = some form → form.Closes

namespace File

def characters (file : File) : List Char :=
  file.lines.flatMap (fun line => line.1.text ++ line.2.text) ++
    (file.last.map Form.text).getD []

def text (file : File) : String := String.ofList file.characters

def forms (file : File) : List Form := file.lines.map Prod.fst ++ file.last.toList

/-- The settings of the file, from its first line to its last. -/
def settings (file : File) : List Setting := file.forms.filterMap Form.setting?

/-- The value of the first line with a key. -/
def value? (file : File) (key : List Char) : Option (List Char) :=
  (file.settings.find? (·.key = key)).map Setting.value

end File

/-- What lines of a file are read as: one logical line for each form. -/
def ReadAs (logicals : List (List Char)) (forms : List Form) : Prop :=
  logicals.map Assignment.ofLine = forms.map fun form => .ok (form.setting?.map Form.assignment)

theorem ReadAs.append {first second : List (List Char)} {forms others : List Form}
    (reads : ReadAs first forms) (more : ReadAs second others) :
    ReadAs (first ++ second) (forms ++ others) := by
  rw [ReadAs, List.map_append, List.map_append, reads, more]

/-- A line with its end is one logical line before the others. -/
theorem logicalLines_line (form : Form) (lineEnd : LineEnd) (rest : List Char) :
    ∃ logical, logicalLines (form.text ++ lineEnd.text ++ rest) =
        .complete logical :: logicalLines rest ∧
      Assignment.ofLine logical = .ok (form.setting?.map Form.assignment) := by
  obtain ⟨logical, joined, parsed⟩ := form.joined (.line lineEnd)
  refine ⟨logical, ?_, parsed⟩
  have split : physicalLines (form.text ++ lineEnd.text ++ rest) =
      (form.text ++ lineEnd.text) :: physicalLines rest := by
    cases lineEnd with
    | newline =>
        rw [LineEnd.text, List.append_assoc]
        exact physicalLines_append_newline form.newline_not_mem rest
    | carriageReturn =>
        have single : '\n' ∉ form.text ++ ['\r'] := by
          simp [form.newline_not_mem]
        have lines := physicalLines_append_newline single rest
        simpa [LineEnd.text] using lines
  rw [logicalLines, split]
  exact joined _

theorem logicalLines_lines (lines : List (Form × LineEnd)) (rest : List Char) :
    ∃ logicals, logicalLines (lines.flatMap (fun line => line.1.text ++ line.2.text) ++ rest) =
        logicals.map .complete ++ logicalLines rest ∧
      ReadAs logicals (lines.map Prod.fst) := by
  induction lines with
  | nil => exact ⟨[], rfl, rfl⟩
  | cons line others ih =>
      obtain ⟨logicals, split, reads⟩ := ih
      obtain ⟨logical, joined, parsed⟩ := logicalLines_line line.1 line.2
        (others.flatMap (fun line => line.1.text ++ line.2.text) ++ rest)
      refine ⟨logical :: logicals, ?_, ?_⟩
      · rw [List.flatMap_cons, List.append_assoc, joined, split]
        rfl
      · rw [ReadAs, List.map_cons, List.map_cons, parsed, reads]
        rfl

/-- A line that closes the file is its last logical line. -/
theorem logicalLines_last {form : Form} (closes : form.Closes) :
    ∃ logical, logicalLines form.text = [.complete logical] ∧
      Assignment.ofLine logical = .ok (form.setting?.map Form.assignment) := by
  obtain ⟨logical, joined, parsed⟩ := form.joined (.file closes)
  refine ⟨logical, ?_, parsed⟩
  rw [List.append_nil] at joined
  rw [logicalLines, physicalLines_of_single form.newline_not_mem (Form.text_ne_nil closes), joined]
  rfl

namespace File

variable (file : File)

theorem exists_logicalLines :
    ∃ logicals, logicalLines file.characters = logicals.map .complete ∧
      ReadAs logicals file.forms := by
  obtain ⟨logicals, split, reads⟩ :=
    logicalLines_lines file.lines ((file.last.map Form.text).getD [])
  rw [characters, split, forms]
  cases last : file.last with
  | none => exact ⟨logicals, by simp [logicalLines, physicalLines, joinAfter], by simpa using reads⟩
  | some form =>
      obtain ⟨logical, closed, parsed⟩ := logicalLines_last (file.closes form last)
      refine ⟨logicals ++ [logical], ?_, reads.append (congrArg (· :: []) parsed)⟩
      rw [Option.map_some, Option.getD_some, closed, List.map_append]
      rfl

/-- The file does not begin with a mark. -/
theorem dropMark_characters : dropMark file.characters = file.characters := by
  have unmarked : file.characters.head? ≠ some '\ufeff' := by
    unfold characters
    cases file.lines with
    | nil =>
        cases file.last with
        | none => nofun
        | some form =>
            have unmarked : (form.text ++ []).head? ≠ some '\ufeff' :=
              form.head?_append_ne_mark nofun
            rwa [List.append_nil] at unmarked
    | cons line others =>
        rw [List.flatMap_cons, List.append_assoc, List.append_assoc]
        refine line.1.head?_append_ne_mark ?_
        cases line.2 <;> exact fun same => absurd (Option.some.inj same) (by decide)
  unfold dropMark
  split
  · next rest same =>
      rw [same] at unmarked
      exact absurd rfl unmarked
  · rfl

end File

/-! ## Loading -/

theorem null_not_mem_setting {form : Form} {setting : Setting}
    (makes : form.setting? = some setting) : '\x00' ∉ setting.value := by
  cases form with
  | blank | comment => cases makes
  | assign statement =>
      cases makes
      change '\x00' ∉ statement.written.content
      cases statement.written with
      | empty => exact List.not_mem_nil
      | filled gap body => exact body.not_mem_content.2

/-- Lines in these forms are loaded to the end, and the first setting of each key counts. -/
theorem loadLines_of_readAs {logicals : List (List Char)} {forms : List Form}
    (reads : ReadAs logicals forms) (environment : Environment) :
    (loadLines environment (logicals.map .complete)).finish = .complete ∧
      ∀ key, (loadLines environment (logicals.map .complete)).environment.value? key =
        (environment.value? key).or
          (((forms.filterMap Form.setting?).find? (·.key = key)).map Setting.value) := by
  induction forms generalizing logicals environment with
  | nil =>
      cases List.map_eq_nil_iff.mp reads
      exact ⟨rfl, fun key => (Option.or_none).symm⟩
  | cons form rest ih =>
      obtain ⟨logical, others, rfl, parsed, more⟩ := List.map_eq_cons_iff.mp reads
      dsimp only at parsed
      rw [List.map_cons]
      cases made : form.setting? with
      | none =>
          rw [made] at parsed
          rw [loadLines_of_none _ parsed, List.filterMap_cons_none made]
          exact ih more environment
      | some setting =>
          rw [made] at parsed
          have expands : (Form.assignment setting).setting environment = setting := by
            rw [Assignment.setting, Form.assignment, Value.expand_literals]
          cases stored : environment.store? setting with
          | none =>
              have null := (Environment.store?_eq_none_iff.mp stored).2
              exact absurd null (null_not_mem_setting made)
          | some after =>
              rw [loadLines_of_store?_eq_some _ parsed (by rw [expands, stored]),
                List.filterMap_cons_some made]
              obtain ⟨finish, values⟩ := ih more after
              refine ⟨finish, fun key => ?_⟩
              rw [values, Environment.value?_of_store? stored, Option.or_assoc, List.find?_cons]
              by_cases same : setting.key = key <;> simp [same]

/-- A file of lines in these forms is loaded to its end, and gives each variable that was not set
the value of the first line with its key. -/
theorem load_text (environment : Environment) (file : File) :
    (load environment (some file.text)).finish = .complete ∧
      ∀ key, (load environment (some file.text)).environment.value? key =
        (environment.value? key).or (file.value? key) := by
  obtain ⟨logicals, split, reads⟩ := file.exists_logicalLines
  have loaded : load environment (some file.text) =
      loadLines environment (logicals.map .complete) := by
    rw [load, loadText, File.text, String.toList_ofList, file.dropMark_characters, split]
  rw [loaded]
  exact loadLines_of_readAs reads environment

end LedKit.EnvFile
