import LedKit.Proofs.BuildStep.Spelling
import LedKit.Proofs.BuildStep.Stages

/-!
# Handing the interval over to the firmware

The build step reads the interval as people write it and hands it on as one line with its decimal
text, which the firmware reads digit by digit. The firmware reads the number that was written, and
the text that it gets is one that the build step would hand on unchanged.
-/

namespace LedKit.BuildStep

open LedKit.Text

/-! ## The lines that set the interval -/

/-- What a line that sets the interval begins with. -/
def intervalStart : String := "cargo:rustc-env=" ++ intervalKey ++ "="

/-- The lines of the output that set the interval. -/
def intervalLines (outcome : Outcome) : List String :=
  outcome.output.filter fun line => intervalStart.toList.isPrefixOf line.toList

/-- The interval that a directive sets. -/
def Directive.interval? : Directive → Option Nat
  | setInterval milliseconds => some milliseconds
  | _ => none

/-- A line for the linker sets no interval: the two kinds of lines part at their thirteenth
character. -/
theorem isPrefixOf_linkLine (argument : String) :
    intervalStart.toList.isPrefixOf (linkLine argument).toList = false := by
  have start : intervalStart.toList[12]? = some 'e' := by decide +kernel
  have link : "cargo:rustc-link-arg-bins=".toList[12]? = some 'l' := by decide +kernel
  refine Bool.eq_false_iff.mpr fun before => ?_
  obtain ⟨rest, whole⟩ := List.isPrefixOf_iff_prefix.mp before
  have same : (intervalStart.toList ++ rest)[12]? =
      ("cargo:rustc-link-arg-bins=".toList ++ argument.toList)[12]? :=
    congrArg (·[12]?) (whole.trans String.toList_append)
  rw [List.getElem?_append_left (List.getElem?_eq_some_iff.mp start).1,
    List.getElem?_append_left (List.getElem?_eq_some_iff.mp link).1, start, link] at same
  exact absurd same (by decide)

/-- Only directives that set the interval have such lines. -/
theorem isPrefixOf_line (directive : Directive) :
    intervalStart.toList.isPrefixOf directive.line.toList = directive.interval?.isSome := by
  cases directive with
  | watchFile => decide +kernel
  | setInterval milliseconds =>
      change intervalStart.toList.isPrefixOf (intervalStart ++ decimal milliseconds).toList = true
      rw [String.toList_append]
      exact List.isPrefixOf_iff_prefix.mpr (List.prefix_append _ _)
  | watchVariable => decide +kernel
  | reportErrors =>
      have line : Directive.reportErrors.line = linkLine "--error-handling-script=<exe>" := rfl
      rw [line, isPrefixOf_linkLine]
      rfl
  | linkArgument argument =>
      have line : (Directive.linkArgument argument).line = linkLine argument := rfl
      rw [line, isPrefixOf_linkLine]
      rfl

/-- The intervals that an outcome sets. -/
def Outcome.intervals (outcome : Outcome) : List Nat :=
  outcome.directives.filterMap Directive.interval?

theorem intervalLines_eq (outcome : Outcome) :
    intervalLines outcome = outcome.intervals.map (intervalStart ++ decimal ·) := by
  obtain ⟨directives, notices, ending⟩ := outcome
  change (directives.map Directive.line).filter _ = _
  induction directives with
  | nil => rfl
  | cons directive rest ih =>
      have listed : intervalStart.toList.isPrefixOf directive.line.toList =
          directive.interval?.isSome := isPrefixOf_line directive
      rw [List.map_cons, List.filter_cons, listed, ih]
      cases directive <;> rfl

theorem intervals_after (outcome : Outcome) (directives : List Directive) (notices : List Notice) :
    (outcome.after directives notices).intervals =
      directives.filterMap Directive.interval? ++ outcome.intervals :=
  List.filterMap_append

theorem intervals_link (arguments : List String) : (link arguments).intervals = [] := by
  unfold link
  split
  · unfold onLinkerError
    split <;> rfl
  · rfl

theorem intervals_settle (value : String) (arguments : List String) :
    (settle value arguments).intervals = (interval? value).toList := by
  cases accepted : interval? value with
  | none =>
      rw [settle_of_none accepted]
      rfl
  | some number =>
      rw [settle_of_some accepted, intervals_after, intervals_link]
      rfl

theorem intervals_run {setup : Setup}
    (storable : ∀ setting, setup.loaded.finish ≠ .unstorable setting) :
    (run setup).intervals = (interval? setup.effective).toList := by
  obtain ⟨directives, notices, watches, stages⟩ := run_of_storable storable
  have silent : directives.filterMap Directive.interval? = [] := by
    refine List.filterMap_eq_nil_iff.mpr fun directive member => ?_
    rw [watches directive member]
    rfl
  rw [stages, intervals_after, silent, intervals_settle, List.nil_append]

theorem intervalLines_run {setup : Setup} (survives : (run setup).ending.complaint? = none)
    {number : Nat} (accepted : interval? setup.effective = some number) :
    intervalLines (run setup) = [intervalStart ++ decimal number] := by
  obtain ⟨storable, _⟩ := complaint?_run_eq_none_iff.mp survives
  rw [intervalLines_eq, intervals_run storable, accepted]
  rfl

/-- A run that breaks off sets no interval. -/
theorem intervalLines_run_of_complaint {setup : Setup}
    (breaks : (run setup).ending.complaint? ≠ none) : intervalLines (run setup) = [] := by
  rw [intervalLines_eq]
  by_cases storable : ∀ setting, setup.loaded.finish ≠ .unstorable setting
  · cases accepted : interval? setup.effective with
    | none =>
        rw [intervals_run storable, accepted]
        rfl
    | some number =>
        exact absurd (complaint?_run_eq_none_iff.mpr ⟨storable, number, accepted⟩) breaks
  · obtain ⟨setting, unstorable⟩ := Classical.not_forall_not.mp storable
    rw [run_of_unstorable unstorable]
    rfl

/-! ## The text given back as the variable -/

theorem null_not_mem_intervalKey : '\x00' ∉ intervalKey.toList := by decide

/-- The environment of a step that accepts its interval holds no null character. -/
theorem nullFree_environment {setup : Setup} {number : Nat}
    (accepted : interval? setup.effective = some number) :
    setup.inherited.environment.NullFree := by
  cases held : setup.inherited.text? with
  | none =>
      rw [Variable.environment_of_none held]
      exact Environment.nullFree_empty
  | some text =>
      rw [effective_of_text? held] at accepted
      have null := (interval?_eq_some_iff_spells.mp accepted).1.null_not_mem
      rw [Variable.environment_of_some held]
      exact Environment.nullFree_singleton null_not_mem_intervalKey null

/-- A file that a step could store is stored just so when the variable holds a spelling. -/
theorem storable_of_text? {setup : Setup} {number : Nat}
    (accepted : interval? setup.effective = some number)
    (storable : ∀ setting, setup.loaded.finish ≠ .unstorable setting) {fed : Variable}
    {text : String} (held : fed.text? = some text) (spells : Spells text.toList number)
    (arguments : List String) (setting : Setting) :
    (Setup.mk fed setup.envFile arguments).loaded.finish ≠ .unstorable setting := by
  have fedFree : fed.environment.NullFree := by
    rw [Variable.environment_of_some held]
    exact Environment.nullFree_singleton null_not_mem_intervalKey spells.null_not_mem
  have covers : fed.environment.Covers setup.inherited.environment := by
    cases inherited : setup.inherited.text? with
    | none =>
        rw [Variable.environment_of_none inherited]
        exact Environment.covers_empty _
    | some value =>
        rw [Variable.environment_of_some inherited, Variable.environment_of_some held]
        exact Environment.covers_singleton _ _ _
  have same := EnvFile.finish_load (nullFree_environment accepted) fedFree covers setup.envFile
    storable
  rw [Setup.loaded, same]
  exact storable setting

/-! ## The hand-over -/

/-- What holds when a step hands a text over to the firmware, which reads a number from it. -/
structure HandOver (setup : Setup) (text : String) (number : Nat) : Prop where
  /-- One line of the output sets the interval. -/
  line : intervalLines (run setup) = [intervalStart ++ text]
  /-- The firmware reads the text without a fault. -/
  read : Millis.read text.toList = .ok number
  positive : 1 ≤ number
  bounded : number < UInt64.size
  /-- The number is the one that was configured. -/
  spelled : Spells setup.effective.toList number
  /-- The text is the number in base ten, without a sign, blanks or leading zeros. -/
  canonical : text = toString number
  digits : ∀ character ∈ text.toList, character.isDigit = true
  leading : text.toList.head? ≠ some '0'
  /-- Given back as the variable, the text is handed over again. -/
  again : ∀ fed : Variable, fed.text? = some text → ∀ arguments,
    (run ⟨fed, setup.envFile, arguments⟩).ending.complaint? = none ∧
      intervalLines (run ⟨fed, setup.envFile, arguments⟩) = intervalLines (run setup)
  /-- No other file changes that, unless it cannot be stored. -/
  anyFile : ∀ fed : Variable, fed.text? = some text → ∀ file arguments,
    (run ⟨fed, file, arguments⟩).ending.complaint? = none →
      intervalLines (run ⟨fed, file, arguments⟩) = intervalLines (run setup)

/--
A step that does not break off hands over the decimal text of the positive number that was
configured, and the firmware reads that number. A step that breaks off hands over nothing.
-/
theorem interval_handOver (setup : Setup) :
    ((run setup).ending.complaint? = none → ∃ text number, HandOver setup text number) ∧
      ((run setup).ending.complaint? ≠ none → intervalLines (run setup) = []) := by
  refine ⟨fun survives => ?_, intervalLines_run_of_complaint⟩
  obtain ⟨storable, number, accepted⟩ := complaint?_run_eq_none_iff.mp survives
  obtain ⟨spelled, positive, bounded⟩ := interval?_eq_some_iff_spells.mp accepted
  have line := intervalLines_run survives accepted
  have acceptedAgain : interval? (decimal number) = some number :=
    interval?_eq_some_iff_spells.mpr ⟨spells_decimal number, positive, bounded⟩
  have sameLine (fed : Variable) (held : fed.text? = some (decimal number)) (file : Option String)
      (arguments : List String)
      (survivesAgain : (run ⟨fed, file, arguments⟩).ending.complaint? = none) :
      intervalLines (run ⟨fed, file, arguments⟩) = intervalLines (run setup) := by
    have effective : (Setup.mk fed file arguments).effective = decimal number :=
      effective_of_text? held
    rw [line, intervalLines_run survivesAgain (effective ▸ acceptedAgain)]
  refine ⟨decimal number, number, ?_⟩
  constructor
  case line => exact line
  case read =>
    rw [decimal, String.toList_ofList]
    exact Millis.read_digits bounded
  case positive => exact positive
  case bounded => exact Nat.lt_of_le_sub_one (by decide) bounded
  case spelled => exact spelled
  case canonical => exact decimal_eq_toString number
  case digits =>
    rw [decimal, String.toList_ofList]
    exact fun _ => isDigit_of_mem_digits
  case leading =>
    rw [decimal, String.toList_ofList]
    exact head?_digits_ne positive
  case again =>
    intro fed held arguments
    have effective : (Setup.mk fed setup.envFile arguments).effective = decimal number :=
      effective_of_text? held
    have survivesAgain : (run ⟨fed, setup.envFile, arguments⟩).ending.complaint? = none :=
      complaint?_run_eq_none_iff.mpr
        ⟨storable_of_text? accepted storable held (spells_decimal number) arguments, number,
          effective ▸ acceptedAgain⟩
    exact ⟨survivesAgain, sameLine fed held setup.envFile arguments survivesAgain⟩
  case anyFile => exact sameLine

/-- A wide space, a sign and zeros around the variable, and a file that has no say. -/
theorem interval_handOver_padded :
    let setup : Setup :=
      ⟨.text "\u3000+00250\t", some "BLINK_INTERVAL_MS=7\nOTHER=\"$BLINK_INTERVAL_MS\"\n", []⟩
    (run setup).ending.complaint? = none ∧ ∃ text number, HandOver setup text number := by
  intro setup
  have survives : (run setup).ending.complaint? = none := by decide +kernel
  exact ⟨survives, (interval_handOver setup).1 survives⟩

end LedKit.BuildStep
