import LedKit.Proofs.BuildStep.Verdict
import LedKit.Proofs.EnvFile.Forms

/-!
# Where the interval comes from

A variable that holds a text decides the interval, be the text empty, and no file has a say. Without
one, the file has the say of the first line with exactly the key of the interval, and nothing else
in it counts. The step then does what it does with that value in the variable, or with the default.
-/

namespace LedKit.BuildStep

open EnvFile (File)

/-- A step beside a settings file in the known forms, or beside none. -/
def Setup.beside (inherited : Variable) (file : Option File) (arguments : List String) : Setup :=
  ⟨inherited, file.map File.text, arguments⟩

/-- The interval that a file configures on its own. -/
def configuredBy (file : Option File) : String :=
  ((file.bind (·.value? intervalKey.toList)).map String.ofList).getD "500"

/-- The lines to the build tool that tell of a settings file. -/
def fileLines : Option File → List String
  | none => []
  | some _ => ["cargo:rerun-if-changed=<cwd>/.env"]

/-- The lines to the person who builds that tell of the lack of one. -/
def fileRemarks : Option File → List String
  | none => ["⚠️  .env file not found: path not found (using defaults)"]
  | some _ => []

variable (inherited : Variable) (file : Option File) (arguments : List String)

theorem value?_loaded_beside (key : List Char) :
    (Setup.beside inherited file arguments).loaded.environment.value? key =
      (inherited.environment.value? key).or (file.bind (·.value? key)) := by
  cases file with
  | none => exact (Option.or_none).symm
  | some file => exact (EnvFile.load_text inherited.environment file).2 key

theorem finish_loaded_beside :
    (Setup.beside inherited file arguments).loaded.finish =
      match file with
      | none => .failed .missing
      | some _ => .complete := by
  cases file with
  | none => rfl
  | some file => exact (EnvFile.load_text inherited.environment file).1

/-- The variable decides where it holds a text, and the file where it holds none. -/
theorem effective_beside :
    (Setup.beside inherited file arguments).effective =
      inherited.text?.getD (configuredBy file) := by
  cases held : inherited.text? with
  | some text => exact effective_of_text? held
  | none =>
      rw [Setup.effective, configured, value?_loaded_beside, Variable.environment_of_none held]
      rfl

theorem effective?_beside :
    (Setup.beside inherited file arguments).effective? =
      some (inherited.text?.getD (configuredBy file)) := by
  rw [← effective_beside inherited file arguments, Setup.effective?, finish_loaded_beside]
  cases file <;> rfl

/-- A file is told of, and then the interval is settled. -/
theorem run_beside :
    ∃ directives notices, directives.map Directive.line = fileLines file ∧
      notices.flatMap Notice.lines = fileRemarks file ∧
      run (.beside inherited file arguments) =
        (settle (inherited.text?.getD (configuredBy file)) arguments).after directives notices := by
  refine ⟨_, _, ?_, ?_, run_of_effective? (effective?_beside inherited file arguments)⟩
  · rw [Setup.watch, finish_loaded_beside]
    cases file <;> rfl
  · rw [Setup.remark, finish_loaded_beside]
    cases file with
    | none => decide +kernel
    | some file => rfl

/-- Runs that are the same but for what tells of their files. -/
structure SameButForFile (file other : Option File) (first second : Outcome) : Prop where
  exitCode : first.ending.exitCode = second.ending.exitCode
  complaint : first.ending.complaint? = second.ending.complaint?
  output : ∃ lines, first.output = fileLines file ++ lines ∧
    second.output = fileLines other ++ lines
  remarks : ∃ lines, first.remarks = fileRemarks file ++ lines ∧
    second.remarks = fileRemarks other ++ lines

/-- Steps that settle the same value are the same but for what tells of their files. -/
theorem sameButForFile_of_value {inherited others : Variable} {file other : Option File}
    (same : inherited.text?.getD (configuredBy file) = others.text?.getD (configuredBy other))
    (arguments : List String) :
    SameButForFile file other (run (.beside inherited file arguments))
      (run (.beside others other arguments)) := by
  obtain ⟨directives, notices, lines, remarks, stages⟩ := run_beside inherited file arguments
  obtain ⟨directivesToo, noticesToo, linesToo, remarksToo, stagesToo⟩ :=
    run_beside others other arguments
  rw [← same] at stagesToo
  rw [stages, stagesToo]
  constructor
  case exitCode => rfl
  case complaint => rfl
  case output =>
    refine ⟨(settle (inherited.text?.getD (configuredBy file)) arguments).output, ?_, ?_⟩
    · rw [output_after, lines]
    · rw [output_after, linesToo]
  case remarks =>
    refine ⟨(settle (inherited.text?.getD (configuredBy file)) arguments).remarks, ?_, ?_⟩
    · rw [← remarks]
      exact List.flatMap_append
    · rw [← remarksToo]
      exact List.flatMap_append

/-- What holds of a step with two files that it could stand beside. -/
structure Precedence (inherited : Variable) (file other : Option File) (arguments : List String) :
    Prop where
  /-- A variable that holds a text leaves no say to the file. -/
  variableFirst : ∀ text, inherited.text? = some text →
    SameButForFile file other (run (.beside inherited file arguments))
      (run (.beside inherited other arguments))
  /-- Without a text in the variable, the file stands for a variable with its value. -/
  fileNext : inherited.text? = none →
    SameButForFile file other (run (.beside inherited file arguments))
      (run (.beside (.text (configuredBy file)) other arguments))
  /-- Nothing else in a file counts. -/
  restIdle : inherited.text? = none → configuredBy file = configuredBy other →
    SameButForFile file other (run (.beside inherited file arguments))
      (run (.beside inherited other arguments))

/-- The variable comes before the file, the first line with the key before all that follows, and the
default comes last. -/
theorem precedence (inherited : Variable) (file other : Option File) (arguments : List String) :
    Precedence inherited file other arguments := by
  constructor
  case variableFirst =>
    intro text held
    apply sameButForFile_of_value
    rw [held]
    rfl
  case fileNext =>
    intro unset
    apply sameButForFile_of_value
    rw [unset]
    rfl
  case restIdle =>
    intro unset same
    apply sameButForFile_of_value
    rw [unset]
    exact same

/-- Bytes that are no text in the variable, and a file with lines of every form. -/
theorem precedence_of_every_form :
    let tight : EnvFile.Gap := ⟨[], nofun⟩
    let space : EnvFile.Gap := ⟨[' '], List.forall_mem_singleton.mpr (.inl rfl)⟩
    let wide : EnvFile.Gap :=
      ⟨[' ', '\t'],
        List.forall_mem_cons.mpr ⟨.inl rfl, List.forall_mem_singleton.mpr (.inr rfl)⟩⟩
    let key : EnvFile.Key :=
      ⟨'B', "LINK_INTERVAL_MS".toList, by decide, List.all_eq_true.mp (by decide)⟩
    let lower : EnvFile.Key :=
      ⟨'b', "link_interval_ms".toList, by decide, List.all_eq_true.mp (by decide)⟩
    let bare : EnvFile.Body := .bare '7' [] (by decide) (List.all_eq_true.mp (by decide))
    let strong : EnvFile.Body :=
      .quoted .strong " 250 ".toList (List.all_eq_true.mp (by decide))
    let weak : EnvFile.Body := .quoted .weak "# 9".toList (List.all_eq_true.mp (by decide))
    let comment : EnvFile.Tail := .comment space " it's a comment".toList (by decide) (.inl rfl)
    let late : EnvFile.Tail :=
      .comment wide " # late".toList (by decide) (.inr ⟨by decide, List.all_eq_true.mp (by decide)⟩)
    let file : File :=
      { lines :=
          [(.comment tight " it's a comment".toList (by decide), .newline),
            (.blank wide, .carriageReturn),
            (.assign ⟨tight, none, lower, tight, .filled tight bare, .blank space⟩, .newline),
            (.assign ⟨space, some ⟨space, by decide⟩, key, space, .filled wide strong, comment⟩,
              .carriageReturn),
            (.assign ⟨tight, none, key, tight, .filled tight weak, late⟩, .newline)]
        last := some (.assign ⟨tight, none, key, tight, .empty, .blank tight⟩)
        closes := by rintro form ⟨⟩; rfl }
    file.text = "# it's a comment\n \t\r\nblink_interval_ms=7 \n" ++
        " export BLINK_INTERVAL_MS = \t' 250 ' # it's a comment\r\n" ++
        "BLINK_INTERVAL_MS=\"# 9\" \t# # late\nBLINK_INTERVAL_MS=" ∧
      configuredBy (some file) = " 250 " ∧
      SameButForFile (some file) none
        (run (.beside (.bytes ⟨#[0xFF]⟩) (some file) []))
        (run (.beside (.text " 250 ") none [])) ∧
      (run (.beside (.bytes ⟨#[0xFF]⟩) (some file) [])).output =
        "cargo:rerun-if-changed=<cwd>/.env" :: numberLines 250 [] := by
  intro tight space wide key lower bare strong weak comment late file
  have configured : configuredBy (some file) = " 250 " := by decide +kernel
  have unset : (Variable.bytes ⟨#[0xFF]⟩).text? = none := by decide +kernel
  have same := (precedence (.bytes ⟨#[0xFF]⟩) (some file) none []).fileNext unset
  rw [configured] at same
  exact ⟨by decide +kernel, configured, same, by decide +kernel⟩

end LedKit.BuildStep
