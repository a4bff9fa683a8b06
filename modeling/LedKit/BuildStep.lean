import LedKit.BuildStep.Interval
import LedKit.BuildStep.LinkerHint
import LedKit.EnvFile
import LedKit.Text.Lines
import LedKit.Text.Quoted

/-!
# The step before a build

Before the firmware is compiled, a step settles the blink interval and tells the build tool how to
link. The interval comes from an environment variable, or from a settings file, or else is a
default; a bad interval stops the build, and so does a setting that cannot be stored. When the
linker calls the same step to report an error, it gives a hint instead of linking directives.
-/

namespace LedKit.BuildStep

/-- The key of the interval in the environment and in the settings file. -/
def intervalKey : String := "BLINK_INTERVAL_MS"

/-- The interval where nothing else is configured. -/
def defaultInterval : String := "500"

/-- A variable of the environment, which may hold bytes that are no text. -/
inductive Variable where
  | unset
  | text (value : String)
  | bytes (value : ByteArray)

/-- The text that a variable holds. -/
def Variable.text? : Variable → Option String
  | unset => none
  | text value => some value
  | bytes value => String.fromUTF8? value

/-- The environment of a step with this variable. Bytes that are no text count as unset. -/
def Variable.environment (inherited : Variable) : Environment :=
  match inherited.text? with
  | none => .empty
  | some value => ⟨[⟨intervalKey.toList, value.toList⟩]⟩

/-- What the step is run with. -/
structure Setup where
  inherited : Variable
  envFile : Option String
  arguments : List String

/-- A line to the build tool. -/
inductive Directive where
  /-- Run the step again when the settings file changes. -/
  | watchFile
  /-- Compile the firmware with this interval. -/
  | setInterval (milliseconds : Nat)
  /-- Run the step again when the variable changes. -/
  | watchVariable
  /-- Let the linker report errors to this step. -/
  | reportErrors
  | linkArgument (argument : String)
  deriving DecidableEq

def linkLine (argument : String) : String := "cargo:rustc-link-arg-bins=" ++ argument

def Directive.line : Directive → String
  | watchFile => "cargo:rerun-if-changed=<cwd>/.env"
  | setInterval milliseconds =>
    "cargo:rustc-env=" ++ intervalKey ++ "=" ++ Text.decimal milliseconds
  | watchVariable => "cargo:rerun-if-env-changed=" ++ intervalKey
  | reportErrors => linkLine "--error-handling-script=<exe>"
  | linkArgument argument => linkLine argument

/-- A remark to the person who builds. -/
inductive Notice where
  | noFile (failure : EnvFile.Failure)
  | hint (fitting : LinkerHint)
  deriving DecidableEq

/-- The text of a notice. A hint stands between empty lines. -/
def Notice.text : Notice → String
  | noFile failure => "⚠️  .env file not found: " ++ failure.message ++ " (using defaults)"
  | hint fitting => "\n" ++ fitting.text ++ "\n"

/-- The lines of a notice, the last of which is ended like the others. -/
def Notice.lines (notice : Notice) : List String :=
  (Text.lines (notice.text ++ "\n").toList).map String.ofList

/-- How the step ends. -/
inductive Ending where
  | success
  /-- The linker's error is of a kind that the step knows nothing about. -/
  | unknownError
  /-- The configured interval is refused. -/
  | refused (value : String)
  /-- A setting of the file cannot be stored. -/
  | unstorable (setting : Setting)
  deriving DecidableEq

namespace Ending

def exitCode : Ending → Nat
  | success => 0
  | unknownError => 1
  | refused _ | unstorable _ => 101

/-- The message that the step breaks off with. -/
def complaint? : Ending → Option String
  | refused value =>
    some (intervalKey ++ " must be a positive number of milliseconds, got " ++ Text.quoted value)
  | unstorable setting =>
    some ("failed to set environment variable `" ++ Text.quoted (String.ofList setting.key) ++
      "` to `" ++ Text.quoted (String.ofList setting.value) ++
      "`: file name contained an unexpected NUL byte")
  | success | unknownError => none

end Ending

/-- What the step says and how it ends. -/
structure Outcome where
  directives : List Directive
  notices : List Notice
  ending : Ending
  deriving DecidableEq

namespace Outcome

/-- The lines to the build tool. -/
def output (outcome : Outcome) : List String := outcome.directives.map Directive.line

/-- The lines to the person who builds. -/
def remarks (outcome : Outcome) : List String := outcome.notices.flatMap Notice.lines

/-- The outcome with something said before it. -/
def after (outcome : Outcome) (directives : List Directive) (notices : List Notice) : Outcome :=
  { outcome with
    directives := directives ++ outcome.directives
    notices := notices ++ outcome.notices }

end Outcome

/-- The configured interval as a text. -/
def configured (environment : Environment) : String :=
  ((environment.value? intervalKey.toList).map String.ofList).getD defaultInterval

/-- The directives for linking. The step is taken to know the file it runs from, which the linker
calls; the warning that stands in place of the first directive where it does not is left out. -/
def linkDirectives : List Directive :=
  [.reportErrors, .linkArgument "--nmagic", .linkArgument "-Tlink.x", .linkArgument "-Tdefmt.x"]

/-- The answer to an error that the linker reports: its kind and what it is about. -/
def onLinkerError (kind what : String) : Outcome :=
  if kind = "undefined-symbol" then
    ⟨[], (LinkerHint.ofSymbol? what).toList.map .hint, .success⟩
  else
    ⟨[], [], .unknownError⟩

/-- What follows an accepted interval: linking directives, or the answer to a linker error. -/
def link : List String → Outcome
  | kind :: what :: _ => onLinkerError kind what
  | _ => ⟨linkDirectives, [], .success⟩

/-- Settle the interval, then link. -/
def settle (value : String) (arguments : List String) : Outcome :=
  match interval? value with
  | none => ⟨[], [], .refused value⟩
  | some milliseconds =>
    (link arguments).after [.setInterval milliseconds, .watchVariable] []

/-- Run the step: load the settings file, then settle and link. -/
def run (setup : Setup) : Outcome :=
  let loaded := EnvFile.load setup.inherited.environment setup.envFile
  let settled := settle (configured loaded.environment) setup.arguments
  match loaded.finish with
  | .complete => settled.after [.watchFile] []
  | .failed failure => settled.after [] [.noFile failure]
  | .unstorable setting => ⟨[], [], .unstorable setting⟩

end LedKit.BuildStep
