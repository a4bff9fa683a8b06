import LedKit.Proofs.BuildStep.Spelling
import LedKit.Proofs.BuildStep.Stages
import LedKit.Proofs.Text.Quotation

/-!
# The verdict on an interval

The build step accepts a value exactly when it spells a positive number of sixty-four bits. What it
says to the build tool is all or nothing: with an accepted value the lines that the number and the
count of arguments give, with any other value no line but the one that watches the settings file,
and a message from whose quotation the value can be read.
-/

namespace LedKit.BuildStep

open LedKit.Text

/-- The value is accepted for a number. -/
def Accepts (value : String) (number : Nat) : Prop :=
  Spells value.toList number ∧ 1 ≤ number ∧ number < UInt64.size

theorem interval?_eq_some_iff_accepts {value : String} {number : Nat} :
    interval? value = some number ↔ Accepts value number := by
  rw [interval?_eq_some_iff_spells]
  exact and_congr_right' (and_congr_right' (Nat.le_sub_one_iff_lt (by decide)))

theorem interval?_eq_none_iff {value : String} :
    interval? value = none ↔ ¬∃ number, Accepts value number := by
  rw [Option.eq_none_iff_forall_ne_some, not_exists]
  exact forall_congr' fun number => not_congr interval?_eq_some_iff_accepts

/-! ## The value and what is said before it -/

namespace Setup

/-- The text that the interval is read from. A setting that cannot be stored stops the step before
it reads any. -/
def effective? (setup : Setup) : Option String :=
  match setup.loaded.finish with
  | .unstorable _ => none
  | .complete | .failed _ => some setup.effective

/-- The directive that watches the settings file, where there is one. -/
def watch (setup : Setup) : List Directive :=
  match setup.loaded.finish with
  | .complete => [.watchFile]
  | .failed _ | .unstorable _ => []

/-- The remark on a settings file that could not be loaded. -/
def remark (setup : Setup) : List Notice :=
  match setup.loaded.finish with
  | .failed failure => [.noFile failure]
  | .complete | .unstorable _ => []

/-- The lines that come first, of which there is one at most. -/
def leadLines (setup : Setup) : List String := setup.watch.map Directive.line

theorem hint_not_mem_remark (setup : Setup) (hint : LinkerHint) : .hint hint ∉ setup.remark := by
  unfold remark
  split <;> simp

end Setup

theorem run_of_effective? {setup : Setup} {value : String}
    (effective : setup.effective? = some value) :
    run setup = (settle value setup.arguments).after setup.watch setup.remark := by
  unfold Setup.effective? at effective
  cases finish : setup.loaded.finish with
  | unstorable setting => rw [finish] at effective; cases effective
  | complete =>
      rw [finish] at effective
      cases effective
      rw [run_of_complete finish, Setup.watch, Setup.remark, finish]
  | failed failure =>
      rw [finish] at effective
      cases effective
      rw [run_of_failed finish, Setup.watch, Setup.remark, finish]

/-! ## The lines after them -/

/-- The lines for linking. -/
def linkLines : List String :=
  ["cargo:rustc-link-arg-bins=--error-handling-script=<exe>",
    "cargo:rustc-link-arg-bins=--nmagic",
    "cargo:rustc-link-arg-bins=-Tlink.x",
    "cargo:rustc-link-arg-bins=-Tdefmt.x"]

/-- The lines that follow an accepted number. -/
def numberLines (number : Nat) (arguments : List String) : List String :=
  ["cargo:rustc-env=BLINK_INTERVAL_MS=" ++ toString number,
    "cargo:rerun-if-env-changed=BLINK_INTERVAL_MS"] ++
    if arguments.length ≤ 1 then linkLines else []

theorem output_after (outcome : Outcome) (directives : List Directive) (notices : List Notice) :
    (outcome.after directives notices).output =
      directives.map Directive.line ++ outcome.output := List.map_append

theorem output_link (arguments : List String) :
    (link arguments).output = if arguments.length ≤ 1 then linkLines else [] := by
  match arguments with
  | [] | [_] => rfl
  | kind :: what :: rest =>
      rw [if_neg (by simp), link, onLinkerError]
      split <;> rfl

/-- Only the answer to a linker error can fail without breaking off. -/
theorem exitCode_link (arguments : List String) :
    (link arguments).ending.exitCode ≤ 1 ∧
      (arguments.length ≤ 1 → (link arguments).ending.exitCode = 0) := by
  match arguments with
  | [] | [_] => exact ⟨Nat.zero_le 1, fun _ => rfl⟩
  | kind :: what :: rest =>
      refine ⟨?_, fun few => by simp at few⟩
      rw [link, onLinkerError]
      split
      · exact Nat.zero_le 1
      · exact Nat.le_refl 1

theorem output_settle_of_some {value : String} {number : Nat}
    (accepted : interval? value = some number) (arguments : List String) :
    (settle value arguments).output = numberLines number arguments := by
  have line : (Directive.setInterval number).line =
      "cargo:rustc-env=BLINK_INTERVAL_MS=" ++ toString number := by
    rw [← decimal_eq_toString]
    rfl
  rw [settle_of_some accepted, output_after, output_link, List.map_cons, line]
  rfl

theorem newline_not_mem_numberLines {number : Nat} {arguments : List String} {line : String}
    (member : line ∈ numberLines number arguments) : '\n' ∉ line.toList := by
  have constant : ∀ line ∈ "cargo:rerun-if-env-changed=BLINK_INTERVAL_MS" :: linkLines,
      '\n' ∉ line.toList := by decide +kernel
  have start : '\n' ∉ "cargo:rustc-env=BLINK_INTERVAL_MS=".toList := by decide +kernel
  rw [numberLines, List.cons_append, List.mem_cons] at member
  rcases member with rfl | member
  · rw [String.toList_append, List.mem_append, ← decimal_eq_toString]
    rintro (inside | inside)
    · exact start inside
    · rw [decimal, String.toList_ofList] at inside
      have digit : '\n'.isDigit = true := isDigit_of_mem_digits inside
      cases digit
  · refine constant line ?_
    split at member
    · exact member
    · exact List.mem_append_left linkLines member

/-! ## The verdict -/

/-- A step that accepts its interval and hands the number on. -/
structure Accepted (setup : Setup) (number : Nat) : Prop where
  complaint : (run setup).ending.complaint? = none
  output : (run setup).output = setup.leadLines ++ numberLines number setup.arguments
  success : setup.arguments.length ≤ 1 → (run setup).ending.exitCode = 0
  /-- A step that answers a linker error may end with a failure of its own. -/
  exitCode : (run setup).ending.exitCode ≤ 1

/-- A step that refuses its interval and says nothing that the build could go on with. -/
structure Refused (setup : Setup) (value : String) : Prop where
  exitCode : (run setup).ending.exitCode = 101
  /-- The value is quoted as it stands, with the blanks around it. -/
  complaint : (run setup).ending.complaint? =
    some ("BLINK_INTERVAL_MS must be a positive number of milliseconds, got " ++ quoted value)
  /-- What stands for it in the message is a quotation of it and of no other value. -/
  quotation : Quotation value (quoted value)
  output : (run setup).output = setup.leadLines
  noHint : ∀ hint, .hint hint ∉ (run setup).notices

/-- What holds of a step that reads its interval from a value. -/
structure Verdict (setup : Setup) (value : String) : Prop where
  lead : setup.leadLines = [] ∨ setup.leadLines = ["cargo:rerun-if-changed=<cwd>/.env"]
  passes : (run setup).ending.exitCode ≠ 101 ↔ ∃ number, Accepts value number
  accepted : ∀ number, Accepts value number → Accepted setup number
  refused : (¬∃ number, Accepts value number) → Refused setup value
  /-- The output knows nothing of the value but the number that it is accepted for, if any. -/
  output : ∀ other another, other.effective? = some another →
    other.leadLines = setup.leadLines → other.arguments = setup.arguments →
      (∀ number, Accepts another number ↔ Accepts value number) →
        (run other).output = (run setup).output
  /-- No value brings a line of its own into the output. -/
  lines : ∀ line ∈ (run setup).output, '\n' ∉ line.toList

section Cases

variable {setup : Setup} {value : String} (effective : setup.effective? = some value)

include effective

theorem accepted_of_accepts {number : Nat} (accepts : Accepts value number) :
    Accepted setup number := by
  have accepted := interval?_eq_some_iff_accepts.mpr accepts
  have ending : (run setup).ending = (link setup.arguments).ending := by
    rw [run_of_effective? effective, ending_after, settle_of_some accepted, ending_after]
  obtain ⟨exitCode, success⟩ := exitCode_link setup.arguments
  constructor
  case complaint => rw [ending, complaint?_link]
  case output =>
    rw [run_of_effective? effective, output_after, output_settle_of_some accepted]
    rfl
  case success => rwa [ending]
  case exitCode => rwa [ending]

theorem refused_of_not_accepts (refuses : ¬∃ number, Accepts value number) :
    Refused setup value := by
  have stages := run_of_effective? effective
  rw [settle_of_none (interval?_eq_none_iff.mpr refuses)] at stages
  constructor
  case exitCode => rw [stages]; rfl
  case complaint => rw [stages]; rfl
  case quotation => exact quotation_quoted value
  case output =>
    rw [stages, output_after]
    exact List.append_nil _
  case noHint =>
    intro hint
    have notices : (run setup).notices = setup.remark := by
      rw [stages]
      exact List.append_nil setup.remark
    rw [notices]
    exact setup.hint_not_mem_remark hint

end Cases

theorem leadLines_eq (setup : Setup) :
    setup.leadLines = [] ∨ setup.leadLines = ["cargo:rerun-if-changed=<cwd>/.env"] := by
  unfold Setup.leadLines Setup.watch
  split
  · exact .inr rfl
  · exact .inl rfl
  · exact .inl rfl

/-- Every step that reads its interval keeps to the verdict on the value. -/
theorem verdict_of_effective {setup : Setup} {value : String}
    (effective : setup.effective? = some value) : Verdict setup value := by
  have leads : ∀ line ∈ setup.leadLines, '\n' ∉ line.toList := by
    rcases leadLines_eq setup with none | one
    · rw [none]
      rintro line ⟨⟩
    · rw [one, List.forall_mem_singleton]
      decide +kernel
  constructor
  case lead => exact leadLines_eq setup
  case passes =>
    constructor
    · intro passes
      refine Classical.not_not.mp fun refuses => passes ?_
      exact (refused_of_not_accepts effective refuses).exitCode
    · rintro ⟨number, accepts⟩ broken
      have small := (accepted_of_accepts effective accepts).exitCode
      omega
  case accepted => exact fun _ => accepted_of_accepts effective
  case refused => exact refused_of_not_accepts effective
  case output =>
    intro other another effectiveToo lead arguments sameNumbers
    by_cases accepts : ∃ number, Accepts value number
    · obtain ⟨number, accepts⟩ := accepts
      rw [(accepted_of_accepts effective accepts).output,
        (accepted_of_accepts effectiveToo ((sameNumbers number).mpr accepts)).output, lead,
        arguments]
    · have refuses : ¬∃ number, Accepts another number :=
        fun ⟨number, accepted⟩ => accepts ⟨number, (sameNumbers number).mp accepted⟩
      rw [(refused_of_not_accepts effective accepts).output,
        (refused_of_not_accepts effectiveToo refuses).output, lead]
  case lines =>
    by_cases accepts : ∃ number, Accepts value number
    · obtain ⟨number, accepts⟩ := accepts
      rw [(accepted_of_accepts effective accepts).output, List.forall_mem_append]
      exact ⟨leads, fun _ => newline_not_mem_numberLines⟩
    · rw [(refused_of_not_accepts effective accepts).output]
      exact leads

/-- The largest number with zeros before it, the next one, and a value with a line of its own. -/
theorem verdict_of_effective_boundary :
    let setup (value : String) : Setup := ⟨.text value, some "OTHER=1\n", []⟩
    Verdict (setup "\u2003+0018446744073709551615\n") "\u2003+0018446744073709551615\n" ∧
      Verdict (setup "18446744073709551616") "18446744073709551616" ∧
      Verdict (setup "7\ncargo:warning=7") "7\ncargo:warning=7" ∧
      (run (setup "\u2003+0018446744073709551615\n")).output =
        "cargo:rerun-if-changed=<cwd>/.env" :: numberLines 18446744073709551615 [] ∧
      (run (setup "18446744073709551616")).output = ["cargo:rerun-if-changed=<cwd>/.env"] ∧
      (run (setup "7\ncargo:warning=7")).output = ["cargo:rerun-if-changed=<cwd>/.env"] := by
  intro setup
  exact ⟨verdict_of_effective (by decide +kernel), verdict_of_effective (by decide +kernel),
    verdict_of_effective (by decide +kernel), by decide +kernel, by decide +kernel,
    by decide +kernel⟩

end LedKit.BuildStep
