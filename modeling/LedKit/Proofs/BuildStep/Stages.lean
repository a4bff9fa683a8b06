import LedKit.BuildStep
import LedKit.Proofs.EnvFile.Loading

/-!
# The stages of the build step

The step loads the settings file, settles the interval and links. It breaks off in two places only:
at a setting that cannot be stored and at an interval that is refused.
-/

namespace LedKit.BuildStep

/-- The settings that are in force once the file is loaded, and how the loading ended. -/
def Setup.loaded (setup : Setup) : EnvFile.Loaded :=
  EnvFile.load setup.inherited.environment setup.envFile

/-- The text that the interval is read from. -/
def Setup.effective (setup : Setup) : String := configured setup.loaded.environment

theorem Variable.environment_of_none {inherited : Variable} (unset : inherited.text? = none) :
    inherited.environment = .empty := by
  rw [environment, unset]

theorem Variable.environment_of_some {inherited : Variable} {text : String}
    (held : inherited.text? = some text) :
    inherited.environment = ⟨[⟨intervalKey.toList, text.toList⟩]⟩ := by
  rw [environment, held]

/-- A variable that holds a text is what the interval is read from, whatever the file says. -/
theorem effective_of_text? {setup : Setup} {text : String}
    (held : setup.inherited.text? = some text) : setup.effective = text := by
  have set : setup.inherited.environment.value? intervalKey.toList = some text.toList := by
    rw [Variable.environment_of_some held]
    simp [Environment.value?]
  rw [Setup.effective, configured, Setup.loaded, EnvFile.value?_load set]
  simp

/-! ## Linking and settling -/

theorem ending_after (outcome : Outcome) (directives : List Directive) (notices : List Notice) :
    (outcome.after directives notices).ending = outcome.ending := rfl

theorem complaint?_link (arguments : List String) : (link arguments).ending.complaint? = none := by
  unfold link
  split
  · unfold onLinkerError
    split <;> rfl
  · rfl

theorem settle_of_none {value : String} (refused : interval? value = none)
    (arguments : List String) : settle value arguments = ⟨[], [], .refused value⟩ := by
  rw [settle, refused]

theorem settle_of_some {value : String} {number : Nat} (accepted : interval? value = some number)
    (arguments : List String) :
    settle value arguments = (link arguments).after [.setInterval number, .watchVariable] [] := by
  rw [settle, accepted]

theorem complaint?_settle_eq_none_iff {value : String} {arguments : List String} :
    (settle value arguments).ending.complaint? = none ↔
      ∃ number, interval? value = some number := by
  cases accepted : interval? value with
  | none =>
      rw [settle_of_none accepted]
      constructor
      · intro survives
        cases survives
      · rintro ⟨number, other⟩
        cases other
  | some number =>
      rw [settle_of_some accepted, ending_after]
      exact ⟨fun _ => ⟨number, rfl⟩, fun _ => complaint?_link arguments⟩

/-! ## The whole step -/

variable {setup : Setup}

theorem run_of_complete (complete : setup.loaded.finish = .complete) :
    run setup = (settle setup.effective setup.arguments).after [.watchFile] [] := by
  unfold run
  rw [Setup.loaded] at complete
  simp only [complete]
  rfl

theorem run_of_failed {failure : EnvFile.Failure}
    (failed : setup.loaded.finish = .failed failure) :
    run setup = (settle setup.effective setup.arguments).after [] [.noFile failure] := by
  unfold run
  rw [Setup.loaded] at failed
  simp only [failed]
  rfl

theorem run_of_unstorable {setting : Setting}
    (unstorable : setup.loaded.finish = .unstorable setting) :
    run setup = ⟨[], [], .unstorable setting⟩ := by
  unfold run
  rw [Setup.loaded] at unstorable
  simp only [unstorable]

/-- Where the file can be stored, the step says at most that it watches the file or lacks one
before it settles the interval. -/
theorem run_of_storable (storable : ∀ setting, setup.loaded.finish ≠ .unstorable setting) :
    ∃ directives notices, (∀ directive ∈ directives, directive = .watchFile) ∧
      run setup = (settle setup.effective setup.arguments).after directives notices := by
  cases finish : setup.loaded.finish with
  | complete => exact ⟨[.watchFile], [], by simp, run_of_complete finish⟩
  | failed failure => exact ⟨[], [.noFile failure], by simp, run_of_failed finish⟩
  | unstorable setting => exact absurd finish (storable setting)

/-- A run that does not break off has stored the file and accepted the interval. -/
theorem complaint?_run_eq_none_iff :
    (run setup).ending.complaint? = none ↔
      (∀ setting, setup.loaded.finish ≠ .unstorable setting) ∧
        ∃ number, interval? setup.effective = some number := by
  have settled (storable : ∀ setting, setup.loaded.finish ≠ .unstorable setting) :
      (run setup).ending.complaint? = none ↔
        ∃ number, interval? setup.effective = some number := by
    obtain ⟨directives, notices, _, stages⟩ := run_of_storable storable
    rw [stages, ending_after, complaint?_settle_eq_none_iff]
  constructor
  · intro survives
    have storable : ∀ setting, setup.loaded.finish ≠ .unstorable setting := by
      intro setting unstorable
      rw [run_of_unstorable unstorable] at survives
      cases survives
    exact ⟨storable, (settled storable).mp survives⟩
  · rintro ⟨storable, accepted⟩
    exact (settled storable).mpr accepted

end LedKit.BuildStep
