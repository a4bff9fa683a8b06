import LedKit.EnvFile

/-!
# Loading a settings file into different environments

Whether a line is a setting never depends on the environment. Whether a setting can be stored does,
but only through the variables that are set already: no text that is in force holds a null
character, so the null characters of a value are those that the file itself has. A file that can be
stored in one environment can therefore be stored in every environment that sets more.
-/

namespace LedKit

namespace Environment

/-- No text in force holds a null character. -/
def NullFree (environment : Environment) : Prop :=
  ∀ setting ∈ environment.settings, '\x00' ∉ setting.entry

theorem nullFree_empty : empty.NullFree := by
  intro setting member
  cases member

theorem nullFree_singleton {setting : Setting} (key : '\x00' ∉ setting.key)
    (value : '\x00' ∉ setting.value) : NullFree ⟨[setting]⟩ := by
  intro other member
  cases List.mem_singleton.mp member
  simp [Setting.entry, key, value]

/-- A name refers to no null character. -/
theorem NullFree.not_mem_referent {environment : Environment} (nullFree : environment.NullFree)
    (name : List Char) : '\x00' ∉ environment.referent name := by
  intro null
  rw [referent] at null
  cases found : environment.settings.findSome? (·.after? name) with
  | none => simp [found] at null
  | some text =>
      obtain ⟨setting, member, after⟩ := List.exists_of_findSome?_eq_some found
      rw [found, Option.getD_some] at null
      have entry := Setting.after?_eq_some_iff.mp after
      exact nullFree setting member (entry ▸ List.mem_append_right _ (List.mem_cons_of_mem _ null))

theorem NullFree.of_store? {environment after : Environment} {setting : Setting}
    (nullFree : environment.NullFree) (key : '\x00' ∉ setting.key)
    (stored : environment.store? setting = some after) : after.NullFree := by
  unfold store? at stored
  split at stored
  · cases stored
    exact nullFree
  · split at stored
    · cases stored
    · next unset value =>
        cases stored
        intro other member
        rcases List.mem_append.mp member with before | last
        · exact nullFree other before
        · cases List.mem_singleton.mp last
          simp [Setting.entry, key, value]

/-- The second environment sets each variable that the first one sets. -/
def Covers (second first : Environment) : Prop :=
  ∀ key, (first.value? key).isSome → (second.value? key).isSome

theorem covers_empty (environment : Environment) : environment.Covers empty := by
  intro key set
  cases set

theorem covers_singleton (key first second : List Char) :
    Covers ⟨[⟨key, second⟩]⟩ ⟨[⟨key, first⟩]⟩ := by
  intro other set
  by_cases same : key = other <;> simp_all [value?]

/-- A setting of the same key in both environments keeps the one covered. -/
theorem Covers.store? {first second firstAfter secondAfter : Environment}
    (covers : second.Covers first) {firstSetting secondSetting : Setting}
    (same : firstSetting.key = secondSetting.key)
    (firstStored : first.store? firstSetting = some firstAfter)
    (secondStored : second.store? secondSetting = some secondAfter) :
    secondAfter.Covers firstAfter := by
  intro key set
  rw [value?_of_store? firstStored] at set
  rw [value?_of_store? secondStored]
  cases present : second.value? key with
  | some text => rfl
  | none =>
      cases before : first.value? key with
      | some text =>
          have impossible := covers key (Option.isSome_of_eq_some before)
          rw [present] at impossible
          cases impossible
      | none =>
          rw [before] at set
          by_cases named : firstSetting.key = key
          · simp [← same, named]
          · simp [named] at set

end Environment

namespace EnvFile

/-- The null characters of a value are those that stand in the file. -/
theorem null_mem_expand_iff {environment : Environment} (nullFree : environment.NullFree)
    (value : Value) : '\x00' ∈ value.expand environment ↔ .literal '\x00' ∈ value := by
  rw [Value.expand, List.mem_flatMap]
  constructor
  · rintro ⟨piece, member, null⟩
    cases piece with
    | literal character =>
        cases List.mem_singleton.mp null
        exact member
    | reference name => exact absurd null (nullFree.not_mem_referent name)
  · intro member
    exact ⟨_, member, List.mem_singleton_self _⟩

/-- What cannot be stored where more is set cannot be stored where less is set. -/
theorem store?_setting_eq_none {first second : Environment} (firstFree : first.NullFree)
    (secondFree : second.NullFree) (covers : second.Covers first) {assignment : Assignment}
    (refused : second.store? (assignment.setting second) = none) :
    first.store? (assignment.setting first) = none := by
  obtain ⟨unset, null⟩ := Environment.store?_eq_none_iff.mp refused
  change second.value? assignment.key = none at unset
  have literal := (null_mem_expand_iff secondFree assignment.value).mp null
  refine Environment.store?_eq_none_iff.mpr ⟨?_, (null_mem_expand_iff firstFree _).mpr literal⟩
  cases value : first.value? assignment.key with
  | none => exact value
  | some text =>
      have set := covers _ (Option.isSome_of_eq_some value)
      rw [unset] at set
      cases set

/-! ## Keys -/

namespace Assignment

theorem isKeyPart_of_takeKey? {text key rest : List Char}
    (taken : takeKey? text = some (key, rest)) :
    ∀ character ∈ key, isKeyPart character = true := by
  unfold takeKey? at taken
  split at taken
  · cases taken
  · split at taken
    · cases taken
      exact List.all_eq_true.mp List.all_takeWhile
    · cases taken

theorem key_of_ofKey {key text : List Char} {assignment : Assignment}
    (assigned : ofKey key text = .ok (some assignment)) : assignment.key = key := by
  unfold ofKey at assigned
  dsimp only at assigned
  split at assigned
  · cases assigned
    rfl
  · split at assigned
    · cases assigned
    · cases assigned
      rfl

/-- The key of an assignment has no characters but those of keys. -/
theorem isKeyPart_of_ofLine {line : List Char} {assignment : Assignment}
    (parsed : ofLine line = .ok (some assignment)) :
    ∀ character ∈ assignment.key, isKeyPart character = true := by
  unfold ofLine at parsed
  dsimp only at parsed
  split at parsed
  · cases parsed
  · split at parsed
    · cases parsed
    · next key rest taken =>
        split at parsed
        · next text equals =>
            rw [key_of_ofKey parsed]
            exact isKeyPart_of_takeKey? taken
        · split at parsed
          · split at parsed
            · cases parsed
            · next exported others exportedTaken =>
                split at parsed
                · rw [key_of_ofKey parsed]
                  exact isKeyPart_of_takeKey? exportedTaken
                · cases parsed
          · cases parsed

theorem null_not_mem_key {line : List Char} {assignment : Assignment}
    (parsed : ofLine line = .ok (some assignment)) : '\x00' ∉ assignment.key := by
  intro null
  have part := isKeyPart_of_ofLine parsed '\x00' null
  exact absurd part (by decide)

end Assignment

/-! ## Loading -/

section Equations

variable {environment : Environment} {text : List Char} (rest : List LogicalLine)

theorem loadLines_of_error {bad : BadLine} (parsed : Assignment.ofLine text = .error bad) :
    loadLines environment (.complete text :: rest) = ⟨environment, .failed (.badLine bad)⟩ := by
  simp only [loadLines, parsed]

theorem loadLines_of_none (parsed : Assignment.ofLine text = .ok none) :
    loadLines environment (.complete text :: rest) = loadLines environment rest := by
  simp only [loadLines, parsed]

variable {assignment : Assignment} (parsed : Assignment.ofLine text = .ok (some assignment))

include parsed

theorem loadLines_of_store?_eq_none
    (stored : environment.store? (assignment.setting environment) = none) :
    loadLines environment (.complete text :: rest) =
      ⟨environment, .unstorable (assignment.setting environment)⟩ := by
  simp only [loadLines, parsed, stored]

theorem loadLines_of_store?_eq_some {after : Environment}
    (stored : environment.store? (assignment.setting environment) = some after) :
    loadLines environment (.complete text :: rest) = loadLines after rest := by
  simp only [loadLines, parsed, stored]

end Equations

/-- A variable that is set keeps its text. -/
theorem value?_loadLines {environment : Environment} {key value : List Char}
    (set : environment.value? key = some value) (lines : List LogicalLine) :
    (loadLines environment lines).environment.value? key = some value := by
  induction lines generalizing environment with
  | nil => exact set
  | cons line rest ih =>
      cases line with
      | unfinished text => exact set
      | complete text =>
          cases parsed : Assignment.ofLine text with
          | error bad =>
              rw [loadLines_of_error rest parsed]
              exact set
          | ok found =>
              cases found with
              | none =>
                  rw [loadLines_of_none rest parsed]
                  exact ih set
              | some assignment =>
                  cases stored : environment.store? (assignment.setting environment) with
                  | none =>
                      rw [loadLines_of_store?_eq_none rest parsed stored]
                      exact set
                  | some after =>
                      rw [loadLines_of_store?_eq_some rest parsed stored]
                      apply ih
                      rw [Environment.value?_of_store? stored, set, Option.some_or]

/-- Lines that can be stored in an environment end in the same way in one that covers it. -/
theorem finish_loadLines {first second : Environment} (firstFree : first.NullFree)
    (secondFree : second.NullFree) (covers : second.Covers first) (lines : List LogicalLine)
    (storable : ∀ setting, (loadLines first lines).finish ≠ .unstorable setting) :
    (loadLines second lines).finish = (loadLines first lines).finish := by
  induction lines generalizing first second with
  | nil => rfl
  | cons line rest ih =>
      cases line with
      | unfinished text => rfl
      | complete text =>
          cases parsed : Assignment.ofLine text with
          | error bad => rw [loadLines_of_error rest parsed, loadLines_of_error rest parsed]
          | ok found =>
              cases found with
              | none =>
                  rw [loadLines_of_none rest parsed] at storable ⊢
                  rw [loadLines_of_none rest parsed]
                  exact ih firstFree secondFree covers storable
              | some assignment =>
                  have key := Assignment.null_not_mem_key parsed
                  cases firstStored : first.store? (assignment.setting first) with
                  | none =>
                      rw [loadLines_of_store?_eq_none rest parsed firstStored] at storable
                      exact absurd rfl (storable _)
                  | some firstAfter =>
                      cases secondStored : second.store? (assignment.setting second) with
                      | none =>
                          -- Where more is set, less can be refused.
                          rw [store?_setting_eq_none firstFree secondFree covers secondStored]
                            at firstStored
                          cases firstStored
                      | some secondAfter =>
                          have sameKey : (assignment.setting first).key =
                              (assignment.setting second).key := rfl
                          rw [loadLines_of_store?_eq_some rest parsed firstStored] at storable ⊢
                          rw [loadLines_of_store?_eq_some rest parsed secondStored]
                          exact ih (firstFree.of_store? key firstStored)
                            (secondFree.of_store? key secondStored)
                            (covers.store? sameKey firstStored secondStored) storable

/-- A variable that is set keeps its text, whatever file is loaded. -/
theorem value?_load {environment : Environment} {key value : List Char}
    (set : environment.value? key = some value) (file : Option String) :
    (load environment file).environment.value? key = some value := by
  cases file with
  | none => exact set
  | some text => exact value?_loadLines set _

/-- A file that can be stored in an environment ends in the same way in one that covers it. -/
theorem finish_load {first second : Environment} (firstFree : first.NullFree)
    (secondFree : second.NullFree) (covers : second.Covers first) (file : Option String)
    (storable : ∀ setting, (load first file).finish ≠ .unstorable setting) :
    (load second file).finish = (load first file).finish := by
  cases file with
  | none => rfl
  | some text => exact finish_loadLines firstFree secondFree covers _ storable

end EnvFile

end LedKit
