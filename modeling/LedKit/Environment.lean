/-!
# The environment

The environment holds the variables that are set, each with its text. Storing a setting leaves a
variable that is set already as it is, so the first setting of a key is the one that counts.
-/

namespace LedKit

structure Setting where
  key : List Char
  value : List Char
  deriving DecidableEq

namespace Setting

/-- The setting as it stands in the environment: its key, an equals sign and its value. -/
def entry (setting : Setting) : List Char := setting.key ++ '=' :: setting.value

/-- What stands after a name and an equals sign in the entry. A name that has an equals sign of its
own reaches into the value. -/
def after? (setting : Setting) (name : List Char) : Option (List Char) :=
  if name ++ ['='] <+: setting.entry then some (setting.entry.drop (name.length + 1)) else none

theorem after?_eq_some_iff {setting : Setting} {name rest : List Char} :
    setting.after? name = some rest ↔ setting.entry = name ++ '=' :: rest := by
  rw [after?]
  constructor
  · intro found
    split at found
    · next start =>
      obtain ⟨others, whole⟩ := start
      rw [← whole] at found ⊢
      simpa using found
    · contradiction
  · intro whole
    simp [whole]

end Setting

/-- The settings in force, in the order in which they were made. -/
structure Environment where
  settings : List Setting
  deriving DecidableEq

namespace Environment

def empty : Environment := ⟨[]⟩

/-- The text of the variable with a key. -/
def value? (environment : Environment) (key : List Char) : Option (List Char) :=
  (environment.settings.find? (·.key = key)).map (·.value)

/-- The text that a name refers to, which is empty where the name refers to nothing. -/
def referent (environment : Environment) (name : List Char) : List Char :=
  (environment.settings.findSome? (·.after? name)).getD []

/-- The environment after a setting. A variable that is set already stays as it is, and a text
with a null character cannot be stored. -/
def store? (environment : Environment) (setting : Setting) : Option Environment :=
  if (environment.value? setting.key).isSome then some environment
  else if '\x00' ∈ setting.value then none
  else some ⟨environment.settings ++ [setting]⟩

/-- A stored setting gives its variable a text if there was none, and changes nothing else. -/
theorem value?_of_store? {environment after : Environment} {setting : Setting}
    (stored : environment.store? setting = some after) (key : List Char) :
    after.value? key =
      (environment.value? key).or (if setting.key = key then some setting.value else none) := by
  unfold store? at stored
  split at stored
  · next present =>
    obtain rfl := Option.some.inj stored
    split
    · next same =>
      subst same
      rw [Option.or_of_isSome present]
    · rw [Option.or_none]
  · split at stored
    · contradiction
    · obtain rfl := Option.some.inj stored
      by_cases same : setting.key = key <;>
        cases found : environment.settings.find? (·.key = key) <;>
        simp [value?, List.find?_append, found, same]

/-- Only a null character in a new text keeps a setting from being stored. -/
theorem store?_eq_none_iff {environment : Environment} {setting : Setting} :
    environment.store? setting = none ↔
      environment.value? setting.key = none ∧ '\x00' ∈ setting.value := by
  rw [store?]
  split
  · next present => simp [Option.isSome_iff_ne_none.mp present]
  · next absent => simp [Option.not_isSome_iff_eq_none.mp absent]

end Environment

end LedKit
