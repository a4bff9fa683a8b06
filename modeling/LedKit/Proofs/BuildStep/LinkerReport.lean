import LedKit.Proofs.BuildStep.Verdict

/-!
# The answer to a linker error

Called for a linker error, a step with an accepted interval settles it and then answers the error
instead of linking. For an unresolved symbol it succeeds and gives the hint that fits the symbol,
if there is one; for any other error it fails and says nothing. No symbol has two hints that fit,
so it makes no difference in which order the hints are tried.
-/

namespace LedKit.BuildStep

/-! ## The hint that fits -/

namespace LinkerHint

/-- Every hint, in the order in which they are tried. -/
def all : List LinkerHint := [logger, memoryLayout, clockDriver]

theorem mem_all (hint : LinkerHint) : hint ∈ all := by cases hint <;> decide

/-- The symbols that a hint is about. -/
def Fits (symbol : String) : LinkerHint → Prop
  | logger => "_defmt_".toList <+: symbol.toList
  | memoryLayout => symbol = "_stack_start" ∨ symbol = "__RESET_VECTOR"
  | clockDriver =>
      "__embassy_time".toList <+: symbol.toList ∨ "_embassy_time".toList <+: symbol.toList

instance decidableFits (symbol : String) : (hint : LinkerHint) → Decidable (hint.Fits symbol)
  | logger => inferInstanceAs (Decidable ("_defmt_".toList <+: symbol.toList))
  | memoryLayout =>
      inferInstanceAs (Decidable (symbol = "_stack_start" ∨ symbol = "__RESET_VECTOR"))
  | clockDriver =>
      inferInstanceAs (Decidable
        ("__embassy_time".toList <+: symbol.toList ∨ "_embassy_time".toList <+: symbol.toList))

/-- What the symbols that a hint is about begin with. -/
def starts : LinkerHint → List String
  | logger => ["_defmt_"]
  | memoryLayout => ["_stack_start", "__RESET_VECTOR"]
  | clockDriver => ["__embassy_time", "_embassy_time"]

theorem Fits.exists_start {symbol : String} {hint : LinkerHint} (fits : hint.Fits symbol) :
    ∃ start ∈ hint.starts, start.toList <+: symbol.toList := by
  cases hint with
  | logger => exact ⟨_, List.mem_cons_self, fits⟩
  | memoryLayout =>
      refine ⟨symbol, ?_, List.prefix_refl _⟩
      rw [starts, List.mem_cons, List.mem_singleton]
      exact fits
  | clockDriver =>
      rcases fits with double | single
      · exact ⟨_, List.mem_cons_self, double⟩
      · exact ⟨_, List.mem_cons_of_mem _ List.mem_cons_self, single⟩

/-- No start of one hint goes on as a start of another. -/
theorem eq_of_start_isPrefix : ∀ first ∈ all, ∀ second ∈ all, ∀ start ∈ first.starts,
    ∀ other ∈ second.starts, start.toList <+: other.toList → first = second := by
  decide +kernel

/-- Two hints never fit one symbol: of two starts of a text one goes on as the other. -/
theorem Fits.unique {symbol : String} {first second : LinkerHint} (fits : first.Fits symbol)
    (fitsToo : second.Fits symbol) : first = second := by
  obtain ⟨start, own, before⟩ := fits.exists_start
  obtain ⟨other, ownToo, beforeToo⟩ := fitsToo.exists_start
  rcases List.prefix_or_prefix_of_prefix before beforeToo with shorter | longer
  · exact eq_of_start_isPrefix first (mem_all first) second (mem_all second) start own other ownToo
      shorter
  · exact (eq_of_start_isPrefix second (mem_all second) first (mem_all first) other ownToo start own
      longer).symm

/-- The lines of a hint: its text between empty lines. -/
def lines (hint : LinkerHint) : List String := ["", hint.text, ""]

end LinkerHint

/-! ## The lines of the answer -/

end LedKit.BuildStep
