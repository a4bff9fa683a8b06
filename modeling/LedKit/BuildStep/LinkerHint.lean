/-!
# Hints on linker errors

When the linker cannot resolve a symbol, its name often tells what is missing from the build. A
hint is found by the symbol's name alone; at most one fits.
-/

namespace LedKit.BuildStep

inductive LinkerHint where
  /-- The script of the logger is missing. -/
  | logger
  /-- The memory layout is missing. -/
  | memoryLayout
  /-- The clock driver is missing. -/
  | clockDriver
  deriving DecidableEq

namespace LinkerHint

def text : LinkerHint → String
  | logger =>
    "💡 `defmt` not found - make sure `defmt.x` is added as a linker script " ++
      "and you have included `use defmt_rtt as _;`"
  | memoryLayout =>
    "💡 Is the linker script `link.x` missing, " ++
      "or is no board feature (and so no chip / memory.x) selected?"
  | clockDriver => "💡 No embassy time driver - enable `time-driver-any` on embassy-stm32."

/-- The symbol begins with the given text. -/
def beginsWith (symbol start : String) : Bool := start.toList.isPrefixOf symbol.toList

/-- The hint that fits a symbol. -/
def ofSymbol? (symbol : String) : Option LinkerHint :=
  if beginsWith symbol "_defmt_" then some logger
  else if symbol = "_stack_start" ∨ symbol = "__RESET_VECTOR" then some memoryLayout
  else if beginsWith symbol "__embassy_time" ∨ beginsWith symbol "_embassy_time" then
    some clockDriver
  else none

end LinkerHint

end LedKit.BuildStep
