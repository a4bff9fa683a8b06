import LedKit.Session.Operation

/-!
# Hardware that cannot be told apart

Two pieces of hardware agree along a relation of their states when every access leaves related
states related and reads the same. Agreement of pin drivers carries over to the LEDs on them, and
agreement of LED hardware carries over to every run of handle operations.
-/

namespace LedKit

variable {σ τ : Type}

/-- Pin drivers whose accesses keep their states related and read the same level. -/
structure PinDriver.Agree (first : PinDriver σ) (second : PinDriver τ)
    (related : σ → τ → Prop) : Prop where
  write : ∀ {state other}, related state other → ∀ bank mask level,
    related (first.write bank mask level state) (second.write bank mask level other)
  toggle : ∀ {state other}, related state other → ∀ bank mask,
    related (first.toggle bank mask state) (second.toggle bank mask other)
  read : ∀ {state other}, related state other → ∀ bank mask,
    (first.read bank mask state).1 = (second.read bank mask other).1 ∧
      related (first.read bank mask state).2 (second.read bank mask other).2

/-- LED hardware whose accesses keep their states related and read the same. -/
structure LedHardware.Agree (first : LedHardware σ) (second : LedHardware τ)
    (related : σ → τ → Prop) : Prop where
  set : ∀ {state other}, related state other → ∀ descriptor lit,
    related (first.set descriptor lit state) (second.set descriptor lit other)
  toggle : ∀ {state other}, related state other → ∀ descriptor,
    related (first.toggle descriptor state) (second.toggle descriptor other)
  get : ∀ {state other}, related state other → ∀ descriptor,
    (first.get descriptor state).1 = (second.get descriptor other).1 ∧
      related (first.get descriptor state).2 (second.get descriptor other).2

/-- LEDs on agreeing pin drivers agree: what does not resolve is left alone by both. -/
theorem PinDriver.Agree.leds {first : PinDriver σ} {second : PinDriver τ}
    {related : σ → τ → Prop} (agree : PinDriver.Agree first second related) :
    LedHardware.Agree first.leds second.leds related where
  set start descriptor lit := by
    cases resolved : Descriptor.resolve descriptor with
    | none =>
        rw [leds_set_of_none resolved, leds_set_of_none resolved]
        exact start
    | some place =>
        rw [leds_set_of_some resolved, leds_set_of_some resolved]
        exact agree.write start _ _ _
  toggle start descriptor := by
    cases resolved : Descriptor.resolve descriptor with
    | none =>
        rw [leds_toggle_of_none resolved, leds_toggle_of_none resolved]
        exact start
    | some place =>
        rw [leds_toggle_of_some resolved, leds_toggle_of_some resolved]
        exact agree.toggle start _ _
  get start descriptor := by
    cases resolved : Descriptor.resolve descriptor with
    | none =>
        rw [leds_get_of_none resolved, leds_get_of_none resolved]
        exact ⟨rfl, start⟩
    | some place =>
        rw [leds_get_of_some resolved, leds_get_of_some resolved]
        obtain ⟨level, after⟩ := agree.read start place.1 place.2
        exact ⟨congrArg Level.isHigh level, after⟩

/-- A pin driver whose accesses keep a property of its state. -/
structure PinDriver.Keep (driver : PinDriver σ) (kept : σ → Prop) : Prop where
  write : ∀ {state}, kept state → ∀ bank mask level, kept (driver.write bank mask level state)
  toggle : ∀ {state}, kept state → ∀ bank mask, kept (driver.toggle bank mask state)
  read : ∀ {state}, kept state → ∀ bank mask, kept (driver.read bank mask state).2

/-- A driver that keeps a property agrees with itself along it. -/
theorem PinDriver.Keep.agree {driver : PinDriver σ} {kept : σ → Prop}
    (keep : PinDriver.Keep driver kept) :
    PinDriver.Agree driver driver fun state other => other = state ∧ kept state where
  write := by
    rintro state _ ⟨rfl, start⟩ bank mask level
    exact ⟨rfl, keep.write start bank mask level⟩
  toggle := by
    rintro state _ ⟨rfl, start⟩ bank mask
    exact ⟨rfl, keep.toggle start bank mask⟩
  read := by
    rintro state _ ⟨rfl, start⟩ bank mask
    exact ⟨rfl, rfl, keep.read start bank mask⟩

/-- Handles with the same binding over related hardware. -/
structure Led.Alike (related : σ → τ → Prop) (led : Led σ) (other : Led τ) : Prop where
  binding : led.binding = other.binding
  hardware : related led.hardware other.hardware

namespace HandleOp

variable {first : LedHardware σ} {second : LedHardware τ} {related : σ → τ → Prop}

/-- One operation on alike handles has one answer and leaves them alike. -/
theorem run_alike (agree : LedHardware.Agree first second related) (board : Board)
    (operation : HandleOp) {led : Led σ} {other : Led τ} (alike : Led.Alike related led other) :
    (operation.run first board led).1 = (operation.run second board other).1 ∧
      Led.Alike related (operation.run first board led).2 (operation.run second board other).2 := by
  obtain ⟨binding, state⟩ := led
  obtain ⟨otherBinding, otherState⟩ := other
  obtain ⟨same, start⟩ := alike
  change binding = otherBinding at same
  change related state otherState at start
  subst same
  cases operation with
  | bind target =>
      cases wanted : target.descriptor board with
      | none =>
          have kept : Led.Alike related ⟨binding, state⟩ ⟨binding, otherState⟩ := ⟨rfl, start⟩
          simpa [run, wanted] using kept
      | some descriptor =>
          have bound : Led.Alike related ⟨some descriptor, state⟩ ⟨some descriptor, otherState⟩ :=
            ⟨rfl, start⟩
          simpa [run, wanted] using bound
  | isBound => exact ⟨rfl, rfl, start⟩
  | binding => exact ⟨rfl, rfl, start⟩
  | setState wanted =>
      cases binding with
      | none => exact ⟨rfl, rfl, start⟩
      | some descriptor => exact ⟨rfl, rfl, agree.set start _ _⟩
  | toggle =>
      cases binding with
      | none => exact ⟨rfl, rfl, start⟩
      | some descriptor => exact ⟨rfl, rfl, agree.toggle start _⟩
  | getState =>
      cases binding with
      | none => exact ⟨rfl, rfl, start⟩
      | some descriptor =>
          obtain ⟨lit, after⟩ := agree.get start (some descriptor)
          exact ⟨by simp [run, lit], rfl, after⟩
  | getStateInto place =>
      cases place with
      | none => exact ⟨rfl, rfl, start⟩
      | some content =>
          cases binding with
          | none => exact ⟨rfl, rfl, start⟩
          | some descriptor =>
              obtain ⟨lit, after⟩ := agree.get start (some descriptor)
              exact ⟨by simp [run, lit], rfl, after⟩
  | blinkStep =>
      cases binding with
      | none => exact ⟨rfl, rfl, start⟩
      | some descriptor =>
          obtain ⟨lit, after⟩ := agree.get (agree.toggle start (some descriptor)) (some descriptor)
          exact ⟨by simp [run, lit], rfl, after⟩
  | drive target lit => exact ⟨rfl, rfl, agree.set start _ _⟩

/-- A run of operations on alike handles has the same answers and leaves the handles alike. -/
theorem runAll_alike (agree : LedHardware.Agree first second related) (board : Board)
    (operations : List HandleOp) {led : Led σ} {other : Led τ}
    (alike : Led.Alike related led other) :
    (runAll first board operations led).1 = (runAll second board operations other).1 ∧
      Led.Alike related (runAll first board operations led).2
        (runAll second board operations other).2 := by
  induction operations generalizing led other with
  | nil => exact ⟨rfl, alike⟩
  | cons operation rest ih =>
      obtain ⟨answer, between⟩ := run_alike agree board operation alike
      obtain ⟨answers, after⟩ := ih between
      exact ⟨by simp only [runAll, answer, answers], after⟩

end HandleOp

end LedKit
