import LedKit.Proofs.Session.Calls

/-!
# Hardware that a descriptor leaves as it is

Hardware is steady for a descriptor when calls with it keep what holds of the hardware and its reads
give only some answers. Operations on handles bound to the descriptor, and calls of the hardware
with it, then succeed with such answers all through a session, and keep the same of its bench.
-/

namespace LedKit

/-- Calls with a descriptor keep what holds of the hardware, and only allowed answers are read. -/
structure LedHardware.Steady {σ : Type} (lamps : LedHardware σ) (descriptor : Descriptor)
    (kept : σ → Prop) (allowed : Bool → Prop) : Prop where
  serve : ∀ state call, call.descriptor = some descriptor → kept state →
    kept (lamps.serve state call).2
  read : ∀ state, kept state → allowed (lamps.get (some descriptor) state).1

/-! ## Operations with one descriptor -/

namespace HandleOp

/-- The operation uses the LED of its handle, or drives the LED of the same descriptor. -/
def Addresses (board : Board) (descriptor : Descriptor) : HandleOp → Prop
  | .setState _ | .toggle | .getState | .getStateInto (some _) | .blinkStep => True
  | .drive target _ => target.descriptor board = some descriptor
  | .bind _ | .isBound | .binding | .getStateInto none => False

/-- The answer to an operation that succeeds with this reading of the LED. -/
def reading (lit : Bool) : HandleOp → HandleAnswer
  | .setState _ | .toggle => .done (.ok ())
  | .getState | .blinkStep => .state (.ok (.ofBool lit))
  | .getStateInto _ => .stored (.ok ()) (some (.ofBool lit))
  | .bind _ | .isBound | .binding | .drive _ _ => .nothing

variable {σ : Type} {lamps : LedHardware σ} {descriptor : Descriptor} {kept : σ → Prop}
  {allowed : Bool → Prop}

/-- On steady hardware an operation succeeds and leaves the handle and the hardware as they are. -/
theorem run_steady (steady : lamps.Steady descriptor kept allowed) (board : Board)
    {operation : HandleOp} (addressed : operation.Addresses board descriptor) {state : σ}
    (start : kept state) :
    ∃ lit after, allowed lit ∧ kept after ∧
      operation.run lamps board ⟨some descriptor, state⟩ =
        (operation.reading lit, ⟨some descriptor, after⟩) := by
  have own := steady.read _ start
  have toggled : kept (lamps.toggle (some descriptor) state) :=
    steady.serve _ (.toggle (some descriptor)) rfl start
  have read : ∀ state, kept state → kept (lamps.get (some descriptor) state).2 :=
    fun state => steady.serve state (.get (some descriptor)) rfl
  cases operation with
  | setState wanted =>
      have set := steady.serve _ (.set (some descriptor) wanted.isOn) rfl start
      exact ⟨_, _, own, set, rfl⟩
  | toggle => exact ⟨_, _, own, toggled, rfl⟩
  | getState => exact ⟨_, _, own, read _ start, rfl⟩
  | getStateInto place =>
      cases place with
      | none => cases addressed
      | some content => exact ⟨_, _, own, read _ start, rfl⟩
  | blinkStep => exact ⟨_, _, steady.read _ toggled, read _ toggled, rfl⟩
  | drive target lit =>
      have driven := steady.serve _ (.set (target.descriptor board) lit) addressed start
      exact ⟨_, _, own, driven, rfl⟩
  | bind | isBound | binding => cases addressed

end HandleOp

namespace Op

/-- The operation is one on a handle bound to the descriptor, or a call of the hardware with it. -/
def Addresses (board : Board) (handles : List Handle) (descriptor : Descriptor) : Op → Prop
  | .ledSet target _ | .ledToggle target | .ledGet target =>
      target.descriptor board = some descriptor
  | .onHandle number operation =>
      Handle.bindingAt? handles number = some (some descriptor) ∧
        operation.Addresses board descriptor
  | _ => False

/-- The answer to an operation that succeeds with this reading of the LED. -/
def reading (lit : Bool) : Op → Answer
  | .ledGet _ => .flag lit
  | .onHandle _ operation => .handled (operation.reading lit)
  | _ => .nothing

end Op

/-- An observation of an operation that succeeded, over a bench that keeps something. -/
structure Observation.Steady (kept : Bench → Prop) (allowed : Bool → Prop) (handles : List Handle)
    (operation : Op) (seen : Observation) : Prop where
  answer : ∃ lit, allowed lit ∧ seen.answer = operation.reading lit
  handles : seen.handles = handles
  bench : ∃ bench, kept bench ∧ seen.trace = bench.trace ∧ seen.output = bench.output

namespace Session

section Steady

variable {kind : Kind} {board : Board} {descriptor : Descriptor} {kept : Bench → Prop}
  {allowed : Bool → Prop}

/-- On steady hardware an operation succeeds and leaves the handles and the bench as they are. -/
theorem step_steady (steady : kind.leds.Steady descriptor kept allowed) {session : Session}
    {operation : Op} (addressed : operation.Addresses board session.handles descriptor)
    (start : kept session.bench) :
    ∃ lit after, allowed lit ∧ kept after ∧
      step kind board session operation = (operation.reading lit, ⟨after, session.handles⟩) := by
  have own := steady.read _ start
  cases operation with
  | ledSet target lit =>
      have set := steady.serve _ (.set (target.descriptor board) lit) addressed start
      exact ⟨_, _, own, set, rfl⟩
  | ledToggle target =>
      have toggled := steady.serve _ (.toggle (target.descriptor board)) addressed start
      exact ⟨_, _, own, toggled, rfl⟩
  | ledGet target =>
      have read := steady.serve _ (.get (target.descriptor board)) addressed start
      rw [← show _ = _ from addressed] at own
      exact ⟨_, _, own, read, rfl⟩
  | onHandle number operation =>
      obtain ⟨bound, addressed⟩ := addressed
      obtain ⟨lit, after, lawful, later, ran⟩ := HandleOp.run_steady steady board addressed start
      obtain ⟨inside, held⟩ := List.getElem?_eq_some_iff.mp (Handle.bindingAt?_eq_some_iff.mp bound)
      refine ⟨lit, after, lawful, later, ?_⟩
      rw [step_onHandle_of_some bound, ran, ← held, List.set_getElem_self]
      rfl
  | _ => cases addressed

theorem observe_steady (steady : kind.leds.Steady descriptor kept allowed) {session : Session}
    {operation : Op} (addressed : operation.Addresses board session.handles descriptor)
    (start : kept session.bench.quiet) :
    (observe kind board session operation).1.Steady kept allowed session.handles operation ∧
      kept (observe kind board session operation).2.bench ∧
      (observe kind board session operation).2.handles = session.handles := by
  have addressed : operation.Addresses board session.quiet.handles descriptor := addressed
  obtain ⟨lit, after, lawful, later, stepped⟩ := step_steady steady addressed start
  rw [observe_eq, stepped]
  exact ⟨⟨⟨lit, lawful, rfl⟩, rfl, after, later, rfl, rfl⟩, later, rfl⟩

variable (steady : kind.leds.Steady descriptor kept allowed)
  (quiet : ∀ bench, kept bench → kept bench.quiet)

include steady quiet

/-- On steady hardware each of many operations is seen to succeed. -/
theorem runFrom_steady {session : Session} {operations : List Op}
    (addressed : ∀ operation ∈ operations, operation.Addresses board session.handles descriptor)
    (start : kept session.bench.quiet) {position : Nat} {operation : Op}
    (there : operations[position]? = some operation) :
    ∃ seen, (runFrom kind board session operations)[position]? = some seen ∧
      seen.Steady kept allowed session.handles operation := by
  induction operations generalizing session position with
  | nil => cases there
  | cons first rest ih =>
      obtain ⟨now, others⟩ := List.forall_mem_cons.mp addressed
      obtain ⟨seen, later, same⟩ := observe_steady steady now start
      rw [runFrom_cons]
      cases position with
      | zero =>
          cases there
          exact ⟨_, rfl, seen⟩
      | succ position =>
          -- The handles stay, so the rest addresses the descriptor in the later session as well.
          rw [← same] at others ⊢
          exact ih others (quiet _ later) there

theorem after_steady {session : Session} {operations : List Op}
    (addressed : ∀ operation ∈ operations, operation.Addresses board session.handles descriptor)
    (start : kept session.bench.quiet) :
    kept (after kind board session operations).bench.quiet ∧
      (after kind board session operations).handles = session.handles := by
  induction operations generalizing session with
  | nil => exact ⟨start, rfl⟩
  | cons first rest ih =>
      obtain ⟨now, others⟩ := List.forall_mem_cons.mp addressed
      obtain ⟨_, later, same⟩ := observe_steady steady now start
      rw [← same] at others ⊢
      exact ih others (quiet _ later)

end Steady

end Session

end LedKit
