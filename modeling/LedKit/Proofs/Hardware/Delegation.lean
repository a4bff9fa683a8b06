import LedKit.Proofs.Session.Handles

/-!
# What a handle asks of its hardware

Whatever the hardware is, an operation on a handle makes a fixed list of calls, which its binding
and its arguments give. What the hardware answers to those calls is all that the operation takes
from it, and the calls are all that happens to it.
-/

namespace LedKit

/-- A call of LED hardware. -/
inductive LedCall where
  | set (descriptor : Option Descriptor) (lit : Bool)
  | toggle (descriptor : Option Descriptor)
  | get (descriptor : Option Descriptor)
  deriving DecidableEq

/-- The descriptor that a call is made with. -/
def LedCall.descriptor : LedCall → Option Descriptor
  | set descriptor _ | toggle descriptor | get descriptor => descriptor

namespace LedHardware

variable {σ : Type} (lamps : LedHardware σ)

/-- The answer to a call, which only a read has, and the state after it. -/
def serve (state : σ) : LedCall → Option Bool × σ
  | .set descriptor lit => (none, lamps.set descriptor lit state)
  | .toggle descriptor => (none, lamps.toggle descriptor state)
  | .get descriptor => (some (lamps.get descriptor state).1, (lamps.get descriptor state).2)

/-- The state that calls alone bring the hardware to. -/
def replay (state : σ) (calls : List LedCall) : σ :=
  calls.foldl (fun state call => (lamps.serve state call).2) state

/-- Calls, each with its answer. -/
def served (state : σ) : List LedCall → List (LedCall × Option Bool)
  | [] => []
  | call :: rest => (call, (lamps.serve state call).1) :: served (lamps.serve state call).2 rest

/-- The same hardware with a record of the calls that reach it and of its answers. -/
def watched : LedHardware (σ × List (LedCall × Option Bool)) where
  set descriptor lit state :=
    (lamps.set descriptor lit state.1, state.2 ++ [(.set descriptor lit, none)])
  toggle descriptor state :=
    (lamps.toggle descriptor state.1, state.2 ++ [(.toggle descriptor, none)])
  get descriptor state :=
    let (lit, after) := lamps.get descriptor state.1
    (lit, after, state.2 ++ [(.get descriptor, some lit)])

theorem replay_cons (state : σ) (call : LedCall) (rest : List LedCall) :
    lamps.replay state (call :: rest) = lamps.replay (lamps.serve state call).2 rest := rfl

theorem replay_append (state : σ) (first second : List LedCall) :
    lamps.replay state (first ++ second) = lamps.replay (lamps.replay state first) second :=
  List.foldl_append

theorem map_fst_served (state : σ) (calls : List LedCall) :
    (lamps.served state calls).map Prod.fst = calls := by
  induction calls generalizing state with
  | nil => rfl
  | cons call rest ih => exact congrArg (call :: ·) (ih _)

/-- Being watched changes no answer and no state, and adds the call to the record. -/
theorem serve_watched (state : σ) (record : List (LedCall × Option Bool)) (call : LedCall) :
    lamps.watched.serve (state, record) call =
      ((lamps.serve state call).1, (lamps.serve state call).2,
        record ++ [(call, (lamps.serve state call).1)]) := by
  cases call <;> rfl

theorem replay_watched (state : σ) (record : List (LedCall × Option Bool))
    (calls : List LedCall) :
    lamps.watched.replay (state, record) calls =
      (lamps.replay state calls, record ++ lamps.served state calls) := by
  induction calls generalizing state record with
  | nil => exact congrArg (state, ·) (List.append_nil record).symm
  | cons call rest ih =>
      rw [replay_cons, serve_watched, ih, List.append_assoc]
      rfl

theorem served_watched (state : σ) (record : List (LedCall × Option Bool))
    (calls : List LedCall) :
    lamps.watched.served (state, record) calls = lamps.served state calls := by
  induction calls generalizing state record with
  | nil => rfl
  | cons call rest ih => rw [served, serve_watched, ih]; rfl

end LedHardware

namespace HandleOp

/-- The operation drives the hardware below the handle directly. -/
def drives : HandleOp → Bool
  | .drive _ _ => true
  | _ => false

/-- The calls that an operation makes of the hardware, by what the handle is bound to. -/
def ledCalls (board : Board) (binding : Option Descriptor) : HandleOp → List LedCall
  | .bind _ | .isBound | .binding | .getStateInto none => []
  | .setState state => binding.toList.map fun descriptor => .set (some descriptor) state.isOn
  | .toggle => binding.toList.map fun descriptor => .toggle (some descriptor)
  | .getState | .getStateInto (some _) =>
      binding.toList.map fun descriptor => .get (some descriptor)
  | .blinkStep =>
      binding.toList.flatMap fun descriptor => [.toggle (some descriptor), .get (some descriptor)]
  | .drive target lit => [.set (target.descriptor board) lit]

/-- The calls of operations, one after another. -/
def ledCallsAll (board : Board) : Option Descriptor → List HandleOp → List LedCall
  | _, [] => []
  | bound, operation :: rest =>
    operation.ledCalls board bound ++ ledCallsAll board (operation.rebind board bound) rest

/-- What a handle is bound to before operations, between them and after them. -/
def bindings (board : Board) : Option Descriptor → List HandleOp → List (Option Descriptor)
  | bound, [] => [bound]
  | bound, operation :: rest => bound :: bindings board (operation.rebind board bound) rest

/-- The answer to an operation, given what the hardware answered to the reads of the operation. -/
def reply (board : Board) (binding : Option Descriptor) (reads : List Bool) :
    HandleOp → HandleAnswer
  | .bind target =>
      .done (if target.descriptor board = none then .error .missingArgument else .ok ())
  | .isBound => .flag binding.isSome
  | .binding => .descriptor binding
  | .setState _ | .toggle => .done (if binding = none then .error .unbound else .ok ())
  | .getState | .blinkStep =>
      .state (match reads.head? with
        | none => .error .unbound
        | some lit => .ok (.ofBool lit))
  | .getStateInto none => .stored (.error .missingArgument) none
  | .getStateInto (some content) =>
      match reads.head? with
      | none => .stored (.error .unbound) (some content)
      | some lit => .stored (.ok ()) (some (.ofBool lit))
  | .drive _ _ => .nothing

variable {σ : Type} (lamps : LedHardware σ) (board : Board)

/-- An operation makes its calls, and its answer depends on the hardware through them alone. -/
theorem run_eq (operation : HandleOp) (binding : Option Descriptor) (state : σ) :
    operation.run lamps board ⟨binding, state⟩ =
      (operation.reply board binding
          ((lamps.served state (operation.ledCalls board binding)).filterMap Prod.snd),
        ⟨operation.rebind board binding,
          lamps.replay state (operation.ledCalls board binding)⟩) := by
  cases operation with
  | bind target =>
      cases wanted : target.descriptor board <;>
        simp [run, reply, rebind, ledCalls, wanted, LedHardware.replay]
  | isBound | binding | drive => rfl
  | getStateInto place => cases place <;> cases binding <;> rfl
  | _ => cases binding <;> rfl

/-- Operations bring the hardware where their calls alone bring it. -/
theorem runAll_snd_eq (operations : List HandleOp) (binding : Option Descriptor) (state : σ) :
    (runAll lamps board operations ⟨binding, state⟩).2 =
      ⟨rebindAll board binding operations,
        lamps.replay state (ledCallsAll board binding operations)⟩ := by
  induction operations generalizing binding state with
  | nil => rfl
  | cons operation rest ih =>
      change (runAll lamps board rest (operation.run lamps board ⟨binding, state⟩).2).2 = _
      rw [run_eq, ih, ledCallsAll, LedHardware.replay_append]
      rfl

/-- An operation that goes through the handle calls with what the handle is bound to. -/
theorem descriptor_of_mem_ledCalls {operation : HandleOp} (through : operation.drives = false)
    {binding : Option Descriptor} {call : LedCall}
    (member : call ∈ operation.ledCalls board binding) :
    ∃ descriptor, binding = some descriptor ∧ call.descriptor = some descriptor := by
  cases operation with
  | drive target lit => cases through
  | bind | isBound | binding => cases member
  | setState | toggle | getState =>
      obtain ⟨descriptor, bound, rfl⟩ := List.mem_map.mp member
      exact ⟨descriptor, Option.mem_toList.mp bound, rfl⟩
  | getStateInto place =>
      cases place with
      | none => cases member
      | some content =>
          obtain ⟨descriptor, bound, rfl⟩ := List.mem_map.mp member
          exact ⟨descriptor, Option.mem_toList.mp bound, rfl⟩
  | blinkStep =>
      obtain ⟨descriptor, bound, called⟩ := List.mem_flatMap.mp member
      refine ⟨descriptor, Option.mem_toList.mp bound, ?_⟩
      simp only [List.mem_cons, List.not_mem_nil, or_false] at called
      rcases called with rfl | rfl <;> rfl

/-- Operations that go through the handle call with what it is bound to before, between or after
them. -/
theorem descriptor_of_mem_ledCallsAll {operations : List HandleOp}
    (through : ∀ operation ∈ operations, operation.drives = false) {binding : Option Descriptor}
    {call : LedCall} (member : call ∈ ledCallsAll board binding operations) :
    ∃ descriptor, some descriptor ∈ bindings board binding operations ∧
      call.descriptor = some descriptor := by
  induction operations generalizing binding with
  | nil => cases member
  | cons operation rest ih =>
      obtain ⟨first, others⟩ := List.forall_mem_cons.mp through
      rcases List.mem_append.mp member with own | later
      · obtain ⟨descriptor, rfl, called⟩ := descriptor_of_mem_ledCalls board first own
        exact ⟨descriptor, List.mem_cons_self, called⟩
      · obtain ⟨descriptor, held, called⟩ := ih others later
        exact ⟨descriptor, List.mem_cons_of_mem binding held, called⟩

end HandleOp

/-! ## The law of delegation -/

/--
What holds of operations on a handle over any hardware. The hardware is watched to see the calls
that reach it; being watched is no difference to it.
-/
structure DelegationLaw {σ : Type} (lamps : LedHardware σ) (board : Board)
    (operations : List HandleOp) (binding : Option Descriptor) (state : σ)
    (watched : List HandleAnswer × Led (σ × List (LedCall × Option Bool))) : Prop where
  answers : watched.1 = (HandleOp.runAll lamps board operations ⟨binding, state⟩).1
  leaves : (HandleOp.runAll lamps board operations ⟨binding, state⟩).2 =
    ⟨watched.2.binding, watched.2.hardware.1⟩
  /-- The record holds what the hardware answers when it is called so. -/
  record : watched.2.hardware.2 = lamps.served state (watched.2.hardware.2.map Prod.fst)
  /-- The calls that reach the hardware are those of the operations, one after another. -/
  calls : watched.2.hardware.2.map Prod.fst = HandleOp.ledCallsAll board binding operations
  /-- Operations that go through the handle never call without a descriptor. -/
  present : (∀ operation ∈ operations, operation.drives = false) →
    ∀ call ∈ watched.2.hardware.2.map Prod.fst, call.descriptor ≠ none
  /-- Each operation adds its own calls by the binding at that moment, and answers what the
  hardware answered to its own reads. -/
  turns : ∀ before operation rest, operations = before ++ operation :: rest →
    let earlier := (HandleOp.runAll lamps.watched board before ⟨binding, state, []⟩).2
    ∃ own : List (LedCall × Option Bool),
      (operation.run lamps.watched board earlier).2.hardware.2 = earlier.hardware.2 ++ own ∧
      own.map Prod.fst = operation.ledCalls board earlier.binding ∧
      watched.1[before.length]? =
        some (operation.reply board earlier.binding (own.filterMap Prod.snd))
  /-- The handle leaves the hardware where the calls alone bring it. -/
  hardware : (HandleOp.runAll lamps board operations ⟨binding, state⟩).2.hardware =
    lamps.replay state (watched.2.hardware.2.map Prod.fst)

/-- Handles over any hardware keep the law of delegation. -/
theorem delegation_law {σ : Type} (lamps : LedHardware σ) (board : Board)
    (operations : List HandleOp) (binding : Option Descriptor) (state : σ) :
    DelegationLaw lamps board operations binding state
      (HandleOp.runAll lamps.watched board operations ⟨binding, state, []⟩) := by
  have agree : LedHardware.Agree lamps.watched lamps fun watched state => watched.1 = state :=
    { set := by rintro watched _ rfl descriptor lit; rfl
      toggle := by rintro watched _ rfl descriptor; rfl
      get := by rintro watched _ rfl descriptor; exact ⟨rfl, rfl⟩ }
  have alike : Led.Alike (fun watched state => watched.1 = state)
      (⟨binding, state, []⟩ : Led (σ × List (LedCall × Option Bool))) ⟨binding, state⟩ := ⟨rfl, rfl⟩
  obtain ⟨answers, after⟩ := HandleOp.runAll_alike agree board operations alike
  have watched := HandleOp.runAll_snd_eq lamps.watched board operations binding (state, [])
  rw [LedHardware.replay_watched, List.nil_append] at watched
  have calls : (HandleOp.runAll lamps.watched board operations
      ⟨binding, state, []⟩).2.hardware.2.map Prod.fst =
        HandleOp.ledCallsAll board binding operations := by
    rw [watched]
    exact LedHardware.map_fst_served lamps state _
  constructor
  case answers => exact answers
  case leaves => rw [after.binding, after.hardware]
  case record => rw [calls, watched]
  case calls => exact calls
  case present =>
    intro through call member
    rw [calls] at member
    obtain ⟨descriptor, _, called⟩ := HandleOp.descriptor_of_mem_ledCallsAll board through member
    rw [called]
    exact Option.some_ne_none descriptor
  case turns =>
    rintro before operation rest rfl earlier
    refine ⟨lamps.served earlier.hardware.1 (operation.ledCalls board earlier.binding), ?_, ?_, ?_⟩
    · have later := HandleOp.run_eq lamps.watched board operation earlier.binding earlier.hardware
      rw [later, LedHardware.replay_watched]
    · exact LedHardware.map_fst_served lamps _ _
    · have own := HandleOp.run_eq lamps.watched board operation earlier.binding earlier.hardware
      rw [LedHardware.served_watched] at own
      rw [HandleOp.getElem?_runAll]
      exact congrArg (fun pair => some pair.1) own
  case hardware =>
    rw [calls, HandleOp.runAll_snd_eq]

end LedKit
