import LedKit.Proofs.Hardware.Delegation
import LedKit.Proofs.Hardware.Reach

/-!
# Handles on different pins

The calls that a handle makes of the registers change the bits that its descriptors reach and see
no other bit. So where two handles reach no bit in common, neither can tell how the operations on
the other are merged with its own: each sees the run of its own operations alone.
-/

namespace LedKit

/-! ## Descriptors of different pins -/

namespace Descriptor

/-- Two descriptors resolve to the same bank and mask only where the mask selects no pin. -/
def Apart (first second : Descriptor) : Prop :=
  ∀ place, resolve (some first) = some place → resolve (some second) = some place → place.2 = 0

theorem resolve_of_reaches {descriptor : Descriptor} {bank : Bank} {index : Nat}
    (reached : reaches (some descriptor) bank index = true) :
    resolve (some descriptor) = some (bank, pinMask (.ofNat index)) ∧
      (pinMask (.ofNat index)).getLsbD index = true := by
  cases resolved : resolve (some descriptor) with
  | none =>
      rw [reaches_of_none resolved] at reached
      cases reached
  | some place =>
      obtain ⟨found, mask⟩ := place
      obtain ⟨_, ⟨rfl⟩, _, rfl⟩ := resolve_eq_some_iff.mp resolved
      rw [reaches_of_some resolved, Bool.and_eq_true, decide_eq_true_iff] at reached
      obtain ⟨rfl, selected⟩ := reached
      have number := selected
      rw [getLsbD_pinMask, Bool.and_eq_true, decide_eq_true_iff, decide_eq_true_iff] at number
      rw [← number.2, UInt16.ofNat_toNat]
      exact ⟨rfl, number.2 ▸ selected⟩

/-- Of two descriptors apart, at most one reaches a bit. -/
theorem Apart.not_reaches {first second : Descriptor} (apart : first.Apart second) {bank : Bank}
    {index : Nat} (reached : reaches (some first) bank index = true) :
    reaches (some second) bank index = false := by
  rw [Bool.eq_false_iff]
  intro both
  obtain ⟨resolved, selected⟩ := resolve_of_reaches reached
  have empty : pinMask (.ofNat index) = 0 := apart _ resolved (resolve_of_reaches both).1
  rw [empty] at selected
  simp at selected

end Descriptor

/-! ## Calls of the registers -/

/-- A call reaches nothing but the given pins. -/
def LedCall.Within (pins : Bank → Nat → Prop) (call : LedCall) : Prop :=
  ∀ bank index, Descriptor.reaches call.descriptor bank index = true → pins bank index

/-- A call reaches none of the given pins. -/
def LedCall.Avoids (pins : Bank → Nat → Prop) (call : LedCall) : Prop :=
  ∀ bank index, pins bank index → Descriptor.reaches call.descriptor bank index = false

namespace Bench

/-- Benches that agree on the words forced on the inputs and on the bits of the given pins. -/
structure SameOn (pins : Bank → Nat → Prop) (bench other : Bench) : Prop where
  forced : bench.forced = other.forced
  bits : ∀ bank index, pins bank index → bench.bit bank index = other.bit bank index

theorem forced_serve (bench : Bench) (call : LedCall) :
    (registers.leds.serve bench call).2.forced = bench.forced := by
  have agree := ((Pin.registers_keep_forced bench.forced).agree).leds
  cases call with
  | set descriptor lit => exact (agree.set ⟨rfl, rfl⟩ descriptor lit).2
  | toggle descriptor => exact (agree.toggle ⟨rfl, rfl⟩ descriptor).2
  | get descriptor => exact (agree.get ⟨rfl, rfl⟩ descriptor).2.2

/-- A call leaves the bits that it does not reach. -/
theorem bit_serve_of_not_reaches (bench : Bench) {call : LedCall} {bank : Bank} {index : Nat}
    (unreached : Descriptor.reaches call.descriptor bank index = false) :
    (registers.leds.serve bench call).2.bit bank index = bench.bit bank index := by
  have kept : ¬Descriptor.reaches call.descriptor bank index = true := by
    rw [unreached]
    exact Bool.false_ne_true
  cases call with
  | set descriptor lit => exact (bit_leds_set bench descriptor bank index lit).trans (if_neg kept)
  | toggle descriptor => exact (bit_leds_toggle bench descriptor bank index).trans (if_neg kept)
  | get descriptor => exact bit_leds_get bench descriptor bank index

namespace SameOn

variable {pins : Bank → Nat → Prop} {bench other : Bench}

/-- A call within the pins has one answer on both benches, which still agree after it. -/
theorem serve (same : SameOn pins bench other) {call : LedCall} (within : call.Within pins) :
    (registers.leds.serve bench call).1 = (registers.leds.serve other call).1 ∧
      SameOn pins (registers.leds.serve bench call).2 (registers.leds.serve other call).2 := by
  have forced : (registers.leds.serve bench call).2.forced =
      (registers.leds.serve other call).2.forced := by
    rw [forced_serve, forced_serve, same.forced]
  cases call with
  | set descriptor lit =>
      refine ⟨rfl, forced, fun bank index inside => ?_⟩
      change (registers.leds.set descriptor lit bench).bit bank index =
        (registers.leds.set descriptor lit other).bit bank index
      rw [bit_leds_set, bit_leds_set, same.bits bank index inside]
  | toggle descriptor =>
      refine ⟨rfl, forced, fun bank index inside => ?_⟩
      change (registers.leds.toggle descriptor bench).bit bank index =
        (registers.leds.toggle descriptor other).bit bank index
      rw [bit_leds_toggle, bit_leds_toggle, same.bits bank index inside]
  | get descriptor =>
      refine ⟨congrArg some ?_, forced, fun bank index inside => ?_⟩
      · exact leds_get_congr same.forced fun bank index reached =>
          same.bits bank index (within bank index reached)
      · change (registers.leds.get descriptor bench).2.bit bank index =
          (registers.leds.get descriptor other).2.bit bank index
        rw [bit_leds_get, bit_leds_get, same.bits bank index inside]

/-- A call that avoids the pins leaves the benches in agreement. -/
theorem serve_of_avoids (same : SameOn pins bench other) {call : LedCall}
    (avoids : call.Avoids pins) : SameOn pins (registers.leds.serve bench call).2 other where
  forced := (forced_serve bench call).trans same.forced
  bits bank index inside :=
    (bit_serve_of_not_reaches bench (avoids bank index inside)).trans
      (same.bits bank index inside)

theorem served (same : SameOn pins bench other) {calls : List LedCall}
    (within : ∀ call ∈ calls, call.Within pins) :
    registers.leds.served bench calls = registers.leds.served other calls ∧
      SameOn pins (registers.leds.replay bench calls) (registers.leds.replay other calls) := by
  induction calls generalizing bench other with
  | nil => exact ⟨rfl, same⟩
  | cons call rest ih =>
      obtain ⟨first, others⟩ := List.forall_mem_cons.mp within
      obtain ⟨answer, between⟩ := same.serve first
      obtain ⟨answers, after⟩ := ih between others
      exact ⟨by rw [LedHardware.served, LedHardware.served, answer, answers], after⟩

theorem replay_of_avoids (same : SameOn pins bench other) {calls : List LedCall}
    (avoids : ∀ call ∈ calls, call.Avoids pins) :
    SameOn pins (registers.leds.replay bench calls) other := by
  induction calls generalizing bench with
  | nil => exact same
  | cons call rest ih =>
      obtain ⟨first, others⟩ := List.forall_mem_cons.mp avoids
      exact ih (same.serve_of_avoids first) others

/-- An operation whose calls are within the pins has one answer on both benches. -/
theorem run (same : SameOn pins bench other) (board : Board) {operation : HandleOp}
    {binding : Option Descriptor}
    (within : ∀ call ∈ operation.ledCalls board binding, call.Within pins) :
    (operation.run registers.leds board ⟨binding, bench⟩).1 =
        (operation.run registers.leds board ⟨binding, other⟩).1 ∧
      SameOn pins (operation.run registers.leds board ⟨binding, bench⟩).2.hardware
        (operation.run registers.leds board ⟨binding, other⟩).2.hardware := by
  obtain ⟨answers, after⟩ := same.served within
  rw [HandleOp.run_eq, HandleOp.run_eq, answers]
  exact ⟨rfl, after⟩

theorem run_of_avoids (same : SameOn pins bench other) (board : Board) {operation : HandleOp}
    {binding : Option Descriptor}
    (avoids : ∀ call ∈ operation.ledCalls board binding, call.Avoids pins) :
    SameOn pins (operation.run registers.leds board ⟨binding, bench⟩).2.hardware other := by
  rw [HandleOp.run_eq]
  exact same.replay_of_avoids avoids

theorem quiet (same : SameOn pins bench other) : SameOn pins bench.quiet other :=
  ⟨same.forced, same.bits⟩

end SameOn

end Bench

theorem HandleOp.runAll_cons {σ : Type} (lamps : LedHardware σ) (board : Board)
    (operation : HandleOp) (rest : List HandleOp) (led : Led σ) :
    runAll lamps board (operation :: rest) led =
      ((operation.run lamps board led).1 ::
          (runAll lamps board rest ⟨operation.rebind board led.binding,
            (operation.run lamps board led).2.hardware⟩).1,
        (runAll lamps board rest ⟨operation.rebind board led.binding,
          (operation.run lamps board led).2.hardware⟩).2) := by
  rw [← binding_run lamps]
  rfl

/-! ## Merged operations -/

namespace Handle

variable {handles : List Handle} {number : Nat} {binding : Option Descriptor}

theorem bindingAt?_set_self (found : bindingAt? handles number = some binding)
    (other : Option Descriptor) :
    bindingAt? (handles.set number (.live other)) number = some other := by
  have inside := (List.getElem?_eq_some_iff.mp (bindingAt?_eq_some_iff.mp found)).1
  rw [bindingAt?, List.getElem?_set_self inside]
  rfl

theorem bindingAt?_set_of_ne {other : Nat} (ne : number ≠ other) (handle : Handle) :
    bindingAt? (handles.set number handle) other = bindingAt? handles other := by
  rw [bindingAt?, List.getElem?_set_ne ne]
  rfl

end Handle

/-- A list of operations on two handles that keeps the order of those on each. -/
inductive Interleaving (first second : Nat) :
    List HandleOp → List HandleOp → List Op → Prop where
  | nil : Interleaving first second [] [] []
  | left {own others : List HandleOp} {merged : List Op} (operation : HandleOp)
      (rest : Interleaving first second own others merged) :
      Interleaving first second (operation :: own) others (.onHandle first operation :: merged)
  | right {own others : List HandleOp} {merged : List Op} (operation : HandleOp)
      (rest : Interleaving first second own others merged) :
      Interleaving first second own (operation :: others) (.onHandle second operation :: merged)

namespace Interleaving

variable {first second : Nat} {own others : List HandleOp} {merged : List Op}

theorem swap (interleaving : Interleaving first second own others merged) :
    Interleaving second first others own merged := by
  induction interleaving with
  | nil => exact .nil
  | left operation _ ih => exact .right operation ih
  | right operation _ ih => exact .left operation ih

/-- One list after the other keeps both orders. -/
theorem sequential (first second : Nat) (own others : List HandleOp) :
    Interleaving first second own others
      (own.map (.onHandle first) ++ others.map (.onHandle second)) := by
  induction own with
  | nil =>
      induction others with
      | nil => exact .nil
      | cons operation rest ih => exact .right operation ih
  | cons operation rest ih => exact .left operation ih

end Interleaving

namespace Session

/-- The answers to the operations on one handle, in their order. -/
def answersOn (kind : Kind) (board : Board) (session : Session) (number : Nat)
    (operations : List Op) : List Answer :=
  ((operations.zip (runFrom kind board session operations)).filter
    (·.1.handle? = some number)).map (·.2.answer)

section Observed

variable (kind : Kind) (board : Board) {session : Session} {number : Nat}
  {binding : Option Descriptor}

theorem answersOn_onHandle_self (session : Session) (number : Nat) (operation : HandleOp)
    (rest : List Op) :
    answersOn kind board session number (.onHandle number operation :: rest) =
      (observe kind board session (.onHandle number operation)).1.answer ::
        answersOn kind board (observe kind board session (.onHandle number operation)).2 number
          rest := by
  rw [answersOn, runFrom_cons, List.zip_cons_cons, List.filter_cons_of_pos]
  · rfl
  · exact decide_eq_true rfl

theorem answersOn_onHandle_of_ne (session : Session) {number other : Nat} (ne : number ≠ other)
    (operation : HandleOp) (rest : List Op) :
    answersOn kind board session number (.onHandle other operation :: rest) =
      answersOn kind board (observe kind board session (.onHandle other operation)).2 number
        rest := by
  rw [answersOn, runFrom_cons, List.zip_cons_cons, List.filter_cons_of_neg]
  · rfl
  · rw [decide_eq_true_iff]
    exact fun same => ne (Option.some.inj same).symm

/-- What is seen of an operation on a live handle is what it does alone. -/
theorem observe_onHandle (found : Handle.bindingAt? session.handles number = some binding)
    (operation : HandleOp) :
    (observe kind board session (.onHandle number operation)).1.answer =
        .handled (operation.run kind.leds board ⟨binding, session.bench.quiet⟩).1 ∧
      (observe kind board session (.onHandle number operation)).2 =
        ⟨(operation.run kind.leds board ⟨binding, session.bench.quiet⟩).2.hardware,
          session.handles.set number (.live (operation.rebind board binding))⟩ := by
  have quiet : Handle.bindingAt? session.quiet.handles number = some binding := found
  rw [observe_eq, step_onHandle_of_some quiet, HandleOp.binding_run]
  exact ⟨rfl, rfl⟩

theorem bindingAt?_observe_self
    (found : Handle.bindingAt? session.handles number = some binding) (operation : HandleOp) :
    Handle.bindingAt? (observe kind board session (.onHandle number operation)).2.handles number =
      some (operation.rebind board binding) := by
  rw [(observe_onHandle kind board found operation).2]
  exact Handle.bindingAt?_set_self found _

theorem bindingAt?_observe_of_ne
    (found : Handle.bindingAt? session.handles number = some binding) {other : Nat}
    (ne : number ≠ other) (operation : HandleOp) :
    Handle.bindingAt? (observe kind board session (.onHandle number operation)).2.handles other =
      Handle.bindingAt? session.handles other := by
  rw [(observe_onHandle kind board found operation).2]
  exact Handle.bindingAt?_set_of_ne ne _

end Observed

/-! ## What one handle sees of merged operations -/

section Merged

variable {board : Board} {first second : Nat} {own others : List HandleOp} {merged : List Op}

/--
Where the other handle avoids some pins that the calls of a handle stay within, the handle sees the
run of its own operations alone.
-/
theorem view_of_interleaving (interleaving : Interleaving first second own others merged)
    (ne : first ≠ second) {pins : Bank → Nat → Prop} {session : Session} {bench : Bench}
    {binding other : Option Descriptor}
    (found : Handle.bindingAt? session.handles first = some binding)
    (foundOther : Handle.bindingAt? session.handles second = some other)
    (within : ∀ call ∈ HandleOp.ledCallsAll board binding own, call.Within pins)
    (avoids : ∀ call ∈ HandleOp.ledCallsAll board other others, call.Avoids pins)
    (same : Bench.SameOn pins session.bench bench) :
    answersOn .registers board session first merged =
        (HandleOp.runAll Bench.registers.leds board own ⟨binding, bench⟩).1.map .handled ∧
      Bench.SameOn pins (after .registers board session merged).bench
        (HandleOp.runAll Bench.registers.leds board own ⟨binding, bench⟩).2.hardware := by
  -- The bench of the handle's own run need only agree with that of the session on the pins.
  induction interleaving generalizing session bench binding other with
  | nil => exact ⟨rfl, same⟩
  | left operation rest ih =>
      obtain ⟨now, later⟩ := List.forall_mem_append.mp within
      obtain ⟨answer, next⟩ := observe_onHandle .registers board found operation
      obtain ⟨equal, held⟩ := same.quiet.run board now
      have between : Bench.SameOn pins
          (observe .registers board session (.onHandle first operation)).2.bench
          (operation.run Bench.registers.leds board ⟨binding, bench⟩).2.hardware := by
        rw [next]
        exact held
      obtain ⟨answers, left⟩ := ih (bindingAt?_observe_self .registers board found operation)
        ((bindingAt?_observe_of_ne .registers board found ne operation).trans foundOther)
        later avoids between
      rw [answersOn_onHandle_self, after_cons, answer, answers, HandleOp.runAll_cons]
      exact ⟨congrArg (fun answer => Answer.handled answer :: _) equal, left⟩
  | right operation rest ih =>
      obtain ⟨now, later⟩ := List.forall_mem_append.mp avoids
      obtain ⟨_, next⟩ := observe_onHandle .registers board foundOther operation
      have between : Bench.SameOn pins
          (observe .registers board session (.onHandle second operation)).2.bench bench := by
        rw [next]
        exact same.quiet.run_of_avoids board now
      rw [answersOn_onHandle_of_ne _ _ _ ne, after_cons]
      exact ih
        ((bindingAt?_observe_of_ne .registers board foundOther ne.symm operation).trans found)
        (bindingAt?_observe_self .registers board foundOther operation) within later between

/-- Merged operations leave each handle the binding that its own operations leave. -/
theorem handles_of_interleaving (kind : Kind)
    (interleaving : Interleaving first second own others merged) (ne : first ≠ second)
    {session : Session} {binding other : Option Descriptor}
    (found : Handle.bindingAt? session.handles first = some binding)
    (foundOther : Handle.bindingAt? session.handles second = some other) :
    (after kind board session merged).handles =
      (session.handles.set first (.live (HandleOp.rebindAll board binding own))).set second
        (.live (HandleOp.rebindAll board other others)) := by
  induction interleaving generalizing session binding other with
  | nil =>
      have keep {number : Nat} {held : Option Descriptor}
          (found : Handle.bindingAt? session.handles number = some held) :
          session.handles.set number (.live held) = session.handles := by
        obtain ⟨inside, same⟩ := List.getElem?_eq_some_iff.mp (Handle.bindingAt?_eq_some_iff.mp found)
        rw [← same, List.set_getElem_self]
      change session.handles = (session.handles.set first (.live binding)).set second (.live other)
      rw [keep found, keep foundOther]
  | left operation rest ih =>
      rw [after_cons, ih (bindingAt?_observe_self kind board found operation)
          ((bindingAt?_observe_of_ne kind board found ne operation).trans foundOther),
        (observe_onHandle kind board found operation).2, List.set_set]
      rfl
  | right operation rest ih =>
      rw [after_cons, ih
          ((bindingAt?_observe_of_ne kind board foundOther ne.symm operation).trans found)
          (bindingAt?_observe_self kind board foundOther operation),
        (observe_onHandle kind board foundOther operation).2, List.set_comm _ _ ne.symm,
        List.set_set]
      rfl

end Merged

/-! ## The law of independence -/

/-- Two lists of operations on two handles come to the same. -/
structure SameOutcome (kind : Kind) (board : Board) (session : Session) (first second : Nat)
    (operations other : List Op) : Prop where
  first : answersOn kind board session first operations = answersOn kind board session first other
  second : answersOn kind board session second operations =
    answersOn kind board session second other
  output : (after kind board session operations).bench.output =
    (after kind board session other).bench.output
  handles : (after kind board session operations).handles =
    (after kind board session other).handles

/-- Operations on handles at different pins of the registers come to the same in every order that
keeps those of each handle in order. -/
theorem sameOutcome_of_interleaving {board : Board} {session : Session} {first second : Nat}
    (ne : first ≠ second) {binding other : Option Descriptor}
    (found : Handle.bindingAt? session.handles first = some binding)
    (foundOther : Handle.bindingAt? session.handles second = some other)
    {own others : List HandleOp} (through : ∀ operation ∈ own ++ others, operation.drives = false)
    (apart : ∀ descriptor another, some descriptor ∈ HandleOp.bindings board binding own →
      some another ∈ HandleOp.bindings board other others → descriptor.Apart another)
    {merged : List Op} (interleaving : Interleaving first second own others merged) :
    SameOutcome .registers board session first second merged
      (own.map (.onHandle first) ++ others.map (.onHandle second)) := by
  obtain ⟨ownThrough, othersThrough⟩ := List.forall_mem_append.mp through
  -- The second handle stays within the pins that its calls reach, the first within all others.
  let pins : Bank → Nat → Prop := fun bank index =>
    ∃ call ∈ HandleOp.ledCallsAll board other others,
      Descriptor.reaches call.descriptor bank index = true
  have separate : ∀ call ∈ HandleOp.ledCallsAll board binding own, ∀ bank index,
      Descriptor.reaches call.descriptor bank index = true → ¬pins bank index := by
    rintro call member bank index reached ⟨another, inside, reachedToo⟩
    obtain ⟨descriptor, held, called⟩ :=
      HandleOp.descriptor_of_mem_ledCallsAll board ownThrough member
    obtain ⟨opposite, heldToo, calledToo⟩ :=
      HandleOp.descriptor_of_mem_ledCallsAll board othersThrough inside
    rw [called] at reached
    rw [calledToo, (apart descriptor opposite held heldToo).not_reaches reached] at reachedToo
    cases reachedToo
  have viewOfFirst {operations : List Op}
      (interleaving : Interleaving first second own others operations) :=
    view_of_interleaving interleaving ne found foundOther separate
      (fun call member bank index outside => Bool.eq_false_iff.mpr fun reached =>
        outside ⟨call, member, reached⟩)
      (⟨rfl, fun _ _ _ => rfl⟩ : Bench.SameOn _ session.bench session.bench)
  have viewOfSecond {operations : List Op}
      (interleaving : Interleaving first second own others operations) :=
    view_of_interleaving interleaving.swap ne.symm foundOther found
      (fun call member bank index reached => ⟨call, member, reached⟩)
      (fun call member bank index inside => Bool.eq_false_iff.mpr fun reached =>
        separate call member bank index reached inside)
      (⟨rfl, fun _ _ _ => rfl⟩ : Bench.SameOn pins session.bench session.bench)
  have sequential := Interleaving.sequential first second own others
  constructor
  case first => exact (viewOfFirst interleaving).1.trans (viewOfFirst sequential).1.symm
  case second => exact (viewOfSecond interleaving).1.trans (viewOfSecond sequential).1.symm
  case output =>
    apply Bench.output_eq_of_bit_eq
    intro bank index
    by_cases inside : pins bank index
    · exact ((viewOfSecond interleaving).2.bits bank index inside).trans
        ((viewOfSecond sequential).2.bits bank index inside).symm
    · exact ((viewOfFirst interleaving).2.bits bank index inside).trans
        ((viewOfFirst sequential).2.bits bank index inside).symm
  case handles =>
    rw [handles_of_interleaving .registers interleaving ne found foundOther,
      handles_of_interleaving .registers sequential ne found foundOther]

/-- Two handles at pins of one bank, one of them bound anew in between. -/
theorem sameOutcome_of_interleaving_pins :
    let session : Session := ⟨Bench.start (.fill 0xFFFF) (.fill none), [.live none, .live none]⟩
    let own : List HandleOp := [.bind (.direct ⟨0, 5⟩), .toggle, .getState]
    let others : List HandleOp :=
      [.bind (.direct ⟨0, 6⟩), .blinkStep, .bind (.direct ⟨9, 5⟩), .setState .on]
    let merged : List Op :=
      [.onHandle 1 (.bind (.direct ⟨0, 6⟩)), .onHandle 0 (.bind (.direct ⟨0, 5⟩)),
        .onHandle 1 .blinkStep, .onHandle 0 .toggle, .onHandle 1 (.bind (.direct ⟨9, 5⟩)),
        .onHandle 1 (.setState .on), .onHandle 0 .getState]
    Interleaving 0 1 own others merged ∧
      SameOutcome .registers Board.empty session 0 1 merged
        (own.map (.onHandle 0) ++ others.map (.onHandle 1)) := by
  intro session own others merged
  have interleaving : Interleaving 0 1 own others merged :=
    .right _ (.left _ (.right _ (.left _ (.right _ (.right _ (.left _ .nil))))))
  refine ⟨interleaving, sameOutcome_of_interleaving (by decide) rfl rfl (by decide) ?_ interleaving⟩
  intro descriptor another held heldToo
  simp [HandleOp.bindings, HandleOp.rebind, Target.descriptor, own, others] at held heldToo
  subst held
  rcases heldToo with rfl | rfl
  · intro place first second
    exact absurd (first.trans second.symm) (by decide)
  · intro place first second
    exact absurd (first.trans second.symm) (by decide)

end Session

end LedKit
