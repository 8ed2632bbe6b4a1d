import ClassLowering.Proofs.Accessors.Checking
import ClassLowering.Proofs.Run.Outcomes
import ClassLowering.Session

/-!
# Stored accessors

Scripts define properties by `Object.defineProperty`, by `Object.create` and by the helpers of lowered
classes. As long as `_createClass` reads functions for the accessors that it installs, every accessor on
the heap can be called. `_createClass` itself does not test what it reads.
-/

namespace ClassLowering

open Relation

/-! ## What scripts define -/

/-- What scripts can do in one go: a step runs, or a function, without an operation that defines accessors
untested and without a call of `_createClass` that reads an accessor that is no function; or anything
changes but the heap. -/
inductive State.Defines (before : State) : State → Prop
  | step {context : Script.Context} {step : Script.Step} {depth : Nat} {after : State}
      (tested : step.Tested)
      (checked : Script.runStep context step (Engine.checking depth) before ≠ .exhausted)
      (leaves : (Script.runStep context step (Engine.ofDepth depth) before).Leaves after) :
      Defines before after
  | call {frame : Frame} {depth : Nat} {after : State} (tested : frame.callable.code.Tested)
      (checked : Run.invoke frame (Engine.checking depth) before ≠ .exhausted)
      (leaves : (Run.invoke frame (Engine.ofDepth depth) before).Leaves after) : Defines before after
  | elsewhere {after : State} (kept : after.heap = before.heap) : Defines before after

/-- A checked run keeps a heap guarded on the ordinary engine. -/
theorem Run.Calm.tends_of_checked {α : Type} {run : Run α} {depth : Nat} {before after : State}
    (calm : run.Calm (Engine.checking depth))
    (settled : run.Settled (Engine.checking depth) (Engine.ofDepth depth))
    (sound : before.heap.Guarded) (checked : run (Engine.checking depth) before ≠ .exhausted)
    (leaves : (run (Engine.ofDepth depth) before).Leaves after) : before.Tends after := by
  rw [settled before checked] at leaves
  exact (calm before sound).of_leaves leaves

theorem State.Defines.tends {before after : State} (defines : before.Defines after)
    (sound : before.heap.Guarded) : before.Tends after := by
  cases defines with
  | step tested checked leaves =>
      refine Run.Calm.tends_of_checked ?_ ?_ sound checked leaves
      · exact (Script.runStep_composed _ fun _ => tested).calm (Engine.checking_calm _)
      · exact (Script.runStep_composed _ Bool.noConfusion).settled (Engine.checking_below _)
  | call tested checked leaves =>
      refine Run.Calm.tends_of_checked ?_ ?_ sound checked leaves
      · exact (Engine.checking_calm _).invoke _ tested
      · exact (Engine.checking_below _).invoke _
  | elsewhere kept => exact Heap.Tends.of_eq sound kept

/-- Whatever scripts define, a fresh realm stays guarded. -/
theorem Session.guarded_of_defines {profile : Profile} {marked : List Helper} {state : State}
    (reached : ReflTransGen State.Defines (prepared profile marked) state) : state.heap.Guarded := by
  induction reached with
  | refl => exact guarded_prepared profile marked
  | tail _ defines guarded => exact (defines.tends guarded).guarded

/-! ## What reads and assignments find -/

namespace Heap

variable {heap : Heap} {id : ObjectId} {key : PropertyKey} {function : Value}

theorem isCallable_of_lookup (guarded : heap.Guarded)
    (found : heap.lookup id key = some (.accessor (some function))) :
    heap.isCallable function = true := by
  obtain ⟨last, _, finished⟩ := walkFor_finishes found
  unfold lookupStride at finished
  dsimp only at finished
  split at finished
  · cases finished
  · split at finished
    · cases finished
    · next held =>
      cases finished
      exact (guarded.accessors last key _ held).1 function rfl
    · unfold Stride.follow at finished
      split at finished <;> cases finished

theorem isCallable_of_assignment (guarded : heap.Guarded)
    (found : heap.assignment id key = some (.setter function)) :
    heap.isCallable function = true := by
  obtain ⟨last, _, finished⟩ := walkFor_finishes found
  unfold assignmentStride at finished
  dsimp only at finished
  split at finished
  · cases finished
  · split at finished
    · next held =>
      cases finished
      exact (guarded.accessors last key _ held).2 function rfl
    · cases finished
    · split at finished <;> cases finished
    · unfold Stride.follow at finished
      split at finished <;> cases finished

end Heap

/-- Whatever scripts define, as long as `_createClass` reads functions: every getter and setter on the
heap is a function, a read that finds a getter runs that function on the receiver, and an assignment that
finds a setter runs that function on the object behind all proxies. -/
theorem stored_accessors_callable {profile : Profile} {marked : List Helper} {state : State}
    (reached : ReflTransGen State.Defines (Session.prepared profile marked) state) :
    (∀ id key property getter setter, (state.heap.object id).property? key = some property →
      property.slot = .accessor getter setter →
        state.heap.Calls getter ∧ state.heap.Calls setter) ∧
    (∀ id key getter, state.heap.lookup id key = some (.accessor (some getter)) →
      ∃ callee callable, state.heap.function? getter = some (callee, callable) ∧
        ∀ receiver engine, Run.getFor id key receiver engine state =
          Run.invoke { callee, callable, this := receiver } engine state) ∧
    ∀ id key setter,
      state.heap.assignment (state.heap.resolve id) key = some (.setter setter) →
        ∃ callee callable, state.heap.function? setter = some (callee, callable) ∧
          ∀ value engine, Run.set id key value engine state =
            (Run.invoke
              { callee, callable, this := .object (state.heap.resolve id), arguments := [value] } >>=
                fun _ => pure true) engine state := by
  have guarded := Session.guarded_of_defines reached
  refine ⟨fun id key property getter setter held accessor => ?_, fun id key getter found => ?_,
    fun id key setter found => ?_⟩
  · have fits := guarded.accessors id key property held
    rwa [accessor] at fits
  · have callable := Heap.isCallable_of_lookup guarded found
    obtain ⟨⟨callee, code⟩, called⟩ := Option.isSome_iff_exists.mp callable
    refine ⟨callee, code, called, fun receiver engine => ?_⟩
    exact (Run.getFor_of_lookup found engine).trans (Run.call_of_function? called receiver [] engine)
  · have callable := Heap.isCallable_of_assignment guarded found
    obtain ⟨⟨callee, code⟩, called⟩ := Option.isSome_iff_exists.mp callable
    refine ⟨callee, code, called, fun value engine => ?_⟩
    rw [Run.set_of_assignment found, Run.assign, Run.bind_apply, Run.call_of_function? called,
      Run.bind_apply]

/-! ## A class with one accessor -/

/-- A step that makes a constructor, and calls `_createClass` for an accessor of its prototype object. -/
def classStep (getter : Script.Operand) : Script.Step :=
  .choose [.value (.boolean true)]
    [.makeFunction { name := "C", kind := .normal } [] [] { result := some "C" },
      .makeFunction { name := "G", kind := .normal } [] [] { result := some "G" },
      .perform (.create .object) [] { result := some "record" },
      .perform (.onProperty .set) [.named "record", .value (.string "key"), .value (.string "x")] {},
      .perform (.onProperty .set) [.named "record", .value (.string "get"), getter] {},
      .perform (.create .array) [.named "record"] { result := some "members" },
      .perform (.onFunction (.callGlobal "_createClass")) [.named "C", .named "members"] {}] [] {}

theorem classStep_tested (getter : Script.Operand) : (classStep getter).Tested := by
  simp [classStep, Script.Step.Tested, Script.TestedSteps, Script.Operation.Tested]

/-- The state of a fresh realm with the helper, and with a scope. -/
def classStart : State :=
  { Session.prepared Preset.modern.profile [.createClass] with scopes := #[{}] }

/-- How this step goes there on an engine. -/
def classOutcome (getter : Script.Operand) (engine : Engine) : Outcome Script.Progress :=
  Script.runStep { scope := ⟨0⟩ } (classStep getter) engine classStart

theorem start_defines : (Session.prepared Preset.modern.profile [.createClass]).Defines classStart :=
  .elsewhere rfl

/-- With a function for the getter, the accessor runs this function. -/
theorem class_getter_callable :
    let prototype : ObjectId := ⟨classStart.heap.size + 1⟩
    let getter : ObjectId := ⟨classStart.heap.size + 2⟩
    ∃ after, ReflTransGen State.Defines (Session.prepared Preset.modern.profile [.createClass]) after ∧
      after.heap.lookup prototype "x" = some (.accessor (some (.object getter))) ∧
      ∃ callee callable, after.heap.function? (.object getter) = some (callee, callable) ∧
        ∀ receiver engine, Run.getFor prototype "x" receiver engine after =
          Run.invoke { callee, callable, this := receiver } engine after := by
  intro prototype getter
  have left : (classOutcome (.named "G") (Engine.ofDepth 2)).final?.any (fun after =>
      after.heap.lookup prototype "x" = some (.accessor (some (.object getter)))) = true := by
    decide +kernel
  have checked : (classOutcome (.named "G") (Engine.checking 2)).final?.isSome = true := by
    decide +kernel
  obtain ⟨after, ended, found⟩ := (Option.any_eq_true _ _).mp left
  have reached : ReflTransGen State.Defines _ after :=
    .tail (.single start_defines) (.step (classStep_tested _) (fun exhausted => by
      rw [classOutcome, exhausted] at checked
      cases checked) (Outcome.leaves_of_final? ended))
  obtain ⟨_, reads, _⟩ := stored_accessors_callable reached
  have found := of_decide_eq_true found
  exact ⟨after, reached, found, reads _ _ _ found⟩

/-- `_createClass` installs a getter that cannot be called, and reading the property then fails for want of
a function. -/
theorem class_getter_uncallable :
    let prototype : ObjectId := ⟨classStart.heap.size + 1⟩
    (classStep (.value (.boolean true))).Tested ∧
    ∃ after, (Script.runStep { scope := ⟨0⟩ } (classStep (.value (.boolean true))) (Engine.ofDepth 2)
          classStart).Leaves after ∧
      (((after.heap.object prototype).property? "x").map Property.slot =
        some (.accessor (some (.boolean true)) none)) ∧
      after.heap.isCallable (.boolean true) = false ∧
      Run.get prototype "x" (Engine.ofDepth 1) after =
        .failed (.fault (.notAFunction "true")) after := by
  intro prototype
  have left : (classOutcome (.value (.boolean true)) (Engine.ofDepth 2)).final?.any (fun after =>
      ((after.heap.object prototype).property? "x").map Property.slot =
          some (.accessor (some (.boolean true)) none) ∧
        after.heap.lookup prototype "x" = some (.accessor (some (.boolean true)))) = true := by
    decide +kernel
  obtain ⟨after, ended, facts⟩ := (Option.any_eq_true _ _).mp left
  obtain ⟨stored, found⟩ := of_decide_eq_true facts
  refine ⟨classStep_tested _, after, Outcome.leaves_of_final? ended, stored, rfl, ?_⟩
  exact Run.getFor_of_lookup found (Engine.ofDepth 1)

end ClassLowering
