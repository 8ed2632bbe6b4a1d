import ClassLowering.Proofs.Composition.Basic
import ClassLowering.Proofs.Run.Constructing
import ClassLowering.Proofs.Run.Retargeting
import ClassLowering.Proofs.Soundness.Session

/-!
# Reflective construction

A native `Reflect.construct` constructs its target. The one of a library can only call the target, on an object
made for the new target. For a normal function that does not ask for the new target this is the same, whatever
the operands are and whatever runs while they are read.
-/

namespace ClassLowering

open Bounded Run

/-! ## Constructors stay constructors -/

theorem Heap.Constructs.of_isConstructor {heap : Heap} {value : Value}
    (constructs : heap.isConstructor value = true) :
    ∃ id callable, value = .object id ∧ heap.Constructs id callable := by
  obtain ⟨⟨id, callable⟩, found, usable⟩ := (Option.any_eq_true _ _).mp constructs
  obtain ⟨rfl, kind⟩ := kind_of_function? found
  exact ⟨id, callable, rfl, kind, by simpa using usable⟩

theorem Heap.Constructs.leads {law : Law} {state after : State} {id : ObjectId} {callable : Callable}
    (constructs : state.heap.Constructs id callable) (leads : state.Leads law after) :
    after.heap.Constructs id callable :=
  have present := index_lt_of_kind constructs.kind nofun
  ⟨(State.kind_eq_of_changes leads.changes present).2.trans constructs.kind, constructs.constructs⟩

namespace Run

variable {α β : Type} {engine : Engine} {state : State}

/-- Runs that begin alike are alike if they go on alike after every result. -/
theorem bind_congr_of_done {first : Run β} {rest other : β → Run α}
    (each : ∀ result next, first engine state = .done result next →
      rest result engine next = other result engine next) :
    (first >>= rest) engine state = (first >>= other) engine state := by
  rw [bind_apply, bind_apply]
  cases ran : first engine state with
  | done result next => exact each result next ran
  | failed failure next => rfl
  | exhausted => rfl

/-- A function that ignores the new target is invoked as if there were none. -/
theorem invoke_ignored (frame : Frame) (ignores : frame.callable.IgnoresNewTarget)
    (newTarget : Option ObjectId) (depth : Nat) (state : State) :
    invoke { frame with newTarget } (Engine.ofDepth depth) state =
      invoke frame (Engine.ofDepth depth) state := by
  cases depth with
  | zero => rfl
  | succ depth => exact ignores frame newTarget depth state rfl

end Run

namespace Builtin

variable {law : Law} {engine : Engine} {state : State} {callee target : ObjectId}
variable {callable other : Callable} {arguments : List Value} {frame : Frame}

/-! ## The order of a construction -/

/-- The new target that the operands of `construct` name: the target where they name none. -/
def newTargetOf (frame : Frame) : Value :=
  if 2 < frame.arguments.length then frame.argument 2 else frame.argument 0

/-- Runs a function on an object made for a new target. -/
def runOnInstance (callee : ObjectId) (callable : Callable) (arguments : List Value)
    (newTarget : Value) : Run Value := do
  let created ← build (.object (some (← prototypeForTarget newTarget)))
  let result ← invoke { callee, callable, this := .object created, arguments }
  return resultOr created result

/-- What is done with a function that can be constructed, in order: the new target is tested, the arguments are
read, and then the `prototype` of the new target, before the function runs. -/
def constructInOrder (frame : Frame) (callee : ObjectId) (callable : Callable) : Run Value := do
  constructOperands.constructible (newTargetOf frame)
  runOnInstance callee callable (← elementsOf (frame.argument 1)) (newTargetOf frame)

/-- Of the operands, a constructor as the target needs nothing to be done. -/
theorem constructOperands_bind {α : Type} (constructs : state.heap.isConstructor (frame.argument 0) = true)
    (rest : Value × List Value × Value → Run α) :
    (constructOperands frame >>= rest) engine state =
      (do
        constructOperands.constructible (newTargetOf frame)
        rest (frame.argument 0, ← elementsOf (frame.argument 1), newTargetOf frame)) engine state := by
  simp only [constructOperands, bind_assoc, pure_bind]
  exact bind_of_done (constructible_apply constructs)

/-- Where a test of the new target succeeds, this is a constructor, and nothing has happened. -/
theorem constructible_done {value : Value} {after : State}
    (ran : constructOperands.constructible value engine state = .done () after) :
    state.heap.isConstructor value = true ∧ after = state := by
  cases tested : state.heap.isConstructor value with
  | false =>
      rw [constructible_refused tested] at ran
      cases ran
  | true =>
      rw [constructible_apply tested] at ran
      cases ran
      exact ⟨rfl, rfl⟩

/-- Two ways of going on with the operands are one if they are so for constructors that are there still when the
arguments have been read. -/
theorem construct_congr (machine : engine.Sound law) (sound : state.Sound law)
    (given : Within law state.heap.size frame.arguments) (constructs : state.heap.Constructs callee callable)
    (named : frame.argument 0 = .object callee) {rest other : Value × List Value × Value → Run Value}
    (each : ∀ target code arguments after, after.Sound law → after.heap.Constructs callee callable →
      after.heap.Constructs target code →
      rest (.object callee, arguments, .object target) engine after =
        other (.object callee, arguments, .object target) engine after) :
    (constructOperands frame >>= rest) engine state = (constructOperands frame >>= other) engine state := by
  have tested : state.heap.isConstructor (frame.argument 0) = true := by
    rw [named]
    exact constructs.isConstructor
  rw [constructOperands_bind tested, constructOperands_bind tested]
  apply bind_congr_of_done
  intro _ next passed
  obtain ⟨newTested, rfl⟩ := constructible_done passed
  obtain ⟨target, code, newNamed, targets⟩ := Heap.Constructs.of_isConstructor newTested
  apply bind_congr_of_done
  -- Reading the list may run getters. They change the realm, but they leave functions what they are.
  intro arguments after read
  have leads := (elementsOf_sound machine sound (within_getElem? given 1)).leads read
  rw [named, newNamed]
  exact each target code arguments after leads.sound (constructs.leads leads) (targets.leads leads)

theorem constructInOrder_eq (constructs : state.heap.isConstructor (frame.argument 0) = true)
    (callee : ObjectId) (callable : Callable) :
    constructInOrder frame callee callable engine state =
      (do
        let (_, arguments, newTarget) ← constructOperands frame
        runOnInstance callee callable arguments newTarget) engine state := by
  rw [constructOperands_bind constructs]
  rfl

/-! ## Both ways of constructing -/

/-- For a constructor as the new target, the object is the one that the constructor makes. -/
theorem created_eq {α : Type} (target : ObjectId) (rest : ObjectId → Run α) :
    (do rest (← build (.object (some (← prototypeForTarget (.object target)))))) =
      createFromConstructor target Intrinsic.objectPrototype.id >>= rest :=
  (bind_assoc ..).symm

/-- Constructing a normal function that ignores the new target. -/
theorem runConstructor_ignored (normal : callable.kind = .normal) (ignores : callable.IgnoresNewTarget)
    (arguments : List Value) (depth : Nat) (state : State) :
    runConstructor callee callable arguments target (Engine.ofDepth depth) state =
      runOnInstance callee callable arguments (.object target) (Engine.ofDepth depth) state := by
  have host : callable.kind ≠ .builtinConstructor := by simp [normal]
  rw [runConstructor, if_neg host, runOnInstance, created_eq]
  apply bind_congr_of_done
  intro created made _
  have ran := invoke_ignored { callee, callable, this := .object created, arguments } ignores
    (some target) depth made
  rw [bind_apply, bind_apply, ran]

/-- Calling a constructor on the object that was made for the new target. -/
theorem call_on_instance (machine : engine.Sound law) (sound : state.Sound law)
    (constructs : state.heap.Constructs callee callable) (targets : state.heap.Constructs target other)
    (arguments : List Value) :
    (do
      let created ← build (.object (some (← prototypeForTarget (.object target))))
      return resultOr created (← call (.object callee) (.object created) arguments)) engine state =
      runOnInstance callee callable arguments (.object target) engine state := by
  rw [runOnInstance, created_eq, created_eq]
  apply bind_congr_of_done
  -- The callee was looked up before `prototype` was read in one case, and is looked up now in the other.
  intro created made ran
  have present : Within law state.heap.size target := Heap.index_lt_of_kind targets.kind nofun
  have leads := (createFromConstructor_sound machine sound present
    (sound.heap.intrinsic .objectPrototype)).leads ran
  have found := Heap.function?_of_kind (constructs.leads leads).kind
  rw [bind_apply, bind_apply, call_of_function? found]

end Builtin

/-- In every state of a session, for every list of operands whose first names a normal function that ignores the
new target: a native `Reflect.construct` and one of a library do the same. They test the new target, read the
arguments and the `prototype` of the new target in this order, and they end with the same result or failure and
with the same effects. -/
theorem reflective_constructions_agree (profile : Profile) (marked : List Helper) {law : Law}
    {before state : State} (reached : (Session.prepared profile marked).Reaches law before)
    (during : before.Becomes law state) {native imitated : Frame}
    (same : imitated.arguments = native.arguments) (given : Within law state.heap.size native.arguments)
    {callee : ObjectId} {callable : Callable}
    (function : state.heap.function? (native.argument 0) = some (callee, callable))
    (normal : callable.kind = .normal) (ignores : callable.IgnoresNewTarget) (depth : Nat) :
    Builtin.reflectConstruct.run native (Engine.ofDepth depth) state =
        Builtin.constructInOrder native callee callable (Engine.ofDepth depth) state ∧
      Builtin.reflectConstructPolyfill.run imitated (Engine.ofDepth depth) state =
        Builtin.reflectConstruct.run native (Engine.ofDepth depth) state := by
  have sound : state.Sound law := Session.sound_of_reaches reached during
  have machine := Engine.ofDepth_sound law depth
  obtain ⟨named, kind⟩ := Heap.kind_of_function? function
  have constructs : state.heap.Constructs callee callable := ⟨kind, by simp [normal]⟩
  have tested : state.heap.isConstructor (native.argument 0) = true := by
    rw [named]
    exact constructs.isConstructor
  have constructed : Builtin.reflectConstruct.run native (Engine.ofDepth depth) state =
      Builtin.constructInOrder native callee callable (Engine.ofDepth depth) state := by
    rw [Builtin.constructInOrder_eq tested]
    apply Builtin.construct_congr machine sound given constructs named
    intro target code arguments after _ constructs targets
    exact (constructFor_apply constructs targets).trans
      (Builtin.runConstructor_ignored normal ignores arguments depth after)
  have called : Builtin.reflectConstructPolyfill.run imitated (Engine.ofDepth depth) state =
      Builtin.constructInOrder native callee callable (Engine.ofDepth depth) state := by
    have operands : Builtin.constructOperands imitated = Builtin.constructOperands native := by
      simp only [Builtin.constructOperands, Frame.argument, same]
    rw [Builtin.constructInOrder_eq tested, Builtin.run, Builtin.runReflectConstructPolyfill, operands]
    apply Builtin.construct_congr machine sound given constructs named
    intro target code arguments after sound constructs targets
    exact Builtin.call_on_instance machine sound constructs targets arguments
  exact ⟨constructed, called.trans constructed.symm⟩

/-- A body that stores its first argument on its instance. -/
def storingBody : List Script.Step :=
  [.perform (.onProperty .set) [.this, .value (.string "x"), .argument 0] {}]

/-- Steps that make a function with this body, another function, and a list of one argument. -/
def storingSteps : List Script.Step :=
  [.makeFunction { name := "Target", kind := .normal } storingBody [] {},
    .makeFunction { name := "Other", kind := .normal } [] [] {},
    .perform (.create .array) [.value (.boolean true)] {}]

/-- The call of a `construct` of the host. -/
def Frame.reflecting (construct : Builtin) (arguments : List Value) : Frame :=
  { callee := Intrinsic.global.id
    callable := { name := "construct", kind := .method, code := .builtin construct }
    arguments }

/-- Either way, the function stores its argument on an instance of the other one. -/
theorem argument_stored_by_either :
    let start := { Session.prepared Preset.modern.profile [] with scopes := #[{}] }
    let state := (Session.runSteps ⟨0⟩ storingSteps start ∅).2
    let target := start.heap.next
    let arguments : List Value :=
      [.object target, .object ⟨start.heap.size + 4⟩, .object ⟨start.heap.size + 2⟩]
    let created : ObjectId := ⟨start.heap.size + 5⟩
    (Session.prepared Preset.modern.profile []).Reaches .host state ∧ state.Becomes .host state ∧
      Within .host state.heap.size arguments ∧
      (∃ stores, state.heap.function? (.object target) = some (target, stores) ∧ stores.kind = .normal ∧
        stores.IgnoresNewTarget) ∧
      ∃ after, after.heap.Holds created "x" (.boolean true) ∧
        after.heap.Links created ⟨start.heap.size + 3⟩ ∧
        (Frame.reflecting .reflectConstruct arguments).run (Engine.ofDepth 1) state =
          .done (.object created) after ∧
        (Frame.reflecting .reflectConstructPolyfill arguments).run (Engine.ofDepth 1) state =
          .done (.object created) after := by
  intro start state target arguments created
  have lawful : Script.LawfulSteps .host start.heap.size storingSteps := by
    simp [storingSteps, storingBody]
  have reached := Session.prepared_reaches Preset.modern.profile [] lawful
  have unchanged : state.Becomes .host state := .refl
  have given : Within .host state.heap.size arguments := by
    have size_eq : state.heap.size = start.heap.size + 5 := by decide +kernel
    have there {index : Nat} (below : index < start.heap.size + 5) :
        Within .host state.heap.size (Value.object ⟨index⟩) := by
      rw [size_eq]
      exact below
    exact within_cons.mpr ⟨there (by omega), within_cons.mpr ⟨there (by omega),
      within_cons.mpr ⟨there (by omega), within_nil⟩⟩⟩
  have checked : (state.heap.function? (.object target)).any (fun found =>
      found.1 = target && found.2.kind = .normal && !found.2.code.asksForNewTarget) = true := by
    decide +kernel
  obtain ⟨⟨id, stores⟩, function, suits⟩ := (Option.any_eq_true _ _).mp checked
  simp only [Bool.and_eq_true, decide_eq_true_eq, Bool.not_eq_true'] at suits
  obtain ⟨⟨rfl, normal⟩, asks⟩ := suits
  have ignores := Callable.ignoresNewTarget_of_code asks
  have stored : ((Frame.reflecting .reflectConstruct arguments).run (Engine.ofDepth 1) state).done?.any
      (fun ended => ended.1 = .object created &&
        (ended.2.heap.object created).property? "x" = some { slot := .data (.boolean true) } &&
        (ended.2.heap.object created).prototype = some ⟨start.heap.size + 3⟩) = true := by decide +kernel
  obtain ⟨⟨result, after⟩, ended, holds⟩ := (Option.any_eq_true _ _).mp stored
  simp only [Bool.and_eq_true, decide_eq_true_eq] at holds
  obtain ⟨⟨rfl, held⟩, linked⟩ := holds
  have constructed := Outcome.done_of_done? ended
  have same : (Frame.reflecting .reflectConstructPolyfill arguments).arguments =
      (Frame.reflecting .reflectConstruct arguments).arguments := rfl
  obtain ⟨_, agree⟩ :=
    reflective_constructions_agree _ _ reached unchanged same given function normal ignores 1
  exact ⟨reached, unchanged, given, ⟨stores, function, normal, ignores⟩, after, ⟨_, held, rfl, rfl⟩, linked,
    constructed, agree.trans constructed⟩

end ClassLowering
