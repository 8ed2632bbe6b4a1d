import ClassLowering.Builtin.Reflect
import ClassLowering.Proofs.Run.Listing

/-!
# Constructing for a new target

What constructors and both kinds of `Reflect.construct` come down to, on functions that can be
constructed and on lists of arguments that are not too long.
-/

namespace ClassLowering

/-- The state with one more object. -/
def State.making (state : State) (object : Object) : State :=
  { state with heap := (state.heap.allocate object).2 }

@[simp] theorem State.making_heap (state : State) (object : Object) :
    (state.making object).heap = (state.heap.allocate object).2 := rfl

theorem State.Adds.making {profile : Profile} (state : State) (object : Object) :
    state.Adds profile (state.making object) := .of_heap (.allocate state.heap object)

/-- A function that can be constructed. -/
structure Heap.Constructs (heap : Heap) (id : ObjectId) (callable : Callable) : Prop where
  kind : (heap.object id).kind = .function callable
  constructs : callable.kind ≠ .method

theorem Heap.Constructs.isConstructor {heap : Heap} {id : ObjectId} {callable : Callable}
    (constructs : heap.Constructs id callable) : heap.isConstructor (.object id) = true := by
  rw [Heap.isConstructor, function?_of_kind constructs.kind]
  simpa using constructs.constructs

namespace Run

variable {engine : Engine} {state : State} {callee target prototype : ObjectId}
variable {callable other : Callable} {arguments : List Value}

theorem constructorOf_apply (constructs : state.heap.Constructs callee callable) :
    constructorOf (.object callee) engine state = .done (callee, callable) state := by
  rw [constructorOf, ask_bind, Heap.function?_of_kind constructs.kind]
  dsimp only
  rw [if_neg constructs.constructs]
  rfl

/-- The function behind a value is there exactly if the value is a constructor. -/
theorem constructorOf_outcome (value : Value) (engine : Engine) (state : State) :
    (state.heap.isConstructor value = false ∧ constructorOf value engine state =
        .failed (.fault (.notAConstructor (state.heap.text value))) state) ∨
      ∃ id callable, state.heap.isConstructor value = true ∧
        constructorOf value engine state = .done (id, callable) state := by
  rw [Heap.isConstructor, constructorOf, ask_bind]
  cases state.heap.function? value with
  | none => exact .inl ⟨rfl, rfl⟩
  | some found =>
      obtain ⟨id, callable⟩ := found
      dsimp only
      by_cases method : callable.kind = .method
      · rw [if_pos method]
        exact .inl ⟨by simp [method], rfl⟩
      · rw [if_neg method]
        exact .inr ⟨id, callable, by simp [method], rfl⟩

theorem construct_apply (constructs : state.heap.Constructs callee callable) :
    construct (.object callee) arguments engine state =
      runConstructor callee callable arguments callee engine state := by
  rw [construct, constructFor, bind_of_done (constructorOf_apply constructs)]
  rfl

theorem constructFor_apply (constructs : state.heap.Constructs callee callable)
    (targets : state.heap.Constructs target other) :
    constructFor (.object callee) arguments (some (.object target)) engine state =
      runConstructor callee callable arguments target engine state := by
  rw [constructFor, bind_of_done (constructorOf_apply constructs)]
  have found : targetOf callee (some (.object target)) engine state = .done target state := by
    rw [targetOf, bind_of_done (constructorOf_apply targets)]
    rfl
  exact bind_of_done found

theorem instancePrototype_apply (ordinary : (state.heap.object target).proxy? = none)
    (instances : state.heap.Holds target "prototype" (.object prototype)) (fallback : ObjectId) :
    instancePrototype target fallback engine state = .done prototype state := by
  have read : get target "prototype" engine state = .done (.object prototype) state :=
    getFor_plain (instances.plainRead? ordinary)
  rw [instancePrototype, bind_of_done read]
  rfl

/-- The instance for a constructor inherits from its prototype object. -/
theorem createFromConstructor_apply (ordinary : (state.heap.object target).proxy? = none)
    (instances : state.heap.Holds target "prototype" (.object prototype)) (fallback : ObjectId) :
    createFromConstructor target fallback engine state =
      .done state.heap.next (state.making (.inheriting (some prototype))) := by
  rw [createFromConstructor, bind_of_done (instancePrototype_apply ordinary instances fallback)]
  rfl

/-- A normal function is constructed by running it on a new instance. -/
theorem runConstructor_eq (normal : callable.kind = .normal)
    (ordinary : (state.heap.object target).proxy? = none)
    (instances : state.heap.Holds target "prototype" (.object prototype)) (arguments : List Value) :
    runConstructor callee callable arguments target engine state =
      (do return resultOr state.heap.next (← invoke
        { callee, callable, this := .object state.heap.next, arguments, newTarget := some target }))
        engine (state.making (.inheriting (some prototype))) := by
  have host : callable.kind ≠ .builtinConstructor := by
    rw [normal]
    exact nofun
  rw [runConstructor, if_neg host, bind_of_done (createFromConstructor_apply ordinary instances _)]

theorem runConstructor_apply (normal : callable.kind = .normal)
    (ordinary : (state.heap.object target).proxy? = none)
    (instances : state.heap.Holds target "prototype" (.object prototype)) {result : ObjectId}
    {after : State}
    (ran : invoke
      { callee, callable, this := .object state.heap.next, arguments, newTarget := some target }
      engine (state.making (.inheriting (some prototype))) = .done (.object result) after) :
    runConstructor callee callable arguments target engine state = .done (.object result) after := by
  rw [runConstructor_eq normal ordinary instances, bind_of_done ran]
  rfl

end Run

namespace Builtin

open Run

variable {engine : Engine} {state : State} {callee target list newTarget : ObjectId}
variable {callable constructed other : Callable} {this : Value} {arguments : List Value}

theorem constructible_apply {value : Value} (constructs : state.heap.isConstructor value = true) :
    constructOperands.constructible value engine state = .done () state := by
  rw [constructOperands.constructible, ask_bind, if_pos constructs]
  rfl

theorem constructible_refused {value : Value} (refused : state.heap.isConstructor value = false) :
    constructOperands.constructible value engine state =
      .failed (.fault (.notAConstructor (state.heap.text value))) state := by
  rw [constructOperands.constructible, ask_bind, refused]
  rfl

theorem constructOperands_apply {target newTarget : Value}
    (constructs : state.heap.isConstructor target = true)
    (targets : state.heap.isConstructor newTarget = true)
    (made : state.heap.object list = Build.listObject arguments)
    (few : arguments.length ≤ maxArguments) :
    constructOperands
        { callee, callable, this, arguments := [target, .object list, newTarget] }
        engine state =
      .done (target, arguments, newTarget) state := by
  rw [constructOperands]
  refine (bind_of_done (constructible_apply constructs)).trans ?_
  refine (bind_of_done (constructible_apply targets)).trans ?_
  exact bind_of_done (elementsOf_apply made few)

/-- More arguments than a call may have are refused. -/
theorem constructOperands_overlong {target newTarget : Value}
    (constructs : state.heap.isConstructor target = true)
    (targets : state.heap.isConstructor newTarget = true)
    (made : state.heap.object list = Build.listObject arguments)
    (many : maxArguments < arguments.length) :
    constructOperands
        { callee, callable, this, arguments := [target, .object list, newTarget] }
        engine state =
      .failed (.fault .tooManyArguments) state := by
  rw [constructOperands]
  refine (bind_of_done (constructible_apply constructs)).trans ?_
  refine (bind_of_done (constructible_apply targets)).trans ?_
  exact bind_of_failed (elementsOf_overlong made many)

/-- The native `Reflect.construct` constructs for the new target, and fails where construction would. -/
theorem runReflectConstruct_eq (target newTarget : Value)
    (made : state.heap.object list = Build.listObject arguments)
    (few : arguments.length ≤ maxArguments) :
    runReflectConstruct
        { callee, callable, this, arguments := [target, .object list, newTarget] }
        engine state =
      constructFor target arguments (some newTarget) engine state := by
  rw [runReflectConstruct]
  rcases constructorOf_outcome target engine state with
    ⟨refused, failed⟩ | ⟨constructor, code, constructs, found⟩
  · rw [constructFor, bind_of_failed failed]
    refine bind_of_failed ?_
    rw [constructOperands]
    exact bind_of_failed (constructible_refused refused)
  · rcases constructorOf_outcome newTarget engine state with
      ⟨refused, failed⟩ | ⟨_, _, targets, _⟩
    · rw [constructFor, bind_of_done found]
      refine Eq.trans (bind_of_failed ?_) (bind_of_failed (bind_of_failed failed)).symm
      rw [constructOperands]
      refine (bind_of_done (constructible_apply constructs)).trans ?_
      exact bind_of_failed (constructible_refused refused)
    · rw [bind_of_done (constructOperands_apply constructs targets made few)]

theorem runReflectConstruct_apply (constructs : state.heap.Constructs target constructed)
    (targets : state.heap.Constructs newTarget other)
    (made : state.heap.object list = Build.listObject arguments)
    (few : arguments.length ≤ maxArguments) :
    runReflectConstruct
        { callee, callable, this, arguments := [.object target, .object list, .object newTarget] }
        engine state =
      runConstructor target constructed arguments newTarget engine state :=
  (runReflectConstruct_eq _ _ made few).trans (constructFor_apply constructs targets)

/-- The imitated `Reflect.construct` calls its target on an instance for the new target. -/
theorem runReflectConstructPolyfill_apply (constructs : state.heap.Constructs target constructed)
    (targets : state.heap.Constructs newTarget other)
    (made : state.heap.object list = Build.listObject arguments)
    (few : arguments.length ≤ maxArguments) {prototype : ObjectId}
    (instances : state.heap.Holds newTarget "prototype" (.object prototype)) :
    runReflectConstructPolyfill
        { callee, callable, this, arguments := [.object target, .object list, .object newTarget] }
        engine state =
      (call (.object target) (.object state.heap.next) arguments >>= fun result =>
          pure (resultOr state.heap.next result))
        engine (state.making (.inheriting (some prototype))) := by
  have ordinary := Heap.proxy?_of_function targets.kind
  have found : prototypeForTarget (.object newTarget) engine state = .done prototype state :=
    instancePrototype_apply ordinary instances _
  rw [runReflectConstructPolyfill,
    bind_of_done
      (constructOperands_apply constructs.isConstructor targets.isConstructor made few)]
  exact bind_of_done found

end Builtin

end ClassLowering
