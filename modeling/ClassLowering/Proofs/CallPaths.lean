import ClassLowering.Proofs.LinkWriters
import ClassLowering.Proofs.Run.Constructing

/-!
# Ways of calling a function

A script calls a function outright, by `call` or `apply` of `Function.prototype`, or by `Reflect.apply`. The
last two take the arguments from a list object. Every way comes to the same frame, so that the function
cannot tell them apart.
-/

namespace ClassLowering

open Bounded

/-! ## Functions that objects of the host have -/

namespace Heap

variable {heap : Heap} {value : Option Value} {key : PropertyKey} {found : FunctionKind × Builtin}

/-- The function of the host that an object has under a key of its own. -/
def ownMethod? (heap : Heap) (value : Option Value) (key : PropertyKey) : Option (FunctionKind × Builtin) :=
  match value with
  | some (.object id) =>
      match (heap.object id).proxy?, ((heap.object id).property? key).map Property.slot with
      | none, some (.data method) => heap.builtin? method
      | _, _ => none
  | _ => none

theorem ownMethod?_eq_some (owned : heap.ownMethod? value key = some found) :
    ∃ id method property, value = some (.object id) ∧ (heap.object id).proxy? = none ∧
      (heap.object id).property? key = some property ∧ property.slot = .data method ∧
      heap.builtin? method = some found := by
  unfold ownMethod? at owned
  split at owned
  · split at owned
    · next ordinary held =>
      obtain ⟨property, held, stored⟩ := Option.map_eq_some_iff.mp held
      exact ⟨_, _, property, rfl, ordinary, held, stored, owned⟩
    · cases owned
  · cases owned

/-- It is what a read of the key gives. -/
theorem readFrom?_of_ownMethod? (owned : heap.ownMethod? value key = some found) :
    (heap.readFrom? value key).bind heap.builtin? = some found := by
  obtain ⟨id, method, property, rfl, ordinary, held, stored, builtin⟩ := ownMethod?_eq_some owned
  rw [readFrom?, plainRead?_own ordinary held stored]
  exact builtin

end Heap

namespace Realm

variable {profile : Profile} {heap : Heap} {value : Option Value} {key : PropertyKey}
  {found : FunctionKind × Builtin}

/-- The objects of an untouched realm have the functions that they were given. -/
theorem Untouched.ownMethod?_eq (untouched : Untouched profile heap)
    (within : Within .script (Realm.heap profile).size value)
    (owned : (Realm.heap profile).ownMethod? value key = some found) :
    heap.ownMethod? value key = some found := by
  obtain ⟨id, method, property, rfl, ordinary, held, stored, builtin⟩ := Heap.ownMethod?_eq_some owned
  have own : ((Realm.heap profile).object id).hasOwn key = true := by
    rw [Object.hasOwn_eq_isSome, held]
    rfl
  have stays : Within .script (Realm.heap profile).size method := by
    have property_within := (heap_sound profile).within_property held
    obtain ⟨_, _, _, _⟩ := property
    cases stored
    exact property_within
  rw [Heap.ownMethod?, untouched.proxy?_eq within, ordinary, untouched.property_eq id key within (.inr own),
    held, Option.map_some, stored]
  exact (untouched.builtin?_eq stays).trans builtin

set_option synthInstance.maxSize 512 in
/-- In a fresh realm functions can be called by `call` and `apply`, and by `Reflect.apply` if there is a
`Reflect`. -/
theorem heap_calls (profile : Profile) :
    (Realm.heap profile).ownMethod? (some (.object Intrinsic.functionPrototype.id)) "call" =
        some (.method, .functionCall) ∧
      (Realm.heap profile).ownMethod? (some (.object Intrinsic.functionPrototype.id)) "apply" =
        some (.method, .functionApply) ∧
      (profile.reflect ≠ .absent →
        (Realm.heap profile).ownMethod? ((Realm.heap profile).global? "Reflect") "apply" =
          some (.method, .reflectApply)) := by
  obtain ⟨g, s, l, reflect, p⟩ := profile
  cases reflect <;> revert g s l p <;> decide +kernel

end Realm

/-! ## The ways -/

/-- Calls a function of `Function.prototype` on a function, as scripts do. -/
def Run.callOnFunction (method : PropertyKey) (function : Value) (arguments : List Value) : Run Value := do
  let method ← get Intrinsic.functionPrototype.id method
  call method function arguments

/-- The ways in which a script calls a function. -/
inductive CallPath where
  /-- The call of the function itself. -/
  | direct
  /-- `Function.prototype.call`. -/
  | functionCall
  /-- `Function.prototype.apply`. -/
  | functionApply
  /-- `Reflect.apply`. -/
  | reflectApply
  deriving DecidableEq, Repr

namespace CallPath

/-- Calls a function on a value with arguments, of which there is a list object, too. -/
def run (path : CallPath) (function this : Value) (arguments : List Value) (list : ObjectId) : Run Value :=
  match path with
  | .direct => Run.call function this arguments
  | .functionCall => Run.callOnFunction "call" function (this :: arguments)
  | .functionApply => Run.callOnFunction "apply" function [this, .object list]
  | .reflectApply => Run.callGlobal "Reflect" "apply" [function, this, .object list]

/-- Whether the arguments are taken from the list object. -/
def listed (path : CallPath) : Bool :=
  match path with
  | .direct | .functionCall => false
  | .functionApply | .reflectApply => true

/-- How deep the calls are nested when the function runs. -/
def nesting (path : CallPath) : Nat :=
  match path with
  | .direct => 1
  | _ => 2

end CallPath

/-! ## What the ways come down to -/

section Ways

variable {profile : Profile} {state : State} {function : Value} {callee : ObjectId} {callable : Callable}

theorem Run.callOnFunction_apply {method : PropertyKey} {kind : FunctionKind} {builtin : Builtin}
    (owned : state.heap.ownMethod? (some (.object Intrinsic.functionPrototype.id)) method =
      some (kind, builtin)) (arguments : List Value) (depth : Nat) :
    ∃ callee callable, callOnFunction method function arguments (Engine.ofDepth (depth + 1)) state =
      builtin.run { callee, callable, this := function, arguments } (Engine.ofDepth depth) state := by
  obtain ⟨found, read, runs⟩ := Option.bind_eq_some_iff.mp (Heap.readFrom?_of_ownMethod? owned)
  have got : get Intrinsic.functionPrototype.id method (Engine.ofDepth (depth + 1)) state =
      .done found state := getFor_plain read
  obtain ⟨callee, callable, _, called⟩ := call_builtin runs depth
  exact ⟨callee, callable, (bind_of_done got).trans (called _ _)⟩

theorem Builtin.runReflectApply_eq {frame : Frame} {engine : Engine}
    (called : state.heap.isCallable (frame.argument 0) = true) :
    runReflectApply frame engine state =
      (Run.elementsOf (frame.argument 2) >>= Run.call (frame.argument 0) (frame.argument 1)) engine
        state := by
  rw [runReflectApply, Run.ask_bind, if_pos called]

/-- Every way is a call of the function, after the arguments have been taken from the list object or not. -/
theorem CallPath.run_eq_call (untouched : Realm.Untouched profile state.heap)
    (reflects : profile.reflect ≠ .absent)
    (found : state.heap.function? function = some (callee, callable)) (path : CallPath) (this : Value)
    (arguments : List Value) (list : ObjectId) (depth : Nat) :
    path.run function this arguments list (Engine.ofDepth (depth + path.nesting)) state =
      ((if path.listed then Run.elementsOf (.object list) else pure arguments) >>= Run.call function this)
        (Engine.ofDepth (depth + 1)) state := by
  obtain ⟨call, apply, reflectApply⟩ := Realm.heap_calls profile
  have there := (Realm.heap_sound profile).intrinsic .functionPrototype
  cases path with
  | direct => rfl
  | functionCall =>
      obtain ⟨_, _, called⟩ :=
        Run.callOnFunction_apply (untouched.ownMethod?_eq there call) (this :: arguments) (depth + 1)
      exact called
  | functionApply =>
      obtain ⟨_, _, called⟩ :=
        Run.callOnFunction_apply (untouched.ownMethod?_eq there apply) [this, .object list] (depth + 1)
      exact called
  | reflectApply =>
      have owned : state.heap.ownMethod? (state.heap.global? "Reflect") "apply" =
          some (.method, .reflectApply) := by
        rw [untouched.global?_eq (by decide)]
        exact untouched.ownMethod?_eq (Realm.within_global? profile _) (reflectApply reflects)
      obtain ⟨method, receiver, runs, applied⟩ :=
        Run.callGlobal_apply (Heap.readFrom?_of_ownMethod? owned) [function, this, .object list]
      obtain ⟨_, _, _, called⟩ := Run.call_builtin runs (depth + 1)
      have callable : state.heap.isCallable function = true := by
        rw [Heap.isCallable, found]
        rfl
      exact applied.trans ((called _ _).trans (Builtin.runReflectApply_eq callable))

end Ways

/-! ## The ways agree -/

/-- A function is called alike in every way: its code runs once, on the value and with the arguments, and for
no new target. More arguments than a call may have are refused where they are taken from a list object. -/
structure State.CallsAlike (state : State) (function : Value) (frame : Frame) (list : ObjectId)
    (depth : Nat) : Prop where
  alike : ∀ path : CallPath, (path.listed = true → frame.arguments.length ≤ maxArguments) →
    path.run function frame.this frame.arguments list (Engine.ofDepth (depth + path.nesting)) state =
      frame.run (Engine.ofDepth depth) state
  overlong : maxArguments < frame.arguments.length → ∀ path : CallPath, path.listed = true →
    ∃ fault, fault.kind = .rangeError ∧
      path.run function frame.this frame.arguments list (Engine.ofDepth (depth + path.nesting)) state =
        .failed (.fault fault) state

/-- In every state whose realm is untouched, all ways of calling a function agree, whatever the function, the
value and the arguments are. They rest on how list objects are read: any object whose length is an integer
gives its elements in order, unless they are too many. -/
theorem call_paths_agree (profile : Profile) (reflects : profile.reflect ≠ .absent) {state : State}
    (untouched : Realm.Untouched profile state.heap) {function : Value} {callee list : ObjectId}
    {callable : Callable} (found : state.heap.function? function = some (callee, callable)) (this : Value)
    {arguments : List Value} (made : state.heap.object list = Build.listObject arguments) (depth : Nat) :
    state.CallsAlike function { callee, callable, this, arguments, newTarget := none } list depth ∧
      ∀ (engine : Engine) (id : ObjectId) (number : Float) (integer : Int) (middle : State),
        Run.getOf (.object id) "length" engine state = .done (.number number) middle →
        (Binary64.ofFloat number).integer? = some integer →
          (integer ≤ maxArguments → Run.ReadsInOrder engine id integer.toNat state middle) ∧
          ((maxArguments : Int) < integer →
            Run.elementsOf (.object id) engine state = .failed (.fault .tooManyArguments) middle) := by
  have calls (path : CallPath) :=
    path.run_eq_call untouched reflects found this arguments list depth
  refine ⟨⟨fun path few => ?_, fun many path listed => ?_⟩, fun _ _ _ _ _ read equals =>
    ⟨Run.elementsOf_inOrder read equals, Run.elementsOf_refused read equals⟩⟩
  · refine (calls path).trans ?_
    cases listed : path.listed with
    | false => exact Run.call_of_function? found this arguments _
    | true =>
        have taken : Run.elementsOf (.object list) (Engine.ofDepth (depth + 1)) state =
            .done arguments state := Run.elementsOf_apply made (few listed)
        exact (Run.bind_of_done taken).trans (Run.call_of_function? found this arguments _)
  · refine ⟨.tooManyArguments, rfl, (calls path).trans ?_⟩
    rw [listed]
    exact Run.bind_of_failed (Run.elementsOf_overlong made many)

/-- Called in any way, `Boolean` gives the truth value of its argument, and reading the list of this one
argument reads one element. -/
theorem boolean_called_alike :
    let profile := Preset.modern.profile
    let start := Session.prepared profile []
    let arguments : List Value := [.boolean true]
    let list := start.heap.next
    let state := start.making (Build.listObject arguments)
    profile.reflect ≠ .absent ∧ Realm.Untouched profile state.heap ∧
      state.heap.object list = Build.listObject arguments ∧
      ∃ boolean callee callable, state.heap.function? boolean = some (callee, callable) ∧
        (∀ path : CallPath, path.run boolean .undefined arguments list (Engine.ofDepth path.nesting) state =
          .done (.boolean true) state) ∧
        Run.ReadsInOrder (Engine.ofDepth 0) list 1 state state := by
  intro profile start arguments list state
  have reflects : profile.reflect ≠ .absent := by decide
  have untouched : Realm.Untouched profile state.heap :=
    (Realm.untouched_heap profile).keep (Heap.Extends.allocate ..).size_le (Heap.Extends.allocate ..).object_eq
  have made : state.heap.object list = Build.listObject arguments := Heap.object_allocate_next ..
  obtain ⟨boolean, _, runs⟩ := Option.bind_eq_some_iff.mp untouched.offers.boolean
  obtain ⟨callee, callable, found, _, _, code⟩ := Heap.function?_of_builtin? runs
  have length : Run.getOf (.object list) "length" (Engine.ofDepth 0) state =
      .done (.number (Number.ofNat 1)) state := Run.getOf_length made
  have exact : (1 : Nat) < Number.exactLimit := by decide
  obtain ⟨calls, reads⟩ := call_paths_agree profile reflects untouched found .undefined made 0
  obtain ⟨inOrder, _⟩ := reads _ _ _ _ _ length (Number.integer?_ofNat exact)
  refine ⟨reflects, untouched, made, boolean, callee, callable, found, fun path => ?_, inOrder (by decide)⟩
  have few : path.listed = true → arguments.length ≤ maxArguments := fun _ => by decide
  have called := calls.alike path few
  rw [Nat.zero_add, Frame.run, code] at called
  exact called

end ClassLowering
