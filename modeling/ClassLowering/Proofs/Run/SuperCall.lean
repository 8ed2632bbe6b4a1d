import ClassLowering.Class.SuperCall
import ClassLowering.Proofs.Run.Constructing

/-!
# What super calls come down to

A super call reads the base above its class, and the constructor above its instance. Between these reads
and the base lie a question about the host, a read of `Reflect.construct`, and a list of the arguments
that is unpacked again; nothing of this shows in what the base does.
-/

namespace ClassLowering

namespace Heap

variable {heap larger : Heap} {value : Option Value} {key : PropertyKey} {found : Value}

theorem readFrom?_eq_some (read : heap.readFrom? value key = some found) :
    ∃ id, value = some (.object id) ∧ heap.plainRead? id key = some found := by
  unfold readFrom? at read
  split at read
  · next id => exact ⟨id, rfl, read⟩
  · cases read

/-- The function of the host behind a value is kept by a larger heap. -/
theorem Extends.builtin?_eq {function : Value} {host : FunctionKind × Builtin}
    (grown : heap.Extends larger) (found : heap.builtin? function = some host) :
    larger.builtin? function = some host :=
  builtin?_of_kind_eq (fun id present => congrArg Object.kind (grown.object_eq id present)) found

/-- The global `Reflect` has the native function that constructs for a new target. -/
def ConstructsNatively (heap : Heap) : Prop :=
  heap.reflectConstruct?.bind heap.builtin? = some (.method, .reflectConstruct)

end Heap

/-- The value that is stored as the prototype link of an object. -/
def State.storedLink (state : State) (id : ObjectId) : Value :=
  .ofObject? (state.heap.object id).prototype

/-- An object whose prototype link is told as on a fresh host. -/
structure State.ShowsLink (profile : Profile) (state : State) (id : ObjectId) : Prop where
  shows : state.ShowsLinks profile
  clears : state.heap.Clears "__proto__" id Intrinsic.objectPrototype.id

namespace Run

variable {profile : Profile} {state asked shown : State} {this derived : ObjectId} {depth : Nat}
variable {base newTarget : Value} {arguments : List Value}

theorem getPrototypeOf_link (links : profile.Links) (told : state.ShowsLink profile this)
    (depth : Nat) :
    getPrototypeOf (.object this) (Engine.ofDepth (depth + 1)) state =
      .done (state.storedLink this) (state.knowingLinks profile) :=
  getPrototypeOf_shown told.shows links told.clears depth

theorem constructorOfInstance_eq (links : profile.Links) (told : state.ShowsLink profile this)
    (depth : Nat) :
    constructorOfInstance (.object this) (Engine.ofDepth (depth + 1)) state =
      getOf (state.storedLink this) "constructor" (Engine.ofDepth (depth + 1))
        (state.knowingLinks profile) := by
  rw [constructorOfInstance]
  exact bind_of_done (getPrototypeOf_link links told depth)

/-- Where `Reflect.construct` is native, the list of arguments that is packed for it and unpacked again
is all that is between a super call and the construction of the base. -/
theorem constructBase_native (native : shown.heap.ConstructsNatively)
    (few : arguments.length ≤ maxArguments)
    (target : constructorOfInstance (.object this) (Engine.ofDepth (depth + 2)) state =
      .done newTarget shown) :
    constructBase base (.object this) arguments (Engine.ofDepth (depth + 2)) state =
      constructFor base arguments (some newTarget) (Engine.ofDepth (depth + 1))
        (shown.making (Build.listObject arguments)) := by
  let listed := shown.making (Build.listObject arguments)
  obtain ⟨function, read, builtin⟩ := Option.bind_eq_some_iff.mp native
  obtain ⟨reflect, global, construct⟩ := Heap.readFrom?_eq_some read
  have reflected : getGlobal "Reflect" (Engine.ofDepth (depth + 2)) shown =
    .done (.object reflect) shown := getFor_plain global
  have found : getOf (.object reflect) "construct" (Engine.ofDepth (depth + 2)) shown =
    .done function shown := getFor_plain construct
  have built : build (.list arguments) (Engine.ofDepth (depth + 2)) shown =
    .done shown.heap.next listed := rfl
  have kept : listed.heap.builtin? function = some (.method, .reflectConstruct) :=
    Heap.Extends.builtin?_eq (.allocate ..) builtin
  obtain ⟨_, _, _, called⟩ := call_builtin kept (depth + 1)
  rw [constructBase, bind_of_done target, bind_of_done reflected, bind_of_done found,
    bind_of_done built, called]
  exact Builtin.runReflectConstruct_eq base newTarget (Heap.object_allocate_next ..) few

/-- An instance that is there is what a super call falls back to. -/
theorem constructorReturn_object (this : ObjectId) :
    constructorReturn (.object this) = fun result => pure (resultOr this result) := by
  funext result
  cases result <;> rfl

/-- A super call runs the stored base. -/
theorem superCall_eq (links : profile.Links) (told : state.ShowsLink profile derived)
    (this : ObjectId) (arguments : List Value) (depth : Nat) :
    superCall (.object derived) (.object this) arguments (Engine.ofDepth (depth + 1)) state =
      (do return resultOr this (← runBase (state.storedLink derived) (.object this) arguments))
        (Engine.ofDepth (depth + 1)) (state.knowingLinks profile) := by
  rw [superCall, bind_of_done (getPrototypeOf_link links told depth), constructorReturn_object]

/-! ## Super callers -/

/-- The code of the super caller of a class. -/
def superCaller (derived : ObjectId) : Callable :=
  { name := "_createSuperInternal"
    kind := .method
    code := .builtin .superCaller
    captured := [.object derived] }

end Run

/-- The state with the super caller of a class. -/
def State.withSuperCaller (state : State) (derived : ObjectId) : State :=
  { state with heap := state.heap.withFunction (Run.superCaller derived) 0 }

theorem State.Adds.withSuperCaller (state : State) (derived : ObjectId) :
    state.Adds profile (state.withSuperCaller derived) := .of_heap Heap.extends_withFunction

namespace Run

variable {profile : Profile} {state : State} {derived : ObjectId}

/-- A super caller is a new function. -/
theorem makeSuperCaller_apply (derived : ObjectId) (engine : Engine) (state : State) :
    makeSuperCaller (.object derived) engine state =
      .done state.heap.next (state.withSuperCaller derived) := by
  have method : (superCaller derived).kind ≠ .normal := nofun
  exact build_apply (Build.function_eq_of_method method 0 state.heap)

theorem kind_superCaller (derived : ObjectId) (state : State) :
    ((state.withSuperCaller derived).heap.object state.heap.next).kind =
      .function (superCaller derived) := by
  rw [State.withSuperCaller, Heap.object_withFunction]
  rfl

theorem call_superCaller {caller : ObjectId}
    (held : (state.heap.object caller).kind = .function (superCaller derived)) (this : Value)
    (arguments : List Value) (depth : Nat) :
    call (.object caller) this arguments (Engine.ofDepth (depth + 1)) state =
      superCall (.object derived) this arguments (Engine.ofDepth depth) state :=
  call_function held this arguments depth

end Run

end ClassLowering
