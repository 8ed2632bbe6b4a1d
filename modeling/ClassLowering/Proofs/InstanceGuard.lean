import ClassLowering.Proofs.FailedLinks
import ClassLowering.Proofs.Heap.Routes
import ClassLowering.Proofs.SuperCallRefinement

/-!
# The guard of constructors

A lowered constructor starts with a guard, which lets it run on instances of its class only: on objects below
the prototype object that the class has at the time. Everything else is refused before anything happens. A base
constructor that is called on the instance of a derived class runs, since the prototype objects of linked
classes stand above each other.
-/

namespace ClassLowering

open Relation Script

/-! ## Instances -/

namespace Heap

variable {law : Law} {heap larger : Heap} {id ancestor derived base : ObjectId} {value function : Value}

/-- The check along reported prototypes finds what stands strictly above an object. -/
theorem inherits_iff : heap.inherits id ancestor = some true ↔ TransGen heap.Reports id ancestor := by
  rw [inherits, TransGen.head'_iff]
  cases first : heap.prototypeOf id with
  | none =>
      apply iff_of_false
      · intro found
        cases found
      · rintro ⟨next, reported, _⟩
        rw [Reports, first] at reported
        cases reported
  | some above =>
      dsimp only
      have reported : heap.Reports id above := first
      constructor
      · intro found
        obtain ⟨last, reaches, finished⟩ := walkFor_finishes found
        rw [ancestorStride_finishes finished] at reaches
        exact ⟨above, reported, ReflTransGen.mono (fun _ _ => ancestorStride_moves) _ _ reaches⟩
      · rintro ⟨next, again, reports⟩
        cases Option.some.inj (reported.symm.trans again)
        have inside : heap.Inside (heap.ancestorStride ancestor) :=
          fun _ _ moved => index_lt_of_prototypeOf (ancestorStride_moves moved)
        clear reported again first
        induction reports using ReflTransGen.head_induction_on with
        | refl => exact walk_of_finish (if_pos rfl)
        | @head current next reported _ ih =>
            by_cases met : current = ancestor
            · exact walk_of_finish (if_pos met)
            · have moved : Moves (heap.ancestorStride ancestor) current next := by
                rw [Moves, ancestorStride, if_neg met]
                exact moves_follow_iff.mpr reported
              exact walk_of_reaches inside (.single moved) ih

/-- On a chain that ends, the check has an answer for what does not stand above. -/
theorem Sound.inherits_eq_false (sound : heap.Sound law) (ends : ¬ heap.Looped id)
    (apart : ¬ TransGen heap.Reports id ancestor) : heap.inherits id ancestor = some false := by
  cases answered : heap.inherits id ancestor with
  | none => exact absurd (sound.inherits_eq_none_iff.mp answered).1 ends
  | some found =>
      cases found with
      | false => rfl
      | true => exact absurd (inherits_iff.mp answered) apart

/-- A function shows a value as its `prototype`, without running a script. -/
def ShowsPrototype (heap : Heap) (function value : Value) : Prop :=
  ∃ id callable, heap.function? function = some (id, callable) ∧
    heap.plainRead? id "prototype" = some value

/-- A value is an object strictly below the prototype object that a function shows. -/
def IsInstance (heap : Heap) (value function : Value) : Prop :=
  ∃ id prototype, value = .object id ∧ heap.ShowsPrototype function (.object prototype) ∧
    TransGen heap.Reports id prototype

/-- A function is there, and a value is no object, or no object below the prototype object of the function. -/
def IsStray (heap : Heap) (value function : Value) : Prop :=
  heap.isCallable function = true ∧
    ((∀ id, value ≠ .object id) ∨
      ∃ id prototype, value = .object id ∧ heap.ShowsPrototype function (.object prototype) ∧
        ¬ TransGen heap.Reports id prototype)

/-- There is no function, or none that shows a prototype object for an object to be below. -/
def LacksPrototype (heap : Heap) (value function : Value) : Prop :=
  heap.isCallable function = false ∨
    ∃ id shown, value = .object id ∧ heap.ShowsPrototype function shown ∧
      ∀ prototype, shown ≠ .object prototype

/-- If a value is an object, the prototypes above it come to an end. -/
def EndsAbove (heap : Heap) (value : Value) : Prop := ∀ id, value = .object id → ¬ heap.Looped id

/-- If a value is a function, it shows something as its `prototype`. -/
def TellsPrototype (heap : Heap) (function : Value) : Prop :=
  heap.isCallable function = true → ∃ shown, heap.ShowsPrototype function shown

theorem ShowsPrototype.unique {other : Value} (shows : heap.ShowsPrototype function value)
    (again : heap.ShowsPrototype function other) : value = other := by
  obtain ⟨id, callable, called, read⟩ := shows
  obtain ⟨_, _, calledAgain, readAgain⟩ := again
  cases called.symm.trans calledAgain
  exact Option.some.inj (read.symm.trans readAgain)

/-- Every value is in one of the three cases. -/
theorem TellsPrototype.cases (tells : heap.TellsPrototype function) (value : Value) :
    heap.IsInstance value function ∨ heap.IsStray value function ∨
      heap.LacksPrototype value function := by
  cases callable : heap.isCallable function with
  | false => exact .inr (.inr (.inl callable))
  | true =>
      obtain ⟨shown, shows⟩ := tells callable
      by_cases object : ∃ id, value = .object id
      · obtain ⟨id, rfl⟩ := object
        by_cases told : ∃ prototype, shown = .object prototype
        · obtain ⟨prototype, rfl⟩ := told
          by_cases above : TransGen heap.Reports id prototype
          · exact .inl ⟨id, prototype, rfl, shows, above⟩
          · exact .inr (.inl ⟨callable, .inr ⟨id, prototype, rfl, shows, above⟩⟩)
        · exact .inr (.inr (.inr ⟨id, shown, rfl, shows, not_exists.mp told⟩))
      · exact .inr (.inl ⟨callable, .inl (not_exists.mp object)⟩)

end Heap

/-! ## The answers of the guard -/

/-- A run fails with a fault of a kind, and leaves a state. -/
def Outcome.FailsAs {α : Type} (outcome : Outcome α) (kind : FaultKind) (state : State) : Prop :=
  ∃ fault, outcome = .failed (.fault fault) state ∧ fault.kind = kind

namespace Run

variable {law : Law} {state : State} {engine : Engine} {value function : Value}

/-- An object is asked whether it inherits from the prototype object that a function shows. -/
theorem instanceOf_shown {prototype : ObjectId}
    (shows : state.heap.ShowsPrototype function (.object prototype)) (id : ObjectId) :
    instanceOf (.object id) function engine state = follow (·.inherits id prototype) engine state := by
  obtain ⟨constructor, callable, called, read⟩ := shows
  obtain ⟨rfl, kind⟩ := Heap.kind_of_function? called
  exact instanceOf_plain kind read

/-- A function that shows something else has no instances. -/
theorem instanceOf_lacking {shown : Value} (shows : state.heap.ShowsPrototype function shown)
    (other : ∀ prototype, shown ≠ .object prototype) (id : ObjectId) :
    instanceOf (.object id) function engine state =
      .failed (.fault (.instanceOfNonObjectPrototype (state.heap.text shown))) state := by
  obtain ⟨constructor, callable, called, read⟩ := shows
  have got : get constructor "prototype" engine state = .done shown state := getFor_plain read
  rw [instanceOf, ask_bind, called]
  refine (bind_of_done got).trans ?_
  cases shown with
  | object prototype => exact absurd rfl (other prototype)
  | _ => rfl

theorem checkInstance_passes (instanced : state.heap.IsInstance value function) :
    checkInstance value function engine state = .done () state := by
  obtain ⟨id, prototype, rfl, shows, above⟩ := instanced
  have tested : instanceOf (.object id) function engine state = .done true state := by
    rw [instanceOf_shown shows, follow, Heap.inherits_iff.mpr above]
  rw [checkInstance, bind_of_done tested]
  rfl

theorem checkInstance_stray (sound : state.heap.Sound law) (ends : state.heap.EndsAbove value)
    (stray : state.heap.IsStray value function) :
    (checkInstance value function engine state).FailsAs .invalidInvocation state := by
  refine ⟨.classCalledAsFunction, ?_, rfl⟩
  have tested : instanceOf value function engine state = .done false state := by
    rcases stray with ⟨callable, primitive | ⟨id, prototype, rfl, shows, apart⟩⟩
    · obtain ⟨⟨id, callable⟩, called⟩ := Option.isSome_iff_exists.mp callable
      rw [instanceOf, ask_bind, called]
      cases value with
      | object id => exact absurd rfl (primitive id)
      | _ => rfl
    · rw [instanceOf_shown shows, follow, sound.inherits_eq_false (ends id rfl) apart]
  rw [checkInstance, bind_of_done tested]
  rfl

theorem checkInstance_lacking (lacks : state.heap.LacksPrototype value function) :
    (checkInstance value function engine state).FailsAs .typeError state := by
  rcases lacks with uncallable | ⟨id, shown, rfl, shows, other⟩
  · refine ⟨.instanceOfNonCallable, bind_of_failed ?_, rfl⟩
    have missing : state.heap.function? function = none :=
      Option.isNone_iff_eq_none.mp (Option.isSome_eq_false_iff.mp uncallable)
    rw [instanceOf, ask_bind, missing]
    rfl
  · exact ⟨_, bind_of_failed (instanceOf_lacking shows other id), rfl⟩

end Run

/-- What the guard does for a value and a function: each of its answers exactly where it is due, and none of
them with an effect. -/
structure State.Guards (state : State) (value function : Value) (outcome : Outcome Unit) : Prop where
  passes : outcome = .done () state ↔ state.heap.IsInstance value function
  refuses : outcome.FailsAs .invalidInvocation state ↔ state.heap.IsStray value function
  mistyped : outcome.FailsAs .typeError state ↔ state.heap.LacksPrototype value function
  answers : outcome = .done () state ∨ outcome.FailsAs .invalidInvocation state ∨
    outcome.FailsAs .typeError state

theorem Outcome.FailsAs.ne_done {α : Type} {outcome : Outcome α} {kind : FaultKind} {state : State}
    {result : α} (fails : outcome.FailsAs kind state) : outcome ≠ .done result state := by
  obtain ⟨_, rfl, _⟩ := fails
  exact nofun

theorem Outcome.FailsAs.unique {α : Type} {outcome : Outcome α} {kind other : FaultKind} {state : State}
    (fails : outcome.FailsAs kind state) (again : outcome.FailsAs other state) : kind = other := by
  obtain ⟨fault, rfl, rfl⟩ := fails
  obtain ⟨_, same, rfl⟩ := again
  cases same
  rfl

theorem State.guards {law : Law} {state : State} {value function : Value}
    (sound : state.heap.Sound law) (ends : state.heap.EndsAbove value)
    (tells : state.heap.TellsPrototype function) (engine : Engine) :
    state.Guards value function (Run.checkInstance value function engine state) := by
  have passes (instanced : state.heap.IsInstance value function) :
      Run.checkInstance value function engine state = .done () state :=
    Run.checkInstance_passes instanced
  have refuses (stray : state.heap.IsStray value function) :
      (Run.checkInstance value function engine state).FailsAs .invalidInvocation state :=
    Run.checkInstance_stray sound ends stray
  have mistyped (lacks : state.heap.LacksPrototype value function) :
      (Run.checkInstance value function engine state).FailsAs .typeError state :=
    Run.checkInstance_lacking lacks
  rcases tells.cases value with instanced | stray | lacks
  · have done := passes instanced
    exact ⟨iff_of_true done instanced,
      ⟨fun fails => absurd done fails.ne_done, refuses⟩,
      ⟨fun fails => absurd done fails.ne_done, mistyped⟩, .inl done⟩
  · have fails := refuses stray
    exact ⟨⟨fun done => absurd done fails.ne_done, passes⟩, iff_of_true fails stray,
      ⟨fun typed => (nomatch fails.unique typed), mistyped⟩, .inr (.inl fails)⟩
  · have fails := mistyped lacks
    exact ⟨⟨fun done => absurd done fails.ne_done, passes⟩,
      ⟨fun invalid => (nomatch fails.unique invalid), refuses⟩, iff_of_true fails lacks,
      .inr (.inr fails)⟩

/-! ## Calls of guarded constructors -/

/-- The step that a lowered constructor starts with. -/
def Script.guardStep : Step := .perform (.onClass .checkInstance) [.this, .callee] {}

/-- What a body does behind its guard, in the scope of the call. -/
def Frame.runBehind (frame : Frame) (rest : List Step) (scope : ScopeId) : Run Value := do
  return (← runSteps { frame := some frame, scope } rest).getD .undefined

section Frames

variable {frame : Frame} {rest : List Step} {outer : ScopeId} {engine : Engine} {state : State}

/-- Once the guard has let an instance pass, the rest of the body runs. -/
theorem Frame.run_behind (code : frame.callable.code = .script (guardStep :: rest) outer)
    (passes : Run.checkInstance frame.this (.object frame.callee) engine (state.opening (some outer)) =
      .done () (state.opening (some outer))) :
    frame.run engine state =
      frame.runBehind rest ⟨state.scopes.size⟩ engine (state.opening (some outer)) := by
  have checked : runStep { frame := some frame, scope := ⟨state.scopes.size⟩ } guardStep engine
      (state.opening (some outer)) = .done (.next (.value .undefined)) (state.opening (some outer)) :=
    runStep_perform (Run.bind_of_done passes)
  have opened : Run.openScope (some outer) engine state =
      .done ⟨state.scopes.size⟩ (state.opening (some outer)) := rfl
  rw [Frame.run, code]
  refine (Run.bind_of_done opened).trans ?_
  rw [Run.bind_apply, runSteps_cons checked]
  rfl

/-- A body whose guard refuses does nothing but open its scope. -/
theorem Frame.run_refused {kind : FaultKind}
    (code : frame.callable.code = .script (guardStep :: rest) outer)
    (refuses : (Run.checkInstance frame.this (.object frame.callee) engine
      (state.opening (some outer))).FailsAs kind (state.opening (some outer))) :
    (frame.run engine state).FailsAs kind (state.opening (some outer)) := by
  obtain ⟨fault, failed, same⟩ := refuses
  have checked : runStep { frame := some frame, scope := ⟨state.scopes.size⟩ } guardStep engine
      (state.opening (some outer)) = .failed (.fault fault) (state.opening (some outer)) :=
    runStep_perform_failed rfl (Run.bind_of_failed failed)
  have opened : Run.openScope (some outer) engine state =
      .done ⟨state.scopes.size⟩ (state.opening (some outer)) := rfl
  refine ⟨fault, ?_, same⟩
  rw [Frame.run, code]
  exact (Run.bind_of_done opened).trans (Run.bind_of_failed (runSteps_cons_failed checked))

end Frames

/-- A constructor whose body starts with the guard. -/
structure Heap.StartsGuarded (heap : Heap) (constructor : ObjectId) (callable : Callable) (rest : List Step)
    (scope : ScopeId) : Prop where
  kind : (heap.object constructor).kind = .function callable
  code : callable.code = .script (guardStep :: rest) scope

/-- What plain calls of a guarded constructor come to. Those that fail have opened a scope and done nothing
else. -/
structure State.GuardsCalls (state : State) (constructor : ObjectId) (callable : Callable)
    (rest : List Step) (scope : ScopeId) : Prop where
  primitive : ∀ this : Value, (∀ id, this ≠ .object id) → ∀ arguments depth,
    (Run.call (.object constructor) this arguments (Engine.ofDepth (depth + 1)) state).FailsAs
      .invalidInvocation (state.opening (some scope))
  unrelated : ∀ id prototype, state.heap.ShowsPrototype (.object constructor) (.object prototype) →
    ¬ state.heap.Looped id → ¬ TransGen state.heap.Reports id prototype → ∀ arguments depth,
    (Run.call (.object constructor) (.object id) arguments (Engine.ofDepth (depth + 1)) state).FailsAs
      .invalidInvocation (state.opening (some scope))
  lost : ∀ id shown, state.heap.ShowsPrototype (.object constructor) shown →
    (∀ prototype, shown ≠ .object prototype) → ∀ arguments depth,
    (Run.call (.object constructor) (.object id) arguments (Engine.ofDepth (depth + 1)) state).FailsAs
      .typeError (state.opening (some scope))
  instanced : ∀ this, state.heap.IsInstance this (.object constructor) → ∀ arguments depth,
    Run.call (.object constructor) this arguments (Engine.ofDepth (depth + 1)) state =
      Frame.runBehind { callee := constructor, callable, this, arguments } rest ⟨state.scopes.size⟩
        (Engine.ofDepth depth) (state.opening (some scope))

/-- A call on an instance runs what is behind the guard. -/
theorem Heap.StartsGuarded.call_instanced {state : State} {constructor : ObjectId} {callable : Callable}
    {rest : List Step} {scope : ScopeId}
    (guarded : state.heap.StartsGuarded constructor callable rest scope) {this : Value}
    (instanced : state.heap.IsInstance this (.object constructor)) (arguments : List Value) (depth : Nat) :
    Run.call (.object constructor) this arguments (Engine.ofDepth (depth + 1)) state =
      Frame.runBehind { callee := constructor, callable, this, arguments } rest ⟨state.scopes.size⟩
        (Engine.ofDepth depth) (state.opening (some scope)) := by
  rw [Run.call_function guarded.kind]
  exact Frame.run_behind guarded.code (Run.checkInstance_passes instanced)

theorem Heap.StartsGuarded.guardsCalls {law : Law} {state : State} {constructor : ObjectId}
    {callable : Callable} {rest : List Step} {scope : ScopeId} (sound : state.heap.Sound law)
    (guarded : state.heap.StartsGuarded constructor callable rest scope) :
    state.GuardsCalls constructor callable rest scope := by
  have called : state.heap.isCallable (.object constructor) = true := by
    rw [Heap.isCallable, Heap.function?_of_kind guarded.kind]
    rfl
  have refused {kind : FaultKind} {this : Value} (arguments : List Value) (depth : Nat)
      (refuses : (Run.checkInstance this (.object constructor) (Engine.ofDepth depth)
        (state.opening (some scope))).FailsAs kind (state.opening (some scope))) :
      (Run.call (.object constructor) this arguments (Engine.ofDepth (depth + 1)) state).FailsAs kind
        (state.opening (some scope)) := by
    rw [Run.call_function guarded.kind]
    exact Frame.run_refused guarded.code refuses
  constructor
  · intro this primitive arguments depth
    exact refused arguments depth (Run.checkInstance_stray sound
      (fun id same => absurd same (primitive id)) ⟨called, .inl primitive⟩)
  · intro id prototype shows ends apart arguments depth
    refine refused arguments depth (Run.checkInstance_stray sound ?_
      ⟨called, .inr ⟨id, prototype, rfl, shows, apart⟩⟩)
    rintro _ ⟨⟩
    exact ends
  · intro id shown shows other arguments depth
    exact refused arguments depth (Run.checkInstance_lacking (.inr ⟨id, shown, rfl, shows, other⟩))
  · exact fun this instanced => guarded.call_instanced instanced

/-! ## Chains of classes -/

namespace Heap

variable {law : Law} {heap larger : Heap} {this derived base : ObjectId}

/-- A class is linked to a base: its constructor to that of the base, and its prototype object to that of the
base. -/
structure DerivesFrom (heap : Heap) (derived base : ObjectId) : Prop where
  constructors : heap.Links derived base
  prototypes : ∃ below above, heap.ShowsPrototype (.object derived) (.object below) ∧
    heap.ShowsPrototype (.object base) (.object above) ∧ heap.Reports below above

/-- An instance of a class is one of its base. -/
theorem IsInstance.of_derives (instanced : heap.IsInstance (.object this) (.object derived))
    (derives : heap.DerivesFrom derived base) : heap.IsInstance (.object this) (.object base) := by
  obtain ⟨id, prototype, same, shows, reports⟩ := instanced
  obtain ⟨below, above, showsBelow, showsAbove, reported⟩ := derives.prototypes
  cases shows.unique showsBelow
  exact ⟨id, above, same, showsAbove, reports.tail reported⟩

/-- So it is one of every class further up. -/
theorem IsInstance.of_chain (instanced : heap.IsInstance (.object this) (.object derived))
    (chain : ReflTransGen heap.DerivesFrom derived base) :
    heap.IsInstance (.object this) (.object base) := by
  induction chain with
  | refl => exact instanced
  | tail _ derives ih => exact ih.of_derives derives

theorem ShowsPrototype.extends {function value : Value} (sound : heap.Sound law)
    (shows : heap.ShowsPrototype function value) (grown : heap.Extends larger) :
    larger.ShowsPrototype function value := by
  obtain ⟨id, callable, called, read⟩ := shows
  obtain ⟨rfl, kind⟩ := kind_of_function? called
  have present := index_lt_of_kind kind nofun
  have kept := grown.keeps "prototype"
  refine ⟨id, callable, ?_, (kept.plainRead?_eq sound present).trans read⟩
  exact function?_of_kind ((kept.kind_eq id present).trans kind)

theorem IsInstance.extends {value function : Value} (sound : heap.Sound law)
    (instanced : heap.IsInstance value function) (grown : heap.Extends larger) :
    larger.IsInstance value function := by
  obtain ⟨id, prototype, rfl, shows, above⟩ := instanced
  have inherits := inherits_iff.mpr above
  refine ⟨id, prototype, rfl, shows.extends sound grown, inherits_iff.mp ?_⟩
  exact ((grown.keeps "prototype").inherits_eq sound (index_lt_of_inherits inherits) prototype).trans
    inherits

theorem StartsGuarded.extends {callable : Callable} {rest : List Step} {scope : ScopeId}
    (guarded : heap.StartsGuarded base callable rest scope) (grown : heap.Extends larger) :
    larger.StartsGuarded base callable rest scope := by
  have present := index_lt_of_kind guarded.kind nofun
  exact ⟨(congrArg Object.kind (grown.object_eq base present)).trans guarded.kind, guarded.code⟩

end Heap

/-- On a host that does not construct natively, a super call of a class on an instance of this or of a class
below calls the base, whose guard lets the instance pass. -/
theorem Run.superCall_behind {law : Law} {profile : Profile} {state : State} {this derived base : ObjectId}
    {callable : Callable} {rest : List Step} {scope : ScopeId} (sound : state.heap.Sound law)
    (links : profile.Links) (untouched : state.Untouched profile)
    (imitates : profile.constructsNatively = false)
    (clears : state.heap.Clears "__proto__" derived Intrinsic.objectPrototype.id)
    (instanced : state.heap.IsInstance (.object this) (.object derived))
    (derives : state.heap.DerivesFrom derived base)
    (guarded : state.heap.StartsGuarded base callable rest scope) (arguments : List Value) (depth : Nat) :
    ∃ asked, state.Adds profile asked ∧
      superCall (.object derived) (.object this) arguments (Engine.ofDepth (depth + 2)) state =
        (do
          let frame : Frame := { callee := base, callable, this := .object this, arguments }
          return resultOr this (← frame.runBehind rest ⟨asked.scopes.size⟩))
          (Engine.ofDepth (depth + 1)) (asked.opening (some scope)) := by
  have told : state.ShowsLink profile derived := ⟨untouched.showsLinks, clears⟩
  have finding : state.Adds profile (state.knowingLinks profile) := .knowingLinks state
  obtain ⟨asked, added, answered⟩ := hasNativeConstruct_apply (untouched.adds finding) depth
  have whole := finding.trans added
  have calls := (guarded.extends whole.heap).call_instanced
    ((instanced.of_derives derives).extends sound whole.heap) arguments (depth + 1)
  have linked : state.storedLink derived = .object base := congrArg Value.ofObject? derives.constructors
  refine ⟨asked, whole, ?_⟩
  rw [superCall_eq links told, linked]
  refine adapted_congr ?_
  rw [imitates] at answered
  rw [runBase, bind_of_done answered]
  exact calls

/-- In every state of a session: the guard lets exactly the objects pass that stand below the prototype object
which the class has now, and refuses the others without effect. So a plain call of a class that starts with the
guard fails before anything happens, unless it is on an instance. An instance of a class is one of all classes
that this derives from, and where a super call falls back to a plain call of the base, the base runs. -/
theorem guard_passes_instances (profile : Profile) (marked : List Helper) {law : Law}
    {before state : State} (reached : (Session.prepared profile marked).Reaches law before)
    (during : before.Becomes law state) :
    (∀ engine value function, state.heap.EndsAbove value → state.heap.TellsPrototype function →
      state.Guards value function (Run.checkInstance value function engine state)) ∧
    (∀ constructor callable rest scope, state.heap.StartsGuarded constructor callable rest scope →
      state.GuardsCalls constructor callable rest scope) ∧
    (∀ this first derived base callable rest scope,
      state.heap.IsInstance (.object this) (.object first) →
      ReflTransGen state.heap.DerivesFrom first derived → state.heap.DerivesFrom derived base →
      state.heap.StartsGuarded base callable rest scope →
      (∀ engine, Run.checkInstance (.object this) (.object base) engine state = .done () state) ∧
      (profile.Links → state.Untouched profile → profile.constructsNatively = false →
        state.heap.Clears "__proto__" derived Intrinsic.objectPrototype.id → ∀ arguments depth,
        ∃ asked, state.Adds profile asked ∧
          Run.superCall (.object derived) (.object this) arguments (Engine.ofDepth (depth + 2)) state =
            (do
              let frame : Frame := { callee := base, callable, this := .object this, arguments }
              return Run.resultOr this (← frame.runBehind rest ⟨asked.scopes.size⟩))
              (Engine.ofDepth (depth + 1)) (asked.opening (some scope)))) := by
  have sound : state.heap.Sound law := (Session.sound_of_reaches reached during).heap
  refine ⟨fun engine value function ends tells => State.guards sound ends tells engine,
    fun constructor callable rest scope guarded => guarded.guardsCalls sound, ?_⟩
  intro this first derived base callable rest scope lowest chain derives guarded
  have instanced := lowest.of_chain chain
  refine ⟨fun engine => Run.checkInstance_passes (instanced.of_derives derives), ?_⟩
  intro links untouched imitates clears arguments depth
  exact Run.superCall_behind sound links untouched imitates clears instanced derives guarded arguments depth

/-- A constructor that returns its instance behind the guard. -/
def guardedFunction : Callable :=
  { name := "C", kind := .normal, code := .script [guardStep, .leave [.this] {}] ⟨0⟩ }

/-- A class with this constructor, by its links. -/
def Object.guardedClass (link prototype : ObjectId) : Object where
  prototype := some link
  kind := .function guardedFunction
  properties := Table.empty.insert "prototype" { slot := .data (.object prototype) }

section GuardedClass

variable {law : Law} {size : Nat} {heap : Heap} {constructor link prototype : ObjectId}

theorem Object.within_guardedClass (linked : Within law size link) (shown : Within law size prototype) :
    Within law size (Object.guardedClass link prototype) := by
  refine Build.within_object (Table.within_insert Table.within_empty shown) linked ?_ fun _ => rfl
  refine ⟨?_, Bounded.within_nil⟩
  simp [guardedFunction, guardStep]

variable (made : heap.object constructor = .guardedClass link prototype)
include made

theorem Heap.startsGuarded_made :
    heap.StartsGuarded constructor guardedFunction [.leave [.this] {}] ⟨0⟩ :=
  ⟨congrArg Object.kind made, rfl⟩

theorem Heap.showsPrototype_made : heap.ShowsPrototype (.object constructor) (.object prototype) := by
  have kind := (startsGuarded_made made).kind
  have held : (heap.object constructor).property? "prototype" =
      some { slot := .data (.object prototype) } := by
    rw [made]
    exact Table.get?_insert_self ..
  exact ⟨constructor, guardedFunction, function?_of_kind kind,
    plainRead?_own (proxy?_of_function kind) held rfl⟩

theorem Heap.passes_made : heap.Passes "__proto__" constructor link := by
  refine ⟨proxy?_of_function (startsGuarded_made made).kind, ?_, congrArg Object.prototype made⟩
  rw [made]
  exact (Table.get?_insert_ne _ _ (by decide)).trans (Table.get?_empty _)

end GuardedClass

theorem Heap.reports_inheriting {heap : Heap} {id prototype : ObjectId}
    (made : heap.object id = .inheriting (some prototype)) : heap.Reports id prototype :=
  (prototypeOf_of_ordinary (congrArg Object.proxy? made)).trans (congrArg Object.prototype made)

/-- On an ES5 host, a base class does not run without an instance, and it runs when it is called for an instance
of the class below. -/
theorem base_runs_for_instance_below :
    let profile := Preset.es5.profile
    let start := Session.prepared profile []
    let above := start.heap.next
    let first := start.making (.inheriting (some Intrinsic.objectPrototype.id))
    let base := first.heap.next
    let second := first.making (.guardedClass Intrinsic.functionPrototype.id above)
    let below := second.heap.next
    let third := second.making (.inheriting (some above))
    let derived := third.heap.next
    let fourth := third.making (.guardedClass base below)
    let this := fourth.heap.next
    let state := fourth.making (.inheriting (some below))
    start.Reaches .host start ∧ start.Becomes .host state ∧
      (Run.call (.object base) .undefined [] (Engine.ofDepth 1) state).FailsAs .invalidInvocation
        (state.opening (some ⟨0⟩)) ∧
      ∃ asked, state.Adds profile asked ∧
        Run.superCall (.object derived) (.object this) [] (Engine.ofDepth 2) state =
          .done (.object this) (asked.opening (some ⟨0⟩)) := by
  intro profile start above first base second below third derived fourth this state
  have sound : start.Sound .host := Session.prepared_sound .host profile []
  have reached : start.Reaches .host start := .refl
  have grow (state : State) {object : Object} (within : Within .host state.heap.size object)
      (ordinary : object.proxy? = none) : state.Becomes .host (state.making object) :=
    .single (.heap (.grow ((Heap.GrowsTo.refl .host state.heap).allocate within (absurd ordinary))))
  have added (state : State) (object : Object) : state.Adds profile (state.making object) := .making ..
  have there (state : State) (object : Object) :
      Within .host (state.making object).heap.size state.heap.next := Heap.next_index_lt ..
  have inheriting {size : Nat} {id : ObjectId} (present : Within .host size id) :
      Within .host size (Object.inheriting (some id)) :=
    Build.within_object Table.within_empty present trivial fun _ => rfl
  have later (state : State) (object : Object) {id : ObjectId} (present : Within .host state.heap.size id) :
      Within .host (state.making object).heap.size id := present.mono (added state object).heap.size_le
  have aboveThere : Within .host first.heap.size above := there start _
  have baseThere : Within .host second.heap.size base := there first _
  have belowThere : Within .host third.heap.size below := there second _
  have derivedThere : Within .host fourth.heap.size derived := there third _
  have during : start.Becomes .host state := by
    have one := grow start (inheriting (sound.heap.intrinsic .objectPrototype)) rfl
    have two := grow first
      (Object.within_guardedClass (later start _ (sound.heap.intrinsic .functionPrototype)) aboveThere) rfl
    have three := grow second (inheriting (later first _ aboveThere)) rfl
    have four := grow third (Object.within_guardedClass (later second _ baseThere) belowThere) rfl
    have five := grow fourth (inheriting (later third _ belowThere)) rfl
    exact (((one.trans two).trans three).trans four).trans five
  have made (state : State) (object : Object) :
      (state.making object).heap.object state.heap.next = object := Heap.object_allocate_next ..
  have kept (state : State) (object : Object) {id : ObjectId} (present : Within .host state.heap.size id) :
      (state.making object).heap.object id = state.heap.object id :=
    (added state object).heap.object_eq id present
  have baseMade : state.heap.object base = .guardedClass Intrinsic.functionPrototype.id above := by
    rw [kept fourth _ (later third _ (later second _ baseThere)),
      kept third _ (later second _ baseThere), kept second _ baseThere]
    exact made first _
  have belowMade : state.heap.object below = .inheriting (some above) := by
    rw [kept fourth _ (later third _ belowThere), kept third _ belowThere]
    exact made second _
  have derivedMade : state.heap.object derived = .guardedClass base below := by
    rw [kept fourth _ derivedThere]
    exact made third _
  have thisMade : state.heap.object this = .inheriting (some below) := made fourth _
  have untouched : state.Untouched profile := (Session.start_untouched profile).adds
    (((((added start _).trans (added first _)).trans (added second _)).trans (added third _)).trans
      (added fourth _))
  have links : profile.Links := ⟨Bool.noConfusion, .inr rfl⟩
  have clears : state.heap.Clears "__proto__" derived Intrinsic.objectPrototype.id :=
    .head (Heap.passes_made derivedMade)
      (.head (Heap.passes_made baseMade) (.single untouched.heap.offers.functionPrototype_passes))
  have instanced : state.heap.IsInstance (.object this) (.object derived) :=
    ⟨this, below, rfl, Heap.showsPrototype_made derivedMade, .single (Heap.reports_inheriting thisMade)⟩
  have derives : state.heap.DerivesFrom derived base :=
    ⟨congrArg Object.prototype derivedMade, below, above, Heap.showsPrototype_made derivedMade,
      Heap.showsPrototype_made baseMade, Heap.reports_inheriting belowMade⟩
  have starts := Heap.startsGuarded_made baseMade
  obtain ⟨_, calls, falls⟩ := guard_passes_instances profile [] reached during
  obtain ⟨_, fallsBack⟩ := falls this derived derived base _ _ _ instanced .refl derives starts
  obtain ⟨asked, adds, ran⟩ := fallsBack links untouched rfl clears [] 0
  exact ⟨reached, during, (calls base _ _ _ starts).primitive .undefined nofun [] 0, asked, adds, ran⟩

end ClassLowering
