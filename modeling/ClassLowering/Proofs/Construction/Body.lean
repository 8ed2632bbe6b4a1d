import ClassLowering.Proofs.Construction.SuperCall

/-!
# Bodies of lowered constructors

The body of a constructor lets every blank instance of the most derived class pass. It runs through if the
step for its instance gives it an object that takes what the class writes, and returns that object. What
the class writes comes after what its base wrote.
-/

namespace ClassLowering

open Script

variable {profile : Profile} {root : Root} {classes : List MadeClass} {state : State} {engine : Engine}
variable {seed : Object} {made : MadeClass} {instanceStep : Step} {this result : ObjectId}
variable {arguments : List Value} {newTarget : Option ObjectId} {scope : ScopeId}

/-- Where the body of a constructor runs. -/
@[reducible] def MadeClass.context (made : MadeClass) (instanceStep : Step) (this : ObjectId)
    (arguments : List Value) (newTarget : Option ObjectId) (scope : ScopeId) : Context :=
  { frame := some (made.frame instanceStep this arguments newTarget), scope }

/-- A constructor runs its body in a new scope, inside that of its class. -/
theorem MadeClass.run_frame (made : MadeClass) (instanceStep : Step) (this : ObjectId)
    (arguments : List Value) (newTarget : Option ObjectId) (engine : Engine) (state : State) :
    (made.frame instanceStep this arguments newTarget).run engine state =
      (do
        let result ← runSteps
          (made.context instanceStep this arguments newTarget ⟨state.scopes.size⟩)
          (made.outline.body instanceStep)
        return result.getD .undefined) engine (state.opening (some made.scope)) := rfl

/-! ## Guards -/

/-- The guard of a constructor lets an object pass. -/
def Heap.LetsPass (heap : Heap) (constructor this : ObjectId) : Prop :=
  ∀ engine (state : State), state.heap = heap →
    Run.checkInstance (.object this) (.object constructor) engine state = .done () state

section Guard

variable {constructor prototype : ObjectId} {callable : Callable}

/-- Whether something is an instance of a constructor is told by what it inherits from. -/
theorem Run.instanceOf_plain (kind : (state.heap.object constructor).kind = .function callable)
    (reads : state.heap.plainRead? constructor "prototype" = some (.object prototype)) :
    instanceOf (.object this) (.object constructor) engine state =
      follow (·.inherits this prototype) engine state := by
  have read : get constructor "prototype" engine state = .done (.object prototype) state :=
    getFor_plain reads
  rw [instanceOf, ask_bind, Heap.function?_of_kind kind]
  dsimp only
  rw [bind_of_done read]

/-- What inherits from the prototype object of a constructor is an instance of it. -/
theorem Run.instanceOf_apply (kind : (state.heap.object constructor).kind = .function callable)
    (instances : state.heap.Holds constructor "prototype" (.object prototype))
    (inherits : state.heap.inherits this prototype = some true) :
    instanceOf (.object this) (.object constructor) engine state = .done true state := by
  rw [instanceOf_plain kind (instances.plainRead? (Heap.proxy?_of_function kind)), follow, inherits]

/-- The guard lets those pass that inherit from the prototype object of a function, as a plain read gives it. -/
theorem Heap.letsPass_iff : state.heap.LetsPass constructor this ↔
    ∃ callable prototype, (state.heap.object constructor).kind = .function callable ∧
      state.heap.plainRead? constructor "prototype" = some (.object prototype) ∧
      state.heap.inherits this prototype = some true := by
  constructor
  · intro passes
    obtain ⟨truth, middle, tested, rest⟩ := Run.done_of_bind (passes (Engine.ofDepth 0) state rfl)
    have positive : truth = true := by
      cases truth with
      | true => rfl
      | false => cases rest
    rw [Run.instanceOf, Run.ask_bind] at tested
    cases called : state.heap.function? (.object constructor) with
    | none =>
        rw [called] at tested
        cases tested
    | some function =>
        obtain ⟨same, kind⟩ := kind_of_function? called
        cases same
        rw [called] at tested
        obtain ⟨value, _, read, followed⟩ := Run.done_of_bind tested
        have reads := Run.plainRead?_of_getFor read
        cases (Run.getFor_plain reads).symm.trans read
        cases value with
        | object prototype =>
            have inherits := Run.walk_of_follow followed
            exact ⟨_, prototype, kind, reads, positive ▸ inherits⟩
        | _ => cases followed
  · rintro ⟨callable, prototype, kind, reads, inherits⟩ engine other same
    rw [← same] at kind reads inherits
    have tested : Run.instanceOf (.object this) (.object constructor) engine other =
        .done true other := by
      rw [Run.instanceOf_plain kind reads, Run.follow, inherits]
    rw [Run.checkInstance, Run.bind_of_done tested]
    rfl

/-- The guard lets instances pass. -/
theorem Heap.letsPass (kind : (state.heap.object constructor).kind = .function callable)
    (instances : state.heap.Holds constructor "prototype" (.object prototype))
    (inherits : state.heap.inherits this prototype = some true) :
    state.heap.LetsPass constructor this :=
  letsPass_iff.mpr
    ⟨callable, prototype, kind, instances.plainRead? (proxy?_of_function kind), inherits⟩

end Guard

/-- The guards of all classes of a lineage let blank instances of the most derived one pass. -/
theorem State.Lineage.letsPass (lineage : state.Lineage root classes)
    (fresh : Fresh profile (root.aboveFor classes) state this) (member : made ∈ classes) :
    state.heap.LetsPass made.constructor this := by
  obtain ⟨_, _, _, stands⟩ := lineage.stands member
  have passes := fresh.blank.passes "__proto__"
  exact Heap.letsPass stands.kind stands.instances
    (lineage.inherits_eq member passes.ordinary passes.links)

/-! ## Steps of a body -/

namespace LoweredClass

variable {context : Context} {frame : Frame} {prototype : ObjectId}

/-- The operands of a write. -/
theorem evaluateAll_write (called : context.frame = some frame)
    (binds : state.Binds context.scope "_this" (.object result)) (key : PropertyKey) (datum : Datum) :
    Operand.evaluateAll context state [.named "_this", .value key.toValue, datum.operand] =
      [.object result, key.toValue, datum.value frame.arguments] := by
  obtain ⟨_, scope⟩ := context
  cases called
  rw [← State.readVariable_of_binds binds]
  cases datum <;> rfl

theorem runStep_write {key : PropertyKey} (datum : Datum) (called : context.frame = some frame)
    (binds : state.Binds context.scope "_this" (.object result))
    (takes : state.heap.Takes result key) :
    runStep context (writeStep (key, datum)) engine state =
      .done (.next (.value (.boolean true)))
        { state with
          heap := state.heap.setValue (state.heap.resolve result) key (datum.value frame.arguments) } := by
  have written : Run.set result key (datum.value frame.arguments) engine state = _ :=
    Run.set_taken takes _
  refine runStep_perform ?_
  rw [evaluateAll_write called binds]
  change (Run.ask (·.key key.toValue) >>= fun key =>
    Run.set result key (datum.value frame.arguments) >>= fun answer => pure (Reply.truth answer))
      engine state = _
  rw [Run.ask_bind, Heap.key_toValue, Run.bind_of_done written]
  rfl

/-- The instance of a variable gets what a class writes, entry by entry. -/
theorem runSteps_writes (engine : Engine) (entries : List (PropertyKey × Datum)) (rest : List Step)
    (called : context.frame = some frame)
    (binds : state.Binds context.scope "_this" (.object result))
    (takes : state.heap.TakesEach result
      (entries.map fun entry => (entry.1, entry.2.value frame.arguments))) :
    runSteps context (entries.map writeStep ++ rest) engine state =
      runSteps context rest engine
        { state with
          heap := state.heap.written (state.heap.resolve result)
            (entries.map fun entry => (entry.1, entry.2.value frame.arguments)) } := by
  induction entries generalizing state with
  | nil => rfl
  | cons entry others ih =>
      obtain ⟨key, datum⟩ := entry
      obtain ⟨here, later⟩ := takes
      have ran : runStep context (writeStep (key, datum)) engine state = _ :=
        runStep_write datum called binds here
      let next : State :=
        { state with
          heap := state.heap.setValue (state.heap.resolve result) key (datum.value frame.arguments) }
      refine (runSteps_cons ran).trans ((@ih next binds later).trans ?_)
      rw [Heap.resolve_setValue here.present]
      rfl

theorem runStep_check {newTarget : Option ObjectId}
    (passes : state.heap.LetsPass made.constructor this) :
    runStep (made.context instanceStep this arguments newTarget scope)
        (.perform (.onClass .checkInstance) [.this, .callee] {}) engine state =
      .done (.next (.value .undefined)) state :=
  runStep_perform (Run.bind_of_done (passes engine state rfl))

/-- The arguments are logged if the class asks for it. -/
theorem runSteps_log (outline : LoweredClass) {rest : List Step}
    (called : context.frame = some frame) :
    runSteps context ((if outline.logs then [.perform .log [.spread] {}] else []) ++ rest) engine
        state =
      runSteps context rest engine (state.noting (outline.notes frame.arguments)) := by
  obtain ⟨_, scope⟩ := context
  cases called
  rw [LoweredClass.notes]
  split
  · let logged := state.noting [.logged frame.arguments]
    have ran : runStep { frame := some frame, scope } (.perform .log [.spread] {}) engine state =
        .done (.next (.value .undefined)) logged := by
      refine runStep_perform ?_
      rw [Operand.evaluateAll, List.flatMap_cons, List.flatMap_nil, List.append_nil]
      rfl
    exact runSteps_cons ran
  · rfl

/-- The constructor returns the instance of its variable. -/
theorem runSteps_return (binds : state.Binds context.scope "_this" (.object result)) :
    runSteps context returnSteps engine state =
      .done (some (.object result)) (state.assign context.scope "_result" (.object result)) := by
  have returned : runStep context
      (.perform (.onClass .constructorReturn) [.this, .named "_this"] { result := some "_result" })
      engine state =
        .done (.next (.value (.object result)))
          (state.assign context.scope "_result" (.object result)) := by
    refine runStep_perform ?_
    have named : Operand.evaluateAll context state [.this, .named "_this"] =
        [Operand.this.evaluate context state, .object result] := by
      rw [← State.readVariable_of_binds binds]
      rfl
    rw [named]
    rfl
  rw [returnSteps, runSteps_cons returned, runSteps_leave,
    State.readVariable_of_binds (State.binds_assign binds.index_lt)]

end LoweredClass

/-- The state in which a body ends once it was given its instance: this was written on. -/
def State.concluding (state : State) (scope : ScopeId) (result : ObjectId)
    (entries : List (PropertyKey × Value)) : State :=
  { state.assign scope "_this" (.object result) with
    heap := state.heap.written (state.heap.resolve result) entries }.assign
      scope "_result" (.object result)

/-- Once its instance is there, a body writes what the class writes and returns the instance. -/
theorem LoweredClass.runSteps_ending {frame : Frame} (engine : Engine) (outline : LoweredClass)
    (context : Context) (called : context.frame = some frame)
    (there : context.scope.index < state.scopes.size)
    (takes : state.heap.TakesEach result (outline.entries frame.arguments)) :
    runSteps context (outline.writes.map writeStep ++ returnSteps) engine
        (state.assign context.scope "_this" (.object result)) =
      .done (some (.object result))
        (state.concluding context.scope result (outline.entries frame.arguments)) := by
  have binds : (state.assign context.scope "_this" (.object result)).Binds context.scope "_this"
      (.object result) := State.binds_assign there
  exact (runSteps_writes engine outline.writes returnSteps called binds takes).trans
    (runSteps_return binds)

/-- The step of a constructor for its instance assigns one that is initialized. -/
def Gives (profile : Profile) (root : Root) (classes : List MadeClass) (seed : Object)
    (made : MadeClass) (instanceStep : Step) (arguments : List Value) (notes : List JournalEntry)
    (entries : List (PropertyKey × Value)) (engine : Engine) : Prop :=
  ∀ state this newTarget scope, Ready profile root classes state →
    Fresh profile (root.aboveFor classes) state this →
    state.scope scope = { parent := some made.scope } →
    ∃ result after,
      runStep (made.context instanceStep this arguments newTarget scope) instanceStep engine state =
          .done (.next (.value (.object result))) (after.assign scope "_this" (.object result)) ∧
        Initialized profile seed notes entries state this result after

section Run

variable (passes : state.heap.LetsPass made.constructor this)
include passes

/-- Before the step for its instance, a body lets the instance pass and logs the arguments. -/
theorem body_begins (engine : Engine) (instanceStep : Step) (arguments : List Value)
    (newTarget : Option ObjectId) (scope : ScopeId) (outer : Option ScopeId) :
    let context := made.context instanceStep this arguments newTarget scope
    runSteps context (made.outline.body instanceStep) engine (state.opening outer) =
      runSteps context
        (instanceStep :: (made.outline.writes.map LoweredClass.writeStep ++ LoweredClass.returnSteps))
        engine ((state.opening outer).noting (made.outline.notes arguments)) := by
  intro context
  have checked : runStep context (.perform (.onClass .checkInstance) [.this, .callee] {}) engine
      (state.opening outer) = .done (.next (.value .undefined)) (state.opening outer) :=
    LoweredClass.runStep_check passes
  rw [LoweredClass.body, runSteps_cons checked, LoweredClass.runSteps_log made.outline rfl]

/-- A body fails with its step for the instance. -/
theorem body_fails {engine : Engine} {failure : Failure} {after : State}
    (failed : runStep (made.context instanceStep this arguments newTarget ⟨state.scopes.size⟩)
      instanceStep engine
      ((state.opening (some made.scope)).noting (made.outline.notes arguments)) =
        .failed failure after) :
    (made.frame instanceStep this arguments newTarget).run engine state = .failed failure after := by
  rw [MadeClass.run_frame]
  refine Run.bind_of_failed ?_
  rw [body_begins passes]
  exact runSteps_cons_failed failed

/-- A body ends with what its step for the instance gives, if this takes what the class writes. -/
theorem body_ends {engine : Engine} {given : State}
    (gave : runStep (made.context instanceStep this arguments newTarget ⟨state.scopes.size⟩)
      instanceStep engine
      ((state.opening (some made.scope)).noting (made.outline.notes arguments)) =
        .done (.next (.value (.object result)))
          (given.assign ⟨state.scopes.size⟩ "_this" (.object result)))
    (there : state.scopes.size < given.scopes.size)
    (takes : given.heap.TakesEach result (made.outline.entries arguments)) :
    (made.frame instanceStep this arguments newTarget).run engine state =
      .done (.object result)
        (given.concluding ⟨state.scopes.size⟩ result (made.outline.entries arguments)) := by
  let context := made.context instanceStep this arguments newTarget ⟨state.scopes.size⟩
  have ran : runSteps context (made.outline.body instanceStep) engine
      (state.opening (some made.scope)) = .done (some (.object result))
        (given.concluding ⟨state.scopes.size⟩ result (made.outline.entries arguments)) := by
    rw [body_begins passes, runSteps_cons gave]
    exact LoweredClass.runSteps_ending engine made.outline context rfl there takes
  rw [MadeClass.run_frame]
  exact Run.bind_of_done ran

end Run

/-- A body runs through if its step for the instance does what it should. -/
theorem body_initializes {engine : Engine} {notes : List JournalEntry}
    {entries : List (PropertyKey × Value)} (seeds : seed.Instance (root.aboveFor classes))
    (member : made ∈ classes)
    (gives : Gives profile root classes seed made instanceStep arguments notes entries engine)
    (ready : Ready profile root classes state)
    (fresh : Fresh profile (root.aboveFor classes) state this) :
    ∃ result after,
      (made.frame instanceStep this arguments newTarget).run engine state =
          .done (.object result) after ∧
        Initialized profile seed (notes ++ made.outline.notes arguments)
          (entries ++ made.outline.entries arguments) state this result after := by
  let scope : ScopeId := ⟨state.scopes.size⟩
  let logged := (state.opening (some made.scope)).noting (made.outline.notes arguments)
  have evolved : state.Evolves profile this (made.outline.notes arguments) logged := .beginning ..
  have scope_eq : logged.scope scope = { parent := some made.scope } :=
    State.scope_push_self state _
  -- Its step for the instance assigns an initialized one.
  have readied := ready.evolves evolved fresh.inert
  obtain ⟨result, given, gave, initialized⟩ := gives logged this newTarget scope readied
    ⟨fresh.outside, fresh.blank⟩ scope_eq
  have reached := evolved.trans initialized.evolved
  have instanceMade : (given.heap.object result).Instance (root.aboveFor classes) := by
    rw [initialized.object_eq]
    exact seeds.written entries
  have takes : given.heap.TakesEach result (made.outline.entries arguments) := by
    have still := ready.evolves reached fresh.inert
    refine Heap.TakesAlways.each fun entry listed => ?_
    obtain ⟨write, member_writes, rfl⟩ := List.mem_map.mp listed
    exact Heap.takesAlways_instance instanceMade
      (still.lineage.assignment_eq (still.allows made member write member_writes))
  have there : state.scopes.size < given.scopes.size := by
    refine Nat.lt_of_lt_of_le ?_ initialized.evolved.scopes_le
    simp [logged, State.noting, State.opening]
  have place : result = this ∨ state.heap.size ≤ result.index := initialized.place
  -- The instance stands for itself, and is all that the class writes on.
  have itself : given.heap.resolve result = result := Heap.resolve_of_ordinary instanceMade.ordinary
  have written := Heap.extendsBut_written given.heap result (made.outline.entries arguments)
  refine ⟨result, _, body_ends (ready.lineage.letsPass fresh member) gave there takes, ?_, place, ?_⟩
  · have old : state.scopes.size ≤ scope.index := Nat.le_refl _
    have assigned := reached.assign old "_this" (.object result)
    rw [State.concluding, itself]
    exact (assigned.trans_place (.of_heap written) place).assign (Nat.le_refl _) _ _
  · rw [State.concluding, itself, Object.written_append, ← initialized.object_eq]
    exact Heap.object_written_self (Heap.index_lt_of_prototype instanceMade.link)

end ClassLowering
