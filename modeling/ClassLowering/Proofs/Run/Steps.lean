import ClassLowering.Proofs.Run.Evolution
import ClassLowering.Script.Step

/-!
# Steps that succeed

Bodies run step by step. A step that succeeds with a value assigns the variable for its result; variables
of a scope are read there before they are looked for further out.
-/

namespace ClassLowering

namespace State

variable {state : State} {id outer : ScopeId} {name : String} {value : Value}

theorem scope_push_self (state : State) (scope : Scope) :
    { state with scopes := state.scopes.push scope }.scope ⟨state.scopes.size⟩ = scope := by
  simp [State.scope]

theorem scope_push_of_lt (state : State) (scope : Scope) (present : id.index < state.scopes.size) :
    { state with scopes := state.scopes.push scope }.scope id = state.scope id := by
  simp [State.scope, Array.getElem?_push_lt present, present]

theorem scope_assign_self (present : id.index < state.scopes.size) :
    (state.assign id name value).scope id =
      { state.scope id with
        bindings := (name, value) :: (state.scope id).bindings.filter fun entry => entry.1 != name } := by
  simp [State.scope, assign, Array.getElem_modify, present]

theorem scope_assign_ne {other : ScopeId} (differs : other.index ≠ id.index) :
    (state.assign id name value).scope other = state.scope other := by
  simp [State.scope, assign, Array.getElem?_modify, differs.symm]

/-- A scope has a value for a name. -/
def Binds (state : State) (id : ScopeId) (name : String) (value : Value) : Prop :=
  (state.scope id).bindings.lookup name = some value

theorem Binds.index_lt (binds : state.Binds id name value) : id.index < state.scopes.size := by
  by_contra absent
  rw [Binds, State.scope, Array.getElem?_eq_none (Nat.le_of_not_lt absent)] at binds
  cases binds

theorem Binds.congr {other : State} (binds : state.Binds id name value)
    (same : other.scope id = state.scope id) : other.Binds id name value := by
  rwa [Binds, same]

theorem readVariable_of_binds (binds : state.Binds id name value) :
    state.readVariable id name = value := by
  rw [readVariable, readFor, binds]

theorem binds_assign (present : id.index < state.scopes.size) :
    (state.assign id name value).Binds id name value := by
  rw [Binds, scope_assign_self present]
  simp

theorem Binds.assign_ne {other : String} (binds : state.Binds id name value) (differs : name ≠ other)
    (assigned : Value) : (state.assign id other assigned).Binds id name value := by
  have kept (bindings : List (String × Value)) :
      (bindings.filter fun entry => entry.1 != other).lookup name = bindings.lookup name := by
    induction bindings with
    | nil => rfl
    | cons entry rest ih =>
        obtain ⟨key, _⟩ := entry
        by_cases same : key = other
        · subst same
          simp [List.lookup_cons, beq_false_of_ne differs, ih]
        · simp [List.lookup_cons, same, ih]
  rw [Binds, scope_assign_self binds.index_lt]
  dsimp only
  rw [List.lookup_cons, kept, beq_false_of_ne differs]
  exact binds

/-- A name that a scope does not have is looked for in the scope around it. -/
theorem readVariable_of_outer (missing : (state.scope id).bindings.lookup name = none)
    (parent : (state.scope id).parent = some outer) (binds : state.Binds outer name value) :
    state.readVariable id name = value := by
  have present : id.index < state.scopes.size := by
    by_contra absent
    rw [State.scope, Array.getElem?_eq_none (Nat.le_of_not_lt absent)] at parent
    cases parent
  obtain ⟨bound, size_eq⟩ := Nat.exists_eq_succ_of_ne_zero (Nat.ne_of_gt (Nat.zero_lt_of_lt present))
  rw [readVariable, readFor, missing, parent, size_eq]
  dsimp only
  rw [readFor, binds]

variable {profile : Profile} {touched : ObjectId} {entries : List JournalEntry}
variable {before after : State}

/-- A new scope, in which nothing is bound yet. -/
def opening (state : State) (parent : Option ScopeId) : State :=
  { state with scopes := state.scopes.push { parent } }

theorem Evolves.opening (state : State) (parent : Option ScopeId) :
    state.Evolves profile touched [] (state.opening parent) where
  heap := (Heap.Extends.refl _).but touched
  caches := id
  scopes_le := by simp [State.opening]
  scope_eq _ present := scope_push_of_lt state _ present
  journal := rfl

/-- The state with more entries in the journal. -/
def noting (state : State) (entries : List JournalEntry) : State :=
  { state with journal := entries ++ state.journal }

theorem Evolves.noting (state : State) (entries : List JournalEntry) :
    state.Evolves profile touched entries (state.noting entries) where
  heap := (Heap.Extends.refl _).but touched
  caches := id
  scopes_le := Nat.le_refl _
  scope_eq _ _ := rfl
  journal := rfl

/-- A new scope, and entries in the journal. -/
theorem Evolves.beginning (state : State) (parent : Option ScopeId) (entries : List JournalEntry) :
    state.Evolves profile touched entries ((state.opening parent).noting entries) := by
  have opened : state.Evolves profile touched [] (state.opening parent) := .opening state parent
  have whole := opened.trans (.noting (state.opening parent) entries)
  rwa [List.append_nil] at whole

/-- An assignment in a new scope. -/
theorem Evolves.assign (evolved : before.Evolves profile touched entries after)
    (new : before.scopes.size ≤ id.index) (name : String) (value : Value) :
    before.Evolves profile touched entries (after.assign id name value) where
  heap := evolved.heap
  caches := evolved.caches
  scopes_le := by simpa [State.assign] using evolved.scopes_le
  scope_eq other present := by
    rw [scope_assign_ne (Nat.ne_of_lt (Nat.lt_of_lt_of_le present new))]
    exact evolved.scope_eq other present
  journal := evolved.journal

end State

namespace Script

/-- The state in which a step has assigned the variable for its result, if it has one. -/
def Targets.stored (targets : Targets) (scope : ScopeId) (value : Value) (state : State) : State :=
  match targets.result with
  | some name => state.assign scope name value
  | none => state

variable {engine : Engine} {context : Context} {state next : State} {value : Value}
variable {targets : Targets} {operands : List Operand} {step : Step} {rest : List Step}

theorem settle_apply {run : Run Progress} (ran : run engine state = .done (.next (.value value)) next) :
    settle context targets run engine state =
      .done (.next (.value value)) (targets.stored context.scope value next) := by
  rw [settle, Run.bind_of_done (Run.attempt_of_done ran)]
  obtain ⟨result, failure⟩ := targets
  cases result <;> rfl

/-- A step that nothing catches fails with what it runs. -/
theorem settle_failed {run : Run Progress} {failure : Failure} (uncaught : targets.failure = none)
    (ran : run engine state = .failed failure next) :
    settle context targets run engine state = .failed failure next := by
  rw [settle, Run.bind_of_done (Run.attempt_of_failed ran)]
  dsimp only
  rw [uncaught]
  rfl

theorem runStep_perform {operation : Operation}
    (performed : operation.perform context (Operand.evaluateAll context state operands) engine state =
      .done (.value value) next) :
    runStep context (.perform operation operands targets) engine state =
      .done (.next (.value value)) (targets.stored context.scope value next) := by
  rw [runStep]
  refine settle_apply ?_
  exact Run.bind_of_done performed

theorem runStep_perform_failed {operation : Operation} {failure : Failure}
    (uncaught : targets.failure = none)
    (performed : operation.perform context (Operand.evaluateAll context state operands) engine state =
      .failed failure next) :
    runStep context (.perform operation operands targets) engine state = .failed failure next := by
  rw [runStep]
  refine settle_failed uncaught ?_
  have asked : Run.state engine state = .done state state := rfl
  rw [Run.bind_of_done asked]
  exact Run.bind_of_failed performed

theorem runSteps_cons (ran : runStep context step engine state = .done (.next (.value value)) next) :
    runSteps context (step :: rest) engine state = runSteps context rest engine next := by
  rw [runSteps, Run.bind_of_done ran]

/-- No step runs after one that fails. -/
theorem runSteps_cons_failed {failure : Failure}
    (ran : runStep context step engine state = .failed failure next) :
    runSteps context (step :: rest) engine state = .failed failure next := by
  rw [runSteps, Run.bind_of_failed ran]

/-- A function is made in the scope of its step. -/
theorem runStep_makeFunction {outline : FunctionOutline} {body : List Step} {id : ObjectId}
    {larger : Heap}
    (built : Build.function
        { name := outline.name, kind := outline.kind, code := .script body context.scope }
        outline.length state.heap = (id, larger)) :
    runStep context (.makeFunction outline body [] targets) engine state =
      .done (.next (.value (.object id)))
        (targets.stored context.scope (.object id) { state with heap := larger }) := by
  let callable : Callable :=
    { name := outline.name, kind := outline.kind, code := .script body context.scope }
  have made : Run.build (Build.function callable outline.length) engine state =
      .done id { state with heap := larger } := Run.build_apply built
  have asked : Run.state engine state = .done state state := rfl
  rw [runStep]
  refine settle_apply ?_
  rw [Run.bind_of_done asked]
  exact Run.bind_of_done made

/-- A body is left with the value of a variable. -/
theorem runSteps_leave (name : String) :
    runSteps context (.leave [.named name] {} :: rest) engine state =
      .done (some (state.readVariable context.scope name)) state := by
  rw [runSteps, runStep]
  rfl

end Script

end ClassLowering
