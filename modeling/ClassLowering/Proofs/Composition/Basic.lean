import ClassLowering.Class.SuperCall
import ClassLowering.Proofs.Accessors.Build
import ClassLowering.Proofs.Run.Outcomes

/-!
# Composed runs

Whatever the machine does is put together from few parts: runs that look at neither the engine nor the
caches, calls and reads through the engine, and the three questions about the host. `Composed` lists the
parts and the ways of putting them together, so that what holds of every part is shown of all runs by one
induction. A guarded composition also keeps heaps guarded: it calls tested code only, and defines
accessors only after their functions were tested.
-/

namespace ClassLowering

namespace Outcome

variable {α : Type}

/-- An outcome with other caches. -/
def withCaches (outcome : Outcome α) (caches : Caches) : Outcome α :=
  match outcome with
  | .done result after => .done result { after with caches }
  | .failed failure after => .failed failure { after with caches }
  | .exhausted => .exhausted

end Outcome

/-- A state whose heap is guarded, with the functions of another one. -/
def State.Tends (state after : State) : Prop := state.heap.Tends after.heap

instance : IsTrans State State.Tends := ⟨fun _ _ _ => Heap.Tends.trans⟩

/-- No scope is closed. -/
def State.KeepsScopes (state after : State) : Prop := state.scopes.size ≤ after.scopes.size

instance : IsTrans State State.KeepsScopes := ⟨fun _ _ _ => Nat.le_trans⟩

theorem State.KeepsScopes.refl (state : State) : state.KeepsScopes state := Nat.le_refl _

namespace Run

variable {α β : Type}

/-- On a guarded heap a run leaves a guarded heap with the functions that were there. -/
def Calm (run : Run α) (engine : Engine) : Prop :=
  ∀ state : State, state.heap.Guarded → (run engine state).All state.Tends

/-- A run opens scopes and closes none. -/
def Opens (run : Run α) (engine : Engine) : Prop :=
  ∀ state : State, (run engine state).All state.KeepsScopes

/-- A run that looks at neither the engine nor the caches. -/
structure Direct (run : Run α) : Prop where
  engineless : ∀ engine other state, run engine state = run other state
  cacheless : ∀ engine (state : State) caches,
    run engine { state with caches } = (run engine state).withCaches caches

end Run

/-- An engine on which calls of tested code and reads keep heaps guarded. -/
structure Engine.Calm (engine : Engine) : Prop where
  invoke : ∀ frame : Frame, frame.callable.code.Tested → (Run.invoke frame).Calm engine
  read : ∀ id key receiver, (Run.read id key receiver).Calm engine

namespace Run

/-- A run that is put together from the parts of the machine. -/
inductive Composed (guarded : Bool) : {α : Type} → Run α → Prop
  | direct {α : Type} {run : Run α} (blind : run.Direct)
      (calm : guarded = true → ∀ engine, run.Calm engine)
      (opens : ∀ engine, run.Opens engine) : Composed guarded run
  | bind {α β : Type} {first : Run α} {rest : α → Run β} (before : Composed guarded first)
      (after : ∀ result, Composed guarded (rest result)) : Composed guarded (first >>= rest)
  | attempt {α : Type} {run : Run α} (inner : Composed guarded run) : Composed guarded (attempt run)
  /-- A look at the state other than its caches. -/
  | view {α : Type} {rest : State → Run α}
      (cacheless : ∀ (state : State) caches, rest { state with caches } = rest state)
      (after : ∀ state, Composed guarded (rest state)) : Composed guarded (state >>= rest)
  /-- A search for as many rounds as the engine allows. More rounds find nothing else. -/
  | search {α : Type} {rest : Nat → Run α} (after : ∀ bound, Composed guarded (rest bound))
      (settled : ∀ bound more engine state, bound ≤ more → rest bound engine state ≠ .exhausted →
        rest more engine state = rest bound engine state) : Composed guarded (depth >>= rest)
  /-- The function behind a value; on a guarded heap its code is tested. -/
  | function {α : Type} {value : Value} {rest : Option (ObjectId × Callable) → Run α}
      (missing : Composed guarded (rest none))
      (found : ∀ id callable, (guarded = true → callable.code.Tested) →
        Composed guarded (rest (some (id, callable)))) :
      Composed guarded (ask (·.function? value) >>= rest)
  | invoke {frame : Frame} (tested : guarded = true → frame.callable.code.Tested) :
      Composed guarded (invoke frame)
  | read (id : ObjectId) (key : PropertyKey) (receiver : Value) :
      Composed guarded (read id key receiver)
  | lookupStrategy : Composed guarded lookupStrategy
  | writerStrategy : Composed guarded writerStrategy
  | hasNativeConstruct (detecting : Composed guarded detectNativeConstruct) :
      Composed guarded hasNativeConstruct
  /-- Definitions that were read, with accessor functions that can be called where that is asked for. -/
  | definitions {α : Type} {reading : Run α} {entries : α → List (PropertyKey × Descriptor)}
      (target : ObjectId) (before : Composed guarded reading)
      (grants : guarded = true → ∀ engine (state : State) result after, engine.Calm →
        state.heap.Guarded → reading engine state = .done result after →
          ∀ entry ∈ entries result, after.heap.Grants entry.2) :
      Composed guarded (reading >>= fun result => defineEach target (entries result))

variable {α β : Type} {guarded : Bool}

/-! ## Direct runs -/

theorem direct_pure (result : α) : (pure result : Run α).Direct := ⟨fun _ _ _ => rfl, fun _ _ _ => rfl⟩

theorem direct_follow (walk : Heap → Option α) : (follow walk).Direct where
  engineless _ _ _ := rfl
  cacheless engine state caches := by
    unfold follow
    dsimp only
    cases walk state.heap <;> rfl

theorem direct_define (id : ObjectId) (key : PropertyKey) (descriptor : Descriptor) :
    (define id key descriptor).Direct where
  engineless engine other state := by
    simp only [define, bind_apply, ask]
    cases (state.heap.object id).defined key descriptor <;> rfl
  cacheless engine state caches := by
    simp only [define, bind_apply, ask]
    cases (state.heap.object id).defined key descriptor <;> rfl

theorem Direct.bind {first : Run α} {rest : α → Run β} (before : first.Direct)
    (after : ∀ result, (rest result).Direct) : (first >>= rest).Direct where
  engineless engine other state := by
    rw [bind_apply, bind_apply, before.engineless engine other state]
    cases first other state with
    | done result next => exact (after result).engineless engine other next
    | failed failure next => rfl
    | exhausted => rfl
  cacheless engine state caches := by
    rw [bind_apply, bind_apply, before.cacheless engine state caches]
    cases first engine state with
    | done result next => exact (after result).cacheless engine next caches
    | failed failure next => rfl
    | exhausted => rfl

theorem direct_defineEach (target : ObjectId) (definitions : List (PropertyKey × Descriptor)) :
    (defineEach target definitions).Direct := by
  induction definitions with
  | nil => exact direct_pure ()
  | cons entry rest ih => exact (direct_define target entry.1 entry.2).bind fun _ => ih

/-- A direct run leaves the caches as they are. -/
theorem Direct.caches_eq {run : Run α} (blind : run.Direct) (engine : Engine) (state : State) :
    (run engine state).All fun after => after.caches = state.caches := by
  have same : run engine state = (run engine state).withCaches state.caches :=
    blind.cacheless engine state state.caches
  cases ran : run engine state with
  | done result after =>
      rw [ran] at same
      have kept := congrArg State.caches (Outcome.done.inj same).2
      exact kept
  | failed failure after =>
      rw [ran] at same
      have kept := congrArg State.caches (Outcome.failed.inj same).2
      exact kept
  | exhausted => trivial

/-! ## Runs one after another -/

theorem all_bind {related : State → State → Prop} [IsTrans State related]
    {first : Run β} {rest : β → Run α} {engine : Engine} {state : State}
    (before : (first engine state).All (related state))
    (after : ∀ result middle, first engine state = .done result middle → related state middle →
      (rest result engine middle).All (related middle)) :
    ((first >>= rest) engine state).All (related state) := by
  rw [bind_apply]
  cases began : first engine state with
  | done result middle =>
      rw [began] at before
      have later := after result middle began before
      dsimp only
      revert later
      cases rest result engine middle with
      | done final last => exact IsTrans.trans _ _ _ before
      | failed failure last => exact IsTrans.trans _ _ _ before
      | exhausted => exact fun _ => trivial
  | failed failure middle =>
      rw [began] at before
      exact before
  | exhausted => trivial

theorem all_attempt {holds : State → Prop} {run : Run α} {engine : Engine} {state : State}
    (inner : (run engine state).All holds) : (attempt run engine state).All holds := by
  unfold attempt
  revert inner
  cases run engine state <;> exact id

/-! ## How the host constructs -/

/-- An answer about the host that is known is given without effect. -/
theorem hasNativeConstruct_known {native : Bool} {engine : Engine} {state : State}
    (known : state.caches.nativeConstruct = some native) :
    hasNativeConstruct engine state = .done native state := by
  have here : Run.state engine state = .done state state := rfl
  rw [hasNativeConstruct, bind_of_done here, known]
  rfl

/-- An answer that is not known is found out and kept. A failure while finding out means no. -/
theorem hasNativeConstruct_unknown {engine : Engine} {state : State}
    (unknown : state.caches.nativeConstruct = none) :
    hasNativeConstruct engine state =
      (attempt detectNativeConstruct >>= fun outcome => keepNativeConstruct (outcome.toOption.getD false))
        engine state := by
  have here : Run.state engine state = .done state state := rfl
  rw [hasNativeConstruct, bind_of_done here, unknown]
  refine congrArg (fun rest => (attempt detectNativeConstruct >>= rest) engine state)
    (funext fun outcome => ?_)
  cases outcome <;> rfl

/-! ## Parts -/

theorem calm_of_silent {run : Run α} {engine : Engine}
    (silent : ∀ state, (run engine state).All fun after => after.heap = state.heap) :
    run.Calm engine := by
  intro state sound
  have same := silent state
  revert same
  cases run engine state with
  | done result after => exact fun same => Heap.Tends.of_eq sound same
  | failed failure after => exact fun same => Heap.Tends.of_eq sound same
  | exhausted => exact fun _ => trivial

/-- A run that leaves the heap alone, and looks at neither the engine nor the caches. -/
theorem composed_silent {run : Run α} (blind : run.Direct)
    (silent : ∀ engine state, (run engine state).All fun after => after.heap = state.heap)
    (opens : ∀ engine, run.Opens engine) : Composed guarded run :=
  .direct blind (fun _ engine => calm_of_silent (silent engine)) opens

theorem composed_pure (result : α) : Composed guarded (pure result : Run α) :=
  composed_silent (direct_pure result) (fun _ _ => rfl) fun _ state => .refl state

theorem composed_fail (failure : Failure) : Composed guarded (fail failure : Run α) :=
  composed_silent ⟨fun _ _ _ => rfl, fun _ _ _ => rfl⟩ (fun _ _ => rfl) fun _ state => .refl state

theorem composed_raise (fault : Fault) : Composed guarded (raise fault : Run α) := composed_fail _

theorem composed_endless : Composed guarded (endless : Run α) :=
  composed_silent ⟨fun _ _ _ => rfl, fun _ _ _ => rfl⟩ (fun _ _ => trivial) fun _ _ => trivial

theorem composed_ask (question : Heap → α) : Composed guarded (ask question) :=
  composed_silent ⟨fun _ _ _ => rfl, fun _ _ _ => rfl⟩ (fun _ _ => rfl) fun _ state => .refl state

theorem composed_follow (walk : Heap → Option α) : Composed guarded (follow walk) := by
  refine composed_silent (direct_follow walk) (fun engine state => ?_) fun engine state => ?_
  · unfold follow
    cases walk state.heap with
    | some answer => rfl
    | none => trivial
  · unfold follow
    cases walk state.heap with
    | some answer => exact .refl state
    | none => trivial

/-- A complaint about a value. -/
theorem composed_complaint (value : Value) (fault : String → Fault) :
    Composed guarded (textOf value >>= fun text => raise (fault text) : Run α) :=
  .bind (composed_ask _) fun _ => composed_raise _

/-! ## Runs that close no scope -/

theorem Opens.bind {first : Run α} {rest : α → Run β} {engine : Engine} (before : first.Opens engine)
    (after : ∀ result, (rest result).Opens engine) : (first >>= rest).Opens engine :=
  fun state => all_bind (before state) fun result middle _ _ => after result middle

theorem define_opens (id : ObjectId) (key : PropertyKey) (descriptor : Descriptor) (engine : Engine) :
    (define id key descriptor).Opens engine := by
  intro state
  simp only [define, bind_apply, ask]
  cases (state.heap.object id).defined key descriptor <;> exact Nat.le_refl _

theorem defineEach_opens (target : ObjectId) (definitions : List (PropertyKey × Descriptor))
    (engine : Engine) : (defineEach target definitions).Opens engine := by
  induction definitions with
  | nil => exact .refl
  | cons entry rest ih => exact (define_opens target entry.1 entry.2 engine).bind fun _ => ih

/-! ## Parts that change the state -/

theorem composed_change {update : Heap → Heap}
    (calm : guarded = true → ∀ heap : Heap, heap.Guarded → heap.Tends (update heap)) :
    Composed guarded (change update) :=
  .direct ⟨fun _ _ _ => rfl, fun _ _ _ => rfl⟩
    (fun asked _ state sound => calm asked state.heap sound) fun _ _ => Nat.le_refl _

theorem composed_build {build : Build α} (calm : guarded = true → build.Guards) :
    Composed guarded (Run.build build) :=
  .direct ⟨fun _ _ _ => rfl, fun _ _ _ => rfl⟩
    (fun asked _ state sound => calm asked state.heap sound) fun _ _ => Nat.le_refl _

/-- A change of the state besides its heap and its caches. -/
theorem composed_modify {change : State → State} (heap_eq : ∀ state, (change state).heap = state.heap)
    (cacheless : ∀ (state : State) caches,
      change { state with caches } = { change state with caches })
    (opens : ∀ state, State.KeepsScopes state (change state)) : Composed guarded (modify change) := by
  refine composed_silent ⟨fun _ _ _ => rfl, fun _ state caches => ?_⟩ (fun _ state => heap_eq state)
    fun _ state => opens state
  exact congrArg (Outcome.done ()) (cacheless state caches)

/-! ## Lists of runs -/

theorem composed_forM {items : List α} {body : α → Run Unit}
    (each : ∀ item ∈ items, Composed guarded (body item)) : Composed guarded (items.forM body) := by
  induction items with
  | nil => exact composed_pure ()
  | cons item rest ih =>
      exact .bind (each item (.head _)) fun _ => ih fun other member => each other (.tail _ member)

theorem composed_mapM {items : List α} {body : α → Run β}
    (each : ∀ item, Composed guarded (body item)) : Composed guarded (items.mapM body) := by
  induction items with
  | nil => exact composed_pure []
  | cons item rest ih =>
      rw [List.mapM_cons]
      exact .bind (each item) fun _ => .bind ih fun _ => composed_pure _

end Run

end ClassLowering
