import ClassLowering.Proofs.Composition.Caches

/-!
# Runs that know the answer before

How prototype links are read is found out by the first question and kept. A run that comes to settle on a
strategy, or on none, goes the same way if this strategy is known from the start. A run that settles on
another one may not: it has asked after the host was changed.
-/

namespace ClassLowering

namespace State

/-- The state once it is known how prototype links are read. -/
def readingBy (state : State) (strategy : PrototypeStrategy) : State :=
  { state with caches := { state.caches with lookup := some strategy } }

/-- No other strategy is known by which prototype links are read. -/
def OpenTo (state : State) (strategy : PrototypeStrategy) : Prop :=
  ∀ known, state.caches.lookup = some known → known = strategy

variable {state middle last : State} {strategy : PrototypeStrategy}

theorem OpenTo.of_keepsAnswers (open_ : last.OpenTo strategy) (keeps : middle.KeepsAnswers last) :
    middle.OpenTo strategy :=
  fun known held => open_ known (keeps.lookup known held)

end State

/-- An outcome after which it is known how prototype links are read. -/
def Outcome.readingBy {α : Type} (outcome : Outcome α) (strategy : PrototypeStrategy) : Outcome α :=
  match outcome with
  | .done result after => .done result (after.readingBy strategy)
  | .failed failure after => .failed failure (after.readingBy strategy)
  | .exhausted => .exhausted

namespace Run

variable {α β : Type} {engine : Engine}

/-- A run goes the same way if it is known from the start how prototype links are read, unless it settles on
another strategy. -/
def Anticipates (run : Run α) (engine : Engine) : Prop :=
  ∀ state last strategy, (run engine state).Leaves last → last.OpenTo strategy →
    run engine (state.readingBy strategy) = (run engine state).readingBy strategy

theorem Direct.anticipates {run : Run α} (blind : run.Direct) : run.Anticipates engine := by
  intro state last strategy _ _
  have same := blind.caches_eq engine state
  refine (blind.cacheless engine state _).trans ?_
  revert same
  cases run engine state with
  | done result after | failed failure after =>
      intro (same : after.caches = state.caches)
      simp only [Outcome.withCaches, Outcome.readingBy, State.readingBy, same]
  | exhausted => exact fun _ => rfl

theorem Anticipates.bind {first : Run α} {rest : α → Run β} (before : first.Anticipates engine)
    (after : ∀ result, (rest result).Anticipates engine)
    (fills : ∀ result, (rest result).Fills engine) : (first >>= rest).Anticipates engine := by
  intro state last strategy leaves settled
  rw [bind_apply] at leaves ⊢
  rw [bind_apply]
  cases began : first engine state with
  | done result middle =>
      rw [began] at leaves
      have early := settled.of_keepsAnswers ((fills result middle).of_leaves leaves)
      rw [before state middle strategy (Outcome.leaves_of_done began) early, began]
      exact after result middle last strategy leaves settled
  | failed failure middle =>
      rw [began] at leaves
      rw [before state last strategy (began ▸ leaves) settled, began]
      rfl
  | exhausted =>
      rw [began] at leaves
      exact leaves.elim

theorem Anticipates.attempt {run : Run α} (inner : run.Anticipates engine) :
    (attempt run).Anticipates engine := by
  intro state last strategy leaves settled
  unfold Run.attempt at leaves ⊢
  cases ran : run engine state with
  | done result middle | failed failure middle =>
      rw [ran] at leaves
      rw [inner state last strategy (ran ▸ leaves) settled, ran]
      rfl
  | exhausted =>
      rw [ran] at leaves
      exact leaves.elim

theorem lookupStrategy_anticipates : lookupStrategy.Anticipates engine := by
  intro state last strategy leaves settled
  cases leaves
  have found : state.caches.lookup.getD state.heap.prototypeStrategy = strategy := settled _ rfl
  unfold lookupStrategy
  rw [found]
  rfl

theorem keepNativeConstruct_anticipates (found : Bool) :
    (keepNativeConstruct found).Anticipates engine := fun _ _ _ _ _ => rfl

theorem hasNativeConstruct_anticipates (detecting : detectNativeConstruct.Anticipates engine) :
    hasNativeConstruct.Anticipates engine := by
  intro state last strategy leaves settled
  cases known : state.caches.nativeConstruct with
  | some answer =>
      have still : (state.readingBy strategy).caches.nativeConstruct = some answer := known
      rw [hasNativeConstruct_known known, hasNativeConstruct_known still]
      rfl
  | none =>
      have still : (state.readingBy strategy).caches.nativeConstruct = none := known
      rw [hasNativeConstruct_unknown known] at leaves
      rw [hasNativeConstruct_unknown known, hasNativeConstruct_unknown still]
      exact detecting.attempt.bind (fun _ => keepNativeConstruct_anticipates _)
        (fun _ => keepNativeConstruct_fills _) state last strategy leaves settled

end Run

/-- An engine on which calls and reads anticipate. -/
structure Engine.Anticipates (engine : Engine) : Prop where
  invoke : ∀ frame, (Run.invoke frame).Anticipates engine
  read : ∀ id key receiver, (Run.read id key receiver).Anticipates engine

namespace Run

variable {α : Type} {engine : Engine}

/-- Every composed run anticipates if calls and reads do. -/
theorem Composed.anticipates {run : Run α} (composed : Composed false run) (machine : engine.Anticipates)
    (fills : engine.Respects State.KeepsAnswers) : run.Anticipates engine := by
  induction composed with
  | direct blind _ => exact blind.anticipates
  | bind _ later before after =>
      exact before.bind after fun result =>
        (later result).respects State.keepsAnswers_carried fills
  | attempt _ inner => exact inner.attempt
  | view cacheless _ after =>
      intro state last strategy leaves settled
      have same := after state state last strategy leaves settled
      rw [bind_apply, bind_apply, Run.state, Run.state]
      dsimp only
      rw [State.readingBy, cacheless]
      exact same
  | search _ _ after => exact after engine.depth
  | @function _ value rest _ _ missing found =>
      intro state last strategy leaves settled
      rw [bind_apply, ask] at leaves ⊢
      rw [bind_apply, ask]
      dsimp only at leaves ⊢
      rw [show (state.readingBy strategy).heap = state.heap from rfl]
      generalize state.heap.function? value = called at leaves ⊢
      cases called with
      | none => exact missing state last strategy leaves settled
      | some pair =>
          exact found pair.1 pair.2 Bool.noConfusion state last strategy leaves settled
  | invoke _ => exact machine.invoke _
  | read id key receiver => exact machine.read id key receiver
  | lookupStrategy => exact lookupStrategy_anticipates
  | writerStrategy => exact fun _ _ _ _ _ => rfl
  | hasNativeConstruct _ detecting => exact hasNativeConstruct_anticipates detecting
  | definitions target _ _ before =>
      exact before.bind (fun _ => (direct_defineEach target _).anticipates)
        fun _ => (direct_defineEach target _).fills

end Run

theorem Engine.ofDepth_anticipates (depth : Nat) : (Engine.ofDepth depth).Anticipates := by
  induction depth with
  | zero => exact ⟨fun _ _ _ _ leaves => leaves.elim, fun _ _ _ _ _ _ leaves => leaves.elim⟩
  | succ depth ih =>
      have fills := ofDepth_respects State.keepsAnswers_carried depth
      exact ⟨fun _ => (Frame.run_composed Bool.noConfusion).anticipates ih fills,
        fun _ _ receiver => (Run.getFor_composed receiver).anticipates ih fills⟩

/-- On the engine of any depth, every composed run anticipates. -/
theorem Run.Composed.anticipates_ofDepth {α : Type} {run : Run α} (composed : Composed false run)
    (depth : Nat) : run.Anticipates (Engine.ofDepth depth) :=
  composed.anticipates (Engine.ofDepth_anticipates depth)
    (Engine.ofDepth_respects State.keepsAnswers_carried depth)

end ClassLowering
