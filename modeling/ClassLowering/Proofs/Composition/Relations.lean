import ClassLowering.Proofs.Composition.Script
import ClassLowering.Proofs.Soundness.Class

/-!
# Relations that every composed run respects

The parts of a composed run that change the state look at neither the engine nor the caches, or fill in an answer
about the host. A transitive relation that holds across these parts holds across every composed run, through
calls of any depth. That scopes stay open is the first of these relations.
-/

namespace ClassLowering

theorem Caches.FilledTo.refl (caches : Caches) : caches.FilledTo caches :=
  ⟨kept_refl _, kept_refl _, kept_refl _⟩

/-- The state from which a run starts is related to the state in which it ends. -/
def Run.Respects {α : Type} (related : State → State → Prop) (run : Run α) (engine : Engine) : Prop :=
  ∀ state, (run engine state).All (related state)

/-- An engine on which calls and reads respect a relation. -/
structure Engine.Respects (related : State → State → Prop) (engine : Engine) : Prop where
  invoke : ∀ frame, (Run.invoke frame).Respects related engine
  read : ∀ id key receiver, (Run.read id key receiver).Respects related engine

/-- A relation that holds across the parts of composed runs. -/
structure State.Carried (related : State → State → Prop) : Prop where
  direct : ∀ {α : Type} {run : Run α}, run.Direct → (∀ engine, run.Opens engine) →
    ∀ engine, run.Respects related engine
  answers : ∀ (state : State) {caches : Caches}, state.caches.FilledTo caches →
    related state { state with caches }

namespace Run

variable {α β : Type} {related : State → State → Prop} {engine : Engine}

theorem Respects.bind [IsTrans State related] {first : Run α} {rest : α → Run β}
    (before : first.Respects related engine) (after : ∀ result, (rest result).Respects related engine) :
    (first >>= rest).Respects related engine :=
  fun state => all_bind (before state) fun result middle _ _ => after result middle

theorem Respects.attempt {run : Run α} (inner : run.Respects related engine) :
    (attempt run).Respects related engine :=
  fun state => all_attempt (inner state)

variable (carried : State.Carried related)
include carried

theorem lookupStrategy_respects : lookupStrategy.Respects related engine :=
  fun state => carried.answers state ⟨Caches.kept_getD _ _, Caches.kept_refl _, Caches.kept_refl _⟩

theorem writerStrategy_respects : writerStrategy.Respects related engine :=
  fun state => carried.answers state ⟨Caches.kept_refl _, Caches.kept_getD _ _, Caches.kept_refl _⟩

theorem keepNativeConstruct_respects (found : Bool) :
    (keepNativeConstruct found).Respects related engine :=
  fun state => carried.answers state ⟨Caches.kept_refl _, Caches.kept_refl _, Caches.kept_getD _ _⟩

variable [IsTrans State related]

theorem hasNativeConstruct_respects (detecting : detectNativeConstruct.Respects related engine) :
    hasNativeConstruct.Respects related engine := by
  intro state
  cases known : state.caches.nativeConstruct with
  | some answer =>
      rw [hasNativeConstruct_known known]
      exact carried.answers state (.refl _)
  | none =>
      rw [hasNativeConstruct_unknown known]
      exact detecting.attempt.bind (fun _ => keepNativeConstruct_respects carried _) state

/-- Every composed run respects the relation if calls and reads do. -/
theorem Composed.respects {run : Run α} (composed : Composed false run)
    (machine : engine.Respects related) : run.Respects related engine := by
  induction composed with
  | direct blind _ opens => exact carried.direct blind opens engine
  | bind _ _ before after => exact before.bind after
  | attempt _ inner => exact inner.attempt
  | view _ _ after => exact fun state => after state state
  | search _ _ after => exact after engine.depth
  | @function _ value rest _ _ missing found =>
      intro state
      rw [bind_apply, ask]
      cases state.heap.function? value with
      | none => exact missing state
      | some pair => exact found pair.1 pair.2 Bool.noConfusion state
  | invoke _ => exact machine.invoke _
  | read id key receiver => exact machine.read id key receiver
  | lookupStrategy => exact lookupStrategy_respects carried
  | writerStrategy => exact writerStrategy_respects carried
  | hasNativeConstruct _ detecting => exact hasNativeConstruct_respects carried detecting
  | definitions target _ _ before =>
      exact before.bind fun _ =>
        carried.direct (direct_defineEach target _) (defineEach_opens target _) engine

end Run

section Depth

variable {related : State → State → Prop} [IsTrans State related] (carried : State.Carried related)
include carried

/-- Every engine respects the relation. -/
theorem Engine.ofDepth_respects (depth : Nat) : (Engine.ofDepth depth).Respects related := by
  induction depth with
  | zero => exact ⟨fun _ _ => trivial, fun _ _ _ _ => trivial⟩
  | succ depth ih =>
      exact ⟨fun _ => (Frame.run_composed Bool.noConfusion).respects carried ih,
        fun _ _ receiver => (Run.getFor_composed receiver).respects carried ih⟩

theorem Run.Composed.respects_ofDepth {α : Type} {run : Run α} (composed : Composed false run)
    (depth : Nat) : run.Respects related (Engine.ofDepth depth) :=
  composed.respects carried (Engine.ofDepth_respects carried depth)

end Depth

/-! ## Scopes stay open -/

/-- What opens scopes only leaves those that are open. -/
theorem State.keepsScopes_carried : State.Carried State.KeepsScopes where
  direct _ opens engine := opens engine
  answers state _ _ := .refl state

/-- The call of a function leaves all scopes open. -/
theorem Frame.keepsScopes_of_done {frame : Frame} {depth : Nat} {before after : State} {result : Value}
    (ran : frame.run (Engine.ofDepth depth) before = .done result after) :
    before.KeepsScopes after :=
  ((Frame.run_composed Bool.noConfusion).respects_ofDepth State.keepsScopes_carried depth before).of_leaves
    (Outcome.leaves_of_done ran)

end ClassLowering
