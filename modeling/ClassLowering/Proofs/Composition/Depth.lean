import ClassLowering.Proofs.Composition.Script

/-!
# Runs on deeper engines

A run that ends on one engine ends in the same way on every engine that allows more nested calls. What a
run leads to is therefore a matter of the state alone, as soon as the depth suffices: `Run.Ends`.
-/

namespace ClassLowering

namespace Run

variable {α β : Type} {shallow deep : Engine}

/-- Where a run ends on one engine, it ends in the same way on another one. -/
def Settled (run : Run α) (shallow deep : Engine) : Prop :=
  ∀ state, run shallow state ≠ .exhausted → run deep state = run shallow state

end Run

/-- An engine that goes deeper than another one. -/
structure Engine.Below (shallow deep : Engine) : Prop where
  depth_le : shallow.depth ≤ deep.depth
  invoke : ∀ frame, (Run.invoke frame).Settled shallow deep
  read : ∀ id key receiver, (Run.read id key receiver).Settled shallow deep

namespace Run

variable {α β : Type} {shallow deep : Engine}

theorem Direct.settled {run : Run α} (blind : run.Direct) : run.Settled shallow deep :=
  fun state _ => blind.engineless deep shallow state

theorem Settled.bind {first : Run α} {rest : α → Run β} (before : first.Settled shallow deep)
    (after : ∀ result, (rest result).Settled shallow deep) :
    (first >>= rest).Settled shallow deep := by
  intro state ended
  rw [bind_apply] at ended
  have began : first shallow state ≠ .exhausted := fun exhausted => ended (by rw [exhausted])
  rw [bind_apply, bind_apply, before state began]
  cases ran : first shallow state with
  | done result middle =>
      rw [ran] at ended
      exact after result middle ended
  | failed failure middle => rfl
  | exhausted => rfl

theorem Settled.attempt {run : Run α} (inner : run.Settled shallow deep) :
    (attempt run).Settled shallow deep := by
  intro state ended
  unfold Run.attempt at ended ⊢
  have began : run shallow state ≠ .exhausted := fun exhausted => ended (by rw [exhausted])
  rw [inner state began]

theorem hasNativeConstruct_settled (detecting : detectNativeConstruct.Settled shallow deep) :
    hasNativeConstruct.Settled shallow deep := by
  have looks : Run.state.Settled shallow deep := fun _ _ => rfl
  refine looks.bind fun seen => ?_
  split
  · exact (direct_pure _).settled
  · refine detecting.attempt.bind fun outcome => ?_
    cases outcome <;> exact fun _ _ => rfl

/-- A composed run that ends does so in the same way on a deeper engine. -/
theorem Composed.settled {run : Run α} (composed : Composed false run) (below : shallow.Below deep) :
    run.Settled shallow deep := by
  induction composed with
  | direct blind _ => exact blind.settled
  | bind _ _ before after => exact before.bind after
  | attempt _ inner => exact inner.attempt
  | view _ _ after => exact fun state => after state state
  | @search _ rest _ more after =>
      intro state ended
      change rest deep.depth deep state = rest shallow.depth shallow state
      have same := after shallow.depth state ended
      have rounds : rest shallow.depth deep state ≠ .exhausted := by
        rw [same]
        exact ended
      rw [more _ _ _ _ below.depth_le rounds, same]
  | @function _ value rest _ _ missing found =>
      intro state
      simp only [bind_apply, ask]
      cases state.heap.function? value with
      | none => exact missing state
      | some pair => exact found pair.1 pair.2 Bool.noConfusion state
  | invoke _ => exact below.invoke _
  | read id key receiver => exact below.read id key receiver
  | lookupStrategy | writerStrategy => exact fun _ _ => rfl
  | hasNativeConstruct _ detecting => exact hasNativeConstruct_settled detecting
  | definitions target _ _ before =>
      exact before.bind fun _ => (direct_defineEach target _).settled

end Run

theorem Engine.ofDepth_below {depth more : Nat} (le : depth ≤ more) :
    (Engine.ofDepth depth).Below (Engine.ofDepth more) := by
  induction depth generalizing more with
  | zero => exact ⟨Nat.zero_le _, fun _ _ ended => absurd rfl ended, fun _ _ _ _ ended => absurd rfl ended⟩
  | succ depth ih =>
      obtain ⟨more, rfl⟩ := Nat.exists_eq_add_of_le' (Nat.le_trans (Nat.le_add_left 1 depth) le)
      have below := ih (Nat.le_of_succ_le_succ le)
      exact ⟨le, fun _ => (Frame.run_composed Bool.noConfusion).settled below,
        fun _ _ receiver => (Run.getFor_composed receiver).settled below⟩

namespace Run

variable {α : Type} {run : Run α} {state : State} {outcome : Outcome α}

/-- With enough depth, a run ends with an outcome. -/
def Ends (run : Run α) (state : State) (outcome : Outcome α) : Prop :=
  outcome ≠ .exhausted ∧ ∃ depth, run (Engine.ofDepth depth) state = outcome

/-- What a run ends with at some depth, it ends with from there on. -/
theorem Composed.ends_iff (composed : Composed false run) :
    run.Ends state outcome ↔ outcome ≠ .exhausted ∧
      ∃ depth, ∀ more, depth ≤ more → run (Engine.ofDepth more) state = outcome := by
  constructor
  · rintro ⟨ended, depth, rfl⟩
    exact ⟨ended, depth, fun more le => composed.settled (Engine.ofDepth_below le) state ended⟩
  · rintro ⟨ended, depth, from_there⟩
    exact ⟨ended, depth, from_there depth (Nat.le_refl depth)⟩

/-- A run ends in one way only. -/
theorem Composed.ends_unique {other : Outcome α} (composed : Composed false run)
    (first : run.Ends state outcome) (second : run.Ends state other) : outcome = other := by
  obtain ⟨_, depth, ends⟩ := composed.ends_iff.mp first
  obtain ⟨_, more, others⟩ := composed.ends_iff.mp second
  rw [← ends _ (Nat.le_max_left depth more), ← others _ (Nat.le_max_right depth more)]

/-- Runs that agree on a state end there in the same way. -/
theorem ends_congr {α : Type} {run other : Run α} {outcome : Outcome α}
    (same : ∀ engine, run engine state = other engine state) :
    run.Ends state outcome ↔ other.Ends state outcome := by
  simp only [Ends, same]

end Run

end ClassLowering
