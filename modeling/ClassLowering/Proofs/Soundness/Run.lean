import ClassLowering.Proofs.Run.Outcomes
import ClassLowering.Proofs.Soundness.Build

/-!
# Sound runs

`SoundAt` says of a run from a sound state that it makes nothing but changes, and that it ends with
something that is there. Between the changes it calls functions and reads through proxies, by the engine; it
keeps what it owes to the states in which these begin and end as well. Such states show when they are withheld:
without the calls and reads that begin or end in one of them, a run that gets there does not end. The lemmas of
this module follow the ways of combining runs; reads leave the state as it is, so that what they find is known
of that very state.
-/

namespace ClassLowering

open Bounded

/-- The code of a frame is that of its callee. -/
def Heap.Backs (heap : Heap) (frame : Frame) : Prop :=
  (heap.object frame.callee).callable? = some frame.callable

namespace Outcome

variable {α : Type}

/-- Changes lead from a state to where an outcome leaves the realm, and what it ends with is there. -/
def SoundFrom [Bounded α] (law : Law) (state : State) (outcome : Outcome α) : Prop :=
  match outcome with
  | .done result after => state.Leads law after ∧ Within law after.heap.size result
  | .failed failure after => state.Leads law after ∧ Within law after.heap.size failure
  | .exhausted => True

/-- What is left of an outcome without the calls and reads that begin or end in a state `middle`: all of it, or
nothing. It is nothing only if changes lead to `middle`, and from there to where the outcome leaves the realm. -/
def Without (law : Law) (before middle : State) (full rest : Outcome α) : Prop :=
  rest = full ∨ rest = .exhausted ∧ before.Leads law middle ∧ full.All (middle.Leads law)

theorem SoundFrom.all [Bounded α] {law : Law} {state : State} {outcome : Outcome α}
    (sound : outcome.SoundFrom law state) : outcome.All (state.Leads law) := by
  cases outcome with
  | done _ _ | failed _ _ => exact sound.1
  | exhausted => trivial

theorem SoundFrom.mono [Bounded α] {law : Law} {before state : State} {outcome : Outcome α}
    (sound : outcome.SoundFrom law state) (leads : before.Leads law state) :
    outcome.SoundFrom law before := by
  cases outcome with
  | done _ _ | failed _ _ => exact ⟨leads.trans sound.1, sound.2⟩
  | exhausted => trivial

theorem Without.mono {law : Law} {before state middle : State} {full rest : Outcome α}
    (without : Without law state middle full rest) (leads : before.Leads law state) :
    Without law before middle full rest :=
  without.imp_right fun ⟨endless, there, onwards⟩ => ⟨endless, leads.trans there, onwards⟩

end Outcome

/-- An engine that differs from another one only in that calls and reads that begin or end in a state do not
end. -/
structure Engine.Withholds (law : Law) (middle : State) (engine other : Engine) : Prop where
  depth_eq : other.depth = engine.depth
  invoke : ∀ {state frame}, state.Sound law → Within law state.heap.size frame →
    state.heap.Backs frame →
      Outcome.Without law state middle (engine.invoke frame state) (other.invoke frame state)
  read : ∀ {state id key receiver}, state.Sound law → Within law state.heap.size id →
    Within law state.heap.size receiver →
      Outcome.Without law state middle (engine.read id key receiver state)
        (other.read id key receiver state)

namespace Run

/-- From a state, a run only makes changes, whether it succeeds or fails, and what it ends with is
there. It only makes changes up to each call and read within it, and from there on. -/
def SoundAt {α : Type} [Bounded α] (law : Law) (engine : Engine) (state : State) (run : Run α) :
    Prop :=
  (run engine state).SoundFrom law state ∧ ∀ middle other, engine.Withholds law middle other →
    Outcome.Without law state middle (run engine state) (run other state)

variable {α β : Type} [Bounded α] [Bounded β] {law : Law} {engine : Engine} {state after : State}

/-- A result is reached by changes. -/
theorem SoundAt.leads {run : Run α} {result : α} (sound : SoundAt law engine state run)
    (ran : run engine state = .done result after) : state.Leads law after := by
  have ends := sound.1
  rw [ran] at ends
  exact ends.1

/-- A result is there. -/
theorem SoundAt.within {run : Run α} {result : α} (sound : SoundAt law engine state run)
    (ran : run engine state = .done result after) : Within law after.heap.size result := by
  have ends := sound.1
  rw [ran] at ends
  exact ends.2

/-- A failure, too, is reached by changes. -/
theorem SoundAt.leads_of_failed {run : Run α} {failure : Failure} (sound : SoundAt law engine state run)
    (ran : run engine state = .failed failure after) : state.Leads law after := by
  have ends := sound.1
  rw [ran] at ends
  exact ends.1

/-- A sound run leaves the realm in a state to which changes lead. -/
theorem SoundAt.all {run : Run α} (sound : SoundAt law engine state run) :
    (run engine state).All (state.Leads law) := sound.1.all

/-- A run that does not look at the engine. -/
theorem sound_of_engineless {run : Run α} (engineless : ∀ other, run other state = run engine state)
    (ends : (run engine state).SoundFrom law state) : SoundAt law engine state run :=
  ⟨ends, fun _ other _ => .inl (engineless other)⟩

/-- A run that makes one change, whatever the engine. -/
theorem sound_of_change {run : Run α} {result : α} (sound : state.Sound law)
    (ran : ∀ other, run other state = .done result after) (changed : state.Change law after)
    (within : Within law after.heap.size result) : SoundAt law engine state run :=
  sound_of_engineless (fun other => (ran other).trans (ran engine).symm)
    (ran engine ▸ ⟨.single sound changed, within⟩)

theorem sound_endless : SoundAt law engine state (endless : Run α) :=
  sound_of_engineless (fun _ => rfl) trivial

theorem sound_pure (sound : state.Sound law) {result : α}
    (within : Within law state.heap.size result) : SoundAt law engine state (pure result) :=
  sound_of_engineless (fun _ => rfl) ⟨.refl sound, within⟩

theorem sound_fail (sound : state.Sound law) {failure : Failure}
    (within : Within law state.heap.size failure) :
    SoundAt law engine state (fail failure : Run α) :=
  sound_of_engineless (fun _ => rfl) ⟨.refl sound, within⟩

theorem sound_raise (sound : state.Sound law) (fault : Fault)
    (within : Within law state.heap.size fault) :
    SoundAt law engine state (raise fault : Run α) := sound_fail sound within

theorem soundFrom_bind {first : Run α} {rest : α → Run β} (before : (first engine state).SoundFrom law state)
    (after : ∀ result next, first engine state = .done result next → state.Leads law next →
      Within law next.heap.size result → (rest result engine next).SoundFrom law next) :
    ((first >>= rest) engine state).SoundFrom law state := by
  rw [bind_apply]
  cases ran : first engine state with
  | done result next =>
      rw [ran] at before
      exact (after result next ran before.1 before.2).mono before.1
  | failed failure next =>
      rw [ran] at before
      exact before
  | exhausted => trivial

omit [Bounded α] [Bounded β] in
/-- A state that is withheld is in the first part, or else in the second one. -/
theorem without_bind {first : Run α} {rest : α → Run β} {other : Engine} {middle : State}
    (before : Outcome.Without law state middle (first engine state) (first other state))
    (after : ∀ result next, first engine state = .done result next → state.Leads law next ∧
      (rest result engine next).All (next.Leads law) ∧
      Outcome.Without law next middle (rest result engine next) (rest result other next)) :
    Outcome.Without law state middle ((first >>= rest) engine state) ((first >>= rest) other state) := by
  rcases before with same | ⟨endless, there, onwards⟩
  · rw [bind_apply, bind_apply, same]
    cases ran : first engine state with
    | done result next =>
        obtain ⟨leads, _, without⟩ := after result next ran
        exact without.mono leads
    | failed _ _ | exhausted => exact .inl rfl
  · refine .inr ⟨bind_of_exhausted endless, there, ?_⟩
    rw [bind_apply]
    cases ran : first engine state with
    | done result next =>
        rw [ran] at onwards
        obtain ⟨_, later, _⟩ := after result next ran
        exact later.mono fun last leads => onwards.trans leads
    | failed _ _ =>
        rw [ran] at onwards
        exact onwards
    | exhausted => trivial

theorem sound_bind_done {first : Run α} {rest : α → Run β} (before : SoundAt law engine state first)
    (after : ∀ result next, first engine state = .done result next → state.Leads law next →
      Within law next.heap.size result → SoundAt law engine next (rest result)) :
    SoundAt law engine state (first >>= rest) := by
  refine ⟨soundFrom_bind before.1 fun result next ran leads within => (after result next ran leads within).1,
    fun middle other withholds => without_bind (before.2 middle other withholds) fun result next ran => ?_⟩
  have leads := before.leads ran
  have later := after result next ran leads (before.within ran)
  exact ⟨leads, later.all, later.2 middle other withholds⟩

theorem sound_bind {first : Run α} {rest : α → Run β} (before : SoundAt law engine state first)
    (after : ∀ result next, state.Leads law next → Within law next.heap.size result →
      SoundAt law engine next (rest result)) : SoundAt law engine state (first >>= rest) :=
  sound_bind_done before fun result next _ => after result next

theorem sound_attempt {run : Run α} (inner : SoundAt law engine state run) :
    SoundAt law engine state (attempt run) := by
  obtain ⟨ends, without⟩ := inner
  constructor
  · unfold attempt
    cases ran : run engine state with
    | done _ _ | failed _ _ =>
        rw [ran] at ends
        exact ends
    | exhausted => trivial
  · intro middle other withholds
    unfold attempt
    rcases without middle other withholds with same | ⟨endless, there, onwards⟩
    · exact .inl (by rw [same])
    · refine .inr ⟨by rw [endless], there, ?_⟩
      revert onwards
      cases run engine state <;> exact id

theorem sound_forM {γ : Type} {items : List γ} {body : γ → Run Unit} (sound : state.Sound law)
    (each : ∀ item ∈ items, ∀ next, state.Leads law next → SoundAt law engine next (body item)) :
    SoundAt law engine state (items.forM body) := by
  induction items generalizing state with
  | nil => exact sound_pure sound trivial
  | cons item rest ih =>
      refine sound_bind (each item (.head _) state (.refl sound)) fun _ next leads _ => ?_
      exact ih leads.sound fun other member last later =>
        each other (.tail _ member) last (leads.trans later)

theorem sound_mapM {γ : Type} {items : List γ} {body : γ → Run α} (sound : state.Sound law)
    (each : ∀ item ∈ items, ∀ next, state.Leads law next → SoundAt law engine next (body item)) :
    SoundAt law engine state (items.mapM body) := by
  induction items generalizing state with
  | nil => exact sound_pure sound fun _ member => nomatch member
  | cons item rest ih =>
      rw [List.mapM_cons]
      refine sound_bind (each item (.head _) state (.refl sound)) fun head next leads within => ?_
      have tail := ih leads.sound fun other member last later =>
        each other (.tail _ member) last (leads.trans later)
      refine sound_bind tail fun others last later withins => ?_
      refine sound_pure later.sound fun result member => ?_
      cases member with
      | head => exact later.keeps within
      | tail _ member => exact withins result member

/-! ## Reads -/

theorem sound_ask {γ : Type} {question : Heap → γ} {rest : γ → Run α}
    (after : SoundAt law engine state (rest (question state.heap))) :
    SoundAt law engine state (ask question >>= rest) := after

theorem sound_state {rest : State → Run α} (after : SoundAt law engine state (rest state)) :
    SoundAt law engine state (Run.state >>= rest) := after

theorem sound_depth {rest : Nat → Run α} (after : ∀ bound, SoundAt law engine state (rest bound)) :
    SoundAt law engine state (depth >>= rest) := by
  refine ⟨(after engine.depth).1, fun middle other withholds => ?_⟩
  change Outcome.Without law state middle (rest engine.depth engine state) (rest other.depth other state)
  rw [withholds.depth_eq]
  exact (after engine.depth).2 middle other withholds

theorem sound_follow {γ : Type} {walk : Heap → Option γ} {rest : γ → Run α}
    (after : ∀ answer, walk state.heap = some answer → SoundAt law engine state (rest answer)) :
    SoundAt law engine state (follow walk >>= rest) := by
  unfold SoundAt
  simp only [bind_apply, follow]
  cases found : walk state.heap with
  | none => exact ⟨trivial, fun _ _ _ => .inl rfl⟩
  | some answer => exact after answer found

/-- A walk at the end of a run. -/
theorem sound_follow_last {walk : Heap → Option α} (sound : state.Sound law)
    (after : ∀ answer, walk state.heap = some answer → Within law state.heap.size answer) :
    SoundAt law engine state (follow walk) := by
  refine sound_of_engineless (fun _ => rfl) ?_
  unfold follow
  cases found : walk state.heap with
  | none => trivial
  | some answer => exact ⟨.refl sound, after answer found⟩

theorem sound_textOf {value : Value} {rest : String → Run α}
    (after : ∀ text, SoundAt law engine state (rest text)) :
    SoundAt law engine state (textOf value >>= rest) := after _

/-! ## Changes -/

theorem sound_change (sound : state.Sound law) {update : Heap → Heap}
    (changed : state.heap.Change law (update state.heap)) :
    SoundAt law engine state (change update) :=
  sound_of_change sound (fun _ => rfl) (.heap changed) trivial

theorem sound_build (sound : state.Sound law) {build : Build α}
    (grows : Build.Grows law state.heap state.heap build) :
    SoundAt law engine state (Run.build build) :=
  sound_of_change sound (fun _ => rfl) (.heap (.grow grows.grown)) grows.within

theorem build_bind {γ δ : Type} (first : Build γ) (rest : γ → Build δ) :
    Run.build (first >>= rest) = Run.build first >>= fun result => Run.build (rest result) := rfl

theorem build_forM {γ : Type} (items : List γ) (body : γ → Build Unit) :
    Run.build (items.forM body) = items.forM fun item => Run.build (body item) := by
  induction items with
  | nil => rfl
  | cons item rest ih =>
      change Run.build (body item >>= fun _ => rest.forM body) = _
      rw [build_bind, ih]
      rfl

end Run

theorem Heap.callable?_of_function? {heap : Heap} {function : Value} {callee : ObjectId}
    {callable : Callable} (found : heap.function? function = some (callee, callable)) :
    (heap.object callee).callable? = some callable := by
  unfold Heap.function? at found
  split at found
  · obtain ⟨_, held, same⟩ := Option.map_eq_some_iff.mp found
    cases same
    exact held
  · cases found

/-- An engine whose calls and reads are sound. -/
structure Engine.Sound (law : Law) (engine : Engine) : Prop where
  invoke : ∀ {state frame}, state.Sound law → Within law state.heap.size frame →
    state.heap.Backs frame → (engine.invoke frame state).SoundFrom law state
  read : ∀ {state id key receiver}, state.Sound law → Within law state.heap.size id →
    Within law state.heap.size receiver → (engine.read id key receiver state).SoundFrom law state

namespace Run

variable {law : Law} {engine : Engine} {state : State}

theorem invoke_sound (machine : engine.Sound law) (sound : state.Sound law) {frame : Frame}
    (given : Within law state.heap.size frame) (backed : state.heap.Backs frame) :
    SoundAt law engine state (invoke frame) :=
  ⟨machine.invoke sound given backed, fun _ _ withholds => withholds.invoke sound given backed⟩

theorem read_sound (machine : engine.Sound law) (sound : state.Sound law) {id : ObjectId}
    {key : PropertyKey} {receiver : Value} (there : Within law state.heap.size id)
    (on : Within law state.heap.size receiver) : SoundAt law engine state (read id key receiver) :=
  ⟨machine.read sound there on, fun _ _ withholds => withholds.read sound there on⟩

end Run

end ClassLowering
