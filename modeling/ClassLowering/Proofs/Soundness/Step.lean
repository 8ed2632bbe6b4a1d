import ClassLowering.Proofs.Soundness.Script

/-!
# Sound engines

Steps and bodies are sound by induction on the script, and engines by induction on the depth of their
calls: the code of a frame runs on the engine below.
-/

namespace ClassLowering

open Bounded

variable {law : Law} {engine : Engine} {state : State}

namespace Script

open Run

variable {context : Context}

theorem store_sound (sound : state.Sound law) (name : Option String) {value : Value}
    (given : Within law state.heap.size value) : SoundAt law engine state (store context name value) := by
  unfold store
  cases name with
  | none => exact sound_pure sound trivial
  | some name =>
      refine sound_of_change sound (fun _ => rfl) (.scopes fun scope member entry bound => ?_) trivial
      obtain ⟨place, inside, rfl⟩ := Array.mem_iff_getElem.mp member
      rw [Array.getElem_modify] at bound
      split at bound
      · rcases List.mem_cons.mp bound with rfl | old
        · exact given
        · exact sound.scopes _ (Array.getElem_mem _) entry (List.mem_filter.mp old).1
      · exact sound.scopes _ (Array.getElem_mem _) entry bound

theorem settle_sound (targets : Targets) {run : Run Progress}
    (inner : SoundAt law engine state run) : SoundAt law engine state (settle context targets run) := by
  unfold settle
  refine sound_bind (sound_attempt inner) fun outcome next leads found => ?_
  cases outcome with
  | ok progress =>
      cases progress with
      | next reply =>
          cases reply with
          | value value =>
              exact sound_bind (store_sound leads.sound _ found) fun _ _ later _ =>
                sound_pure later.sound (later.keeps found)
          | report report => exact sound_pure leads.sound trivial
      | left value =>
          exact sound_bind (store_sound leads.sound _ found) fun _ _ later _ =>
            sound_pure later.sound (later.keeps found)
  | error failure =>
      dsimp only
      split
      · refine sound_bind (sound_build leads.sound (Failure.value_grows leads.sound.heap found))
          fun value last later there => ?_
        exact sound_bind (store_sound later.sound _ there) fun _ _ ended _ =>
          sound_pure ended.sound trivial
      · exact sound_fail leads.sound found

theorem roundsFrom_sound (sound : state.Sound law) {round : Nat → Run (Option Value)}
    (each : ∀ place next, state.Leads law next → SoundAt law engine next (round place))
    (first count : Nat) : SoundAt law engine state (roundsFrom round first count) := by
  induction count generalizing first state with
  | zero => exact sound_pure sound trivial
  | succ count ih =>
      unfold roundsFrom
      refine sound_bind (each first state (.refl sound)) fun result next leads found => ?_
      cases result with
      | some value => exact sound_pure leads.sound found
      | none =>
          exact ih leads.sound (fun place last later => each place last (leads.trans later)) _

theorem within_ofBlock {size : Nat} {result : Option Value} (within : Within law size result) :
    Within law size (Progress.ofBlock result) := by
  cases result with
  | some value => exact within
  | none => trivial

mutual

/-- Every step of a lawful script is sound. -/
theorem runStep_sound (machine : engine.Sound law) {state : State} (sound : state.Sound law)
    (inside : Within law state.heap.size context) :
    (step : Step) → step.Lawful law state.heap.size →
      SoundAt law engine state (runStep context step)
  | .perform operation operands targets, lawful => by
      unfold Step.Lawful at lawful
      unfold runStep
      refine settle_sound targets (sound_state ?_)
      have given := within_evaluateAll sound inside lawful.2
      exact sound_bind (operation_sound machine sound given inside lawful.1) fun _ _ leads found =>
        sound_pure leads.sound found
  | .makeFunction outline body captured targets, lawful => by
      unfold Step.Lawful at lawful
      unfold runStep
      refine settle_sound targets (sound_state ?_)
      have given := within_evaluateAll sound inside lawful.2
      refine sound_bind (sound_build sound (Build.function_grows sound.heap ?_ _ fun _ => rfl))
        fun _ _ leads there => sound_pure leads.sound there
      exact ⟨lawful.1, given⟩
  | .leave operands targets, lawful => by
      unfold Step.Lawful at lawful
      unfold runStep
      refine settle_sound targets (sound_state (sound_pure sound ?_))
      exact within_getElem? (within_evaluateAll sound inside lawful) 0
  | .choose operands whenTrue whenFalse targets, lawful => by
      unfold Step.Lawful at lawful
      unfold runStep
      refine settle_sound targets (sound_state ?_)
      dsimp only
      split
      · exact sound_bind (runSteps_sound machine sound inside whenTrue lawful.2.1)
          fun _ _ leads found => sound_pure leads.sound (within_ofBlock found)
      · exact sound_bind (runSteps_sound machine sound inside whenFalse lawful.2.2)
          fun _ _ leads found => sound_pure leads.sound (within_ofBlock found)
  | .loop count body targets, lawful => by
      unfold Step.Lawful at lawful
      unfold runStep
      refine settle_sound targets (sound_bind (roundsFrom_sound sound (fun _ next leads => ?_) 0 count)
        fun _ _ leads found => sound_pure leads.sound (within_ofBlock found))
      refine sound_bind (store_sound leads.sound _ (by trivial)) fun _ last later _ => ?_
      have all := leads.trans later
      exact runSteps_sound machine later.sound (all.keeps inside) body
        (LawfulSteps.mono all.size_le body lawful)

/-- Lawful steps, one after the other, are sound. -/
theorem runSteps_sound (machine : engine.Sound law) {state : State} (sound : state.Sound law)
    (inside : Within law state.heap.size context) :
    (steps : List Step) → LawfulSteps law state.heap.size steps →
      SoundAt law engine state (runSteps context steps)
  | [], _ => by
      unfold runSteps
      exact sound_pure sound trivial
  | step :: rest, lawful => by
      unfold LawfulSteps at lawful
      unfold runSteps
      refine sound_bind (runStep_sound machine sound inside step lawful.1)
        fun progress next leads found => ?_
      have later {after : State} (ahead : state.Leads law after) :
          SoundAt law engine after (runSteps context rest) :=
        runSteps_sound machine ahead.sound (ahead.keeps inside) rest
          (LawfulSteps.mono ahead.size_le rest lawful.2)
      split
      · exact sound_pure leads.sound found
      · exact sound_bind (note_sound leads.sound _) fun _ _ noted _ => later (leads.trans noted)
      · exact later leads

end

theorem openScope_sound (sound : state.Sound law) (parent : Option ScopeId) :
    SoundAt law engine state (openScope parent) := by
  refine sound_of_change sound (fun _ => rfl) (.scopes fun scope member entry bound => ?_) trivial
  rcases Array.mem_push.mp member with old | rfl
  · exact sound.scopes scope old entry bound
  · cases bound

theorem runBody_sound (machine : engine.Sound law) (sound : state.Sound law) {body : List Step}
    {scope : ScopeId} {frame : Frame} (lawful : LawfulSteps law state.heap.size body)
    (given : Within law state.heap.size frame) :
    SoundAt law engine state (runBody body scope frame) := by
  unfold runBody
  refine sound_bind (openScope_sound sound _) fun inner next leads _ => ?_
  have inside : Within law next.heap.size ({ frame := some frame, scope := inner } : Context) :=
    leads.keeps given
  refine sound_bind (runSteps_sound machine leads.sound inside body
    (LawfulSteps.mono leads.size_le body lawful)) fun result last later found => ?_
  exact sound_pure later.sound (within_getD found trivial)

end Script

theorem Frame.run_sound (machine : engine.Sound law) (sound : state.Sound law) {frame : Frame}
    (given : Within law state.heap.size frame) (backed : state.heap.Backs frame) :
    Run.SoundAt law engine state frame.run := by
  unfold run
  have code := given.2.1.1
  cases held : frame.callable.code with
  | builtin builtin => exact Builtin.run_sound machine sound builtin given backed held
  | script body scope =>
      rw [held] at code
      exact Script.runBody_sound machine sound code given

/-- The engine of every depth is sound. -/
theorem Engine.ofDepth_sound (law : Law) (depth : Nat) : (Engine.ofDepth depth).Sound law := by
  induction depth with
  | zero => exact ⟨fun _ _ _ => trivial, fun _ _ _ => trivial⟩
  | succ depth ih =>
      exact ⟨fun sound given backed => (Frame.run_sound ih sound given backed).1,
        fun sound _ on => (Run.getFor_sound ih sound on).1⟩

end ClassLowering
