import ClassLowering.Proofs.Soundness.Step

/-!
# States in the middle of runs

Where a run calls a function or reads through a proxy, a script gets to see what the run has come to, and may
change it. The states in which these calls and reads begin and end are found by withholding them: a run passes
through a state if it does not end without the calls and reads that begin or end there. Changes lead from the
beginning of a sound run to every state that it passes through, and from there to its end.
-/

namespace ClassLowering

open Bounded

variable {α β : Type} {law : Law} {engine other : Engine} {state middle after : State} {depth : Nat}

/-- A run that does not end if it begins or ends in a state. -/
noncomputable def Run.avoiding (middle : State) (run : Run α) : Run α := fun engine state =>
  open Classical in
  if state = middle ∨ (run engine state).Leaves middle then .exhausted else run engine state

/-- The engine of a depth without the calls and reads, at any depth, that begin or end in a state. -/
noncomputable def Engine.avoiding (middle : State) : Nat → Engine
  | 0 => Engine.ofDepth 0
  | depth + 1 =>
      { depth := depth + 1
        invoke := fun frame state => frame.run.avoiding middle (Engine.avoiding middle depth) state
        read := fun id key receiver state =>
          (Run.getFor id key receiver).avoiding middle (Engine.avoiding middle depth) state }

theorem Outcome.Without.avoiding [Bounded α] {run : Run α} (sound : state.Sound law)
    (ends : (run engine state).SoundFrom law state)
    (without : Outcome.Without law state middle (run engine state) (run other state)) :
    Outcome.Without law state middle (run engine state) (run.avoiding middle other state) := by
  unfold Run.avoiding
  split
  · next meets =>
    rcases without with same | ⟨_, kept⟩
    · refine .inr ⟨rfl, ?_⟩
      rcases meets with rfl | left
      · exact ⟨.refl sound, ends.all⟩
      · rw [same] at left
        have reached := ends.all.of_leaves left
        refine ⟨reached, all_of_leaves fun last leaves => ?_⟩
        rw [leaves.unique left]
        exact .refl reached.sound
    · exact .inr ⟨rfl, kept⟩
  · exact without

theorem Engine.ofDepth_withholds (law : Law) (middle : State) (depth : Nat) :
    (Engine.ofDepth depth).Withholds law middle (Engine.avoiding middle depth) := by
  induction depth with
  | zero => exact ⟨rfl, fun _ _ _ => .inl rfl, fun _ _ _ => .inl rfl⟩
  | succ depth ih =>
      have machine := Engine.ofDepth_sound law depth
      refine ⟨rfl, fun sound given backed => ?_, fun sound _ on => ?_⟩
      · obtain ⟨ends, without⟩ := Frame.run_sound machine sound given backed
        exact (without middle _ ih).avoiding sound ends
      · obtain ⟨ends, without⟩ := Run.getFor_sound machine sound on
        exact (without middle _ ih).avoiding sound ends

namespace Run

/-- On the engine of a depth, a run passes through a state: without the calls and reads that begin or end there,
it does not end. -/
def PassesThrough (run : Run α) (depth : Nat) (state middle : State) : Prop :=
  run (Engine.avoiding middle depth) state = .exhausted

/-- A sound run gets by changes to each state that it passes through, and from there to its end. -/
theorem SoundAt.leads_of_passes [Bounded α] {run : Run α}
    (sound : SoundAt law (Engine.ofDepth depth) state run)
    (passes : run.PassesThrough depth state middle)
    (leaves : (run (Engine.ofDepth depth) state).Leaves after) :
    state.Leads law middle ∧ middle.Leads law after := by
  rcases sound.2 middle _ (Engine.ofDepth_withholds law middle depth) with same | ⟨_, there, onwards⟩
  · rw [← same, passes] at leaves
    exact leaves.elim
  · exact ⟨there, onwards.of_leaves leaves⟩

theorem PassesThrough.bind {first : Run α} {rest : α → Run β}
    (passes : first.PassesThrough depth state middle) :
    (first >>= rest).PassesThrough depth state middle := bind_of_exhausted passes

/-- A call passes through the state in which it ends. -/
theorem invoke_passesThrough (sound : state.Sound law) {frame : Frame}
    (given : Within law state.heap.size frame) (backed : state.heap.Backs frame)
    (leaves : (invoke frame (Engine.ofDepth (depth + 1)) state).Leaves middle) :
    (invoke frame).PassesThrough (depth + 1) state middle := by
  have without := (Frame.run_sound (Engine.ofDepth_sound law depth) sound given backed).2 middle _
    (Engine.ofDepth_withholds law middle depth)
  change frame.run.avoiding middle (Engine.avoiding middle depth) state = .exhausted
  unfold avoiding
  split
  · rfl
  · next misses =>
    rcases without with same | ⟨endless, _⟩
    · rw [same] at misses
      exact absurd (.inr leaves) misses
    · exact endless

/-- So does a read that runs a getter. -/
theorem getFor_passesThrough (sound : state.Sound law) {id callee : ObjectId} {key : PropertyKey}
    {receiver getter : Value} {callable : Callable} (on : Within law state.heap.size receiver)
    (held : state.heap.lookup id key = some (.accessor (some getter)))
    (found : state.heap.function? getter = some (callee, callable))
    (leaves : (getFor id key receiver (Engine.ofDepth (depth + 1)) state).Leaves middle) :
    (getFor id key receiver).PassesThrough (depth + 1) state middle := by
  have calls (engine : Engine) : getFor id key receiver engine state =
      invoke { callee, callable, this := receiver } engine state :=
    (getFor_of_lookup held engine).trans (call_of_function? found receiver [] engine)
  obtain ⟨there, code⟩ := sound.heap.within_function found
  rw [PassesThrough, calls]
  rw [calls] at leaves
  exact invoke_passesThrough sound ⟨there, code, on, within_nil, by trivial⟩
    (Heap.callable?_of_function? found) leaves

end Run

end ClassLowering
