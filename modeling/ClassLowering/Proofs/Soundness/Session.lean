import ClassLowering.Proofs.Soundness.Realm

/-!
# What sessions reach

A session goes on by steps. A step is taken at top level or in a body, at any depth of calls, so that
the states between the steps of nested calls are reached as well. What is reached from a sound state is
sound, and reached by changes.
-/

namespace ClassLowering

open Bounded Relation

variable {law : Law} {before after state : State}

/-- One advance of a session. The literals of a step, and what its frame holds, are there; without raw
operations the step keeps to those that ask. -/
inductive State.Advances (law : Law) (state : State) : State → Prop
  | scope (parent : Option ScopeId) :
      Advances law state { state with scopes := state.scopes.push { parent } }
  | shown : Advances law state { state with journal := [] }
  | step {context : Script.Context} {step : Script.Step} {depth : Nat} {progress : Script.Progress}
      {next : State} (inside : Within law state.heap.size context)
      (lawful : Within law state.heap.size step)
      (ran : Script.runStep context step (Engine.ofDepth depth) state = .done progress next) :
      Advances law state next
  | failure {context : Script.Context} {step : Script.Step} {depth : Nat} {failure : Failure}
      {next : State} (inside : Within law state.heap.size context)
      (lawful : Within law state.heap.size step)
      (ran : Script.runStep context step (Engine.ofDepth depth) state = .failed failure next) :
      Advances law state next

/-- Any number of advances. -/
def State.Reaches (law : Law) (before after : State) : Prop := ReflTransGen (Advances law) before after

theorem State.Advances.leads (advanced : before.Advances law after) (sound : before.Sound law) :
    before.Leads law after := by
  cases advanced with
  | scope parent =>
      have opened : Run.SoundAt law (Engine.ofDepth 0) before (Run.openScope parent) :=
        Script.openScope_sound sound parent
      exact opened.leads rfl
  | shown => exact .single sound (.journal [])
  | @step context step depth progress _ inside lawful ran =>
      have led := Script.runStep_sound (Engine.ofDepth_sound law depth) sound inside step lawful
      exact led.leads ran
  | @failure context step depth failure _ inside lawful ran =>
      have led := Script.runStep_sound (Engine.ofDepth_sound law depth) sound inside step lawful
      exact led.leads_of_failed ran

theorem State.Reaches.leads (reached : before.Reaches law after) (sound : before.Sound law) :
    before.Leads law after := by
  induction reached with
  | refl => exact .refl sound
  | tail _ advanced ih => exact ih.trans (advanced.leads ih.sound)

/-- What a state can become, in the middle of a step as well: each change is one that the law permits. -/
def State.Becomes (law : Law) (before after : State) : Prop := ReflTransGen (Change law) before after

namespace Session

/-- A step at top level advances the state, unless it never ends. -/
theorem runStep_reaches (scope : ScopeId) {step : Script.Step} (labels : Script.Labels)
    (lawful : Within law state.heap.size step) :
    state.Reaches law (runStep scope step state labels).2.1 := by
  unfold runStep
  dsimp only
  split
  · next ran => exact .tail (.single (.step (by trivial) lawful ran)) .shown
  · next ran => exact .tail (.single (.failure (by trivial) lawful ran)) .shown
  · exact .refl

theorem runSteps_reaches (scope : ScopeId) {steps : List Script.Step} (labels : Script.Labels)
    (sound : state.Sound law) (lawful : Script.LawfulSteps law state.heap.size steps) :
    state.Reaches law (runSteps scope steps state labels).2 := by
  induction steps generalizing state labels with
  | nil => exact .refl
  | cons step rest ih =>
      unfold Script.LawfulSteps at lawful
      unfold runSteps
      have first := runStep_reaches scope labels lawful.1
      have leads := first.leads sound
      exact first.trans (ih _ leads.sound (Script.LawfulSteps.mono leads.size_le rest lawful.2))

/-- A phase goes on from where the session stood. -/
theorem runPhase_reaches (session : Session) {steps : List Script.Step}
    (sound : session.state.Sound law)
    (lawful : Script.LawfulSteps law session.state.heap.size steps) :
    session.state.Reaches law (session.runPhase steps).2.state := by
  have opened : session.state.Advances law
      { session.state with scopes := session.state.scopes.push {} } := .scope none
  exact .head opened (runSteps_reaches _ _ (opened.leads sound).sound lawful)

/-- The first phase of a session. -/
theorem start_reaches (profile : Profile) {steps : List Script.Step}
    (lawful : Script.LawfulSteps law (start profile).state.heap.size steps) :
    (start profile).state.Reaches law
      (runSteps ⟨0⟩ steps { (start profile).state with scopes := #[{}] } ∅).2 :=
  runPhase_reaches (start profile) (start_sound law profile) lawful

/-- The first phase of a session with helpers. -/
theorem prepared_reaches (profile : Profile) (marked : List Helper) {steps : List Script.Step}
    (lawful : Script.LawfulSteps law (prepared profile marked).heap.size steps) :
    (prepared profile marked).Reaches law
      (runSteps ⟨0⟩ steps { prepared profile marked with scopes := #[{}] } ∅).2 :=
  runPhase_reaches { profile, state := prepared profile marked } (prepared_sound law profile marked) lawful

/-- The states of a session, those in the middle of its steps included, are sound. -/
theorem sound_of_reaches {profile : Profile} {marked : List Helper}
    (reached : (prepared profile marked).Reaches law before) (during : before.Becomes law after) :
    after.Sound law :=
  State.sound_of_changes during (reached.leads (prepared_sound law profile marked)).sound

end Session

end ClassLowering
