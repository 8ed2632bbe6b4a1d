import ClassLowering.Proofs.Composition.Caches
import ClassLowering.Proofs.Run.PrototypeLink
import ClassLowering.Proofs.Run.Steps
import ClassLowering.Session

/-!
# Answers of a realm

The first answer to a question about the host is the answer ever after, whatever scripts run in between
and whatever becomes of the globals. Prototype links and super calls keep following it, and what does not
ask leaves all answers as they are.
-/

namespace ClassLowering

open Relation

/-! ## What goes on in a realm -/

/-- What can happen in a realm in one go: a step of a script or the code of a function runs, in any
context and at any depth of calls, and ends or fails; or anything changes but the kept answers. -/
inductive State.Turns (before : State) : State → Prop
  | step {context : Script.Context} {step : Script.Step} {depth : Nat} {after : State}
      (leaves : (Script.runStep context step (Engine.ofDepth depth) before).Leaves after) :
      Turns before after
  | call {frame : Frame} {depth : Nat} {after : State}
      (leaves : (frame.run (Engine.ofDepth depth) before).Leaves after) : Turns before after
  | elsewhere {after : State} (kept : after.caches = before.caches) : Turns before after

/-- Any number of turns. -/
def State.Proceeds (before after : State) : Prop := ReflTransGen State.Turns before after

theorem State.Turns.keepsAnswers {before after : State} (turned : before.Turns after) :
    before.KeepsAnswers after := by
  cases turned with
  | step leaves =>
      exact ((Script.runStep_composed _ Bool.noConfusion).fills_ofDepth _ before).of_leaves leaves
  | call leaves =>
      exact ((Frame.run_composed Bool.noConfusion).fills_ofDepth _ before).of_leaves leaves
  | elsewhere kept =>
      change before.caches.FilledTo after.caches
      rw [kept]
      exact .refl _

theorem State.Proceeds.keepsAnswers {before after : State} (proceeds : before.Proceeds after) :
    before.KeepsAnswers after := by
  induction proceeds with
  | refl => exact Caches.FilledTo.refl _
  | tail _ turned ih => exact Caches.FilledTo.trans ih turned.keepsAnswers

/-- The steps of a session are turns of its realm. -/
theorem Session.runSteps_proceeds (scope : ScopeId) (steps : List Script.Step) (state : State)
    (labels : Script.Labels) : state.Proceeds (runSteps scope steps state labels).2 := by
  induction steps generalizing state labels with
  | nil => exact .refl
  | cons step rest ih =>
      have first : state.Proceeds (runStep scope step state labels).2.1 := by
        unfold runStep
        dsimp only
        split
        · next ran => exact .tail (.single (.step (Outcome.leaves_of_done ran))) (.elsewhere rfl)
        · next ran => exact .tail (.single (.step (Outcome.leaves_of_failed ran))) (.elsewhere rfl)
        · exact .refl
      unfold runSteps
      exact first.trans (ih _ _)

/-! ## Who follows an answer -/

namespace Run

/-- Runs a base constructor under an answer to whether the host constructs natively. -/
def runBaseBy (native : Bool) (base this : Value) (arguments : List Value) : Run Value :=
  if native then constructBase base this arguments else call base this arguments

/-- A super call under such an answer. -/
def superCallBy (native : Bool) (derived this : Value) (arguments : List Value) : Run Value := do
  let base ← getPrototypeOf derived
  constructorReturn this (← runBaseBy native base this arguments)

/-- Once the question is answered, a super call goes by the answer, although it reads the base first. -/
theorem superCall_of_kept {native : Bool} {state : State}
    (kept : state.caches.nativeConstruct = some native) (derived this : Value)
    (arguments : List Value) (depth : Nat) :
    superCall derived this arguments (Engine.ofDepth depth) state =
      superCallBy native derived this arguments (Engine.ofDepth depth) state := by
  unfold superCall superCallBy
  rw [bind_apply, bind_apply]
  have filled : (getPrototypeOf derived (Engine.ofDepth depth) state).All state.KeepsAnswers :=
    getPrototypeOf_composed.fills_ofDepth depth state
  cases read : getPrototypeOf derived (Engine.ofDepth depth) state with
  | done base next =>
      rw [read] at filled
      have known : next.caches.answer? .constructsNatively = some native :=
        filled.nativeConstruct native kept
      have still : RealmQuestion.ask .constructsNatively (Engine.ofDepth depth) next =
          .done native next := RealmQuestion.asked_of_kept known
      have ran : runBase base this arguments (Engine.ofDepth depth) next =
          runBaseBy native base this arguments (Engine.ofDepth depth) next := bind_of_done still
      dsimp only
      rw [bind_apply, bind_apply, ran]
  | failed failure next => rfl
  | exhausted => rfl

end Run

/-- The runs that a question is asked for go by an answer, whatever the globals say. -/
def RealmQuestion.Governs (state : State) : (question : RealmQuestion) → question.Answer → Prop
  | .readsLinks, strategy => ∀ engine value,
      Run.getPrototypeOf value engine state =
        Run.getPrototypeBy strategy state.heap.globalObject value engine state
  | .writesLinks, strategy => ∀ engine value prototype,
      Run.setPrototypeOf value prototype engine state =
        Run.setPrototypeBy strategy value prototype engine state
  | .constructsNatively, native => ∀ depth derived this arguments,
      Run.superCall derived this arguments (Engine.ofDepth depth) state =
        Run.superCallBy native derived this arguments (Engine.ofDepth depth) state

theorem RealmQuestion.governs_of_kept {question : RealmQuestion} {state : State}
    {answer : question.Answer} (kept : state.caches.answer? question = some answer) :
    question.Governs state answer := by
  cases question with
  | readsLinks =>
      intro engine value
      have asked : ask .readsLinks engine state = .done answer state := asked_of_kept kept
      rw [Run.getPrototypeOf, Run.ask_bind]
      exact Run.bind_of_done asked
  | writesLinks =>
      intro engine value prototype
      have asked : ask .writesLinks engine state = .done answer state := asked_of_kept kept
      exact Run.bind_of_done asked
  | constructsNatively =>
      exact fun depth derived this arguments => Run.superCall_of_kept kept derived this arguments depth

/-! ## What does not ask -/

/-- A run that goes through without any of the questions leaves all answers as they were. -/
theorem Run.caches_eq_of_unasked {α : Type} {run : Run α} {depth : Nat} {state last : State}
    (unasked : ∀ question, Unasked question depth run state)
    (leaves : (run (Engine.ofDepth depth) state).Leaves last) : last.caches = state.caches := by
  have same (question : RealmQuestion) : state.SameAnswer question last :=
    (unasked question).sameAnswer.of_leaves leaves
  have reads := same .readsLinks
  have writes := same .writesLinks
  have constructs := same .constructsNatively
  cases last with | mk _ caches _ _ _ =>
  cases caches with | mk lookup writer nativeConstruct =>
  cases reads
  cases writes
  cases constructs
  rfl

/-- From a state on, a run that goes through without any of the questions leaves all answers as they
were, and one that leaves a question without an answer has gone through without it. -/
def Run.AsksToAnswer {α : Type} (run : Run α) (depth : Nat) (state : State) : Prop :=
  ∀ last, (run (Engine.ofDepth depth) state).Leaves last →
    ((∀ question, Run.Unasked question depth run state) → last.caches = state.caches) ∧
      ∀ question, last.caches.answer? question = none → Run.Unasked question depth run state

theorem Run.Composed.asksToAnswer {α : Type} {run : Run α} (composed : Composed false run)
    (depth : Nat) (state : State) : run.AsksToAnswer depth state :=
  fun last leaves => ⟨fun unasked => caches_eq_of_unasked unasked leaves,
    fun _ missing => composed.avoids state last leaves missing⟩

/-- The first answer to a question about the host is given ever after, without a further effect, and is
followed by all that the question is asked for: however many steps and calls come in between, and whatever
becomes of the globals. Steps, and the code of functions, that go through without the questions leave all
answers as they are, and only they leave a question without an answer. -/
theorem realm_answers_kept {question : RealmQuestion} {engine : Engine} {before asked after : State}
    {answer : question.Answer} (first : question.ask engine before = .done answer asked)
    (proceeds : asked.Proceeds after) :
    (∀ other, question.ask other after = .done answer after) ∧ question.Governs after answer ∧
      (∀ context step depth state, (Script.runStep context step).AsksToAnswer depth state) ∧
      ∀ (frame : Frame) depth state, frame.run.AsksToAnswer depth state := by
  have kept : after.caches.answer? question = some answer :=
    Caches.FilledTo.answer?_eq proceeds.keepsAnswers (RealmQuestion.kept_of_asked first)
  refine ⟨fun _ => RealmQuestion.asked_of_kept kept, RealmQuestion.governs_of_kept kept,
    fun context step depth state => ?_, fun frame depth state => ?_⟩
  · exact (Script.runStep_composed step Bool.noConfusion).asksToAnswer depth state
  · exact (Frame.run_composed Bool.noConfusion).asksToAnswer depth state

/-- A step by which a host replaces the global `Object`. -/
def replacingStep : Script.Step := .perform (.create (.defineGlobal "Object")) [.value .null] {}

/-- A realm that has written links by the functions of `Object` goes on to do so after the global `Object`
has been replaced, although a fresh realm with these globals would not. -/
theorem strategy_outlives_object :
    let start := (Session.start Preset.modern.profile).state
    let asked := start.knowing { start.caches with writer := some .standard }
    let after := (Session.runSteps ⟨0⟩ [replacingStep] asked ∅).2
    RealmQuestion.writesLinks.ask (Engine.ofDepth 0) start = .done .standard asked ∧
      asked.Proceeds after ∧ after.heap.prototypeStrategy = .legacy ∧
      RealmQuestion.writesLinks.ask (Engine.ofDepth 0) after = .done .standard after ∧
      Run.setPrototypeOf .null .null (Engine.ofDepth 0) after =
        Run.setPrototypeBy .standard .null .null (Engine.ofDepth 0) after := by
  intro start asked after
  have asking : Run.writerStrategy (Engine.ofDepth 0) start = .done .standard asked :=
    Run.writerStrategy_apply (Session.start_untouched Preset.modern.profile)
  have first : RealmQuestion.writesLinks.ask (Engine.ofDepth 0) start = .done .standard asked := asking
  have proceeds : asked.Proceeds after := Session.runSteps_proceeds ⟨0⟩ [replacingStep] asked ∅
  have legacy : after.heap.prototypeStrategy = .legacy := by decide +kernel
  obtain ⟨again, governs, _⟩ := realm_answers_kept first proceeds
  exact ⟨first, proceeds, legacy, again _, governs _ _ _⟩

end ClassLowering
