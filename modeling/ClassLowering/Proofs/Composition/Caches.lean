import ClassLowering.Proofs.Composition.Relations

/-!
# Kept answers

A realm keeps its answers to three questions about the host. Every composed run only fills in answers,
whatever it runs; and a run that does not come to ask a question, at any depth of calls, leaves its
answer as it was.
-/

namespace ClassLowering

/-- A question about the host whose answer a realm keeps. -/
inductive RealmQuestion where
  /-- How are prototype links read? -/
  | readsLinks
  /-- How are prototype links written? -/
  | writesLinks
  /-- Does the host construct natively for a new target? -/
  | constructsNatively
  deriving DecidableEq, Repr

namespace RealmQuestion

/-- The answers to a question. -/
@[reducible] def Answer : RealmQuestion → Type
  | .readsLinks | .writesLinks => PrototypeStrategy
  | .constructsNatively => Bool

/-- Asks a question. -/
def ask : (question : RealmQuestion) → Run question.Answer
  | .readsLinks => Run.lookupStrategy
  | .writesLinks => Run.writerStrategy
  | .constructsNatively => Run.hasNativeConstruct

end RealmQuestion

namespace Caches

/-- The answer that is kept for a question, if any. -/
def answer? (caches : Caches) : (question : RealmQuestion) → Option question.Answer
  | .readsLinks => caches.lookup
  | .writesLinks => caches.writer
  | .constructsNatively => caches.nativeConstruct

theorem FilledTo.trans {first middle last : Caches} (before : first.FilledTo middle)
    (after : middle.FilledTo last) : first.FilledTo last where
  lookup answer kept := after.lookup answer (before.lookup answer kept)
  writer answer kept := after.writer answer (before.writer answer kept)
  nativeConstruct answer kept := after.nativeConstruct answer (before.nativeConstruct answer kept)

theorem FilledTo.answer?_eq {before after : Caches} (filled : before.FilledTo after)
    {question : RealmQuestion} {answer : question.Answer} (kept : before.answer? question = some answer) :
    after.answer? question = some answer := by
  cases question with
  | readsLinks => exact filled.lookup answer kept
  | writesLinks => exact filled.writer answer kept
  | constructsNatively => exact filled.nativeConstruct answer kept

end Caches

/-- Everything that a realm knew is known. -/
def State.KeepsAnswers (state after : State) : Prop := state.caches.FilledTo after.caches

instance : IsTrans State State.KeepsAnswers := ⟨fun _ _ _ => Caches.FilledTo.trans⟩

/-- The answer to a question, or that there is none, is what it was. -/
def State.SameAnswer (question : RealmQuestion) (state after : State) : Prop :=
  after.caches.answer? question = state.caches.answer? question

instance (question : RealmQuestion) : IsTrans State (State.SameAnswer question) :=
  ⟨fun _ _ _ before after => Eq.trans after before⟩

namespace RealmQuestion

variable {question : RealmQuestion} {engine : Engine} {before after state : State}
  {answer : question.Answer}

theorem keepNativeConstruct_answer {found result : Bool}
    (ran : Run.keepNativeConstruct found engine before = .done result after) :
    after.caches.nativeConstruct = some result := by
  cases ran
  rfl

/-- The answer to a question is kept. -/
theorem kept_of_asked (asked : question.ask engine before = .done answer after) :
    after.caches.answer? question = some answer := by
  cases question with
  | readsLinks | writesLinks =>
      cases asked
      rfl
  | constructsNatively =>
      change Run.hasNativeConstruct engine before = _ at asked
      unfold Run.hasNativeConstruct at asked
      obtain ⟨_, middle, looked, remaining⟩ := Run.done_of_bind asked
      cases looked
      cases known : before.caches.nativeConstruct with
      | some found =>
          rw [known] at remaining
          cases remaining
          exact known
      | none =>
          rw [known] at remaining
          obtain ⟨outcome, _, _, ended⟩ := Run.done_of_bind remaining
          cases outcome with
          | ok found => exact keepNativeConstruct_answer ended
          | error failure => exact keepNativeConstruct_answer ended

/-- Where there is an answer, asking gives it and changes nothing. -/
theorem asked_of_kept (kept : state.caches.answer? question = some answer) :
    question.ask engine state = .done answer state := by
  obtain ⟨heap, ⟨lookup, writer, nativeConstruct⟩, symbolCount, scopes, journal⟩ := state
  cases question <;> (cases kept; rfl)

end RealmQuestion

namespace Run

variable {α β : Type} {engine : Engine}

/-! ## Answers are only filled in -/

/-- Whatever a run leads to, no answer is lost. -/
def Fills (run : Run α) (engine : Engine) : Prop :=
  ∀ state, (run engine state).All state.KeepsAnswers

theorem Direct.fills {run : Run α} (blind : run.Direct) : run.Fills engine := by
  intro state
  have same := blind.caches_eq engine state
  revert same
  cases run engine state with
  | done result after | failed failure after =>
      intro same
      change state.caches.FilledTo after.caches
      rw [same]
      exact .refl _
  | exhausted => exact id

end Run

/-- What only fills in answers loses none. -/
theorem State.keepsAnswers_carried : State.Carried State.KeepsAnswers where
  direct blind _ _ := blind.fills
  answers _ _ filled := filled

theorem Run.keepNativeConstruct_fills {engine : Engine} (found : Bool) :
    (keepNativeConstruct found).Fills engine :=
  keepNativeConstruct_respects State.keepsAnswers_carried found

/-- No composed run loses an answer. -/
theorem Run.Composed.fills_ofDepth {α : Type} {run : Run α} (composed : Composed false run)
    (depth : Nat) : run.Fills (Engine.ofDepth depth) :=
  composed.respects_ofDepth State.keepsAnswers_carried depth

/-! ## Runs that do not ask -/

namespace Run

/-- A run goes through without a question, on the engine of a depth and from a state: none of the parts
that it runs, at any depth of calls, is the question. -/
inductive Unasked (question : RealmQuestion) : Nat → {α : Type} → Run α → State → Prop
  | direct {depth : Nat} {α : Type} {run : Run α} {state : State} (blind : run.Direct) :
      Unasked question depth run state
  | state {depth : Nat} {state : State} : Unasked question depth Run.state state
  | depth {depth : Nat} {state : State} : Unasked question depth Run.depth state
  | bind {depth : Nat} {α β : Type} {first : Run α} {rest : α → Run β} {state : State}
      (before : Unasked question depth first state)
      (after : ∀ result middle, first (Engine.ofDepth depth) state = .done result middle →
        Unasked question depth (rest result) middle) : Unasked question depth (first >>= rest) state
  | attempt {depth : Nat} {α : Type} {run : Run α} {state : State}
      (inner : Unasked question depth run state) : Unasked question depth (attempt run) state
  | invoke {depth : Nat} {frame : Frame} {state : State}
      (inner : ∀ less, depth = less + 1 → Unasked question less frame.run state) :
      Unasked question depth (invoke frame) state
  | read {depth : Nat} {id : ObjectId} {key : PropertyKey} {receiver : Value} {state : State}
      (inner : ∀ less, depth = less + 1 → Unasked question less (getFor id key receiver) state) :
      Unasked question depth (read id key receiver) state
  | lookupStrategy {depth : Nat} {state : State} (other : question ≠ .readsLinks) :
      Unasked question depth lookupStrategy state
  | writerStrategy {depth : Nat} {state : State} (other : question ≠ .writesLinks) :
      Unasked question depth writerStrategy state
  | keepNativeConstruct {depth : Nat} {found : Bool} {state : State}
      (other : question ≠ .constructsNatively) :
      Unasked question depth (keepNativeConstruct found) state

variable {α : Type} {run : Run α} {question : RealmQuestion} {depth : Nat} {state last : State}

theorem Direct.sameAnswer (blind : run.Direct) :
    (run (Engine.ofDepth depth) state).All (state.SameAnswer question) := by
  have same := blind.caches_eq (Engine.ofDepth depth) state
  revert same
  cases run (Engine.ofDepth depth) state with
  | done result after | failed failure after => exact congrArg (Caches.answer? · question)
  | exhausted => exact id

/-- A run that goes through without a question leaves its answer, or the lack of one, as it was. -/
theorem Unasked.sameAnswer (unasked : Unasked question depth run state) :
    (run (Engine.ofDepth depth) state).All (state.SameAnswer question) := by
  induction unasked with
  | direct blind => exact blind.sameAnswer
  | state | depth => exact Eq.refl _
  | bind _ _ before after => exact all_bind before fun result middle ran _ => after result middle ran
  | attempt _ inner => exact all_attempt inner
  | @invoke depth frame state _ inner =>
      cases depth with
      | zero => trivial
      | succ less => exact inner less rfl
  | @read depth id key receiver state _ inner =>
      cases depth with
      | zero => trivial
      | succ less => exact inner less rfl
  | lookupStrategy other =>
      cases question with
      | readsLinks => exact absurd rfl other
      | writesLinks | constructsNatively => exact Eq.refl _
  | writerStrategy other =>
      cases question with
      | writesLinks => exact absurd rfl other
      | readsLinks | constructsNatively => exact Eq.refl _
  | keepNativeConstruct other =>
      cases question with
      | constructsNatively => exact absurd rfl other
      | readsLinks | writesLinks => exact Eq.refl _

/-- A run that leaves a question without an answer goes through without it. -/
def Avoids (question : RealmQuestion) (run : Run α) (depth : Nat) : Prop :=
  ∀ state last, (run (Engine.ofDepth depth) state).Leaves last →
    last.caches.answer? question = none → Unasked question depth run state

theorem answer?_of_keepsAnswers {middle : State} (keeps : middle.KeepsAnswers last)
    (missing : last.caches.answer? question = none) : middle.caches.answer? question = none := by
  by_contra known
  obtain ⟨answer, kept⟩ := Option.ne_none_iff_exists'.mp known
  rw [keeps.answer?_eq kept] at missing
  cases missing

theorem Avoids.bind {β : Type} {first : Run α} {rest : α → Run β}
    (before : first.Avoids question depth) (after : ∀ result, (rest result).Avoids question depth)
    (fills : ∀ result, (rest result).Fills (Engine.ofDepth depth)) :
    (first >>= rest).Avoids question depth := by
  intro state last leaves missing
  rw [bind_apply] at leaves
  cases began : first (Engine.ofDepth depth) state with
  | done result middle =>
      rw [began] at leaves
      have earlier := answer?_of_keepsAnswers ((fills result middle).of_leaves leaves) missing
      refine .bind (before state middle (Outcome.leaves_of_done began) earlier)
        fun other next ran => ?_
      obtain ⟨rfl, rfl⟩ := Outcome.done.inj (began.symm.trans ran)
      exact after result middle last leaves missing
  | failed failure middle =>
      rw [began] at leaves
      refine .bind (before state last (began ▸ leaves) missing) fun other next ran => ?_
      rw [began] at ran
      cases ran
  | exhausted =>
      rw [began] at leaves
      exact leaves.elim

theorem Avoids.attempt (inner : run.Avoids question depth) :
    (attempt run).Avoids question depth := by
  intro state last leaves missing
  refine .attempt (inner state last ?_ missing)
  unfold Run.attempt at leaves
  revert leaves
  cases run (Engine.ofDepth depth) state <;> exact id

theorem Direct.avoids (blind : run.Direct) : run.Avoids question depth :=
  fun _ _ _ _ => .direct blind

theorem keepNativeConstruct_avoids (found : Bool) :
    (keepNativeConstruct found).Avoids question depth := by
  intro state last leaves missing
  refine .keepNativeConstruct ?_
  rintro rfl
  cases leaves
  cases missing

theorem hasNativeConstruct_avoids (detecting : detectNativeConstruct.Avoids question depth) :
    hasNativeConstruct.Avoids question depth := by
  intro state last leaves missing
  refine .bind .state fun seen middle looked => ?_
  cases looked
  unfold hasNativeConstruct at leaves
  rw [bind_apply, Run.state] at leaves
  dsimp only at leaves
  revert leaves
  cases state.caches.nativeConstruct with
  | some answer => exact fun _ => .direct (direct_pure _)
  | none =>
      intro leaves
      refine (detecting.attempt.bind (fun outcome => ?_) fun outcome => ?_) state last leaves missing
      · cases outcome with
        | ok found => exact keepNativeConstruct_avoids found
        | error failure => exact keepNativeConstruct_avoids false
      · cases outcome with
        | ok found => exact keepNativeConstruct_fills found
        | error failure => exact keepNativeConstruct_fills false

/-- On an engine whose calls and reads avoid a question that they leave unanswered, every composed run
does. -/
theorem Composed.avoids_of (composed : Composed false run)
    (calls : ∀ frame, (Run.invoke frame).Avoids question depth)
    (reads : ∀ id key receiver, (Run.read id key receiver).Avoids question depth) :
    run.Avoids question depth := by
  induction composed with
  | direct blind _ => exact blind.avoids
  | bind _ later before after =>
      exact before.bind after fun result => (later result).fills_ofDepth depth
  | attempt _ inner => exact inner.attempt
  | view _ _ after =>
      intro state last leaves missing
      refine .bind .state fun seen middle looked => ?_
      cases looked
      exact after state state last leaves missing
  | search _ _ after =>
      intro state last leaves missing
      refine .bind .depth fun seen middle looked => ?_
      cases looked
      exact after _ state last leaves missing
  | @function _ value rest _ _ missing found =>
      intro state last leaves unanswered
      refine .bind (.direct ⟨fun _ _ _ => rfl, fun _ _ _ => rfl⟩) fun seen middle looked => ?_
      cases looked
      rw [bind_apply, ask] at leaves
      dsimp only at leaves ⊢
      generalize state.heap.function? value = called at leaves ⊢
      cases called with
      | none => exact missing state last leaves unanswered
      | some pair =>
          exact found pair.1 pair.2 Bool.noConfusion state last leaves unanswered
  | invoke _ => exact calls _
  | read id key receiver => exact reads id key receiver
  | lookupStrategy =>
      intro state last leaves missing
      refine .lookupStrategy ?_
      rintro rfl
      cases leaves
      cases missing
  | writerStrategy =>
      intro state last leaves missing
      refine .writerStrategy ?_
      rintro rfl
      cases leaves
      cases missing
  | hasNativeConstruct _ detecting => exact hasNativeConstruct_avoids detecting
  | definitions target _ _ before =>
      exact before.bind (fun _ => (direct_defineEach target _).avoids)
        fun _ => (direct_defineEach target _).fills

/-- A composed run that leaves a question without an answer has gone through without it. -/
theorem Composed.avoids (composed : Composed false run) : run.Avoids question depth := by
  induction depth generalizing α with
  | zero => exact composed.avoids_of (fun _ _ _ leaves => leaves.elim) fun _ _ _ _ _ leaves => leaves.elim
  | succ depth ih =>
      refine composed.avoids_of (fun frame state last leaves missing => .invoke fun less same => ?_)
        fun id key receiver state last leaves missing => .read fun less same => ?_
      · cases same
        exact ih (Frame.run_composed Bool.noConfusion) state last leaves missing
      · cases same
        exact ih (getFor_composed receiver) state last leaves missing

end Run

end ClassLowering
