import ClassLowering.Proofs.Run.Outcomes

/-!
# Runs in turn

A list of items is gone through in order: the run for each item starts where the one before left the
state, and the first that fails is the last.
-/

namespace ClassLowering.Run

variable {α β : Type} {body : α → Run β} {engine : Engine} {items : List α} {results : List β}
  {state after : State} {failure : Failure}

/-- The runs of a body for the items of a list, one after another, all have results. -/
inductive InTurn (body : α → Run β) (engine : Engine) : List α → State → List β → State → Prop
  | nil {state : State} : InTurn body engine [] state [] state
  | cons {item : α} {rest : List α} {state middle after : State} {result : β} {results : List β}
      (ran : body item engine state = .done result middle)
      (others : InTurn body engine rest middle results after) :
      InTurn body engine (item :: rest) state (result :: results) after

/-- The runs of a body for the items of a list, one after another, have results up to one that fails. -/
inductive FailsInTurn (body : α → Run β) (engine : Engine) (failure : Failure) (after : State) :
    List α → State → Prop
  | here {item : α} {rest : List α} {state : State}
      (failed : body item engine state = .failed failure after) :
      FailsInTurn body engine failure after (item :: rest) state
  | later {item : α} {rest : List α} {state middle : State} {result : β}
      (ran : body item engine state = .done result middle)
      (others : FailsInTurn body engine failure after rest middle) :
      FailsInTurn body engine failure after (item :: rest) state

/-- A list of runs has results if they all have, in turn. -/
theorem mapM_eq_done_iff :
    items.mapM body engine state = .done results after ↔
      InTurn body engine items state results after := by
  constructor
  · intro ran
    induction items generalizing state results with
    | nil =>
        cases ran
        exact .nil
    | cons item rest ih =>
        rw [List.mapM_cons] at ran
        obtain ⟨result, middle, first, ran⟩ := done_of_bind ran
        obtain ⟨others, last, listed, ended⟩ := done_of_bind ran
        cases ended
        exact .cons first (ih listed)
  · intro turns
    induction turns with
    | nil => rfl
    | cons ran _ ih =>
        rw [List.mapM_cons, bind_of_done ran, bind_of_done ih]
        rfl

/-- It fails if one of them does, when its turn comes. -/
theorem mapM_eq_failed_iff :
    items.mapM body engine state = .failed failure after ↔
      FailsInTurn body engine failure after items state := by
  constructor
  · intro ran
    induction items generalizing state with
    | nil => cases ran
    | cons item rest ih =>
        rw [List.mapM_cons] at ran
        rcases failed_of_bind ran with failed | ⟨result, middle, first, ran⟩
        · exact .here failed
        · rcases failed_of_bind ran with failed | ⟨others, last, _, ended⟩
          · exact .later first (ih failed)
          · cases ended
  · intro turns
    induction turns with
    | here failed => rw [List.mapM_cons, bind_of_failed failed]
    | later ran _ ih => rw [List.mapM_cons, bind_of_done ran, bind_of_failed ih]

/-- Runs that leave the state alone. -/
theorem InTurn.of_forall₂ (each : List.Forall₂
    (fun item result => body item engine state = .done result state) items results) :
    InTurn body engine items state results state := by
  induction each with
  | nil => exact .nil
  | cons ran _ ih => exact .cons ran ih

/-- The item that fails has its place in the list, and the runs before it have results. -/
theorem failsInTurn_iff :
    FailsInTurn body engine failure after items state ↔
      ∃ early item late results middle, items = early ++ item :: late ∧
        InTurn body engine early state results middle ∧ body item engine middle = .failed failure after := by
  constructor
  · intro turns
    induction turns with
    | here failed => exact ⟨[], _, _, [], _, rfl, .nil, failed⟩
    | later ran _ ih =>
        obtain ⟨early, item, late, results, middle, split, turns, failed⟩ := ih
        exact ⟨_ :: early, item, late, _ :: results, middle, congrArg (_ :: ·) split, .cons ran turns,
          failed⟩
  · rintro ⟨early, item, late, results, middle, rfl, turns, failed⟩
    induction turns with
    | nil => exact .here failed
    | cons ran _ ih => exact .later ran (ih failed)

end ClassLowering.Run
