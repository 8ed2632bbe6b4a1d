import ClassLowering.Engine

/-!
# Code that does not ask for the new target

A function can find out which constructor is being constructed by one operand alone. A body that evaluates this
operand nowhere does the same in every call, whatever is being constructed.
-/

namespace ClassLowering

open Run

namespace Script

/-! ## The operands of a step -/

/-- The operands of a descriptor. -/
def DescriptorOperands.operands (descriptor : DescriptorOperands) : List Operand :=
  descriptor.value.toList ++ descriptor.get.toList ++ descriptor.set.toList

/-- The operands of a member. -/
def MemberOperands.operands (member : MemberOperands) : List Operand :=
  member.key :: (member.value.toList ++ member.get.toList ++ member.set.toList)

/-- The operands that stand in an operation itself. -/
def Operation.operands : Operation → List Operand
  | .onProperty (.define descriptor) | .onProperty (.descriptorTo descriptor) => descriptor.operands
  | .onClass (.install members) => members.flatMap (·.operands)
  | .onClass (.createClass members statics) => (members ++ statics).flatMap (·.operands)
  | _ => []

mutual

/-- The operands that a step evaluates, those of its blocks included. The body of a function that it makes is
evaluated in calls of that function only. -/
def Step.operands : Step → List Operand
  | .perform operation operands _ => operation.operands ++ operands
  | .makeFunction _ _ captured _ => captured
  | .leave operands _ => operands
  | .choose operands whenTrue whenFalse _ =>
      operands ++ (blockOperands whenTrue ++ blockOperands whenFalse)
  | .loop _ body _ => blockOperands body

/-- The operands that the steps of a block evaluate. -/
def blockOperands : List Step → List Operand
  | [] => []
  | step :: rest => step.operands ++ blockOperands rest

end

/-! ## The same call for another new target -/

/-- The same place, in the same call for another new target. -/
def Context.retargeted (context : Context) (newTarget : Option ObjectId) : Context :=
  { context with frame := context.frame.map ({ · with newTarget }) }

variable {context : Context} {newTarget : Option ObjectId} {state : State}

theorem Operand.evaluate_retargeted {operand : Operand} (other : operand ≠ .newTarget) :
    operand.evaluate (context.retargeted newTarget) state = operand.evaluate context state := by
  obtain ⟨frame, scope⟩ := context
  cases operand with
  | newTarget => exact absurd rfl other
  | _ => cases frame <;> rfl

theorem Operand.evaluateAll_retargeted {operands : List Operand} (omits : .newTarget ∉ operands) :
    evaluateAll (context.retargeted newTarget) state operands = evaluateAll context state operands := by
  rw [evaluateAll, evaluateAll, List.flatMap_def, List.flatMap_def]
  apply congrArg List.flatten
  apply List.map_congr_left
  intro operand member
  have other : operand ≠ .newTarget := fun same => omits (same ▸ member)
  cases operand with
  | spread => obtain ⟨_ | frame, scope⟩ := context <;> rfl
  | _ => exact congrArg ([·]) (evaluate_retargeted other)

/-- An operand that may be missing. -/
theorem Operand.map_evaluate_retargeted {operand : Option Operand} (omits : .newTarget ∉ operand.toList) :
    operand.map (·.evaluate (context.retargeted newTarget) state) = operand.map (·.evaluate context state) := by
  cases operand with
  | none => rfl
  | some operand =>
      have other : operand ≠ .newTarget := fun same => omits (by simp [same])
      exact congrArg some (evaluate_retargeted other)

theorem DescriptorOperands.evaluate_retargeted {descriptor : DescriptorOperands}
    (omits : .newTarget ∉ descriptor.operands) :
    descriptor.evaluate (context.retargeted newTarget) state = descriptor.evaluate context state := by
  simp only [operands, List.mem_append, not_or] at omits
  obtain ⟨⟨value, get⟩, set⟩ := omits
  simp only [evaluate, Operand.map_evaluate_retargeted value, Operand.map_evaluate_retargeted get,
    Operand.map_evaluate_retargeted set]

theorem MemberOperands.evaluate_retargeted {member : MemberOperands}
    (omits : .newTarget ∉ member.operands) :
    member.evaluate (context.retargeted newTarget) state = member.evaluate context state := by
  simp only [operands, List.mem_cons, List.mem_append, not_or] at omits
  obtain ⟨key, ⟨value, get⟩, set⟩ := omits
  simp only [evaluate, Operand.evaluate_retargeted (Ne.symm key), Operand.map_evaluate_retargeted value,
    Operand.map_evaluate_retargeted get, Operand.map_evaluate_retargeted set]

theorem ClassOperation.evaluateMembers_retargeted {members : List MemberOperands}
    (omits : .newTarget ∉ members.flatMap (·.operands)) :
    evaluateMembers (context.retargeted newTarget) members = evaluateMembers context members := by
  funext engine state
  apply congrArg (Outcome.done · state)
  apply List.map_congr_left
  intro member there
  apply MemberOperands.evaluate_retargeted
  intro named
  exact omits (List.mem_flatMap.mpr ⟨member, there, named⟩)

/-- Only operations with operands of their own depend on where they are performed. -/
theorem Operation.perform_retargeted {operation : Operation} (omits : .newTarget ∉ operation.operands)
    (values : List Value) :
    operation.perform (context.retargeted newTarget) values = operation.perform context values := by
  cases operation with
  | onProperty operation =>
      cases operation with
      | define descriptor | descriptorTo descriptor =>
          have omits : .newTarget ∉ descriptor.operands := omits
          simp only [perform, PropertyOperation.perform, DescriptorOperands.evaluate_retargeted omits]
      | _ => rfl
  | onClass operation =>
      cases operation with
      | install members =>
          have omits : .newTarget ∉ members.flatMap (·.operands) := omits
          simp only [perform, ClassOperation.perform, ClassOperation.evaluateMembers_retargeted omits]
      | createClass members statics =>
          simp only [operands, List.flatMap_append, List.mem_append, not_or] at omits
          simp only [perform, ClassOperation.perform, ClassOperation.evaluateMembers_retargeted omits.1,
            ClassOperation.evaluateMembers_retargeted omits.2]
      | _ => rfl
  | _ => rfl

/-- The variables of a step are those of its scope, whatever its call is for. -/
theorem settle_retargeted (targets : Targets) (run : Run Progress) :
    settle (context.retargeted newTarget) targets run = settle context targets run := rfl

-- The induction is on the script. Bodies of functions that it makes are not entered: their calls have frames of
-- their own.

mutual

theorem runStep_retargeted (context : Context) (newTarget : Option ObjectId) :
    (step : Step) → .newTarget ∉ step.operands →
      runStep (context.retargeted newTarget) step = runStep context step
  | .perform operation operands targets, omits => by
      simp only [Step.operands, List.mem_append, not_or] at omits
      simp only [runStep, settle_retargeted, Operand.evaluateAll_retargeted omits.2,
        Operation.perform_retargeted omits.1]
  | .makeFunction outline body captured targets, omits => by
      have omits : .newTarget ∉ captured := omits
      simp only [runStep, settle_retargeted, Operand.evaluateAll_retargeted omits]
      rfl
  | .leave operands targets, omits => by
      have omits : .newTarget ∉ operands := omits
      simp only [runStep, settle_retargeted, Operand.evaluateAll_retargeted omits]
  | .choose operands whenTrue whenFalse targets, omits => by
      simp only [Step.operands, List.mem_append, not_or] at omits
      simp only [runStep, settle_retargeted, Operand.evaluateAll_retargeted omits.1,
        runSteps_retargeted context newTarget whenTrue omits.2.1,
        runSteps_retargeted context newTarget whenFalse omits.2.2]
  | .loop count body targets, omits => by
      simp only [runStep, settle_retargeted, runSteps_retargeted context newTarget body omits]
      rfl

/-- Steps that do not evaluate the new target run the same way for every new target. -/
theorem runSteps_retargeted (context : Context) (newTarget : Option ObjectId) :
    (steps : List Step) → .newTarget ∉ blockOperands steps →
      runSteps (context.retargeted newTarget) steps = runSteps context steps
  | [], _ => by simp only [runSteps]
  | step :: rest, omits => by
      simp only [blockOperands, List.mem_append, not_or] at omits
      simp only [runSteps, runStep_retargeted context newTarget step omits.1,
        runSteps_retargeted context newTarget rest omits.2]

end

end Script

/-- A function does the same in every call, whatever is being constructed. -/
def Callable.IgnoresNewTarget (callable : Callable) : Prop :=
  ∀ (frame : Frame) (newTarget : Option ObjectId) (depth : Nat) (state : State),
    frame.callable = callable →
      { frame with newTarget }.run (Engine.ofDepth depth) state =
        frame.run (Engine.ofDepth depth) state

/-- The functions of the host that ask whether they are constructed. -/
def Builtin.asksForNewTarget : Builtin → Bool
  | .objectConstructor | .errorConstructor | .booleanConstructor | .proxyConstructor => true
  | _ => false

/-- Whether code asks for the new target. -/
def Code.asksForNewTarget : Code → Bool
  | .builtin function => function.asksForNewTarget
  | .script body _ => (Script.blockOperands body).contains .newTarget

/-- Code that does not ask for the new target ignores it. -/
theorem Callable.ignoresNewTarget_of_code {callable : Callable}
    (asks : callable.code.asksForNewTarget = false) : callable.IgnoresNewTarget := by
  intro frame newTarget depth state same
  rw [← same] at asks
  cases code : frame.callable.code with
  | builtin builtin =>
      rw [code] at asks
      simp only [Frame.run, code]
      cases builtin with
      | objectConstructor | errorConstructor | booleanConstructor | proxyConstructor => cases asks
      | _ => rfl
  | script body scope =>
      have omits : .newTarget ∉ Script.blockOperands body := by
        simpa [code, Code.asksForNewTarget] using asks
      have steps (inner : ScopeId) :
          Script.runSteps { frame := some { frame with newTarget }, scope := inner } body =
            Script.runSteps { frame := some frame, scope := inner } body :=
        Script.runSteps_retargeted { frame := some frame, scope := inner } newTarget body omits
      simp only [Frame.run, code, Script.runBody, steps]

end ClassLowering
