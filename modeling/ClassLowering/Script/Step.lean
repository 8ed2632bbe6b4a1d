import ClassLowering.Script.Operation.Class
import ClassLowering.Script.Operation.Function
import ClassLowering.Script.Operation.Value

/-!
# Running steps

A step gives a reply or leaves the body it stands in. Its variables are assigned here: the result on
success, and the value of the failure where the step catches one.
-/

namespace ClassLowering.Script

open Run

/-- Performs an operation on the values of its operands. -/
def Operation.perform (operation : Operation) (context : Context) (values : List Value) :
    Run Reply := do
  match operation with
  | .throwValue => fail (.thrown (operandAt values 0))
  | .raise kind message => Run.raise (.raised kind message)
  | .log =>
      note (.logged values)
      return .nothing
  | .onValue operation => operation.perform values
  | .create operation => operation.perform values
  | .onProperty operation => operation.perform context values
  | .onPrototype operation => operation.perform values
  | .onFunction operation => operation.perform values
  | .onClass operation => operation.perform context values

/-- What a step leads to. -/
inductive Progress where
  | next (reply : Reply)
  /-- The running body ends with a value. -/
  | left (value : Value)

/-- The end of a block: it went through, or it left the body with a value. -/
def Progress.ofBlock : Option Value → Progress
  | some value => .left value
  | none => .next .nothing

/-- Assigns a variable of the scope of a step. -/
def store (context : Context) (name : Option String) (value : Value) : Run Unit :=
  match name with
  | some name => modify (·.assign context.scope name value)
  | none => pure ()

/-- Assigns the variables of a step once it has run. -/
def settle (context : Context) (targets : Targets) (run : Run Progress) : Run Progress := do
  match ← attempt run with
  | .ok progress =>
      match progress with
      | .next (.value value) | .left value => store context targets.result value
      | .next (.report _) => pure ()
      return progress
  | .error failure =>
      match targets.failure with
      | some name =>
          let value ← build failure.value
          store context (some name) value
          return .next (.report (.record [("caught", .value value)]))
      | none => fail failure

/-- Runs rounds, counted from a first one on, until one leaves the body. -/
def roundsFrom (round : Nat → Run (Option Value)) (first : Nat) : Nat → Run (Option Value)
  | 0 => return none
  | count + 1 => do
      match ← round first with
      | some value => return some value
      | none => roundsFrom round (first + 1) count

mutual

/-- Runs a step. -/
def runStep (context : Context) (step : Step) : Run Progress :=
  match step with
  | .perform operation operands targets =>
      settle context targets do
        let values := Operand.evaluateAll context (← state) operands
        return .next (← operation.perform context values)
  | .makeFunction outline body captured targets =>
      settle context targets do
        let captured := Operand.evaluateAll context (← state) captured
        let callable : Callable :=
          { name := outline.name, kind := outline.kind, code := .script body context.scope, captured }
        return .next (.value (.object (← build (.function callable outline.length))))
  | .leave operands targets =>
      settle context targets do
        return .left (operandAt (Operand.evaluateAll context (← state) operands) 0)
  | .choose operands whenTrue whenFalse targets =>
      settle context targets do
        let condition := operandAt (Operand.evaluateAll context (← state) operands) 0
        if condition.isTruthy then return .ofBlock (← runSteps context whenTrue)
        else return .ofBlock (← runSteps context whenFalse)
  | .loop count body targets =>
      settle context targets do
        let round (place : Nat) : Run (Option Value) := do
          store context (some "i") (.number (Number.ofNat place))
          runSteps context body
        return .ofBlock (← roundsFrom round 0 count)

/-- Runs the steps of a body or a block. The result is the value that it was left with, if it was. -/
def runSteps (context : Context) (steps : List Step) : Run (Option Value) :=
  match steps with
  | [] => pure none
  | step :: rest => do
      match ← runStep context step with
      | .left value => return some value
      | .next (.report report) => do
          note (.reported report)
          runSteps context rest
      | .next (.value _) => runSteps context rest

end

/-- Runs the body of a script function in a scope of its own. -/
def runBody (body : List Step) (scope : ScopeId) (frame : Frame) : Run Value := do
  let inner ← openScope (some scope)
  let result ← runSteps { frame := some frame, scope := inner } body
  return result.getD .undefined

end ClassLowering.Script
