import ClassLowering.Builtin.Helper
import ClassLowering.Run.Construct
import ClassLowering.Script.Scope

/-!
# Operations on values, and operations that make them
-/

namespace ClassLowering.Script

open Run

/-- The sum of two numbers; any other two values are joined as texts. -/
def sum (heap : Heap) (first second : Value) : Value :=
  match first, second with
  | .number x, .number y => .number (x + y)
  | _, _ => .string (heap.text first ++ heap.text second)

namespace ValueOperation

/-- The reply of an operation on values. It depends on the heap alone. -/
def reply (operation : ValueOperation) (heap : Heap) (values : List Value) : Reply :=
  let first := operandAt values 0
  match operation with
  | .itself => .value first
  | .add => .value (sum heap first (operandAt values 1))
  | .typeOf => .value (.string (heap.typeOf first))
  | .text => .value (.string (heap.text first))
  | .isTruthy => .truth first.isTruthy
  | .same => .truth (first.same (operandAt values 1))
  | .isCallable => .truth (heap.isCallable first)
  | .isConstructor => .truth (heap.isConstructor first)
  | .isNullish => .truth first.isNullish
  | .isError => .truth (heap.isError first)
  | .key =>
      let key := heap.key first
      .report (.record [("text", .text key.text), ("value", .value key.toValue)])
  | .inspect => .report (.text (heap.inspect first))

/-- Performs an operation on values. -/
def perform (operation : ValueOperation) (values : List Value) : Run Reply :=
  ask fun heap => operation.reply heap values

end ValueOperation

namespace CreationOperation

/-- A new symbol. -/
def newSymbol (description : Option String) : Run Symbol := fun _ state =>
  .done { serial := state.symbolCount, description }
    { state with symbolCount := state.symbolCount + 1 }

/-- Which helpers are marked: their names, and an answer for every helper. -/
def helperReport (marked : List Helper) : Report Value :=
  .record
    [("used", .list ((Helper.inOrder marked).map fun helper => .text helper.name)),
      ("is_used", .list (Helper.all.map fun helper => .flag (decide (helper ∈ marked))))]

/-- The prototype that a new object is asked to have, `Object.prototype` where none is named. -/
def requestedPrototype (values : List Value) : Run (Option ObjectId) :=
  if values.isEmpty then pure (some Intrinsic.objectPrototype.id) else linkAt values 0

/-- Performs an operation that makes a value or reaches one of the realm. -/
def perform (operation : CreationOperation) (values : List Value) : Run Reply := do
  match operation with
  | .symbol description => return .value (.symbol (← newSymbol description))
  | .object => return .value (.object (← build (.object (← requestedPrototype values))))
  | .array => return .value (.object (← build (.list values)))
  | .error errorClass message => return .value (.object (← build (.error errorClass message)))
  | .global => return .value (.object Intrinsic.global.id)
  | .globalProperty name => return .value (← getGlobal name)
  | .defineGlobal name =>
      build (.defineGlobal name (operandAt values 0))
      return .nothing
  | .intrinsic named => return .value (.object named.id)
  | .installHelpers marked =>
      build (.installHelpers marked)
      return .report (helperReport marked)

end CreationOperation

end ClassLowering.Script
