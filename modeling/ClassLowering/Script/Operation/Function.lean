import ClassLowering.Builtin.Helper
import ClassLowering.Run.Construct
import ClassLowering.Script.Scope

/-!
# Operations on prototype links and functions
-/

namespace ClassLowering.Script

open Run

namespace PrototypeOperation

/-- Performs an operation on prototype links. -/
def perform (operation : PrototypeOperation) (values : List Value) : Run Reply := do
  match operation with
  | .rawPrototype =>
      let id ← objectAt values 0
      match ← ask (·.prototypeOf id) with
      | some prototype => return .report (.value (.object prototype))
      | none => return .report .null
  | .setRawPrototype =>
      let id ← objectAt values 0
      return .truth (← setPrototype id (← linkAt values 1))
  | .prototypeOfValue => return .value (← Run.prototypeOfValue (operandAt values 0))
  | .getPrototypeOf => return .value (← Run.getPrototypeOf (operandAt values 0))
  | .setPrototypeOf =>
      return .value (← Run.setPrototypeOf (operandAt values 0) (operandAt values 1))
  | .lookupStrategy => return .report (.text (← Run.lookupStrategy).name)
  | .writerStrategy => return .report (.text (← Run.writerStrategy).name)
  | .instanceOf => return .truth (← Run.instanceOf (operandAt values 0) (operandAt values 1))

end PrototypeOperation

namespace FunctionOperation

/-- Performs an operation on functions. -/
def perform (operation : FunctionOperation) (values : List Value) : Run Reply := do
  let first := operandAt values 0
  match operation with
  | .call => return .value (← Run.call first (operandAt values 1) (values.drop 2))
  | .construct => return .value (← Run.construct first (values.drop 1))
  | .constructAs =>
      return .value (← constructFor first (values.drop 2) (some (operandAt values 1)))
  | .createFromConstructor =>
      let constructor ← objectAt values 0
      return .value (.object (← Run.createFromConstructor constructor (← objectAt values 1)))
  | .callGlobal name => return .value (← Run.call (← getGlobal name) .undefined values)
  | .callMethod name =>
      return .value (← Run.call (← getOf first name) first (values.drop 1))

end FunctionOperation

end ClassLowering.Script
