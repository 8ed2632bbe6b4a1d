import ClassLowering.Class.Inheritance
import ClassLowering.Class.Member
import ClassLowering.Class.SuperCall

/-!
# The helpers as global functions

What each run-time helper does with the arguments of its call.
-/

namespace ClassLowering.Builtin

open Run

/-- `_createClass`: both lists of members are read before anything is installed. -/
def runCreateClass (frame : Frame) : Run Value := do
  let members ← membersOf (frame.argument 1)
  let statics ← membersOf (frame.argument 2)
  createClass (frame.argument 0) members statics

/-- `_get`: without a third argument the target is the receiver. -/
def runGet (frame : Frame) : Run Value := do
  let target := frame.argument 0
  let receiver := if 2 < frame.arguments.length then frame.argument 2 else target
  let key ← ask (·.key (frame.argument 1))
  superGet target key receiver

/-- Runs a helper. -/
def runHelper (helper : Helper) (frame : Frame) : Run Value :=
  match helper with
  | .classCallCheck => do
      checkInstance (frame.argument 0) (frame.argument 1)
      return .undefined
  | .inherits => do
      linkClass (frame.argument 0) (frame.argument 1)
      return .undefined
  | .createClass => runCreateClass frame
  | .defineProperty => do
      let key ← ask (·.key (frame.argument 1))
      defineField (frame.argument 0) key (frame.argument 2)
  | .getPrototypeOf => getPrototypeOf (frame.argument 0)
  | .setPrototypeOf => setPrototypeOf (frame.argument 0) (frame.argument 1)
  | .createSuper => do
      return .object (← makeSuperCaller (frame.argument 0))
  | .possibleConstructorReturn => constructorReturn (frame.argument 0) (frame.argument 1)
  | .assertThisInitialized => assertThis (frame.argument 0)
  | .get => runGet frame
  | .typeOf => do
      return .string (← ask (·.typeOf (frame.argument 0)))
  | .isNativeReflectConstruct => do
      return .boolean (← hasNativeConstruct)

end ClassLowering.Builtin
