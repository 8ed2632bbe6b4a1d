import ClassLowering.Builtin.Object

/-!
# The global `Reflect`

Both kinds of `construct`, the native one and the one of a library, and the other functions.
-/

namespace ClassLowering.Builtin

open Run

/-- The operands of `construct`: the constructor, the arguments, and the new target. -/
def constructOperands (frame : Frame) : Run (Value × List Value × Value) := do
  let target := frame.argument 0
  let _ ← constructible target
  let newTarget := if 2 < frame.arguments.length then frame.argument 2 else target
  let _ ← constructible newTarget
  return (target, ← elementsOf (frame.argument 1), newTarget)
where
  constructible (value : Value) : Run Unit := do
    if ← ask (·.isConstructor value) then return ()
    else raise (.notAConstructor (← textOf value))

/-- The native `Reflect.construct`. -/
def runReflectConstruct (frame : Frame) : Run Value := do
  let (target, arguments, newTarget) ← constructOperands frame
  constructFor target arguments (some newTarget)

/-- The prototype object for the instances of a new target. -/
def prototypeForTarget (newTarget : Value) : Run ObjectId :=
  match newTarget with
  | .object id => instancePrototype id Intrinsic.objectPrototype.id
  | _ => pure Intrinsic.objectPrototype.id

/-- The imitated `Reflect.construct`: it calls the target on an object made for the new target, so
that constructors of the host find no object of their own kind. -/
def runReflectConstructPolyfill (frame : Frame) : Run Value := do
  let (target, arguments, newTarget) ← constructOperands frame
  let created ← build (.object (some (← prototypeForTarget newTarget)))
  let result ← call target (.object created) arguments
  return resultOr created result

/-- `Reflect.apply`. -/
def runReflectApply (frame : Frame) : Run Value := do
  let target := frame.argument 0
  if ← ask (·.isCallable target) then
    let arguments ← elementsOf (frame.argument 2)
    call target (frame.argument 1) arguments
  else raise .reflectApplyNotCallable

/-- The object that a function of `Reflect` works on. -/
def reflectTarget (frame : Frame) (method : String) : Run ObjectId :=
  match frame.argument 0 with
  | .object id => pure id
  | _ => raise (.reflectOnNonObject method)

/-- `Reflect.getPrototypeOf`. -/
def runReflectGetPrototypeOf (frame : Frame) : Run Value := do
  let id ← reflectTarget frame "getPrototypeOf"
  return .ofObject? (← ask (·.prototypeOf id))

/-- `Reflect.setPrototypeOf`: a refusal is an answer. -/
def runReflectSetPrototypeOf (frame : Frame) : Run Value := do
  let id ← reflectTarget frame "setPrototypeOf"
  let prototype ← prototypeArgument (frame.argument 1)
  return .boolean (← setPrototype id prototype)

/-- `Reflect.ownKeys`. -/
def runReflectOwnKeys (frame : Frame) : Run Value := do
  let id ← reflectTarget frame "ownKeys"
  let keys ← ask fun heap => (heap.object id).properties.orderedKeys
  return .object (← build (.list (keys.map PropertyKey.toValue)))

end ClassLowering.Builtin
