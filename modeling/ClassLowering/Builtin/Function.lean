import ClassLowering.Run.Construct
import ClassLowering.Run.Record

/-!
# Functions, errors, booleans and proxies

What `Function.prototype` and `Boolean.prototype` provide, and the constructors of errors, boxed
booleans and proxies.
-/

namespace ClassLowering.Builtin

open Run

/-- `call` of `Function.prototype`. -/
def runCall (frame : Frame) : Run Value :=
  call frame.this (frame.argument 0) (frame.arguments.drop 1)

/-- The elements of a list of arguments; no list stands for no arguments. -/
def optionalElements (list : Value) : Run (List Value) := do
  if list.isNullish then return [] else elementsOf list

/-- `apply` of `Function.prototype`. -/
def runApply (frame : Frame) : Run Value := do
  call frame.this (frame.argument 0) (← optionalElements (frame.argument 1))

/-- The properties of a new error: a hidden message, unless there is none. -/
def errorProperties (message : Value) : Run Table := do
  match message with
  | .undefined => return .empty
  | message => return Table.empty.insert "message" (.hidden (.string (← textOf message)))

/-- A constructor of errors; it makes an error also when it is only called. -/
def runErrorConstructor (frame : Frame) : Run Value := do
  let target := frame.newTarget.getD frame.callee
  match ← get frame.callee "prototype" with
  | .object fallback =>
      let prototype ← instancePrototype target fallback
      let properties ← errorProperties (frame.argument 0)
      return .object
        (← build (.allocate { properties, prototype := some prototype, kind := .error }))
  | _ => raise .errorPrototypeMissing

/-- The constructor of boxed booleans; called, it gives the truth value itself. -/
def runBooleanConstructor (frame : Frame) : Run Value := do
  let truth := (frame.argument 0).isTruthy
  match frame.newTarget with
  | none => return .boolean truth
  | some target =>
      let prototype ← instancePrototype target Intrinsic.booleanPrototype.id
      return .object (← build (.boxedBoolean truth prototype))

/-- The truth value of a boolean, boxed or not. -/
def truthOf (value : Value) (method : String) : Run Bool := do
  match value with
  | .boolean truth => return truth
  | .object id =>
      match ← ask fun heap => (heap.object id).boolean? with
      | some truth => return truth
      | none => raise (.notABoolean method)
  | _ => raise (.notABoolean method)

/-- `valueOf` of `Boolean.prototype`. -/
def runBooleanValueOf (frame : Frame) : Run Value :=
  return .boolean (← truthOf frame.this "valueOf")

/-- `toString` of `Boolean.prototype`. -/
def runBooleanToString (frame : Frame) : Run Value :=
  return .string (if ← truthOf frame.this "toString" then "true" else "false")

/-- The constructor of proxies. A proxy has no prototype link of its own. -/
def runProxyConstructor (frame : Frame) : Run Value := do
  match frame.newTarget with
  | none => raise .proxyWithoutNew
  | some _ =>
      match frame.argument 0, frame.argument 1 with
      | .object target, .object handler =>
          return .object (← build (.allocate { kind := .proxy target handler }))
      | _, _ => raise .proxyOfNonObject

end ClassLowering.Builtin
