import ClassLowering.Run.Construct
import ClassLowering.Run.Record

/-!
# The global `Object`

The constructor `Object`, its functions, and what `Object.prototype` provides.
-/

namespace ClassLowering.Builtin

open Run

/-- An object or `null`, as a prototype link. -/
def prototypeArgument (value : Value) : Run (Option ObjectId) := do
  match value with
  | .object id => return some id
  | .null => return none
  | other => raise (.invalidPrototype (← textOf other))

/-- Makes an object for a foreign new target, boxes a boolean, gives an object back, and otherwise
makes a plain object. -/
def runObjectConstructor (frame : Frame) : Run Value := do
  match frame.newTarget with
  | some target =>
      if target = frame.callee then fromArgument
      else return .object (← createFromConstructor target Intrinsic.objectPrototype.id)
  | none => fromArgument
where
  fromArgument : Run Value := do
    match frame.argument 0 with
    | .object id => return .object id
    | .boolean truth =>
        return .object (← build (.boxedBoolean truth Intrinsic.booleanPrototype.id))
    | _ => return .object (← build .plainObject)

/-- `Object.getPrototypeOf`. -/
def runGetPrototypeOf (frame : Frame) : Run Value := prototypeOfValue (frame.argument 0)

/-- `Object.setPrototypeOf`: values that are no objects stay as they are. -/
def runSetPrototypeOf (frame : Frame) : Run Value := do
  let target := frame.argument 0
  if target.isNullish then raise .setPrototypeOnNullish
  else
    let prototype ← prototypeArgument (frame.argument 1)
    match target with
    | .object id =>
        if ← setPrototype id prototype then return target else raise .setPrototypeRefused
    | _ => return target

/-- `Object.create`. -/
def runCreate (frame : Frame) : Run Value := do
  let prototype ← prototypeArgument (frame.argument 0)
  let created ← build (.object prototype)
  match frame.argument 1 with
  | .undefined => return .object created
  | .object properties =>
      defineAll created properties
      return .object created
  | _ => raise (.propertyDescriptionNotObject none)

/-- `Object.defineProperty`. -/
def runDefineProperty (frame : Frame) : Run Value := do
  match frame.argument 0 with
  | .object id =>
      let key ← ask (·.key (frame.argument 1))
      match frame.argument 2 with
      | .object record =>
          define id key (← descriptorOf record)
          return .object id
      | other => raise (.propertyDescriptionNotObject (some (← textOf other)))
  | _ => raise .definePropertyOnNonObject

/-- `Object.getOwnPropertyDescriptor`. -/
def runGetOwnPropertyDescriptor (frame : Frame) : Run Value := do
  match frame.argument 0 with
  | .object id =>
      let key ← ask (·.key (frame.argument 1))
      match ← ask fun heap => (heap.object id).property? key with
      | some property => return .object (← build (.descriptorRecord property.descriptor))
      | none => return .undefined
  | _ => return .undefined

/-- A list of what an object lists; other values than `null` and `undefined` list nothing. -/
def listOwn (value : Value) (listing : Table → List Value) : Run Value := do
  match value with
  | .object id =>
      let values ← ask fun heap => listing (heap.object id).properties
      return .object (← build (.list values))
  | .undefined | .null => raise .nullishToObject
  | _ => return .object (← build (.list []))

/-- `Object.keys`. -/
def runKeys (frame : Frame) : Run Value :=
  listOwn (frame.argument 0) fun table => table.enumerableStrings.map .string

/-- `Object.getOwnPropertyNames`. -/
def runGetOwnPropertyNames (frame : Frame) : Run Value :=
  listOwn (frame.argument 0) fun table =>
    (table.orderedKeys.filterMap PropertyKey.string?).map .string

/-- `hasOwnProperty` of `Object.prototype`. -/
def runHasOwnProperty (frame : Frame) : Run Value := do
  let key ← ask (·.key (frame.argument 0))
  match frame.this with
  | .object id => return .boolean (← ask fun heap => (heap.object id).hasOwn key)
  | .undefined | .null => raise .nullishToObject
  | _ => return .boolean false

/-- The getter of `__proto__`. -/
def runLinkGetter (frame : Frame) : Run Value := prototypeOfValue frame.this

/-- The setter of `__proto__`: it ignores what can be no link, and receivers that are no objects. -/
def runLinkSetter (frame : Frame) : Run Value := do
  if frame.this.isNullish then raise .linkAccessorOnNullish
  else
    match frame.argument 0 with
    | .object prototype => write (some prototype)
    | .null => write none
    | _ => return .undefined
where
  write (prototype : Option ObjectId) : Run Value := do
    match frame.this with
    | .object id =>
        if ← setPrototype id prototype then return .undefined else raise .linkAccessorRefused
    | _ => return .undefined

end ClassLowering.Builtin
