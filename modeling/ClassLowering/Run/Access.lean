import ClassLowering.Run.Basic

/-!
# Calls and property access

Calling functions, and reading, writing and testing properties as a script sees them: along the
prototype chain, through proxies, with getters and setters. Only the `get` trap of a proxy is
honoured; everything else goes to the target.
-/

namespace ClassLowering.Run

/-- The text of a value. -/
def textOf (value : Value) : Run String := ask (·.text value)

/-- Calls a value as a function. -/
def call (function this : Value) (arguments : List Value) : Run Value := do
  match ← ask (·.function? function) with
  | some (callee, callable) => invoke { callee, callable, this, arguments }
  | none => raise (.notAFunction (← textOf function))

/-- Reads a key through a proxy: by the `get` trap of its handler where there is one, and otherwise from
its target. -/
def getThrough (proxy : ObjectId) (key : PropertyKey) (receiver : Value) : Run Value := do
  match ← ask fun heap => (heap.object proxy).proxy? with
  | some (target, handler) =>
      let trap ← read handler "get" (.object handler)
      if trap.isNullish then read target key receiver
      else call trap (.object handler) [.object target, key.toValue, receiver]
  | none => raise .readThroughOrdinary

/-- Reads a key of an object on behalf of a receiver, on which getters run. -/
def getFor (id : ObjectId) (key : PropertyKey) (receiver : Value) : Run Value := do
  match ← follow (·.lookup id key) with
  | .missing | .accessor none => return .undefined
  | .data value => return value
  | .accessor (some getter) => call getter receiver []
  | .proxy proxy => getThrough proxy key receiver

/-- Reads a key of an object. -/
def get (id : ObjectId) (key : PropertyKey) : Run Value := getFor id key (.object id)

/-- Reads a key of any value. Values that are no objects are read through the prototype of their
boxed form. -/
def getOf (value : Value) (key : PropertyKey) : Run Value := do
  match value with
  | .object id => getFor id key value
  | .undefined | .null => raise (.readOfNullish (← textOf value) key.text)
  | .boolean _ => getFor Intrinsic.booleanPrototype.id key value
  | .number _ | .string _ | .symbol _ => getFor Intrinsic.objectPrototype.id key value

/-- Whether a key is found, on an object or above it. -/
def has (id : ObjectId) (key : PropertyKey) : Run Bool := follow (·.has id key)

/-- Assigns to a key of an object. The answer is whether the assignment took place: it does not for
a read-only property, an accessor without setter, or a new key of an object that takes none. -/
def set (id : ObjectId) (key : PropertyKey) (value : Value) : Run Bool := do
  let receiver ← ask (·.resolve id)
  match ← follow (·.assignment receiver key) with
  | .refused => return false
  | .setter function =>
      let _ ← call function (.object receiver) [value]
      return true
  | .write =>
      if ← ask fun heap => (heap.object receiver).accepts key then
        change (·.setValue receiver key value)
        return true
      else return false

/-- Defines an own property of an object as a descriptor asks. The object itself takes the definition,
also when it is a proxy. -/
def define (id : ObjectId) (key : PropertyKey) (descriptor : Descriptor) : Run Unit := do
  match ← ask fun heap => (heap.object id).defined key descriptor with
  | .ok property => change (·.setProperty id key property)
  | .error fault => raise fault

/-- Points the prototype link of an object elsewhere; the answer is whether that was allowed. A proxy
passes the change on to its target. -/
def setPrototype (id : ObjectId) (prototype : Option ObjectId) : Run Bool := do
  let holder ← ask (·.resolve id)
  if ← ask (·.admitsLink holder prototype) then
    change (·.setLink holder prototype)
    return true
  else return false

/-- Whether a value is an instance of a function: its `prototype` lies above the value. -/
def instanceOf (value function : Value) : Run Bool := do
  match ← ask (·.function? function) with
  | none => raise .instanceOfNonCallable
  | some (constructor, _) =>
      match value with
      | .object id =>
          match ← get constructor "prototype" with
          | .object prototype => follow (·.inherits id prototype)
          | other => raise (.instanceOfNonObjectPrototype (← textOf other))
      | _ => return false

/-- The prototype of any value; values that are no objects are boxed first. -/
def prototypeOfValue (value : Value) : Run Value := do
  match value with
  | .object id => return .ofObject? (← ask (·.prototypeOf id))
  | .undefined | .null => raise .nullishToObject
  | .boolean _ => return .object Intrinsic.booleanPrototype.id
  | .number _ | .string _ | .symbol _ => return .object Intrinsic.objectPrototype.id

end ClassLowering.Run
