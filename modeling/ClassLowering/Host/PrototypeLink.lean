import ClassLowering.Run.Access

/-!
# The portable prototype link

Hosts differ in how a prototype link is reached. The strategy is chosen by the first question in a
realm and kept from then on. Both directions go by `Object.setPrototypeOf`: a host that writes links by
the functions of `Object` also reads them so.
-/

namespace ClassLowering

namespace Heap

/-- The global `Object`, `undefined` when there is none. -/
def globalObject (heap : Heap) : Value :=
  (heap.storedValue Intrinsic.global.id "Object").getD .undefined

/-- A function of the global `Object`, as it is installed now. -/
def objectFunction? (heap : Heap) (name : String) : Option Value :=
  match heap.globalObject with
  | .object id => (heap.storedValue id name).filter fun function => heap.isCallable function
  | _ => none

/-- The strategy that the globals speak for. -/
def prototypeStrategy (heap : Heap) : PrototypeStrategy :=
  if (heap.objectFunction? "setPrototypeOf").isSome then .standard else .legacy

end Heap

namespace Run

/-- How prototype links are read in this realm. -/
def lookupStrategy : Run PrototypeStrategy := fun _ state =>
  let strategy := state.caches.lookup.getD state.heap.prototypeStrategy
  .done strategy { state with caches := { state.caches with lookup := some strategy } }

/-- How prototype links are written in this realm. -/
def writerStrategy : Run PrototypeStrategy := fun _ state =>
  let strategy := state.caches.writer.getD state.heap.prototypeStrategy
  .done strategy { state with caches := { state.caches with writer := some strategy } }

/-- Asks the function of `Object`, called on `this`, for the prototype link of a value. Without the
function there is nothing left to ask. -/
def askedPrototypeOf (this value : Value) : Run Value := do
  match ← ask (·.objectFunction? "getPrototypeOf") with
  | some function => call function this [value]
  | none => return .null

/-- Reads the prototype link of a value by a strategy. A function of `Object` is called on `this`. -/
def getPrototypeBy (strategy : PrototypeStrategy) (this value : Value) : Run Value := do
  match strategy with
  | .standard =>
      let function ← ask (·.objectFunction? "getPrototypeOf")
      call (function.getD .undefined) this [value]
  | .legacy =>
      let prototype ← getOf value "__proto__"
      if prototype.isTruthy then return prototype else askedPrototypeOf this value

/-- Reads the prototype link of a value the way the host offers. The global `Object` is taken first: what
a read of `__proto__` makes of it comes too late for this one. -/
def getPrototypeOf (value : Value) : Run Value := do
  let this ← ask (·.globalObject)
  getPrototypeBy (← lookupStrategy) this value

/-- Writes the prototype link of a value by a strategy. Without an accessor for the link, the old way
leaves an ordinary property behind. -/
def setPrototypeBy (strategy : PrototypeStrategy) (value prototype : Value) : Run Value := do
  match strategy with
  | .standard =>
      let function ← ask (·.objectFunction? "setPrototypeOf")
      call (function.getD .undefined) (← ask (·.globalObject)) [value, prototype]
  | .legacy =>
      match value with
      | .object id =>
          let _ ← set id "__proto__" prototype
          return value
      | _ => return value

/-- Writes the prototype link of a value the way the host offers. -/
def setPrototypeOf (value prototype : Value) : Run Value := do
  setPrototypeBy (← writerStrategy) value prototype

end Run

end ClassLowering
