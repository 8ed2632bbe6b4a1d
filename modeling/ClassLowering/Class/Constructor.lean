import ClassLowering.Host.PrototypeLink

/-!
# Constructors of lowered classes

What a lowered constructor asks for: that it runs on an instance of its class, that `this` is there,
and which value it returns. `superGet` reads a key above the class.
-/

namespace ClassLowering.Run

/-- The guard of a constructor: it must run on an instance of its class. -/
def checkInstance (value constructor : Value) : Run Unit := do
  if ← instanceOf value constructor then return () else raise .classCalledAsFunction

/-- `this`, once a super call has given it a value. -/
def assertThis (this : Value) : Run Value :=
  match this with
  | .undefined => raise .thisUninitialized
  | _ => pure this

/-- What a constructor returns: an object that its base returned, or `this`. -/
def constructorReturn (this result : Value) : Run Value :=
  match result with
  | .object _ => pure result
  | _ => assertThis this

/-- The value under a key of the object that owns it; its getter runs on the receiver. -/
def readOwn (id : ObjectId) (key : PropertyKey) (receiver : Value) : Run Value := do
  match ← ask fun heap => (heap.object id).property? key with
  | some { slot := .data value, .. } => return value
  | some { slot := .accessor (some getter) _, .. } => call getter receiver []
  | _ => return .undefined

/-- The nearest owner of a key, from a value upwards along the links that the host shows, at most so
many. -/
def ownerFor (key : PropertyKey) : Nat → Value → Run (Option ObjectId)
  | 0, _ => endless
  | bound + 1, value => do
      match value with
      | .object id =>
          if ← ask fun heap => (heap.object id).hasOwn key then return some id
          else ownerFor key bound (← getPrototypeOf value)
      | _ => return none

/-- The value of `super.key`: that of the nearest owner from a target upwards, read on behalf of the
receiver. -/
def superGet (target : Value) (key : PropertyKey) (receiver : Value) : Run Value := do
  match ← ownerFor key (← depth) target with
  | some id => readOwn id key receiver
  | none => return .undefined

end ClassLowering.Run
