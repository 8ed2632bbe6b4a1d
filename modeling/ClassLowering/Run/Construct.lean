import ClassLowering.Run.Access

/-!
# Construction

A normal function is constructed on an instance made for it, which inherits from the `prototype` of
the new target; a result that is an object takes the place of the instance. A constructor of the host
makes its own result.
-/

namespace ClassLowering.Run

/-- The prototype object that a constructor gives to its instances. -/
def instancePrototype (constructor fallback : ObjectId) : Run ObjectId := do
  match ← get constructor "prototype" with
  | .object prototype => return prototype
  | _ => return fallback

/-- A new object for a constructor. -/
def createFromConstructor (constructor fallback : ObjectId) : Run ObjectId := do
  let prototype ← instancePrototype constructor fallback
  build (.object (some prototype))

/-- The result of a constructor's body, or the instance where that is no object. -/
def resultOr (created : ObjectId) (result : Value) : Value :=
  match result with
  | .object _ => result
  | _ => .object created

/-- The function behind a value that can be constructed. -/
def constructorOf (value : Value) : Run (ObjectId × Callable) := do
  match ← ask (·.function? value) with
  | some (id, callable) =>
      if callable.kind = .method then raise (.notAConstructor (← textOf value))
      else return (id, callable)
  | none => raise (.notAConstructor (← textOf value))

/-- The function that a constructor makes an instance for: the new target, or itself. -/
def targetOf (constructor : ObjectId) (newTarget : Option Value) : Run ObjectId := do
  match newTarget with
  | none => return constructor
  | some value =>
      let (target, _) ← constructorOf value
      return target

/-- Runs a constructor for a target: on an instance, unless it makes its own result. -/
def runConstructor (callee : ObjectId) (callable : Callable) (arguments : List Value)
    (target : ObjectId) : Run Value := do
  if callable.kind = .builtinConstructor then
    invoke { callee, callable, arguments, newTarget := some target }
  else
    let created ← createFromConstructor target Intrinsic.objectPrototype.id
    let result ← invoke
      { callee, callable, this := .object created, arguments, newTarget := some target }
    return resultOr created result

/-- Constructs a value for a new target. -/
def constructFor (constructor : Value) (arguments : List Value) (newTarget : Option Value) :
    Run Value := do
  let (callee, callable) ← constructorOf constructor
  runConstructor callee callable arguments (← targetOf callee newTarget)

/-- Constructs a value. -/
def construct (constructor : Value) (arguments : List Value) : Run Value :=
  constructFor constructor arguments none

end ClassLowering.Run
