import ClassLowering.Class.Constructor

/-!
# Super calls

A super caller runs the base constructor of a derived class. On a host whose `Reflect.construct`
respects the new target it constructs the base for the class being constructed; otherwise it calls
the base as a plain function on `this`. Which of the two is found out once in a realm.
-/

namespace ClassLowering.Run

/-- Reads a global variable. -/
def getGlobal (name : String) : Run Value := get Intrinsic.global.id name

/-- A function without effect that can be constructed. -/
def idleFunction : Callable := { name := "", kind := .normal, code := .builtin .idle }

/-- Constructs a boxed boolean for another new target and asks it for its value; this fails where the
construction is only imitated. -/
def tryReflectConstruct (reflect : ObjectId) (constructFunction : Value) : Run Unit := do
  let boolean ← getGlobal "Boolean"
  let newTarget ← build (.function idleFunction 0)
  let noArguments ← build (.list [])
  let boxed ← call constructFunction (.object reflect)
    [boolean, .object noArguments, .object newTarget]
  let prototype ← getOf boolean "prototype"
  let valueOf ← getOf prototype "valueOf"
  let _ ← call valueOf boxed []

/-- Whether a function that constructs can be trusted. A host with proxies is taken to do what it should;
any other is put to the trial. -/
def trustsConstruct (reflect : ObjectId) (constructFunction : Value) : Run Bool := do
  let proxy ← getGlobal "Proxy"
  if ← ask (·.isCallable proxy) then return true
  else
    tryReflectConstruct reflect constructFunction
    return true

/-- Whether a function that constructs respects the new target. One that says to be a sham does not. -/
def respectsNewTarget (reflect : ObjectId) (constructFunction : Value) : Run Bool := do
  if !constructFunction.isTruthy then return false
  else if (← getOf constructFunction "sham").isTruthy then return false
  else trustsConstruct reflect constructFunction

/-- Finds out whether `Reflect.construct` is there and respects the new target. -/
def detectNativeConstruct : Run Bool := do
  match ← getGlobal "Reflect" with
  | .object reflect => respectsNewTarget reflect (← get reflect "construct")
  | _ => return false

/-- Keeps the first answer about native construction. -/
def keepNativeConstruct (found : Bool) : Run Bool := fun _ state =>
  let answer := state.caches.nativeConstruct.getD found
  .done answer { state with caches := { state.caches with nativeConstruct := some answer } }

/-- Whether the host constructs natively for a new target. A failure while finding out means no. -/
def hasNativeConstruct : Run Bool := do
  match (← state).caches.nativeConstruct with
  | some answer => return answer
  | none =>
      match ← attempt detectNativeConstruct with
      | .ok found => keepNativeConstruct found
      | .error _ => keepNativeConstruct false

/-- The constructor of the most derived class, as the instance under construction shows it. -/
def constructorOfInstance (this : Value) : Run Value := do
  let prototype ← getPrototypeOf this
  getOf prototype "constructor"

/-- Constructs a base for the class being constructed. -/
def constructBase (base this : Value) (arguments : List Value) : Run Value := do
  let newTarget ← constructorOfInstance this
  let reflect ← getGlobal "Reflect"
  let constructFunction ← getOf reflect "construct"
  let list ← build (.list arguments)
  call constructFunction reflect [base, .object list, newTarget]

/-- Runs a base constructor: for the class being constructed where the host can, and on `this`
otherwise. -/
def runBase (base this : Value) (arguments : List Value) : Run Value := do
  if ← hasNativeConstruct then constructBase base this arguments else call base this arguments

/-- Runs the base constructor of a derived class on `this`. The base is looked up at every call. -/
def superCall (derived this : Value) (arguments : List Value) : Run Value := do
  let base ← getPrototypeOf derived
  constructorReturn this (← runBase base this arguments)

/-- Adds the super caller of a derived class. -/
def makeSuperCaller (derived : Value) : Run ObjectId :=
  build (.method "_createSuperInternal" 0 .superCaller [derived])

end ClassLowering.Run
