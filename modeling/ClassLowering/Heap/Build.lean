import ClassLowering.Failure
import ClassLowering.Number.Whole

/-!
# Building objects

Making objects, functions, lists and errors never fails and runs no script, so that it is a function
of the heap alone. The objects of `Intrinsic` have fixed places at the start of every heap.
-/

namespace ClassLowering

/-- The place of an intrinsic object. -/
def Intrinsic.id : Intrinsic → ObjectId
  | .objectPrototype => ⟨0⟩
  | .functionPrototype => ⟨1⟩
  | .arrayPrototype => ⟨2⟩
  | .booleanPrototype => ⟨3⟩
  | .errorPrototype .error => ⟨4⟩
  | .errorPrototype .typeError => ⟨5⟩
  | .errorPrototype .referenceError => ⟨6⟩
  | .errorPrototype .rangeError => ⟨7⟩
  | .global => ⟨8⟩

/-- A computation that only reads and grows the heap. -/
abbrev Build := StateM Heap

namespace Build

/-- Adds an object. -/
def allocate (object : Object) : Build ObjectId := fun heap => heap.allocate object

/-- Writes an own property without asking. -/
def setProperty (id : ObjectId) (key : PropertyKey) (property : Property) : Build Unit :=
  modify (·.setProperty id key property)

/-- Adds an object without properties. -/
def object (prototype : Option ObjectId) : Build ObjectId := allocate (.inheriting prototype)

/-- Adds an object that inherits from `Object.prototype`. -/
def plainObject : Build ObjectId := object (some Intrinsic.objectPrototype.id)

/-- Builds only under a condition. -/
def whenever (condition : Bool) (build : Build Unit) : Build Unit :=
  if condition then build else pure ()

/-- Adds a prototype object for the instances of a function. Its `constructor` is the function. -/
def instances (function : ObjectId) : Build Unit := do
  let prototype ← plainObject
  setProperty prototype "constructor" (.hidden (.object function))
  setProperty function "prototype"
    { slot := .data (.object prototype), enumerable := false, configurable := false }

/-- Adds a function object. A normal function also gets a prototype object. -/
def function (callable : Callable) (length : Nat) : Build ObjectId := do
  let id ← allocate
    { prototype := some Intrinsic.functionPrototype.id, kind := .function callable }
  setProperty id "length"
    { slot := .data (.number (Number.ofNat length)), writable := false, enumerable := false }
  setProperty id "name"
    { slot := .data (.string callable.name), writable := false, enumerable := false }
  whenever (callable.kind = .normal) (instances id)
  return id

/-- Adds a function of the host that can only be called. -/
def method (name : String) (length : Nat) (builtin : Builtin) (captured : List Value := []) :
    Build ObjectId :=
  function { name, kind := .method, code := .builtin builtin, captured } length

/-- Adds a function of the host under its name on an object. -/
def installMethod (target : ObjectId) (name : String) (length : Nat) (builtin : Builtin) :
    Build ObjectId := do
  let id ← method name length builtin
  setProperty target name (.hidden (.object id))
  return id

/-- Adds a constructor of the host for an existing prototype object. -/
def constructor (name : String) (length : Nat) (builtin : Builtin) (prototype : ObjectId) :
    Build ObjectId := do
  let id ← function { name, kind := .builtinConstructor, code := .builtin builtin } length
  setProperty id "prototype"
    { slot := .data (.object prototype)
      writable := false
      enumerable := false
      configurable := false }
  setProperty prototype "constructor" (.hidden (.object id))
  return id

/-- Sets a global variable. -/
def defineGlobal (name : String) (value : Value) : Build Unit :=
  setProperty Intrinsic.global.id name (.hidden value)

/-- A dense list, with a hidden length. -/
def listObject (values : List Value) : Object :=
  { prototype := some Intrinsic.arrayPrototype.id
    properties := (Table.ofElements values).insert "length"
      { slot := .data (.number (Number.ofNat values.length))
        enumerable := false
        configurable := false } }

/-- Adds a dense list object. -/
def list (values : List Value) : Build ObjectId := allocate (listObject values)

/-- Adds an error object with a hidden message. -/
def error (errorClass : ErrorClass) (message : String) : Build ObjectId :=
  allocate
    { prototype := some (Intrinsic.errorPrototype errorClass).id
      properties := Table.empty.insert "message" (.hidden (.string message))
      kind := .error }

/-- Adds a boxed boolean. -/
def boxedBoolean (truth : Bool) (prototype : ObjectId) : Build ObjectId :=
  allocate { prototype := some prototype, kind := .boolean truth }

/-- Adds an object that describes a property. Every field of its kind is present: what the descriptor
leaves open is `undefined` or false. -/
def descriptorRecord (descriptor : Descriptor) : Build ObjectId := do
  let flag (named : Option Bool) : Value := .boolean (named.getD false)
  let special : List (String × Value) :=
    if descriptor.isAccessor then
      [("get", descriptor.get.getD .undefined), ("set", descriptor.set.getD .undefined)]
    else
      [("value", descriptor.value.getD .undefined), ("writable", flag descriptor.writable)]
  let fields := special ++
    [("enumerable", flag descriptor.enumerable), ("configurable", flag descriptor.configurable)]
  allocate
    { prototype := some Intrinsic.objectPrototype.id
      properties := fields.foldl
        (fun table field => table.insert field.1 { slot := .data field.2 }) .empty }

/-- Installs the marked helpers as hidden global functions. -/
def installHelpers (marked : List Helper) : Build Unit :=
  (Helper.inOrder marked).forM fun helper => do
    let id ← method helper.name helper.arity (.helper helper)
    defineGlobal helper.name (.object id)

end Build

/-- The value of a failure where a script catches it: a fault becomes an error object. -/
def Failure.value : Failure → Build Value
  | .fault cause => return .object (← Build.error cause.errorClass cause.message)
  | .thrown value => return value

end ClassLowering
