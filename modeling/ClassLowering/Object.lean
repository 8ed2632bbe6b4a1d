import ClassLowering.Property.Descriptor
import ClassLowering.Property.Order
import ClassLowering.Script.Syntax

/-!
# Objects

An object has a table of properties, a prototype link, and a mark whether properties may be added.
Its kind says what else it carries: the truth value of a boxed boolean, the mark of an error, the two
objects of a proxy, or the code of a function. A kind never changes.

Attributes outlive the property they belong to: an assignment that adds a removed key again finds those
that the key last had.
-/

namespace ClassLowering

/-- The identity of a variable scope. -/
structure ScopeId where
  index : Nat
  deriving DecidableEq, Repr, Inhabited

/-- Functions that the host itself provides. -/
inductive Builtin where
  | objectConstructor
  | objectGetPrototypeOf
  | objectSetPrototypeOf
  | objectCreate
  | objectDefineProperty
  | objectGetOwnPropertyDescriptor
  | objectKeys
  | objectGetOwnPropertyNames
  | objectHasOwnProperty
  | linkGetter
  | linkSetter
  | functionCall
  | functionApply
  | errorConstructor
  | booleanConstructor
  | booleanToString
  | booleanValueOf
  | reflectConstruct
  | reflectConstructPolyfill
  | reflectApply
  | reflectGetPrototypeOf
  | reflectSetPrototypeOf
  | reflectOwnKeys
  | proxyConstructor
  | helper (helper : Helper)
  /-- Runs the base constructor of the derived class that it captured. -/
  | superCaller
  /-- Does nothing. -/
  | idle
  deriving DecidableEq, Repr

/-- What runs when a function is called. -/
inductive Code where
  | builtin (builtin : Builtin)
  | script (body : List Script.Step) (scope : ScopeId)

/-- What makes an object a function. The name here is the one given when it was made. -/
structure Callable where
  name : String
  kind : FunctionKind
  code : Code
  captured : List Value := []

/-- What an object carries besides its properties. -/
inductive ObjectKind where
  | ordinary
  | boolean (truth : Bool)
  | error
  | proxy (target handler : ObjectId)
  | function (callable : Callable)

/-- An object. -/
structure Object where
  properties : Table := .empty
  /-- The properties that were removed, as they last were. -/
  removed : Table := .empty
  prototype : Option ObjectId := none
  extensible : Bool := true
  kind : ObjectKind := .ordinary

instance : Inhabited Object := ⟨{}⟩

namespace Object

/-- An object without properties that inherits from another. -/
def inheriting (prototype : Option ObjectId) : Object := { prototype }

/-- The code of a function object. -/
def callable? (object : Object) : Option Callable :=
  match object.kind with
  | .function callable => some callable
  | _ => none

/-- The truth value of a boxed boolean. -/
def boolean? (object : Object) : Option Bool :=
  match object.kind with
  | .boolean truth => some truth
  | _ => none

/-- The target and the handler of a proxy. -/
def proxy? (object : Object) : Option (ObjectId × ObjectId) :=
  match object.kind with
  | .proxy target handler => some (target, handler)
  | _ => none

/-- The target of a proxy. -/
def target? (object : Object) : Option ObjectId := object.proxy?.map Prod.fst

/-- Whether an object is marked as an error. -/
def isError (object : Object) : Bool :=
  match object.kind with
  | .error => true
  | _ => false

/-- The own property under a key. -/
def property? (object : Object) (key : PropertyKey) : Option Property :=
  object.properties.get? key

/-- The property that a key has or last had. -/
def latest? (object : Object) (key : PropertyKey) : Option Property :=
  (object.property? key).or (object.removed.get? key)

/-- Whether an object has an own property. -/
def hasOwn (object : Object) (key : PropertyKey) : Bool := object.properties.contains key

theorem hasOwn_eq_isSome (object : Object) (key : PropertyKey) :
    object.hasOwn key = (object.property? key).isSome := object.properties.contains_eq_isSome key

/-- Writes an own property without asking. -/
def setProperty (object : Object) (key : PropertyKey) (property : Property) : Object :=
  { object with properties := object.properties.insert key property }

/-- Writes an own value without asking; a key keeps the attributes that it has or last had, those of
a new one are all true. -/
def setValue (object : Object) (key : PropertyKey) (value : Value) : Object :=
  object.setProperty key
    (((object.latest? key).map (·.withValue value)).getD { slot := .data value })

theorem property?_setProperty (object : Object) (key other : PropertyKey) (property : Property) :
    (object.setProperty key property).property? other =
      if other = key then some property else object.property? other :=
  object.properties.get?_insert key other property

/-- Removes an own property. -/
def removeProperty (object : Object) (key : PropertyKey) : Object :=
  match object.property? key with
  | some property =>
      { object with
        properties := object.properties.erase key
        removed := object.removed.insert key property }
  | none => object

/-- The own property that a definition makes, if the object and the property in place allow it. -/
def defined (object : Object) (key : PropertyKey) (descriptor : Descriptor) :
    Except Fault Property :=
  match object.property? key with
  | none =>
      if object.extensible then .ok (.ofDescriptor descriptor)
      else .error (.notExtensible key.text)
  | some property =>
      if property.allows descriptor then .ok (property.redefine descriptor)
      else .error (.notRedefinable key.text)

/-- Whether an assignment of data to an own key can take place. -/
def accepts (object : Object) (key : PropertyKey) : Bool :=
  object.extensible || object.hasOwn key

end Object

end ClassLowering
