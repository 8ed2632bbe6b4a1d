import ClassLowering.Run.Record

/-!
# Class members

A member is a method or a pair of accessors under a key. Members are installed in order, always
configurable, hidden unless they ask otherwise, and writable when they carry a value.
-/

namespace ClassLowering

/-- A class member. -/
structure Member where
  key : PropertyKey
  value : Option Value := none
  get : Option Value := none
  set : Option Value := none
  enumerable : Bool := false
  deriving DecidableEq, Repr

/-- The definition that installs a member. -/
def Member.descriptor (member : Member) : Descriptor :=
  { value := member.value
    writable := member.value.map fun _ => true
    get := member.get
    set := member.set
    enumerable := some member.enumerable
    configurable := some true }

namespace Run

/-- The member that a record describes. -/
def memberOf (record : ObjectId) : Run Member := do
  let keyValue ← get record "key"
  let key ← ask (·.key keyValue)
  let value ← field? record "value"
  let getter ← field? record "get"
  let setter ← field? record "set"
  let enumerable ← get record "enumerable"
  if value.isSome && (getter.isSome || setter.isSome) then raise (.mixedMember key.text)
  else return { key, value, get := getter, set := setter, enumerable := enumerable.isTruthy }

/-- The member that an entry of a member list describes. -/
def memberOfEntry (entry : Value) : Run Member := do
  match entry with
  | .object record => memberOf record
  | _ => raise (.propertyDescriptionNotObject (some (← textOf entry)))

/-- The members that a list of records describes; no list stands for no members. -/
def membersOf (list : Value) : Run (List Member) := do
  if list.isNullish then return [] else (← elementsOf list).mapM memberOfEntry

/-- Installs members in order, up to the first that is refused. -/
def install (target : ObjectId) (members : List Member) : Run Unit :=
  members.forM fun member => define target member.key member.descriptor

/-- Installs members on the prototype object of a constructor, and statics on itself. -/
def createClass (constructor : Value) (members statics : List Member) : Run Value := do
  match constructor with
  | .object id =>
      match ← get id "prototype" with
      | .object prototype =>
          install prototype members
          install id statics
          return constructor
      | _ => raise .noPrototypeObject
  | _ => raise (.notAConstructor (← textOf constructor))

/-- Defines a field: over a property that the key already reaches, own or inherited, and by plain
assignment otherwise. -/
def defineField (target : Value) (key : PropertyKey) (value : Value) : Run Value := do
  match target with
  | .object id =>
      if ← has id key then define id key (.data value true true true)
      else
        let _ ← set id key value
      return target
  | _ => raise (.fieldOnNonObject (← textOf target))

end Run

end ClassLowering
