import ClassLowering.Run.Access

/-!
# Records and lists of scripts

Scripts describe properties by records and pass arguments by list objects. Reading them may run
getters, so that the order of the reads is part of what a script sees.
-/

namespace ClassLowering.Run

/-- A field of a record, if the record has it, own or inherited. -/
def field? (record : ObjectId) (name : String) : Run (Option Value) := do
  if ← has record name then return some (← get record name) else return none

/-- Refuses an accessor function that is neither `undefined` nor callable. -/
def checkAccessor (accessor : Option Value) : Run Unit := do
  match Value.defined? accessor with
  | some function =>
      if ← ask (·.isCallable function) then return () else raise .accessorNotCallable
  | none => return ()

/-- The descriptor that a record gives. -/
def descriptorOf (record : ObjectId) : Run Descriptor := do
  let enumerable := (← field? record "enumerable").map Value.isTruthy
  let configurable := (← field? record "configurable").map Value.isTruthy
  let value ← field? record "value"
  let writable := (← field? record "writable").map Value.isTruthy
  let get ← field? record "get"
  let set ← field? record "set"
  let descriptor : Descriptor := { value, writable, get, set, enumerable, configurable }
  checkAccessor get
  checkAccessor set
  if descriptor.isAccessor && descriptor.isData then raise .mixedDescriptor
  else return descriptor

/-- One entry of an object of records: nothing for an entry that is not enumerable. -/
def descriptorEntry (properties : ObjectId) (key : PropertyKey) :
    Run (Option (PropertyKey × Descriptor)) := do
  let isEnumerable ← ask fun heap =>
    ((heap.object properties).latest? key).all (·.enumerable)
  if isEnumerable then
    match ← get properties key with
    | .object record => return some (key, ← descriptorOf record)
    | _ => raise (.propertyDescriptionNotObject (some key.text))
  else return none

/-- Definitions in order, up to the first that is refused. -/
def defineEach (target : ObjectId) (definitions : List (PropertyKey × Descriptor)) : Run Unit :=
  definitions.forM fun definition => define target definition.1 definition.2

/-- Defines every property that an object of records describes. All records are read before anything
is defined. -/
def defineAll (target properties : ObjectId) : Run Unit := do
  let keys ← ask fun heap => (heap.object properties).properties.orderedKeys
  let entries ← keys.mapM (descriptorEntry properties)
  defineEach target (entries.filterMap id)

/-- The number of elements that a length stands for; `none` for too many. -/
def lengthOf (length : Value) : Option Nat :=
  match length with
  | .number x =>
      let value := Binary64.ofFloat x
      if value.exceeds maxArguments then none else some (value.wholePart?.getD 0)
  | _ => some 0

/-- The elements of a list object. A list that is too long is refused before any is read. -/
def elementsOf (list : Value) : Run (List Value) := do
  match list with
  | .object _ =>
      match lengthOf (← getOf list "length") with
      | none => raise .tooManyArguments
      | some count => (List.range count).mapM fun place => getOf list (.index place)
  | _ => raise (.listFromNonObject (← textOf list))

end ClassLowering.Run
