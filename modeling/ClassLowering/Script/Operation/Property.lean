import ClassLowering.Run.Record
import ClassLowering.Script.Scope

/-!
# Operations on properties
-/

namespace ClassLowering.Script

open Run

/-- The fields of a descriptor that are present. -/
def descriptorReport (descriptor : Descriptor) : Report Value :=
  let valueField (name : String) (value : Option Value) : List (String × Report Value) :=
    (value.map fun value => (name, Report.value value)).toList
  let flagField (name : String) (flag : Option Bool) : List (String × Report Value) :=
    (flag.map fun flag => (name, Report.flag flag)).toList
  .record
    (valueField "value" descriptor.value ++ valueField "get" descriptor.get ++
      valueField "set" descriptor.set ++ flagField "writable" descriptor.writable ++
      flagField "enumerable" descriptor.enumerable ++
      flagField "configurable" descriptor.configurable)

/-- What a property holds. -/
def slotReport : Slot → Report Value
  | .data value => .record [("data", .value value)]
  | .accessor getter setter =>
      .record [("getter", .optional getter), ("setter", .optional setter)]

/-- An object or `null`. -/
def linkReport : Option ObjectId → Report Value
  | some id => .value (.object id)
  | none => .null

/-- All there is to an object: its properties in the order of its keys, itself, its prototype, and its
marks. -/
def objectReport (heap : Heap) (id : ObjectId) : Report Value :=
  let object := heap.object id
  let entry (key : PropertyKey) : Report Value :=
    .list
      [.value key.toValue,
        ((object.property? key).map fun property => descriptorReport property.descriptor).getD .null]
  .record
    [("props", .list (object.properties.orderedKeys.map entry)),
      ("is", .value (.object id)),
      ("proto", linkReport (heap.prototypeOf id)),
      ("extensible", .flag object.extensible),
      ("boolean", (object.boolean?.map Report.flag).getD .null),
      ("error", .flag object.isError),
      ("proxy", .flag object.proxy?.isSome)]

namespace PropertyOperation

/-- Removes an own property; the answer is whether there was one. -/
def removeKey (id : ObjectId) (key : PropertyKey) : Run Bool := do
  let present ← ask fun heap => (heap.object id).hasOwn key
  change (·.modify id (·.removeProperty key))
  return present

/-- Performs an operation on properties. -/
def perform (operation : PropertyOperation) (context : Context) (values : List Value) :
    Run Reply := do
  match operation with
  | .get => return .value (← getOf (operandAt values 0) (← keyAt values 1))
  | .getOwnOrInherited => return .value (← Run.get (← objectAt values 0) (← keyAt values 1))
  | .getWithReceiver =>
      return .value (← getFor (← objectAt values 0) (← keyAt values 1) (operandAt values 2))
  | .set =>
      return .truth (← Run.set (← objectAt values 0) (← keyAt values 1) (operandAt values 2))
  | .has => return .truth (← Run.has (← objectAt values 0) (← keyAt values 1))
  | .hasOwn =>
      let id ← objectAt values 0
      let key ← keyAt values 1
      return .truth (← ask fun heap => (heap.object id).hasOwn key)
  | .define given =>
      let id ← objectAt values 0
      let descriptor := given.evaluate context (← state)
      Run.define id (← keyAt values 1) descriptor
      return .nothing
  | .defineRaw writable enumerable configurable =>
      let id ← objectAt values 0
      let key ← keyAt values 1
      let slot : Slot := .data (operandAt values 2)
      change (·.setProperty id key { slot, writable, enumerable, configurable })
      return .nothing
  | .defineAll =>
      let id ← objectAt values 0
      Run.defineAll id (← objectAt values 1)
      return .nothing
  | .remove => return .truth (← removeKey (← objectAt values 0) (← keyAt values 1))
  | .rawGet =>
      let id ← objectAt values 0
      let key ← keyAt values 1
      return .report (.optional (← ask (·.storedValue id key)))
  | .rawSet =>
      let id ← objectAt values 0
      let key ← keyAt values 1
      change (·.setValue id key (operandAt values 2))
      return .nothing
  | .ownSlot =>
      let id ← objectAt values 0
      let key ← keyAt values 1
      let property ← ask fun heap => (heap.object id).property? key
      return .report ((property.map fun property => slotReport property.slot).getD .null)
  | .descriptor =>
      let id ← objectAt values 0
      let key ← keyAt values 1
      let property ← ask fun heap => (heap.object id).property? key
      return .report
        ((property.map fun property => descriptorReport property.descriptor).getD .null)
  | .descriptorFrom =>
      let descriptor ← descriptorOf (← objectAt values 0)
      return .report
        (.record
          [("desc", descriptorReport descriptor), ("accessor", .flag descriptor.isAccessor),
            ("data", .flag descriptor.isData)])
  | .descriptorTo given =>
      let descriptor := given.evaluate context (← state)
      return .value (.object (← build (.descriptorRecord descriptor)))
  | .ownKeys =>
      let id ← objectAt values 0
      let keys ← ask fun heap => (heap.object id).properties.orderedKeys
      return .report (.list (keys.map fun key => .value key.toValue))
  | .enumerableKeys =>
      let id ← objectAt values 0
      let keys ← ask fun heap => (heap.object id).properties.enumerableStrings
      return .report (.list (keys.map .text))
  | .forIn =>
      let id ← objectAt values 0
      return .report (.list ((← follow (·.forInKeys id)).map .text))
  | .list => return .report (.list ((← elementsOf (operandAt values 0)).map .value))
  | .preventExtensions =>
      let id ← objectAt values 0
      change (·.modify id fun object => { object with extensible := false })
      return .nothing
  | .dump =>
      let id ← objectAt values 0
      return .report (← ask (objectReport · id))
  | .chain =>
      let id ← objectAt values 0
      return .report (.list ((← follow (·.chain id)).map fun id => .value (.object id)))

end PropertyOperation

end ClassLowering.Script
