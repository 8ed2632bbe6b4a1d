import ClassLowering.Property.Basic

/-!
# Property descriptors

A descriptor says what a definition asks for; a field may be absent. `Property.ofDescriptor` makes
a new property, `Property.allows` says whether an existing one may be redefined, and
`Property.redefine` is the property after it: absent fields keep what is there, except that a change
between data and accessor starts from nothing.
-/

namespace ClassLowering

/-- A partial description of a property. -/
structure Descriptor where
  value : Option Value := none
  writable : Option Bool := none
  get : Option Value := none
  set : Option Value := none
  enumerable : Option Bool := none
  configurable : Option Bool := none
  deriving DecidableEq, Repr

namespace Descriptor

/-- A complete description of a data property. -/
def data (value : Value) (writable enumerable configurable : Bool) : Descriptor :=
  { value := some value
    writable := some writable
    enumerable := some enumerable
    configurable := some configurable }

/-- A description of an accessor property. -/
def accessor (get set : Option Value) (enumerable configurable : Bool) : Descriptor :=
  { get, set, enumerable := some enumerable, configurable := some configurable }

/-- Whether a getter or a setter is named. -/
def isAccessor (descriptor : Descriptor) : Bool :=
  descriptor.get.isSome || descriptor.set.isSome

/-- Whether a value or the writable attribute is named. -/
def isData (descriptor : Descriptor) : Bool :=
  descriptor.value.isSome || descriptor.writable.isSome

/-- The accessor pair a descriptor names; `undefined` stands for none. -/
def accessorSlot (descriptor : Descriptor) : Slot :=
  .accessor (Value.defined? descriptor.get) (Value.defined? descriptor.set)

/-- The value a descriptor names, `undefined` when it names none. -/
def dataSlot (descriptor : Descriptor) : Slot :=
  .data (descriptor.value.getD .undefined)

end Descriptor

namespace Property

/-- The complete description of a property. -/
def descriptor (property : Property) : Descriptor :=
  match property.slot with
  | .data value =>
      .data value property.writable property.enumerable property.configurable
  | .accessor getter setter =>
      .accessor (some (getter.getD .undefined)) (some (setter.getD .undefined))
        property.enumerable property.configurable

/-- The property a definition adds where there was none; absent attributes are false. -/
def ofDescriptor (descriptor : Descriptor) : Property :=
  { slot := if descriptor.isAccessor then descriptor.accessorSlot else descriptor.dataSlot
    writable := !descriptor.isAccessor && descriptor.writable.getD false
    enumerable := descriptor.enumerable.getD false
    configurable := descriptor.configurable.getD false }

/-- Whether a named accessor function, where there is one, is the one in place. -/
def keepsAccessor (named current : Option Value) : Bool :=
  match named with
  | none => true
  | some _ => ((Value.defined? named).getD .undefined).same (current.getD .undefined)

/-- Whether the descriptor leaves a fixed slot as it is. A slot that is still writable may take any
value, but keeps its kind. -/
def keepsSlot (property : Property) (descriptor : Descriptor) : Bool :=
  match property.slot with
  | .data current =>
      !descriptor.isAccessor &&
        (property.writable ||
          (descriptor.writable != some true &&
            descriptor.value.all fun value => value.same current))
  | .accessor getter setter =>
      !descriptor.isData && keepsAccessor descriptor.get getter &&
        keepsAccessor descriptor.set setter

/-- Whether a definition may change a property: always while it is configurable, and otherwise only
if it asks for nothing that is fixed. -/
def allows (property : Property) (descriptor : Descriptor) : Bool :=
  property.configurable ||
    (descriptor.configurable != some true &&
      descriptor.enumerable.all (· == property.enumerable) && property.keepsSlot descriptor)

/-- What the property holds after a definition. -/
def redefineSlot (property : Property) (descriptor : Descriptor) : Slot :=
  match property.slot with
  | .data current =>
      if descriptor.isAccessor then descriptor.accessorSlot
      else .data (descriptor.value.getD current)
  | .accessor getter setter =>
      if descriptor.isData then descriptor.dataSlot
      else
        .accessor
          (if descriptor.get.isSome then Value.defined? descriptor.get else getter)
          (if descriptor.set.isSome then Value.defined? descriptor.set else setter)

/-- Whether the property is writable after a definition that does not say so. -/
def writableBefore (property : Property) (descriptor : Descriptor) : Bool :=
  match property.slot with
  | .data _ => descriptor.isAccessor || property.writable
  | .accessor .. => !descriptor.isData && property.writable

/-- The property after a definition. -/
def redefine (property : Property) (descriptor : Descriptor) : Property :=
  { slot := property.redefineSlot descriptor
    writable := descriptor.writable.getD (property.writableBefore descriptor)
    enumerable := descriptor.enumerable.getD property.enumerable
    configurable := descriptor.configurable.getD property.configurable }

end Property

end ClassLowering
