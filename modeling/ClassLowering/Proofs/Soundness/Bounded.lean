import ClassLowering.Script.Step

/-!
# Data without dangling names

Objects are named by their places, so that nothing in a value keeps it from naming an object that was
never made. `Within law size` says of any data that the objects it names are among the first `size`,
and that it keeps to the law: the code that it carries uses no operation that the law forbids, and nothing
about it takes such an operation to come about.
-/

namespace ClassLowering

/-- What code may do to an object without asking it. -/
inductive Law where
  /-- Nothing. -/
  | script
  /-- A host writes properties of the objects that it is building, and globals. -/
  | host
  /-- A driver also removes properties outright, which leaves their attributes behind. -/
  | driver

namespace Law

/-- Whether properties may be written without asking. -/
@[simp]
def writes (law : Law) : Bool :=
  match law with
  | .script => false
  | .host | .driver => true

/-- Whether properties may be removed. -/
@[simp]
def removes (law : Law) : Bool :=
  match law with
  | .script | .host => false
  | .driver => true

theorem writes_of_removes {law : Law} (removes : law.removes = true) : law.writes = true := by
  cases law <;> first | rfl | cases removes

end Law

/-- Data that may name objects and carry code. -/
class Bounded (α : Type) where
  /-- The objects named are among the first `size`, and the code keeps to the law. -/
  Within (law : Law) (size : Nat) (data : α) : Prop
  mono {law : Law} {size larger : Nat} {data : α} (within : Within law size data)
    (le : size ≤ larger) : Within law larger data

export Bounded (Within)

namespace Bounded

variable {α β : Type}

theorem Within.mono [Bounded α] {law : Law} {size larger : Nat} {data : α}
    (within : Within law size data) (le : size ≤ larger) : Within law larger data :=
  Bounded.mono within le

/-- Data that names nothing. -/
abbrev plain (α : Type) : Bounded α := ⟨fun _ _ _ => True, fun _ _ => trivial⟩

instance : Bounded Unit := plain Unit
instance : Bounded Bool := plain Bool
instance : Bounded Nat := plain Nat
instance : Bounded String := plain String
instance : Bounded PropertyKey := plain PropertyKey
instance : Bounded Symbol := plain Symbol
instance : Bounded PrototypeStrategy := plain PrototypeStrategy
instance : Bounded ScopeId := plain ScopeId

/-- Reads go through proxies only, and only a host that writes without asking can take the prototype
object of an error constructor away. -/
instance : Bounded Fault where
  Within law _ fault :=
    match fault with
    | .readThroughOrdinary => False
    | .errorPrototypeMissing => law.writes = true
    | _ => True
  mono within _ := within

instance : Bounded ObjectId := ⟨fun _ size id => id.index < size, Nat.lt_of_lt_of_le⟩

instance : Bounded Value where
  Within law size value :=
    match value with
    | .object id => Within law size id
    | _ => True
  mono {_ _ _ value} within le := by
    cases value with
    | object id => exact Bounded.mono (α := ObjectId) within le
    | _ => trivial

instance [Bounded α] : Bounded (Option α) where
  Within law size data :=
    match data with
    | some item => Within law size item
    | none => True
  mono {_ _ _ data} within le := by
    cases data with
    | some item => exact Bounded.mono (α := α) within le
    | none => trivial

instance [Bounded α] : Bounded (List α) where
  Within law size data := ∀ item ∈ data, Within law size item
  mono within le item member := (within item member).mono le

instance [Bounded α] [Bounded β] : Bounded (α × β) where
  Within law size data := Within law size data.1 ∧ Within law size data.2
  mono within le := ⟨within.1.mono le, within.2.mono le⟩

instance [Bounded α] [Bounded β] : Bounded (Except α β) where
  Within law size data :=
    match data with
    | .error cause => Within law size cause
    | .ok result => Within law size result
  mono {_ _ _ data} within le := by
    cases data with
    | error cause => exact Bounded.mono (α := α) within le
    | ok result => exact Bounded.mono (α := β) within le

/-- An accessor function that is missing is not there as `undefined`. -/
instance : Bounded Slot where
  Within law size slot :=
    match slot with
    | .data value => Within law size value
    | .accessor getter setter =>
        (Within law size getter ∧ getter ≠ some .undefined) ∧
          Within law size setter ∧ setter ≠ some .undefined
  mono {_ _ _ slot} within le := by
    cases slot with
    | data value => exact Bounded.mono (α := Value) within le
    | accessor getter setter =>
        exact ⟨⟨Bounded.mono (α := Option Value) within.1.1 le, within.1.2⟩,
          Bounded.mono (α := Option Value) within.2.1 le, within.2.2⟩

instance : Bounded Property :=
  ⟨fun law size property => Within law size property.slot, Bounded.mono⟩

instance : Bounded Descriptor where
  Within law size descriptor :=
    Within law size descriptor.value ∧ Within law size descriptor.get ∧
      Within law size descriptor.set
  mono within le := ⟨within.1.mono le, within.2.1.mono le, within.2.2.mono le⟩

instance : Bounded Member where
  Within law size member :=
    Within law size member.value ∧ Within law size member.get ∧ Within law size member.set
  mono within le := ⟨within.1.mono le, within.2.1.mono le, within.2.2.mono le⟩

instance : Bounded Failure where
  Within law size failure :=
    match failure with
    | .fault cause => Within law size cause
    | .thrown value => Within law size value
  mono {_ _ _ failure} within le := by
    cases failure with
    | fault cause => exact Bounded.mono (α := Fault) within le
    | thrown value => exact Bounded.mono (α := Value) within le

/-! ## Reading `Within` of values -/

variable {law : Law} {size : Nat}

@[simp]
theorem within_nil {α : Type} [Bounded α] : Within law size ([] : List α) := nofun

@[simp]
theorem within_cons {α : Type} [Bounded α] {item : α} {rest : List α} :
    Within law size (item :: rest) ↔ Within law size item ∧ Within law size rest :=
  List.forall_mem_cons

@[simp]
theorem within_none {α : Type} [Bounded α] : Within law size (none : Option α) := trivial

@[simp]
theorem within_some {α : Type} [Bounded α] {item : α} :
    Within law size (some item) ↔ Within law size item := .rfl

/-- Values name objects as such only. -/
@[simp]
theorem within_value {value : Value} :
    Within law size value ↔ ∀ id, value = .object id → id.index < size := by
  cases value with
  | object id => exact ⟨fun within _ same => Value.object.inj same ▸ within, fun within => within id rfl⟩
  | _ => exact ⟨fun _ _ => nofun, fun _ => trivial⟩

theorem within_toValue (key : PropertyKey) : Within law size key.toValue := by
  cases key <;> trivial

theorem within_ofObject? {link : Option ObjectId} (within : Within law size link) :
    Within law size (Value.ofObject? link) := by
  cases link with
  | some id => exact within
  | none => trivial

theorem within_defined? {value : Option Value} (within : Within law size value) :
    Within law size (Value.defined? value) ∧ Value.defined? value ≠ some .undefined := by
  unfold Value.defined?
  split
  · exact ⟨trivial, nofun⟩
  · exact ⟨trivial, nofun⟩
  · next differs => exact ⟨within, fun same => differs (Option.some.inj same)⟩

theorem within_getElem? {values : List Value} (within : Within law size values) (place : Nat) :
    Within law size (values[place]?.getD .undefined) := by
  cases found : values[place]? with
  | some value => exact within value (List.mem_of_getElem? found)
  | none => trivial

theorem within_accessorSlot {descriptor : Descriptor} (within : Within law size descriptor) :
    Within law size descriptor.accessorSlot :=
  ⟨within_defined? within.2.1, within_defined? within.2.2⟩

theorem within_getD {value : Option Value} {other : Value} (within : Within law size value)
    (withinOther : Within law size other) : Within law size (value.getD other) := by
  cases value with
  | some value => exact within
  | none => exact withinOther

theorem within_dataSlot {descriptor : Descriptor} (within : Within law size descriptor) :
    Within law size descriptor.dataSlot :=
  within_getD within.1 trivial

theorem within_ofDescriptor {descriptor : Descriptor} (within : Within law size descriptor) :
    Within law size (Property.ofDescriptor descriptor) := by
  change Within law size (Property.ofDescriptor descriptor).slot
  rw [Property.ofDescriptor]
  dsimp only
  split
  · exact within_accessorSlot within
  · exact within_dataSlot within

theorem within_redefine {property : Property} {descriptor : Descriptor}
    (before : Within law size property) (within : Within law size descriptor) :
    Within law size (property.redefine descriptor) := by
  change Within law size (property.redefineSlot descriptor)
  replace before : Within law size property.slot := before
  unfold Property.redefineSlot
  cases held : property.slot with
  | data current =>
      rw [held] at before
      dsimp only
      split
      · exact within_accessorSlot within
      · exact within_getD within.1 before
  | accessor getter setter =>
      rw [held] at before
      dsimp only
      split
      · exact within_dataSlot within
      · constructor
        · split
          · exact within_defined? within.2.1
          · exact before.1
        · split
          · exact within_defined? within.2.2
          · exact before.2

end Bounded

end ClassLowering
