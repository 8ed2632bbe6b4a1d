import ClassLowering.Proofs.Run.Making

/-!
# Definitions of own properties

A definition is refused where it asks for what the object or the property in place withholds. Where it is
granted, the property has the fields that were asked for and otherwise those in place, the key keeps its
place in the order, and nothing else changes. `definition_validated` says both for every object, key and
descriptor that names fields of one kind.
-/

namespace ClassLowering

/-! ## What a definition leaves -/

namespace Descriptor

/-- Fields of both kinds are named. -/
def Mixed (asked : Descriptor) : Prop := asked.isAccessor = true ∧ asked.isData = true

/-- Whether a definition leaves an accessor: it asks for one, or it names no kind and finds one. -/
def leavesAccessor (asked current : Descriptor) : Bool :=
  asked.isAccessor || (!asked.isData && current.isAccessor)

/-- The complete description after a definition: the fields that it names, otherwise those in place, and
otherwise `undefined` and false. A description of the other kind has no fields to take over. -/
def upon (asked current : Descriptor) : Descriptor :=
  let enumerable := (asked.enumerable.or current.enumerable).getD false
  let configurable := (asked.configurable.or current.configurable).getD false
  if asked.leavesAccessor current then
    .accessor (some ((asked.get.or current.get).getD .undefined))
      (some ((asked.set.or current.set).getD .undefined)) enumerable configurable
  else
    .data ((asked.value.or current.value).getD .undefined)
      ((asked.writable.or current.writable).getD false) enumerable configurable

end Descriptor

/-- A function that is not stored reads as `undefined`, as it was given. -/
theorem Value.getD_defined? (given : Option Value) :
    (Value.defined? given).getD .undefined = given.getD .undefined := by
  unfold Value.defined?
  split <;> rfl

namespace Property

variable {current : Property} {asked : Descriptor} {value : Value} {getter setter : Option Value}

theorem descriptor_data (held : current.slot = .data value) :
    current.descriptor =
      .data value current.writable current.enumerable current.configurable := by
  rw [descriptor, held]

theorem descriptor_accessor (held : current.slot = .accessor getter setter) :
    current.descriptor =
      .accessor (some (getter.getD .undefined)) (some (setter.getD .undefined)) current.enumerable
        current.configurable := by
  rw [descriptor, held]

/-- A new property is described by what was asked for. -/
theorem descriptor_ofDescriptor (asked : Descriptor) :
    (ofDescriptor asked).descriptor = asked.upon {} := by
  unfold ofDescriptor descriptor Descriptor.upon Descriptor.leavesAccessor
  cases isAccessor : asked.isAccessor with
  | true => simp [Descriptor.accessorSlot, Value.getD_defined?]
  | false => simp [Descriptor.isAccessor, Descriptor.dataSlot]

theorem descriptor_redefine_data (held : current.slot = .data value) :
    (current.redefine asked).descriptor = asked.upon current.descriptor := by
  rw [descriptor_data held]
  unfold Descriptor.upon Descriptor.leavesAccessor
  have stays : (Descriptor.data value current.writable current.enumerable
      current.configurable).isAccessor = false := rfl
  cases isAccessor : asked.isAccessor with
  | true =>
      have slot : (current.redefine asked).slot = asked.accessorSlot := by
        simp only [redefine, redefineSlot, held, isAccessor, if_true]
      rw [descriptor_accessor slot]
      simp [Value.getD_defined?, redefine, Descriptor.data]
  | false =>
      have slot : (current.redefine asked).slot = .data (asked.value.getD value) := by
        simp [redefine, redefineSlot, held, isAccessor]
      rw [descriptor_data slot, stays]
      simp [redefine, writableBefore, held, isAccessor, Descriptor.data]

theorem descriptor_redefine_accessor (held : current.slot = .accessor getter setter)
    (unmixed : ¬asked.Mixed) :
    (current.redefine asked).descriptor = asked.upon current.descriptor := by
  rw [descriptor_accessor held]
  unfold Descriptor.upon Descriptor.leavesAccessor
  have stays : (Descriptor.accessor (some (getter.getD .undefined)) (some (setter.getD .undefined))
      current.enumerable current.configurable).isAccessor = true := rfl
  cases isData : asked.isData with
  | true =>
      have notAccessor : asked.isAccessor = false :=
        Bool.eq_false_iff.mpr fun isAccessor => unmixed ⟨isAccessor, isData⟩
      have slot : (current.redefine asked).slot = asked.dataSlot := by
        simp only [redefine, redefineSlot, held, isData, if_true]
      rw [descriptor_data slot, notAccessor]
      simp [redefine, writableBefore, held, isData, Descriptor.accessor]
  | false =>
      have slot : (current.redefine asked).slot =
          .accessor (if asked.get.isSome then Value.defined? asked.get else getter)
            (if asked.set.isSome then Value.defined? asked.set else setter) := by
        simp [redefine, redefineSlot, held, isData]
      have keeps (named stored : Option Value) :
          (if named.isSome then Value.defined? named else stored).getD .undefined =
            (named.or (some (stored.getD .undefined))).getD .undefined := by
        cases named with
        | none => rfl
        | some function => exact Value.getD_defined? (some function)
      rw [descriptor_accessor slot, stays, keeps, keeps]
      simp [redefine, Descriptor.accessor]

/-- A property that is defined again is described by what was asked for over what was there. -/
theorem descriptor_redefine (unmixed : ¬asked.Mixed) :
    (current.redefine asked).descriptor = asked.upon current.descriptor := by
  cases held : current.slot with
  | data value => exact descriptor_redefine_data held
  | accessor getter setter => exact descriptor_redefine_accessor held unmixed

/-! ## What is refused -/

/-- A definition asks for what a property that is not configurable withholds. -/
inductive Conflicts (current : Property) (asked : Descriptor) : Prop
  | configurable (asks : asked.configurable = some true)
  | enumerable {flag : Bool} (asks : asked.enumerable = some flag)
      (differs : flag ≠ current.enumerable)
  | toAccessor {value : Value} (held : current.slot = .data value)
      (asks : asked.isAccessor = true)
  | toData {getter setter : Option Value} (held : current.slot = .accessor getter setter)
      (asks : asked.isData = true)
  | getter {getter setter : Option Value} {function : Value}
      (held : current.slot = .accessor getter setter) (asks : asked.get = some function)
      (differs : function.same (getter.getD .undefined) = false)
  | setter {getter setter : Option Value} {function : Value}
      (held : current.slot = .accessor getter setter) (asks : asked.set = some function)
      (differs : function.same (setter.getD .undefined) = false)
  | writable {value : Value} (held : current.slot = .data value)
      (readOnly : current.writable = false) (asks : asked.writable = some true)
  | value {value other : Value} (held : current.slot = .data value)
      (readOnly : current.writable = false) (asks : asked.value = some other)
      (differs : other.same value = false)

theorem keepsAccessor_eq_false_iff {named stored : Option Value} :
    keepsAccessor named stored = false ↔
      ∃ function, named = some function ∧ function.same (stored.getD .undefined) = false := by
  cases named with
  | none => simp [keepsAccessor]
  | some function => simp [keepsAccessor, Value.getD_defined?]

theorem conflicts_of_keepsSlot (changes : current.keepsSlot asked = false) :
    current.Conflicts asked := by
  unfold keepsSlot at changes
  cases held : current.slot with
  | data value =>
      rw [held] at changes
      simp only [Bool.and_eq_false_iff, Bool.or_eq_false_iff, Bool.not_eq_eq_eq_not, Bool.not_false,
        bne_eq_false_iff_eq] at changes
      rcases changes with isAccessor | ⟨readOnly, asks | differs⟩
      · exact .toAccessor held isAccessor
      · exact .writable held readOnly asks
      · cases asks : asked.value with
        | none => simp [asks] at differs
        | some other => exact .value held readOnly asks (by simpa [asks] using differs)
  | accessor getter setter =>
      rw [held] at changes
      simp only [Bool.and_eq_false_iff, Bool.not_eq_eq_eq_not, Bool.not_false,
        keepsAccessor_eq_false_iff] at changes
      rcases changes with (isData | ⟨function, asks, differs⟩) | ⟨function, asks, differs⟩
      · exact .toData held isData
      · exact .getter held asks differs
      · exact .setter held asks differs

theorem conflicts_of_allows (refused : current.allows asked = false) :
    current.configurable = false ∧ current.Conflicts asked := by
  simp only [allows, Bool.or_eq_false_iff, Bool.and_eq_false_iff, bne_eq_false_iff_eq] at refused
  obtain ⟨fixed, (asks | differs) | changes⟩ := refused
  · exact ⟨fixed, .configurable asks⟩
  · cases asks : asked.enumerable with
    | none => simp [asks] at differs
    | some flag => exact ⟨fixed, .enumerable asks (by simpa [asks] using differs)⟩
  · exact ⟨fixed, conflicts_of_keepsSlot changes⟩

theorem Conflicts.allows_eq_false (conflicts : current.Conflicts asked)
    (fixed : current.configurable = false) : current.allows asked = false := by
  cases conflicts with
  | configurable asks => simp [allows, fixed, asks]
  | enumerable asks differs => simp [allows, fixed, asks, differs]
  | toAccessor held asks => simp [allows, fixed, keepsSlot, held, asks]
  | toData held asks => simp [allows, fixed, keepsSlot, held, asks]
  | getter held asks differs =>
      have changed := keepsAccessor_eq_false_iff.mpr ⟨_, asks, differs⟩
      simp [allows, fixed, keepsSlot, held, changed]
  | setter held asks differs =>
      have changed := keepsAccessor_eq_false_iff.mpr ⟨_, asks, differs⟩
      simp [allows, fixed, keepsSlot, held, changed]
  | writable held readOnly asks => simp [allows, fixed, keepsSlot, held, readOnly, asks]
  | value held readOnly asks differs =>
      simp [allows, fixed, keepsSlot, held, readOnly, asks, differs]

/-- A definition is refused exactly if the property is not configurable and withholds what is asked for. -/
theorem allows_eq_false_iff :
    current.allows asked = false ↔ current.configurable = false ∧ current.Conflicts asked :=
  ⟨conflicts_of_allows, fun both => both.2.allows_eq_false both.1⟩

end Property

namespace Object

variable {object : Object} {key : PropertyKey} {asked : Descriptor}

/-- An object withholds what a definition asks for. -/
inductive Refuses (object : Object) (key : PropertyKey) (asked : Descriptor) : Prop
  | closed (missing : object.property? key = none) (closed : object.extensible = false)
  | fixed {current : Property} (held : object.property? key = some current)
      (fixed : current.configurable = false) (conflicts : current.Conflicts asked)

/-- The fault of a refused definition. -/
def refusal (object : Object) (key : PropertyKey) : Fault :=
  if object.hasOwn key then .notRedefinable key.text else .notExtensible key.text

/-- The description of an own property; where there is none, it says nothing. -/
def described (object : Object) (key : PropertyKey) : Descriptor :=
  ((object.property? key).map Property.descriptor).getD {}

theorem Refuses.defined_eq (refuses : object.Refuses key asked) :
    object.defined key asked = .error (object.refusal key) := by
  unfold defined refusal
  rw [hasOwn_eq_isSome]
  cases refuses with
  | closed missing closed => simp [missing, closed]
  | fixed held fixed conflicts => simp [held, conflicts.allows_eq_false fixed]

/-- A definition that is not refused makes the property that it asks for. -/
theorem exists_defined (granted : ¬object.Refuses key asked) (unmixed : ¬asked.Mixed) :
    ∃ property, object.defined key asked = .ok property ∧
      property.descriptor = asked.upon (object.described key) := by
  unfold defined described
  cases held : object.property? key with
  | none =>
      have extensible : object.extensible = true :=
        Bool.not_eq_false _ ▸ fun closed => granted (.closed held closed)
      exact ⟨_, if_pos extensible, Property.descriptor_ofDescriptor asked⟩
  | some current =>
      have allowed : current.allows asked = true := by
        rw [← Bool.not_eq_false]
        intro refused
        obtain ⟨fixed, conflicts⟩ := Property.allows_eq_false_iff.mp refused
        exact granted (.fixed held fixed conflicts)
      exact ⟨_, if_pos allowed, Property.descriptor_redefine unmixed⟩

end Object

/-! ## What a definition changes -/

/-- One property of one object was written. Its key keeps its place, or comes last where it is new. -/
structure Heap.Writes (before : Heap) (id : ObjectId) (key : PropertyKey) (property : Property)
    (after : Heap) : Prop where
  held : (after.object id).property? key = some property
  keys : (after.object id).properties.keys =
    if key ∈ (before.object id).properties.keys then (before.object id).properties.keys
    else (before.object id).properties.keys ++ [key]
  others : ∀ other, other ≠ key →
    (after.object id).property? other = (before.object id).property? other
  kind : (after.object id).kind = (before.object id).kind
  link : (after.object id).prototype = (before.object id).prototype
  extensible : (after.object id).extensible = (before.object id).extensible
  elsewhere : ∀ other, other ≠ id → after.object other = before.object other
  size_eq : after.size = before.size

theorem Heap.writes_setProperty {heap : Heap} {id : ObjectId} (present : id.index < heap.size)
    (key : PropertyKey) (property : Property) :
    heap.Writes id key property (heap.setProperty id key property) := by
  have written : (heap.setProperty id key property).object id =
      (heap.object id).setProperty key property := object_setProperty_self present property
  constructor
  · rw [written, Object.property?_setProperty, if_pos rfl]
  · rw [written]
    exact Table.keys_insert _ key property
  · intro other differs
    rw [written, Object.property?_setProperty, if_neg differs]
  · rw [written]; rfl
  · rw [written]; rfl
  · rw [written]; rfl
  · exact fun other differs => object_setProperty_ne differs property
  · exact size_setProperty property

/-- A definition on an object, whatever its state: it fails without effect exactly where the object or the
property in place withholds what is asked for. Otherwise the property is described by the fields that were
asked for over those in place, and no other property, key, link or object changes. -/
theorem definition_validated (state : State) {id : ObjectId} (present : id.index < state.heap.size)
    (key : PropertyKey) {asked : Descriptor} (unmixed : ¬asked.Mixed) (engine : Engine) :
    ((state.heap.object id).Refuses key asked →
      Run.define id key asked engine state =
        .failed (.fault ((state.heap.object id).refusal key)) state) ∧
    (¬(state.heap.object id).Refuses key asked →
      ∃ property heap, Run.define id key asked engine state = .done () { state with heap } ∧
        property.descriptor = asked.upon ((state.heap.object id).described key) ∧
        state.heap.Writes id key property heap) := by
  unfold Run.define
  rw [Run.ask_bind]
  constructor
  · intro refuses
    rw [refuses.defined_eq]
    rfl
  · intro granted
    obtain ⟨property, defined, described⟩ := Object.exists_defined granted unmixed
    rw [defined]
    exact ⟨property, _, rfl, described, Heap.writes_setProperty present key property⟩

/-- A read-only value that may be redefined gives way to an accessor without functions, and the order of the
keys stays. -/
theorem value_replaced_by_accessor :
    let properties := (Table.empty.insert "x" { slot := .data .null, writable := false }).insert "y"
      { slot := .data .null }
    let state : State := { heap := { objects := #[{ properties }] } }
    ∃ property heap,
      Run.define ⟨0⟩ "x" { get := some .undefined } (Engine.ofDepth 0) state =
        .done () { state with heap } ∧
      property.descriptor = .accessor (some .undefined) (some .undefined) true true ∧
      state.heap.Writes ⟨0⟩ "x" property heap := by
  intro properties state
  have held : (state.heap.object ⟨0⟩).property? "x" =
      some { slot := .data .null, writable := false } := by decide +kernel
  have granted : ¬(state.heap.object ⟨0⟩).Refuses "x" { get := some .undefined } := by
    rintro (⟨missing, _⟩ | ⟨again, fixed, _⟩)
    · rw [held] at missing
      cases missing
    · rw [held] at again
      cases again
      cases fixed
  have unmixed : ¬Descriptor.Mixed { get := some .undefined } := fun mixed => nomatch mixed.2
  obtain ⟨property, heap, defined, described, writes⟩ :=
    (definition_validated state (by decide) "x" unmixed (Engine.ofDepth 0)).2 granted
  refine ⟨property, heap, defined, ?_, writes⟩
  rw [described, Object.described, held]
  rfl

end ClassLowering
