import ClassLowering.Proofs.Soundness.Change

/-!
# Accessors that can be called

A heap is guarded if every accessor holds functions, and if no script on it defines accessors without a
test. `Heap.Tends` says of a later heap that it is guarded again and that what was a function still is
one; the lemmas of this module say so of each change that a run makes.
-/

namespace ClassLowering

/-! ## Code that tests accessors -/

namespace Script

/-- Operands that describe a data property. -/
def MemberOperands.IsData (member : MemberOperands) : Prop := member.get = none ∧ member.set = none

/-- An operation that defines accessors only after a test. The others, with which a host defines an
accessor or installs members, take what they are given. -/
def Operation.Tested (operation : Operation) : Prop :=
  match operation with
  | .onProperty (.define given) => given.get = none ∧ given.set = none
  | .onClass (.install members) => ∀ member ∈ members, member.IsData
  | .onClass (.createClass members statics) =>
      (∀ member ∈ members, member.IsData) ∧ ∀ member ∈ statics, member.IsData
  | _ => True

mutual

/-- All operations of a step are tested, those of the functions that it makes included. -/
def Step.Tested (step : Step) : Prop :=
  match step with
  | .perform operation _ _ => operation.Tested
  | .makeFunction _ body _ _ => TestedSteps body
  | .leave _ _ => True
  | .choose _ whenTrue whenFalse _ => TestedSteps whenTrue ∧ TestedSteps whenFalse
  | .loop _ body _ => TestedSteps body

/-- All operations of some steps are tested. -/
def TestedSteps (steps : List Step) : Prop :=
  match steps with
  | [] => True
  | step :: rest => step.Tested ∧ TestedSteps rest

end

end Script

/-- Code whose script, if it has one, defines accessors only after a test. -/
def Code.Tested (code : Code) : Prop :=
  match code with
  | .builtin _ => True
  | .script body _ => Script.TestedSteps body

/-! ## Guarded heaps -/

namespace Heap

/-- An accessor function is missing, or can be called. -/
def Calls (heap : Heap) (accessor : Option Value) : Prop :=
  ∀ function, accessor = some function → heap.isCallable function = true

/-- What a property holds is data, or accessor functions that can be called. -/
def Fits (heap : Heap) (slot : Slot) : Prop :=
  match slot with
  | .data _ => True
  | .accessor getter setter => heap.Calls getter ∧ heap.Calls setter

/-- The accessor functions that a descriptor names can be called. -/
def Grants (heap : Heap) (descriptor : Descriptor) : Prop :=
  heap.Calls (Value.defined? descriptor.get) ∧ heap.Calls (Value.defined? descriptor.set)

/-- Every property of an object fits. -/
def Furnishes (heap : Heap) (object : Object) : Prop :=
  ∀ key property, object.property? key = some property → heap.Fits property.slot

/-- The accessors of all objects can be called, and the scripts of all functions test what they define. -/
structure Guarded (heap : Heap) : Prop where
  accessors : ∀ id, heap.Furnishes (heap.object id)
  code : ∀ id callable, (heap.object id).callable? = some callable → callable.code.Tested

/-- What is a function stays one. -/
def KeepsFunctions (heap after : Heap) : Prop :=
  ∀ value, heap.isCallable value = true → after.isCallable value = true

/-- A guarded heap with the functions of another one. -/
structure Tends (heap after : Heap) : Prop where
  guarded : after.Guarded
  keeps : heap.KeepsFunctions after

variable {heap middle after : Heap} {id : ObjectId} {key : PropertyKey} {property : Property}
  {descriptor : Descriptor}

theorem Tends.refl (guarded : heap.Guarded) : heap.Tends heap := ⟨guarded, fun _ callable => callable⟩

theorem Tends.of_eq (guarded : heap.Guarded) (same : after = heap) : heap.Tends after := by
  subst same
  exact .refl guarded

theorem Tends.trans (first : heap.Tends middle) (second : middle.Tends after) : heap.Tends after :=
  ⟨second.guarded, fun value callable => second.keeps value (first.keeps value callable)⟩

theorem Calls.mono {accessor : Option Value} (calls : heap.Calls accessor)
    (keeps : heap.KeepsFunctions after) : after.Calls accessor :=
  fun function named => keeps function (calls function named)

theorem Fits.mono {slot : Slot} (fits : heap.Fits slot) (keeps : heap.KeepsFunctions after) :
    after.Fits slot := by
  cases slot with
  | data value => trivial
  | accessor getter setter => exact ⟨fits.1.mono keeps, fits.2.mono keeps⟩

theorem Grants.mono (grants : heap.Grants descriptor) (keeps : heap.KeepsFunctions after) :
    after.Grants descriptor := ⟨grants.1.mono keeps, grants.2.mono keeps⟩

theorem Furnishes.mono {object : Object} (furnishes : heap.Furnishes object)
    (keeps : heap.KeepsFunctions after) : after.Furnishes object :=
  fun key property held => (furnishes key property held).mono keeps

theorem calls_none : heap.Calls none := nofun

/-- A descriptor without accessor functions asks for none. -/
theorem grants_of_data (getter : descriptor.get = none) (setter : descriptor.set = none) :
    heap.Grants descriptor := by
  rw [Grants, getter, setter]
  exact ⟨calls_none, calls_none⟩

theorem fits_ofDescriptor (grants : heap.Grants descriptor) :
    heap.Fits (Property.ofDescriptor descriptor).slot := by
  unfold Property.ofDescriptor
  dsimp only
  split
  · exact grants
  · trivial

theorem fits_redefine (fits : heap.Fits property.slot) (grants : heap.Grants descriptor) :
    heap.Fits (property.redefine descriptor).slot := by
  obtain ⟨slot, _, _, _⟩ := property
  unfold Property.redefine Property.redefineSlot
  cases slot with
  | data current =>
      dsimp only
      split
      · exact grants
      · trivial
  | accessor getter setter =>
      dsimp only
      split
      · trivial
      · refine ⟨?_, ?_⟩
        · split
          · exact grants.1
          · exact fits.1
        · split
          · exact grants.2
          · exact fits.2

/-- What a definition makes of a property fits, if the functions of the descriptor can be called. -/
theorem fits_defined {object : Object} (furnishes : heap.Furnishes object)
    (grants : heap.Grants descriptor) (permitted : object.defined key descriptor = .ok property) :
    heap.Fits property.slot := by
  unfold Object.defined at permitted
  split at permitted
  · split at permitted
    · cases permitted
      exact fits_ofDescriptor grants
    · cases permitted
  · next held =>
    split at permitted
    · cases permitted
      exact fits_redefine (furnishes key _ held) grants
    · cases permitted

/-! ## Changes of guarded heaps -/

theorem callable?_of_kind {first second : Object} (same : first.kind = second.kind) :
    first.callable? = second.callable? := by rw [Object.callable?, Object.callable?, same]

theorem keepsFunctions_of_callable?
    (same : ∀ id callable, (heap.object id).callable? = some callable →
      (after.object id).callable? = some callable) : heap.KeepsFunctions after := by
  intro value callable
  unfold isCallable function? at callable ⊢
  cases value with
  | object id =>
      obtain ⟨pair, found⟩ := Option.isSome_iff_exists.mp callable
      obtain ⟨code, held, _⟩ := Option.map_eq_some_iff.mp found
      simp only [same id code held]
      rfl
  | _ => exact callable

/-- A change of one object that leaves its kind alone and gives it no other accessors. -/
theorem Guarded.modify (guarded : heap.Guarded) {change : Object → Object}
    (kind_eq : ∀ object, (change object).kind = object.kind)
    (furnishes : heap.Furnishes (heap.object id) → heap.Furnishes (change (heap.object id))) :
    heap.Tends (heap.modify id change) := by
  have code (other : ObjectId) :
      ((heap.modify id change).object other).callable? = (heap.object other).callable? :=
    callable?_of_kind (kind_modify heap id other kind_eq)
  have keeps : heap.KeepsFunctions (heap.modify id change) :=
    keepsFunctions_of_callable? fun other callable held => (code other).trans held
  refine ⟨⟨fun other => ?_, fun other callable held => ?_⟩, keeps⟩
  · rcases Nat.lt_or_ge id.index heap.size with present | absent
    · rw [object_modify heap id other change present]
      split
      · exact (furnishes (guarded.accessors id)).mono keeps
      · exact (guarded.accessors other).mono keeps
    · have same : (heap.modify id change).object other = heap.object other := by
        by_cases equal : other = id
        · rw [equal, object_of_size_le absent, object_of_size_le (by rwa [size_modify])]
        · exact object_modify_ne heap change equal
      rw [same]
      exact (guarded.accessors other).mono keeps
  · exact guarded.code other callable ((code other).symm.trans held)

theorem furnishes_setProperty {object : Object} (furnishes : heap.Furnishes object)
    (fits : heap.Fits property.slot) : heap.Furnishes (object.setProperty key property) := by
  intro other found held
  rw [Object.property?_setProperty] at held
  split at held
  · cases held
    exact fits
  · exact furnishes other found held

theorem Guarded.setProperty (guarded : heap.Guarded) (fits : heap.Fits property.slot) :
    heap.Tends (heap.setProperty id key property) :=
  guarded.modify (fun _ => rfl) fun furnishes => furnishes_setProperty furnishes fits

/-- An assigned value makes a key data. -/
theorem Guarded.setValue (guarded : heap.Guarded) (value : Value) :
    heap.Tends (heap.setValue id key value) := by
  refine guarded.modify (fun _ => rfl) fun furnishes => furnishes_setProperty furnishes ?_
  cases (heap.object id).latest? key with
  | none => trivial
  | some property => trivial

theorem Guarded.setLink (guarded : heap.Guarded) (prototype : Option ObjectId) :
    heap.Tends (heap.setLink id prototype) :=
  guarded.modify (fun _ => rfl) fun furnishes => furnishes

theorem Guarded.close (guarded : heap.Guarded) :
    heap.Tends (heap.modify id fun object => { object with extensible := false }) :=
  guarded.modify (fun _ => rfl) fun furnishes => furnishes

theorem Guarded.removeProperty (guarded : heap.Guarded) :
    heap.Tends (heap.modify id (·.removeProperty key)) := by
  refine guarded.modify (fun object => ?_) fun furnishes => ?_
  · unfold Object.removeProperty
    split <;> rfl
  · unfold Object.removeProperty
    split
    · intro other found held
      change ((heap.object id).properties.erase key).get? other = some found at held
      rw [Table.get?_erase] at held
      split at held
      · cases held
      · exact furnishes other found held
    · exact furnishes

theorem Guarded.allocate (guarded : heap.Guarded) {object : Object}
    (furnishes : heap.Furnishes object)
    (code : ∀ callable, object.callable? = some callable → callable.code.Tested) :
    heap.Tends (heap.allocate object).2 := by
  have keeps : heap.KeepsFunctions (heap.allocate object).2 := by
    refine keepsFunctions_of_callable? fun id callable held => ?_
    rw [object_allocate]
    split
    · next same =>
      have absent : heap.object heap.next = {} := object_of_size_le (Nat.le_refl heap.size)
      rw [same, absent] at held
      cases held
    · exact held
  refine ⟨⟨fun id => ?_, fun id callable held => ?_⟩, keeps⟩
  · rw [object_allocate]
    split
    · exact furnishes.mono keeps
    · exact (guarded.accessors id).mono keeps
  · rw [object_allocate] at held
    split at held
    · exact code callable held
    · exact guarded.code id callable held

end Heap

end ClassLowering
