import ClassLowering.Proofs.Realm.Facilities
import ClassLowering.Proofs.Soundness.Class

/-!
# The facilities of an untouched realm

An untouched realm offers what the fresh one does: the reads that look for a facility start from objects
of the realm, and what they find is of the realm again.
-/

namespace ClassLowering

open Bounded

namespace Realm

variable {profile : Profile} {heap : Heap} {id : ObjectId} {key : PropertyKey}

theorem within_plainRead? (profile : Profile) (id : ObjectId) (key : PropertyKey) :
    Within .script (Realm.heap profile).size ((Realm.heap profile).plainRead? id key) := by
  cases found : (Realm.heap profile).plainRead? id key with
  | none => trivial
  | some value =>
      obtain ⟨lookup, ended, plain⟩ := Option.bind_eq_some_iff.mp found
      have within := (heap_sound profile).within_lookup ended
      cases lookup with
      | missing =>
          cases plain
          trivial
      | data value =>
          cases plain
          exact within
      | accessor getter =>
          cases getter with
          | none =>
              cases plain
              trivial
          | some getter => cases plain
      | proxy id => cases plain

theorem within_readFrom? (profile : Profile) (value : Option Value) (key : PropertyKey) :
    Within .script (Realm.heap profile).size ((Realm.heap profile).readFrom? value key) := by
  unfold Heap.readFrom?
  split
  · exact within_plainRead? profile _ key
  · trivial

theorem within_global? (profile : Profile) (name : String) :
    Within .script (Realm.heap profile).size ((Realm.heap profile).global? name) :=
  within_plainRead? profile _ _

theorem within_reflectConstruct? (profile : Profile) :
    Within .script (Realm.heap profile).size (Realm.heap profile).reflectConstruct? :=
  within_readFrom? profile _ _

theorem within_booleanValueOf? (profile : Profile) :
    Within .script (Realm.heap profile).size (Realm.heap profile).booleanValueOf? :=
  within_readFrom? profile _ _

theorem within_objectFunction? (profile : Profile) (name : String) :
    Within .script (Realm.heap profile).size ((Realm.heap profile).objectFunction? name) :=
  (heap_sound profile).within_objectFunction? name

theorem Untouched.bind_builtin?_eq (untouched : Untouched profile heap) {value : Option Value}
    (within : Within .script (Realm.heap profile).size value) :
    value.bind heap.builtin? = value.bind (Realm.heap profile).builtin? := by
  cases value with
  | none => rfl
  | some value => exact untouched.builtin?_eq within

theorem Untouched.map_builtin?_eq (untouched : Untouched profile heap) {value : Option Value}
    (within : Within .script (Realm.heap profile).size value) :
    value.map heap.builtin? = value.map (Realm.heap profile).builtin? := by
  cases value with
  | none => rfl
  | some value => exact congrArg some (untouched.builtin?_eq within)

theorem Untouched.map_isCallable_eq (untouched : Untouched profile heap) {value : Option Value}
    (within : Within .script (Realm.heap profile).size value) :
    value.map heap.isCallable = value.map (Realm.heap profile).isCallable := by
  cases value with
  | none => rfl
  | some value => exact congrArg some (untouched.isCallable_eq within)

theorem Untouched.readFrom?_eq (untouched : Untouched profile heap) {value : Option Value}
    (within : Within .script (Realm.heap profile).size value) (offered : key ∈ facilityKeys) :
    heap.readFrom? value key = (Realm.heap profile).readFrom? value key := by
  unfold Heap.readFrom?
  split
  · exact untouched.plainRead?_eq within offered
  · rfl

theorem Untouched.passesTo?_eq (untouched : Untouched profile heap) {value : Option Value}
    (within : Within .script (Realm.heap profile).size value) (offered : key ∈ facilityKeys) :
    heap.passesTo? value key = (Realm.heap profile).passesTo? value key := by
  unfold Heap.passesTo?
  split
  · next id =>
    simp only [Object.hasOwn_eq_isSome, untouched.proxy?_eq within, untouched.prototype_eq id within,
      untouched.property_eq id key within (.inl offered)]
  · rfl

theorem Untouched.global?_eq (untouched : Untouched profile heap) {name : String}
    (offered : .string name ∈ facilityKeys) : heap.global? name = (Realm.heap profile).global? name :=
  untouched.plainRead?_eq ((heap_sound profile).intrinsic .global) offered

theorem Untouched.functionOf?_eq (untouched : Untouched profile heap) {name : String}
    (named : .string name ∈ facilityKeys) (offered : key ∈ facilityKeys) :
    (heap.functionOf? name key).bind heap.builtin? =
      ((Realm.heap profile).functionOf? name key).bind (Realm.heap profile).builtin? := by
  unfold Heap.functionOf?
  rw [untouched.global?_eq named, untouched.readFrom?_eq (within_global? profile _) offered,
    untouched.bind_builtin?_eq (within_readFrom? profile _ _)]

theorem Untouched.reflectConstruct?_eq (untouched : Untouched profile heap) :
    heap.reflectConstruct? = (Realm.heap profile).reflectConstruct? := by
  rw [Heap.reflectConstruct?, untouched.global?_eq (by decide)]
  exact untouched.readFrom?_eq (within_global? profile _) (by decide)

theorem Untouched.booleanValueOf?_eq (untouched : Untouched profile heap) :
    heap.booleanValueOf? = (Realm.heap profile).booleanValueOf? := by
  rw [Heap.booleanValueOf?, untouched.global?_eq (by decide),
    untouched.readFrom?_eq (within_global? profile _) (by decide)]
  exact untouched.readFrom?_eq (within_readFrom? profile _ _) (by decide)

theorem Untouched.objectFunction?_eq (untouched : Untouched profile heap) {name : String}
    (offered : .string name ∈ facilityKeys) :
    heap.objectFunction? name = (Realm.heap profile).objectFunction? name :=
  (untouched.keeps (by decide)).objectFunction?_eq (untouched.keeps offered) (heap_sound profile)

theorem Untouched.linkAccessor?_eq (untouched : Untouched profile heap) :
    heap.linkAccessor? = (Realm.heap profile).linkAccessor? := by
  have there := (heap_sound profile).intrinsic .objectPrototype
  unfold Heap.linkAccessor?
  rw [untouched.property_eq _ _ there (.inl (by decide))]
  cases held : ((Realm.heap profile).object Intrinsic.objectPrototype.id).property? "__proto__" with
  | none => rfl
  | some property =>
      have within := (heap_sound profile).within_property held
      obtain ⟨slot, _, _, _⟩ := property
      cases slot with
      | data value => rfl
      | accessor getter setter =>
          simp only [Option.map_some, untouched.bind_builtin?_eq within.1.1,
            untouched.bind_builtin?_eq within.2.1]

/-- An untouched realm offers the facilities of its profile. -/
theorem Untouched.offers (untouched : Untouched profile heap) : Offers profile heap := by
  have fresh := heap_offers profile
  constructor
  · rw [untouched.objectFunction?_eq (by decide),
      untouched.map_builtin?_eq (within_objectFunction? profile _)]
    exact fresh.getPrototypeOf
  · rw [untouched.objectFunction?_eq (by decide),
      untouched.map_builtin?_eq (within_objectFunction? profile _)]
    exact fresh.setPrototypeOf
  · rw [untouched.linkAccessor?_eq]
    exact fresh.linkAccessor
  · rw [untouched.functionOf?_eq (by decide) (by decide)]
    exact fresh.objectWriter
  · rw [untouched.functionOf?_eq (by decide) (by decide)]
    exact fresh.reflectWriter
  · rw [untouched.global?_eq (by decide)]
    exact fresh.reflectAbsent
  · rw [untouched.reflectConstruct?_eq, untouched.bind_builtin?_eq (within_reflectConstruct? profile)]
    exact fresh.reflectConstruct
  · rw [untouched.reflectConstruct?_eq,
      untouched.readFrom?_eq (within_reflectConstruct? profile) (by decide)]
    exact fresh.sham
  · rw [untouched.global?_eq (by decide), untouched.map_isCallable_eq (within_global? profile _)]
    exact fresh.proxy
  · rw [untouched.global?_eq (by decide), untouched.bind_builtin?_eq (within_global? profile _)]
    exact fresh.boolean
  · rw [untouched.booleanValueOf?_eq, untouched.bind_builtin?_eq (within_booleanValueOf? profile)]
    exact fresh.booleanValueOf
  · rw [untouched.global?_eq (by decide), untouched.passesTo?_eq (within_global? profile _) (by decide)]
    exact fresh.boolean_passes
  · rw [untouched.global?_eq (by decide),
      untouched.readFrom?_eq (within_global? profile _) (by decide),
      untouched.passesTo?_eq (within_readFrom? profile _ _) (by decide)]
    exact fresh.booleanPrototype_passes
  · rw [untouched.prototype_eq _ ((heap_sound profile).intrinsic .objectPrototype)]
    exact fresh.objectPrototype
  · rw [untouched.prototype_eq _ ((heap_sound profile).intrinsic .functionPrototype)]
    exact fresh.functionPrototype
  · rw [untouched.proxy?_eq ((heap_sound profile).intrinsic .functionPrototype)]
    exact fresh.functionPrototype_ordinary
  · rw [untouched.property_eq _ _ ((heap_sound profile).intrinsic .functionPrototype)
      (.inl (by decide))]
    exact fresh.functionPrototype_missing

end Realm

end ClassLowering
