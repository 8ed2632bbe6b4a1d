import ClassLowering.Proofs.Heap.Keeping
import ClassLowering.Proofs.Soundness.Realm

/-!
# Untouched realms

A heap is untouched if all that the realm of a profile installed is still as it was, and if nothing was
added under the keys by which lowered classes look for the facilities of their host. Reads of such keys
find what they would find in the fresh realm.
-/

namespace ClassLowering

open Bounded

namespace Realm

/-- The keys under which lowered classes look for what the host offers. -/
def facilityKeys : List PropertyKey :=
  ["Object", "getPrototypeOf", "setPrototypeOf", "__proto__", "Reflect", "construct", "sham",
    "Proxy", "Boolean", "prototype", "valueOf"]

/-- The objects of the realm are as they were installed, also where they lack a facility. -/
structure Untouched (profile : Profile) (heap : Heap) : Prop where
  size_le : (Realm.heap profile).size ≤ heap.size
  kind_eq : ∀ id, id.index < (Realm.heap profile).size →
    (heap.object id).kind = ((Realm.heap profile).object id).kind
  prototype_eq : ∀ id, id.index < (Realm.heap profile).size →
    (heap.object id).prototype = ((Realm.heap profile).object id).prototype
  property_eq : ∀ id key, id.index < (Realm.heap profile).size →
    key ∈ facilityKeys ∨ ((Realm.heap profile).object id).hasOwn key = true →
    (heap.object id).property? key = ((Realm.heap profile).object id).property? key

variable {profile : Profile} {heap larger : Heap} {id : ObjectId} {key : PropertyKey}

theorem untouched_heap (profile : Profile) : Untouched profile (Realm.heap profile) :=
  ⟨Nat.le_refl _, fun _ _ => rfl, fun _ _ => rfl, fun _ _ _ _ => rfl⟩

/-- Only the objects of the realm matter. -/
theorem Untouched.keep (untouched : Untouched profile heap) (larger_le : heap.size ≤ larger.size)
    (same : ∀ id, id.index < (Realm.heap profile).size → larger.object id = heap.object id) :
    Untouched profile larger := by
  refine ⟨Nat.le_trans untouched.size_le larger_le, ?_, ?_, ?_⟩
  · intro id present
    rw [same id present]
    exact untouched.kind_eq id present
  · intro id present
    rw [same id present]
    exact untouched.prototype_eq id present
  · intro id key present offered
    rw [same id present]
    exact untouched.property_eq id key present offered

/-! ## Reads of untouched objects -/

theorem heap_sound (profile : Profile) : (Realm.heap profile).Sound .script :=
  (founds_heap .script profile).sound

/-- The realm is kept under the keys of facilities. -/
theorem Untouched.keeps (untouched : Untouched profile heap) (offered : key ∈ facilityKeys) :
    (Realm.heap profile).Keeps key heap :=
  ⟨untouched.size_le, untouched.kind_eq, untouched.prototype_eq,
    fun id present => untouched.property_eq id key present (.inl offered)⟩

theorem mem_facilityKeys_object : .string "Object" ∈ facilityKeys := by decide

theorem Untouched.proxy?_eq (untouched : Untouched profile heap)
    (present : id.index < (Realm.heap profile).size) :
    (heap.object id).proxy? = ((Realm.heap profile).object id).proxy? :=
  (untouched.keeps mem_facilityKeys_object).proxy?_eq present

theorem Untouched.builtin?_eq (untouched : Untouched profile heap) {value : Value}
    (within : Within .script (Realm.heap profile).size value) :
    heap.builtin? value = (Realm.heap profile).builtin? value :=
  (untouched.keeps mem_facilityKeys_object).builtin?_eq within

theorem Untouched.isCallable_eq (untouched : Untouched profile heap) {value : Value}
    (within : Within .script (Realm.heap profile).size value) :
    heap.isCallable value = (Realm.heap profile).isCallable value :=
  (untouched.keeps mem_facilityKeys_object).isCallable_eq within

theorem Untouched.plainRead?_eq (untouched : Untouched profile heap)
    (present : id.index < (Realm.heap profile).size) (offered : key ∈ facilityKeys) :
    heap.plainRead? id key = (Realm.heap profile).plainRead? id key :=
  (untouched.keeps offered).plainRead?_eq (heap_sound profile) present

end Realm

end ClassLowering
