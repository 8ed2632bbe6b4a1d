import ClassLowering.Proofs.Realm.Untouched
import Mathlib.Tactic.MkIffOfInductiveProp

/-!
# The facilities of a host

What lowered classes find when they look for the facilities of their host. In a fresh realm it is as the
profile says; as there are finitely many profiles, this is checked for each.
-/

namespace ClassLowering

open Bounded

namespace Heap

/-- The value that a read of a key gives without running a script, where there is an object to read. -/
def readFrom? (heap : Heap) (value : Option Value) (key : PropertyKey) : Option Value :=
  match value with
  | some (.object id) => heap.plainRead? id key
  | _ => none

/-- The functions of the host that read and write prototype links as `__proto__`. -/
def linkAccessor? (heap : Heap) :
    Option (Option (FunctionKind × Builtin) × Option (FunctionKind × Builtin)) :=
  ((heap.object Intrinsic.objectPrototype.id).property? "__proto__").map fun property =>
    match property.slot with
    | .accessor getter setter => (getter.bind heap.builtin?, setter.bind heap.builtin?)
    | .data _ => (none, none)

/-- The object to which a value hands a key on. -/
def passesTo? (heap : Heap) (value : Option Value) (key : PropertyKey) : Option ObjectId :=
  match value with
  | some (.object id) =>
      if (heap.object id).proxy?.isSome || (heap.object id).hasOwn key then none
      else (heap.object id).prototype
  | _ => none

/-- What is found under the name of a global variable. -/
def global? (heap : Heap) (name : String) : Option Value :=
  heap.plainRead? Intrinsic.global.id name

/-- What is found under a key of a global object. -/
def functionOf? (heap : Heap) (name : String) (key : PropertyKey) : Option Value :=
  heap.readFrom? (heap.global? name) key

/-- The function that constructs for a new target. -/
def reflectConstruct? (heap : Heap) : Option Value :=
  heap.readFrom? (heap.global? "Reflect") "construct"

/-- The function that asks a boxed boolean for its value. -/
def booleanValueOf? (heap : Heap) : Option Value :=
  heap.readFrom? (heap.readFrom? (heap.global? "Boolean") "prototype") "valueOf"

end Heap

namespace Realm

/-- A heap offers the facilities of a profile. -/
@[mk_iff] structure Offers (profile : Profile) (heap : Heap) : Prop where
  getPrototypeOf : (heap.objectFunction? "getPrototypeOf").map heap.builtin? =
    if profile.objectGetPrototypeOf then some (some (.method, .objectGetPrototypeOf)) else none
  setPrototypeOf : (heap.objectFunction? "setPrototypeOf").map heap.builtin? =
    if profile.objectSetPrototypeOf then some (some (.method, .objectSetPrototypeOf)) else none
  linkAccessor : heap.linkAccessor? =
    if profile.legacyProtoAccessor then some (some (.method, .linkGetter), some (.method, .linkSetter))
    else none
  objectWriter : profile.objectSetPrototypeOf = true →
    (heap.functionOf? "Object" "setPrototypeOf").bind heap.builtin? =
      some (.method, .objectSetPrototypeOf)
  reflectWriter : profile.reflect ≠ .absent →
    (heap.functionOf? "Reflect" "setPrototypeOf").bind heap.builtin? =
      some (.method, .reflectSetPrototypeOf)
  reflectAbsent : profile.reflect = .absent → heap.global? "Reflect" = some .undefined
  reflectConstruct : profile.reflect ≠ .absent →
    heap.reflectConstruct?.bind heap.builtin? = some (.method, reflectConstructor profile.reflect)
  sham : profile.reflect ≠ .absent → heap.readFrom? heap.reflectConstruct? "sham" =
    some (if profile.reflect = .sham then .boolean true else .undefined)
  proxy : (heap.global? "Proxy").map heap.isCallable = some profile.proxy
  boolean : (heap.global? "Boolean").bind heap.builtin? =
    some (.builtinConstructor, .booleanConstructor)
  booleanValueOf : heap.booleanValueOf?.bind heap.builtin? = some (.method, .booleanValueOf)
  boolean_passes : heap.passesTo? (heap.global? "Boolean") "__proto__" =
    some Intrinsic.functionPrototype.id
  booleanPrototype_passes :
    heap.passesTo? (heap.readFrom? (heap.global? "Boolean") "prototype") "__proto__" =
      some Intrinsic.objectPrototype.id
  objectPrototype : (heap.object Intrinsic.objectPrototype.id).prototype = none
  functionPrototype : (heap.object Intrinsic.functionPrototype.id).prototype =
    some Intrinsic.objectPrototype.id
  functionPrototype_ordinary : (heap.object Intrinsic.functionPrototype.id).proxy? = none
  functionPrototype_missing :
    (heap.object Intrinsic.functionPrototype.id).property? "__proto__" = none

set_option synthInstance.maxSize 512 in
/-- A fresh realm offers the facilities of its profile. -/
theorem heap_offers (profile : Profile) : Offers profile (Realm.heap profile) := by
  obtain ⟨g, s, l, reflect, p⟩ := profile
  simp only [offers_iff]
  cases reflect <;> revert g s l p <;> decide +kernel

end Realm

end ClassLowering
