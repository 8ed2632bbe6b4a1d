import ClassLowering.Proofs.Heap.Passing
import ClassLowering.Proofs.Run.Outcomes
import ClassLowering.Proofs.Soundness.Class

/-!
# Heaps that keep a key

A larger heap keeps a key if everything that was there still has its kind, its link and its property under
the key. From whatever was there, all walks for the key then find what they found before: in a sound heap
they do not leave it.
-/

namespace ClassLowering.Heap

open Bounded Relation

variable {law : Law} {heap larger : Heap} {key : PropertyKey} {id next : ObjectId}

/-- Walks agree whose strides agree on what was there, if they do not lead out of it. -/
theorem walk_congr {α : Type} {stride other : ObjectId → Stride α} (first : heap.Inside stride)
    (second : larger.Inside other) (same : ∀ id, id.index < heap.size → stride id = other id)
    (closed : ∀ id next, Moves stride id next → next.index < heap.size)
    (present : id.index < heap.size) : larger.walk other id = heap.walk stride id := by
  have agree (bound : Nat) : walkFor stride bound id = walkFor other bound id :=
    walkFor_congr same (fun id next _ moved => closed id next moved) present bound
  refine Option.ext fun answer => ?_
  rw [walk_eq_some_iff second, walk_eq_some_iff first]
  exact exists_congr fun bound => by rw [agree]

/-- Everything that was there has kept its kind, its link, and its property under a key. -/
structure Keeps (heap : Heap) (key : PropertyKey) (larger : Heap) : Prop where
  size_le : heap.size ≤ larger.size
  kind_eq : ∀ id, id.index < heap.size → (larger.object id).kind = (heap.object id).kind
  prototype_eq : ∀ id, id.index < heap.size →
    (larger.object id).prototype = (heap.object id).prototype
  property_eq : ∀ id, id.index < heap.size →
    (larger.object id).property? key = (heap.object id).property? key

theorem Extends.keeps (grown : heap.Extends larger) (key : PropertyKey) : heap.Keeps key larger where
  size_le := grown.size_le
  kind_eq id present := congrArg Object.kind (grown.object_eq id present)
  prototype_eq id present := congrArg Object.prototype (grown.object_eq id present)
  property_eq id present := congrArg (Object.property? · key) (grown.object_eq id present)

/-- The function of the host behind a value is the same as long as all objects keep their kinds. -/
theorem builtin?_of_kind_eq
    (same : ∀ id, id.index < heap.size → (larger.object id).kind = (heap.object id).kind)
    {function : Value} {host : FunctionKind × Builtin} (found : heap.builtin? function = some host) :
    larger.builtin? function = some host := by
  obtain ⟨id, callable, called, rfl, _, _⟩ := function?_of_builtin? found
  obtain ⟨callable, held, _, _⟩ := kind_of_builtin? found
  have kept := same id (index_lt_of_kind held nofun)
  rw [← found]
  simp only [builtin?, function?, Object.callable?, kept]

namespace Keeps

variable (keeps : heap.Keeps key larger)
include keeps

theorem proxy?_eq (present : id.index < heap.size) :
    (larger.object id).proxy? = (heap.object id).proxy? := by
  simp only [Object.proxy?, keeps.kind_eq id present]

theorem target?_eq (present : id.index < heap.size) :
    (larger.object id).target? = (heap.object id).target? := by
  simp only [Object.target?, keeps.proxy?_eq present]

theorem function?_eq {value : Value} (within : Within law heap.size value) :
    larger.function? value = heap.function? value := by
  cases value with
  | object id => simp only [function?, Object.callable?, keeps.kind_eq id within]
  | _ => rfl

theorem builtin?_eq {value : Value} (within : Within law heap.size value) :
    larger.builtin? value = heap.builtin? value := by
  simp only [builtin?, keeps.function?_eq within]

theorem isCallable_eq {value : Value} (within : Within law heap.size value) :
    larger.isCallable value = heap.isCallable value := by
  simp only [isCallable, keeps.function?_eq within]

/-! ## Walks from what was there -/

variable (sound : heap.Sound law) (present : id.index < heap.size)
include sound present

theorem resolve_eq : larger.resolve id = heap.resolve id := by
  have inside (heap : Heap) : heap.Inside heap.targetStride :=
    fun _ _ moved => index_lt_of_target (moves_follow_iff.mp moved)
  rw [resolve, resolve, walk_congr (inside heap) (inside larger) (fun id present => ?_)
    (fun _ _ moved => sound.within_target (moves_follow_iff.mp moved)) present]
  rw [targetStride, targetStride, keeps.target?_eq present]

theorem lookup_eq : larger.lookup id key = heap.lookup id key := by
  have inside (heap : Heap) : heap.Inside (heap.lookupStride key) :=
    fun _ _ moved => index_lt_of_prototype (lookupStride_moves moved)
  refine walk_congr (inside heap) (inside larger) (fun id present => ?_)
    (fun _ _ moved => sound.within_prototype (lookupStride_moves moved)) present
  simp only [lookupStride, keeps.proxy?_eq present, keeps.prototype_eq id present,
    keeps.property_eq id present]

theorem plainRead?_eq : larger.plainRead? id key = heap.plainRead? id key := by
  rw [plainRead?, plainRead?, keeps.lookup_eq sound present]

theorem storedValue_eq : larger.storedValue id key = heap.storedValue id key := by
  have inside (heap : Heap) : heap.Inside (heap.storedStride key) :=
    fun _ _ moved => index_lt_of_prototype (storedStride_moves moved)
  rw [storedValue, storedValue, walk_congr (inside heap) (inside larger) (fun id present => ?_)
    (fun _ _ moved => sound.within_prototype (storedStride_moves moved)) present]
  simp only [storedStride, keeps.prototype_eq id present, keeps.property_eq id present]

theorem assignment_eq : larger.assignment id key = heap.assignment id key := by
  refine walk_congr (assignment_inside heap key) (assignment_inside larger key)
    (fun id present => ?_) (fun _ _ moved => ?_) present
  · simp only [assignmentStride, keeps.target?_eq present, keeps.prototype_eq id present,
      keeps.property_eq id present]
  · rcases assignmentStride_moves moved with target | links
    · exact sound.within_target target
    · exact sound.within_prototype links

theorem has_eq : larger.has id key = heap.has id key := by
  refine walk_congr (has_inside heap key) (has_inside larger key) (fun id present => ?_)
    (fun _ _ moved => ?_) present
  · simp only [hasStride, keeps.target?_eq present, keeps.prototype_eq id present,
      Object.hasOwn_eq_isSome, keeps.property_eq id present]
  · rcases hasStride_moves moved with target | links
    · exact sound.within_target target
    · exact sound.within_prototype links

theorem prototypeOf_eq : larger.prototypeOf id = heap.prototypeOf id := by
  rw [prototypeOf, prototypeOf, keeps.resolve_eq sound present,
    keeps.prototype_eq _ (sound.within_resolve present)]

theorem inherits_eq (ancestor : ObjectId) : larger.inherits id ancestor = heap.inherits id ancestor := by
  have inside (heap : Heap) : heap.Inside (heap.ancestorStride ancestor) :=
    fun _ _ moved => index_lt_of_prototypeOf (ancestorStride_moves moved)
  rw [inherits, inherits, keeps.prototypeOf_eq sound present]
  cases linked : heap.prototypeOf id with
  | none => rfl
  | some first =>
      refine walk_congr (inside heap) (inside larger) (fun current present => ?_)
        (fun _ _ moved => sound.within_reported (ancestorStride_moves moved))
        (sound.within_reported linked)
      rw [ancestorStride, ancestorStride, keeps.prototypeOf_eq sound present]

/-- What is met on stored links, and whether it is, has not changed. -/
theorem linksTo_eq (other : ObjectId) : larger.linksTo id other = heap.linksTo id other := by
  have inside (heap : Heap) : heap.Inside (heap.linkStride other) :=
    fun _ _ moved => index_lt_of_prototype (linkStride_moves moved).1
  rw [linksTo, linksTo, walk_congr (inside heap) (inside larger) (fun current present => ?_)
    (fun _ _ moved => sound.within_prototype (linkStride_moves moved).1) present]
  simp only [linkStride, keeps.target?_eq present, keeps.prototype_eq current present]

end Keeps

/-- The functions of `Object` are those that were found before. -/
theorem Keeps.objectFunction?_eq (object : heap.Keeps "Object" larger) {name : String}
    (named : heap.Keeps name larger) (sound : heap.Sound law) :
    larger.objectFunction? name = heap.objectFunction? name := by
  have global : larger.globalObject = heap.globalObject := by
    rw [globalObject, globalObject, object.storedValue_eq sound (sound.intrinsic .global)]
  have within := sound.within_globalObject
  unfold objectFunction?
  rw [global]
  split
  · next id held =>
    rw [held] at within
    rw [named.storedValue_eq sound within]
    have stored := sound.within_storedValue id name
    cases found : heap.storedValue id name with
    | none => rfl
    | some function =>
        rw [found] at stored
        rw [Option.filter_some, Option.filter_some, named.isCallable_eq stored]
  · rfl

end ClassLowering.Heap
