import ClassLowering.Object

/-!
# The heap

All objects, in the order in which they were made. Reading is total: an identity that was never given
out reads as an object without properties and links. `object_modify` and `object_allocate` say how
the two ways of changing a heap are seen by a read.
-/

namespace ClassLowering

/-- All objects of a realm. -/
structure Heap where
  objects : Array Object := #[]

namespace Heap

/-- The number of objects. -/
def size (heap : Heap) : Nat := heap.objects.size

/-- The object of an identity. -/
def object (heap : Heap) (id : ObjectId) : Object := heap.objects[id.index]?.getD {}

/-- The identity that the next object gets. -/
def next (heap : Heap) : ObjectId := ⟨heap.size⟩

/-- Adds an object. -/
def allocate (heap : Heap) (object : Object) : ObjectId × Heap :=
  (heap.next, { objects := heap.objects.push object })

/-- Changes an object in place. -/
def modify (heap : Heap) (id : ObjectId) (change : Object → Object) : Heap :=
  { objects := heap.objects.modify id.index change }

theorem object_modify (heap : Heap) (id other : ObjectId) (change : Object → Object)
    (present : id.index < heap.size) :
    (heap.modify id change).object other =
      if other = id then change (heap.object id) else heap.object other := by
  have bound : id.index < heap.objects.size := present
  simp only [object, modify, Array.getElem?_modify]
  by_cases same : other = id
  · subst same
    simp [bound]
  · have differs : id.index ≠ other.index := fun equal => same (by cases id; cases other; simp_all)
    simp [same, differs]

@[simp] theorem object_modify_self (heap : Heap) (id : ObjectId) (change : Object → Object)
    (present : id.index < heap.size) :
    (heap.modify id change).object id = change (heap.object id) := by
  simp [object_modify, present]

theorem object_modify_ne (heap : Heap) {id other : ObjectId} (change : Object → Object)
    (differs : other ≠ id) : (heap.modify id change).object other = heap.object other := by
  have indices : id.index ≠ other.index := fun equal =>
    differs (by cases id; cases other; simp_all)
  simp [object, modify, Array.getElem?_modify, indices]

@[simp] theorem size_modify (heap : Heap) (id : ObjectId) (change : Object → Object) :
    (heap.modify id change).size = heap.size := by simp [size, modify]

theorem modify_self (heap : Heap) (id : ObjectId) : (heap.modify id fun object => object) = heap := by
  have objects_eq : (heap.objects.modify id.index fun object => object) = heap.objects := by
    refine Array.ext (by simp) fun place _ _ => ?_
    rw [Array.getElem_modify]
    split <;> rfl
  exact congrArg Heap.mk objects_eq

theorem modify_modify (heap : Heap) (id : ObjectId) (first second : Object → Object) :
    (heap.modify id first).modify id second = heap.modify id (second ∘ first) := by
  have objects_eq : (heap.objects.modify id.index first).modify id.index second =
      heap.objects.modify id.index (second ∘ first) := by
    refine Array.ext (by simp) fun place _ _ => ?_
    simp only [Array.getElem_modify]
    split <;> rfl
  exact congrArg Heap.mk objects_eq

/-- Only what becomes of the object itself matters for a change of it. -/
theorem modify_congr {heap : Heap} {id : ObjectId} {change other : Object → Object}
    (present : id.index < heap.size) (same : change (heap.object id) = other (heap.object id)) :
    heap.modify id change = heap.modify id other := by
  have bound : id.index < heap.objects.size := present
  have there : heap.object id = heap.objects[id.index] := by
    rw [object, Array.getElem?_eq_getElem bound, Option.getD_some]
  rw [there] at same
  unfold modify
  congr 1
  refine Array.ext (by simp) fun place _ _ => ?_
  rw [Array.getElem_modify, Array.getElem_modify]
  split
  · next equal =>
    cases equal
    exact same
  · rfl

theorem object_allocate (heap : Heap) (object : Object) (id : ObjectId) :
    (heap.allocate object).2.object id =
      if id = heap.next then object else heap.object id := by
  simp only [Heap.object, allocate, next, size, Array.getElem?_push]
  by_cases fresh : id.index = heap.objects.size
  · have same : id = ⟨heap.objects.size⟩ := by cases id; simp_all
    simp [same]
  · have differs : id ≠ ⟨heap.objects.size⟩ := fun equal => fresh (by rw [equal])
    simp [fresh, differs]

@[simp] theorem size_allocate (heap : Heap) (object : Object) :
    (heap.allocate object).2.size = heap.size + 1 := by simp [size, allocate]

/-- Writes an own property of an object without asking. -/
def setProperty (heap : Heap) (id : ObjectId) (key : PropertyKey) (property : Property) : Heap :=
  heap.modify id (·.setProperty key property)

/-- Writes an own value of an object without asking. -/
def setValue (heap : Heap) (id : ObjectId) (key : PropertyKey) (value : Value) : Heap :=
  heap.modify id (·.setValue key value)

/-- Points the prototype link of an object without asking. -/
def setLink (heap : Heap) (id : ObjectId) (prototype : Option ObjectId) : Heap :=
  heap.modify id fun object => { object with prototype }

/-- The function behind a value: its identity and its code. -/
def function? (heap : Heap) (value : Value) : Option (ObjectId × Callable) :=
  match value with
  | .object id => (heap.object id).callable?.map fun callable => (id, callable)
  | _ => none

/-- Whether a value can be called. -/
def isCallable (heap : Heap) (value : Value) : Bool := (heap.function? value).isSome

/-- Whether a value can be constructed. -/
def isConstructor (heap : Heap) (value : Value) : Bool :=
  (heap.function? value).any fun function => function.2.kind != .method

/-- Whether a value is an error object. -/
def isError (heap : Heap) (value : Value) : Bool :=
  match value with
  | .object id => (heap.object id).isError
  | _ => false

end Heap

end ClassLowering
