import ClassLowering.Heap.Build

/-!
# Larger heaps

A heap extends another if it holds the same objects at the old places. Whatever is built on a heap
extends it, as long as only new objects are written to.
-/

namespace ClassLowering.Heap

variable {heap larger : Heap} {id : ObjectId}

/-- Everything that was there is there unchanged. -/
structure Extends (heap larger : Heap) : Prop where
  size_le : heap.size ≤ larger.size
  object_eq : ∀ id, id.index < heap.size → larger.object id = heap.object id

namespace Extends

theorem refl (heap : Heap) : Extends heap heap := ⟨Nat.le_refl _, fun _ _ => rfl⟩

theorem trans {largest : Heap} (first : Extends heap larger) (second : Extends larger largest) :
    Extends heap largest where
  size_le := Nat.le_trans first.size_le second.size_le
  object_eq id present :=
    (second.object_eq id (Nat.lt_of_lt_of_le present first.size_le)).trans
      (first.object_eq id present)

theorem allocate (heap : Heap) (object : Object) : Extends heap (heap.allocate object).2 where
  size_le := by simp
  object_eq id present := by
    have old : id ≠ heap.next := by
      rintro rfl
      exact Nat.lt_irrefl _ present
    rw [object_allocate, if_neg old]

/-- Writing to a new object leaves the old ones alone. -/
theorem modify (grown : Extends heap larger) (new : heap.size ≤ id.index)
    (change : Object → Object) : Extends heap (larger.modify id change) where
  size_le := by rw [size_modify]; exact grown.size_le
  object_eq other present := by
    have differs : other ≠ id := by
      rintro rfl
      exact Nat.lt_irrefl _ (Nat.lt_of_lt_of_le present new)
    rw [object_modify_ne larger change differs]
    exact grown.object_eq other present

end Extends

theorem next_index_lt (heap : Heap) (object : Object) :
    heap.next.index < (heap.allocate object).2.size := by
  rw [size_allocate]
  exact Nat.lt_succ_self _

@[simp] theorem object_allocate_next (heap : Heap) (object : Object) :
    (heap.allocate object).2.object heap.next = object := by
  rw [object_allocate, if_pos rfl]

/-- A new object might as well have the property from the start. -/
theorem setProperty_allocate (heap : Heap) (object : Object) (key : PropertyKey) (property : Property) :
    (heap.allocate object).2.setProperty heap.next key property =
      (heap.allocate (object.setProperty key property)).2 := by
  have objects_eq : (heap.objects.push object).modify heap.objects.size (·.setProperty key property) =
      heap.objects.push (object.setProperty key property) := by
    apply Array.ext_getElem?
    intro place
    simp only [Array.getElem?_modify, Array.getElem?_push]
    by_cases last : place = heap.objects.size
    · simp [last]
    · simp [last, Ne.symm last]
  exact congrArg Heap.mk objects_eq

end ClassLowering.Heap
