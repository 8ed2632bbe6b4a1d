import ClassLowering.Proofs.Run.Making

/-!
# Instances under construction

An assignment that meets neither a setter nor a read-only property writes the key on the object itself, or
on the one that it stands for. An instance has only data that assignments may change, so that this is up to
what lies above it.
-/

namespace ClassLowering

namespace Object

variable {object : Object} {prototype : ObjectId} {key : PropertyKey} {value : Value}

/-- An object that inherits from a prototype object and takes every assignment to a key of its own. -/
structure Instance (object : Object) (prototype : ObjectId) : Prop where
  ordinary : object.proxy? = none
  link : object.prototype = some prototype
  extensible : object.extensible = true
  removed : object.removed = .empty
  writable : ∀ key property, object.property? key = some property →
    property.writable = true ∧ ∃ value, property.slot = .data value

/-- An object without properties takes every assignment. -/
theorem instance_of_bare (ordinary : object.proxy? = none) (link : object.prototype = some prototype)
    (extensible : object.extensible = true) (properties : object.properties = .empty)
    (removed : object.removed = .empty) : object.Instance prototype := by
  refine ⟨ordinary, link, extensible, removed, ?_⟩
  intro key property held
  rw [property?, properties, Table.get?_empty] at held
  cases held

theorem instance_inheriting (prototype : ObjectId) :
    (Object.inheriting (some prototype)).Instance prototype :=
  instance_of_bare rfl rfl rfl rfl rfl

/-- The property that an assignment leaves on an instance. -/
theorem Instance.setValue (made : object.Instance prototype) (key : PropertyKey) (value : Value) :
    (object.setValue key value).Instance prototype := by
  refine ⟨made.ordinary, made.link, made.extensible, made.removed, fun other property held => ?_⟩
  rw [Object.setValue, property?_setProperty, latest?, made.removed, Table.get?_empty,
    Option.or_none] at held
  split at held
  · cases before : object.property? key with
    | none =>
        rw [before] at held
        cases held
        exact ⟨rfl, value, rfl⟩
    | some old =>
        rw [before] at held
        cases held
        exact ⟨(made.writable key old before).1, value, rfl⟩
  · exact made.writable other property held

/-- The object after assignments, one after the other. -/
def written (object : Object) (entries : List (PropertyKey × Value)) : Object :=
  entries.foldl (fun object entry => object.setValue entry.1 entry.2) object

theorem Instance.written (made : object.Instance prototype) (entries : List (PropertyKey × Value)) :
    (object.written entries).Instance prototype := by
  induction entries generalizing object with
  | nil => exact made
  | cons entry rest ih => exact ih (made.setValue entry.1 entry.2)

theorem kind_written (object : Object) (entries : List (PropertyKey × Value)) :
    (object.written entries).kind = object.kind := by
  induction entries generalizing object with
  | nil => rfl
  | cons entry rest ih => exact ih (object.setValue entry.1 entry.2)

theorem prototype_written (object : Object) (entries : List (PropertyKey × Value)) :
    (object.written entries).prototype = object.prototype := by
  induction entries generalizing object with
  | nil => rfl
  | cons entry rest ih => exact ih (object.setValue entry.1 entry.2)

theorem written_append (object : Object) (first second : List (PropertyKey × Value)) :
    object.written (first ++ second) = (object.written first).written second :=
  List.foldl_append

/-- The value that an object holds after a write, with the attributes of the latest property. -/
theorem property?_setValue_self (object : Object) (key : PropertyKey) (value : Value) :
    ∃ property, (object.setValue key value).property? key = some property ∧
      property.slot = .data value ∧
      ((∀ old, object.latest? key = some old → old.writable = true) → property.writable = true) := by
  refine ⟨_, (property?_setProperty ..).trans (if_pos rfl), ?_⟩
  cases object.latest? key with
  | none => exact ⟨rfl, fun _ => rfl⟩
  | some old => exact ⟨rfl, fun writable => writable old rfl⟩

theorem property?_setValue_ne (object : Object) {key other : PropertyKey} (differs : key ≠ other)
    (value : Value) : (object.setValue other value).property? key = object.property? key :=
  (property?_setProperty ..).trans (if_neg differs)

/-- An object has an own value under a key, whatever its attributes. -/
def HasValue (object : Object) (key : PropertyKey) (value : Value) : Prop :=
  ∃ property, object.property? key = some property ∧ property.slot = .data value

/-- Of several assignments to a key the last one counts. -/
theorem hasValue_written (object : Object) {entries : List (PropertyKey × Value)}
    (last : entries.reverse.lookup key = some value) : (object.written entries).HasValue key value := by
  induction entries using List.reverseRecOn with
  | nil => cases last
  | append_singleton before entry ih =>
      rw [List.reverse_append, List.reverse_singleton, List.singleton_append, List.lookup_cons] at last
      rw [written_append]
      by_cases same : key = entry.1
      · subst same
        rw [beq_self_eq_true] at last
        cases last
        obtain ⟨property, held, slot, _⟩ :=
          (object.written before).property?_setValue_self entry.1 entry.2
        exact ⟨property, held, slot⟩
      · rw [beq_false_of_ne same] at last
        obtain ⟨property, held, slot⟩ := ih last
        exact ⟨property, (property?_setValue_ne _ same entry.2).trans held, slot⟩

end Object

namespace Heap

variable {heap : Heap} {id prototype : ObjectId} {key : PropertyKey}

/-! ## Objects that take assignments -/

/-- An assignment to a key of an object is a write on the object, or on the one that it stands for. -/
structure Takes (heap : Heap) (id : ObjectId) (key : PropertyKey) : Prop where
  present : (heap.resolve id).index < heap.size
  extensible : (heap.object (heap.resolve id)).extensible = true
  assignment : heap.assignment (heap.resolve id) key = some .write

/-- Assignments to an object, one after the other: each of them is a write when it is made. -/
def TakesEach (heap : Heap) (id : ObjectId) : List (PropertyKey × Value) → Prop
  | [] => True
  | (key, value) :: rest =>
      heap.Takes id key ∧ (heap.setValue (heap.resolve id) key value).TakesEach id rest

/-- Assignments to a key of an object are writes also after others. A property that was removed from there
was not read-only, since its attributes outlive it. -/
structure TakesAlways (heap : Heap) (id : ObjectId) (key : PropertyKey) : Prop
    extends heap.Takes id key where
  ordinary : (heap.object (heap.resolve id)).proxy? = none
  latest : ∀ property, (heap.object (heap.resolve id)).latest? key = some property →
    property.writable = true

section Write

variable {holder : ObjectId} (present : holder.index < heap.size) (other : PropertyKey) (value : Value)
include present

/-- A write changes neither what an object is nor its link. -/
theorem object_setValue (id : ObjectId) :
    (heap.setValue holder other value).object id =
      if id = holder then (heap.object holder).setValue other value else heap.object id :=
  object_modify heap holder id _ present

theorem resolve_setValue (id : ObjectId) :
    (heap.setValue holder other value).resolve id = heap.resolve id := by
  have same : (heap.setValue holder other value).targetStride = heap.targetStride := by
    funext id
    rw [targetStride, targetStride, object_setValue present]
    split
    · next equal =>
      subst equal
      rfl
    · rfl
  rw [resolve, resolve, walk, walk, same, Heap.setValue, size_modify]

/-- An assignment to another key meets what it met before. -/
theorem assignment_setValue_ne (differs : key ≠ other) (id : ObjectId) :
    (heap.setValue holder other value).assignment id key = heap.assignment id key := by
  have same : (heap.setValue holder other value).assignmentStride key = heap.assignmentStride key := by
    funext id
    rw [assignmentStride, assignmentStride, object_setValue present]
    by_cases equal : id = holder
    · subst equal
      have unaffected := (heap.object id).property?_setValue_ne differs value
      simp only [if_true, unaffected]
      rfl
    · simp only [if_neg equal]
  rw [Heap.assignment, Heap.assignment, walk, walk, same, Heap.setValue, size_modify]

end Write

theorem TakesAlways.setValue (takes : heap.TakesAlways id key) (other : PropertyKey) (value : Value) :
    (heap.setValue (heap.resolve id) other value).TakesAlways id key := by
  obtain ⟨⟨present, extensible, assignment⟩, ordinary, latest⟩ := takes
  have resolved := resolve_setValue present other value id
  have size_eq : (heap.setValue (heap.resolve id) other value).size = heap.size := size_modify ..
  have object_eq : (heap.setValue (heap.resolve id) other value).object (heap.resolve id) =
      (heap.object (heap.resolve id)).setValue other value := object_modify_self _ _ _ present
  refine ⟨⟨?_, ?_, ?_⟩, ?_, ?_⟩ <;> rw [resolved]
  · rwa [size_eq]
  · rw [object_eq]
    exact extensible
  · by_cases same : key = other
    · -- The key is the object's own now, whatever was met before.
      subst same
      obtain ⟨property, held, slot, writable⟩ :=
        (heap.object (heap.resolve id)).property?_setValue_self key value
      refine Holds.assignment_eq ⟨property, ?_, slot, writable latest⟩ ?_
      · rw [object_eq, held]
      · rw [object_eq]
        exact ordinary
    · rw [assignment_setValue_ne present other value same]
      exact assignment
  · rw [object_eq]
    exact ordinary
  · rw [object_eq]
    intro property last
    rw [Object.latest?] at last
    by_cases same : key = other
    · subst same
      obtain ⟨written, held, _, writable⟩ :=
        (heap.object (heap.resolve id)).property?_setValue_self key value
      rw [held] at last
      cases last
      exact writable latest
    · rw [Object.property?_setValue_ne _ same] at last
      exact latest property last

/-- The assignments of a list may come in any order. -/
theorem TakesAlways.each {entries : List (PropertyKey × Value)}
    (takes : ∀ entry ∈ entries, heap.TakesAlways id entry.1) : heap.TakesEach id entries := by
  induction entries generalizing heap with
  | nil => trivial
  | cons entry rest ih =>
      have here := takes entry List.mem_cons_self
      exact ⟨here.toTakes, ih fun other listed =>
        (takes other (List.mem_cons_of_mem _ listed)).setValue entry.1 entry.2⟩

/-- An assignment to a key of an instance is a write if it is one from the prototype upwards. -/
theorem assignment_instance (made : (heap.object id).Instance prototype)
    (above : heap.assignment prototype key = some .write) : heap.assignment id key = some .write := by
  cases held : (heap.object id).property? key with
  | some property =>
      obtain ⟨writable, value, slot⟩ := made.writable key property held
      have holds : heap.Holds id key value := ⟨property, held, slot, writable⟩
      exact holds.assignment_eq made.ordinary
  | none =>
      have passes : heap.Passes key id prototype := ⟨made.ordinary, held, made.link⟩
      exact Clears.assignment_eq (.single passes) above

/-- An instance takes what nothing above it takes over or withholds. -/
theorem takesAlways_instance (made : (heap.object id).Instance prototype)
    (above : heap.assignment prototype key = some .write) : heap.TakesAlways id key := by
  refine ⟨⟨?_, ?_, ?_⟩, ?_, ?_⟩ <;> rw [resolve_of_ordinary made.ordinary]
  · exact index_lt_of_prototype made.link
  · exact made.extensible
  · exact assignment_instance made above
  · exact made.ordinary
  · intro property last
    rw [Object.latest?, made.removed, Table.get?_empty, Option.or_none] at last
    exact (made.writable key property last).1

/-! ## Assignments in a row -/

variable {entries : List (PropertyKey × Value)}

/-- The heap after assignments to an object, one after the other. -/
def written (heap : Heap) (id : ObjectId) (entries : List (PropertyKey × Value)) : Heap :=
  entries.foldl (fun heap entry => heap.setValue id entry.1 entry.2) heap

theorem written_append (heap : Heap) (id : ObjectId) (first second : List (PropertyKey × Value)) :
    heap.written id (first ++ second) = (heap.written id first).written id second :=
  List.foldl_append

@[simp] theorem size_written (heap : Heap) (id : ObjectId) (entries : List (PropertyKey × Value)) :
    (heap.written id entries).size = heap.size := by
  induction entries generalizing heap with
  | nil => rfl
  | cons entry rest ih => exact (ih _).trans (size_modify ..)

theorem object_written_self (present : id.index < heap.size) :
    (heap.written id entries).object id = (heap.object id).written entries := by
  induction entries generalizing heap with
  | nil => rfl
  | cons entry rest ih =>
      have there : id.index < (heap.setValue id entry.1 entry.2).size := by
        rwa [Heap.setValue, size_modify]
      refine (ih there).trans ?_
      rw [Heap.setValue, object_modify_self heap id _ present]
      rfl

theorem object_written_ne {other : ObjectId} (differs : other ≠ id) :
    (heap.written id entries).object other = heap.object other := by
  induction entries generalizing heap with
  | nil => rfl
  | cons entry rest ih => exact ih.trans (object_modify_ne heap _ differs)

theorem extendsBut_written (heap : Heap) (id : ObjectId) (entries : List (PropertyKey × Value)) :
    heap.ExtendsBut id (heap.written id entries) where
  size_le := Nat.le_of_eq (size_written heap id entries).symm
  object_eq _ differs _ := object_written_ne differs

/-- An object takes assignments if it takes those of the beginning, and then the others. -/
theorem takesEach_append {later : List (PropertyKey × Value)} :
    heap.TakesEach id (entries ++ later) ↔
      heap.TakesEach id entries ∧ (heap.written (heap.resolve id) entries).TakesEach id later := by
  induction entries generalizing heap with
  | nil => exact ⟨fun takes => ⟨trivial, takes⟩, And.right⟩
  | cons entry rest ih =>
      constructor
      · rintro ⟨here, takes⟩
        obtain ⟨first, second⟩ := ih.mp takes
        rw [resolve_setValue here.present] at second
        exact ⟨⟨here, first⟩, second⟩
      · rintro ⟨⟨here, first⟩, second⟩
        refine ⟨here, ih.mpr ⟨first, ?_⟩⟩
        rw [resolve_setValue here.present]
        exact second

theorem TakesEach.resolve_written (takes : heap.TakesEach id entries) :
    (heap.written (heap.resolve id) entries).resolve id = heap.resolve id := by
  induction entries generalizing heap with
  | nil => rfl
  | cons entry rest ih =>
      have later := ih takes.2
      rwa [resolve_setValue takes.1.present] at later

/-- What an object holds after assignments, on the object itself or on the one that it stands for. -/
theorem TakesEach.object_written (takes : heap.TakesEach id entries) :
    (heap.written (heap.resolve id) entries).object (heap.resolve id) =
      (heap.object (heap.resolve id)).written entries := by
  cases entries with
  | nil => rfl
  | cons entry rest => exact object_written_self takes.1.present

end Heap

/-- What takes an assignment is written on. -/
theorem Run.set_taken {engine : Engine} {state : State} {id : ObjectId} {key : PropertyKey}
    (takes : state.heap.Takes id key) (value : Value) :
    set id key value engine state =
      .done true { state with heap := state.heap.setValue (state.heap.resolve id) key value } := by
  have accepts : (state.heap.object (state.heap.resolve id)).accepts key = true := by
    rw [Object.accepts, takes.extensible]
    rfl
  rw [set_of_assignment takes.assignment, assign, ask_bind, if_pos accepts]
  rfl

end ClassLowering
