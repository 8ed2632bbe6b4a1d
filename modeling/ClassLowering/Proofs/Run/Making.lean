import ClassLowering.Proofs.Run.Evolution

/-!
# What runs make

The objects that functions, lists and super callers consist of once they are made.
-/

namespace ClassLowering

namespace Heap

variable {heap larger : Heap} {id : ObjectId} {key : PropertyKey} {value : Value}

/-- An object has an own value under a key that assignments may change. -/
def Holds (heap : Heap) (id : ObjectId) (key : PropertyKey) (value : Value) : Prop :=
  ∃ property, (heap.object id).property? key = some property ∧ property.slot = .data value ∧
    property.writable = true

theorem Holds.index_lt (holds : heap.Holds id key value) : id.index < heap.size := by
  obtain ⟨property, held, _⟩ := holds
  exact index_lt_of_property held

theorem Holds.plainRead? (holds : heap.Holds id key value)
    (ordinary : (heap.object id).proxy? = none) : heap.plainRead? id key = some value := by
  obtain ⟨property, held, same, _⟩ := holds
  exact plainRead?_own ordinary held same

/-- An assignment to an own value is a write. -/
theorem Holds.assignment_eq (holds : heap.Holds id key value)
    (ordinary : (heap.object id).proxy? = none) : heap.assignment id key = some .write := by
  obtain ⟨⟨_, _, _, _⟩, held, slot, writable⟩ := holds
  cases slot
  cases writable
  have finished : heap.assignmentStride key id = .finish .write := by
    simp only [assignmentStride, target?_of_ordinary ordinary, held, if_true]
  exact walk_of_finish finished

theorem Holds.setValue (holds : heap.Holds id key value) (other : Value) :
    (heap.setValue id key other).Holds id key other := by
  have changed := object_modify_self heap id (·.setValue key other) holds.index_lt
  obtain ⟨property, held, _, writable⟩ := holds
  refine ⟨property.withValue other, ?_, rfl, writable⟩
  rw [Heap.setValue, changed, Object.setValue, Object.property?_setProperty, if_pos rfl,
    Object.latest?, held]
  rfl

theorem proxy?_of_function {callable : Callable} (held : (heap.object id).kind = .function callable) :
    (heap.object id).proxy? = none := by
  rw [Object.proxy?, held]

theorem function?_of_kind {callable : Callable} (held : (heap.object id).kind = .function callable) :
    heap.function? (.object id) = some (id, callable) := by
  rw [function?, Object.callable?, held]
  rfl

theorem object_setProperty_self (present : id.index < heap.size) (property : Property) :
    (heap.setProperty id key property).object id = (heap.object id).setProperty key property :=
  object_modify_self heap id _ present

theorem object_setProperty_ne {other : ObjectId} (differs : other ≠ id) (property : Property) :
    (heap.setProperty id key property).object other = heap.object other :=
  object_modify_ne heap _ differs

@[simp] theorem size_setProperty (property : Property) :
    (heap.setProperty id key property).size = heap.size := size_modify ..

/-- A function that can be constructed, with the prototype object it was made with. -/
structure MadeFunction (heap : Heap) (callable : Callable) (id prototype : ObjectId) : Prop where
  kind : (heap.object id).kind = .function callable
  link : (heap.object id).prototype = some Intrinsic.functionPrototype.id
  extensible : (heap.object id).extensible = true
  instances : heap.Holds id "prototype" (.object prototype)
  missing : ∀ key, key ∉ ["length", "name", "prototype"].map PropertyKey.string →
    (heap.object id).property? key = none
  prototype : heap.object prototype =
    (Object.inheriting (some Intrinsic.objectPrototype.id)).setProperty "constructor"
      (.hidden (.object id))

variable {callable : Callable}

theorem MadeFunction.constructor_held {prototype : ObjectId}
    (made : heap.MadeFunction callable id prototype) : heap.Holds prototype "constructor" (.object id) := by
  refine ⟨.hidden (.object id), ?_, rfl, rfl⟩
  rw [made.prototype, Object.property?_setProperty, if_pos rfl]

theorem Holds.congr {heap' : Heap} (holds : heap.Holds id key value)
    (same : heap'.object id = heap.object id) : heap'.Holds id key value := by
  rwa [Holds, same]

theorem MadeFunction.grow {prototype : ObjectId} (made : heap.MadeFunction callable id prototype)
    (grown : heap.Extends larger) : larger.MadeFunction callable id prototype := by
  have function_eq := grown.object_eq id made.instances.index_lt
  have prototype_eq := grown.object_eq prototype made.constructor_held.index_lt
  exact ⟨function_eq ▸ made.kind, function_eq ▸ made.link, function_eq ▸ made.extensible,
    made.instances.congr function_eq, function_eq ▸ made.missing, prototype_eq ▸ made.prototype⟩

/-- The heap with a new function that has no prototype object. -/
def withFunction (heap : Heap) (callable : Callable) (length : Nat) : Heap :=
  let made : Object := { prototype := some Intrinsic.functionPrototype.id, kind := .function callable }
  (((heap.allocate made).2.setProperty heap.next "length"
      { slot := .data (.number (Number.ofNat length)), writable := false, enumerable := false })
    ).setProperty heap.next "name"
      { slot := .data (.string callable.name), writable := false, enumerable := false }

variable {length : Nat}

@[simp] theorem size_withFunction : (heap.withFunction callable length).size = heap.size + 1 := by
  simp only [withFunction, size_setProperty, size_allocate]

theorem extends_withFunction : heap.Extends (heap.withFunction callable length) :=
  ((Extends.allocate heap _).modify (Nat.le_refl _) _).modify (Nat.le_refl _) _

theorem object_withFunction :
    (heap.withFunction callable length).object heap.next =
      ((({ prototype := some Intrinsic.functionPrototype.id, kind := .function callable } : Object)
        ).setProperty "length"
          { slot := .data (.number (Number.ofNat length)), writable := false, enumerable := false }
        ).setProperty "name"
          { slot := .data (.string callable.name), writable := false, enumerable := false } := by
  have present (object : Object) : heap.next.index < (heap.allocate object).2.size :=
    next_index_lt heap object
  rw [withFunction, object_setProperty_self (by rw [size_setProperty]; exact present _),
    object_setProperty_self (present _), object_allocate_next]

end Heap

namespace Build

/-- A function that is not constructed gets no prototype object. -/
theorem function_eq_of_method {callable : Callable} (method : callable.kind ≠ .normal) (length : Nat)
    (heap : Heap) :
    function callable length heap = (heap.next, heap.withFunction callable length) := by
  unfold function
  rw [decide_eq_false method]
  rfl

theorem function_eq_of_normal {callable : Callable} (normal : callable.kind = .normal) (length : Nat)
    (heap : Heap) :
    function callable length heap =
      (heap.next, (instances heap.next (heap.withFunction callable length)).2) := by
  unfold function
  rw [decide_eq_true normal]
  rfl

/-- A function gets a new prototype object, which links back. -/
theorem instances_makes {heap : Heap} {id : ObjectId} (present : id.index < heap.size) :
    (instances id heap).2.object id =
        (heap.object id).setProperty "prototype"
          { slot := .data (.object heap.next), enumerable := false, configurable := false } ∧
      (instances id heap).2.object heap.next =
        (Object.inheriting (some Intrinsic.objectPrototype.id)).setProperty "constructor"
          (.hidden (.object id)) := by
  have differs : id ≠ heap.next := by
    rintro rfl
    exact Nat.lt_irrefl _ present
  let paired := (heap.allocate (.inheriting (some Intrinsic.objectPrototype.id))).2
  let linked := paired.setProperty heap.next "constructor" (.hidden (.object id))
  have there : heap.next.index < paired.size := Heap.next_index_lt ..
  have still : id.index < linked.size := by
    rw [Heap.size_setProperty, Heap.size_allocate]
    exact Nat.lt_succ_of_lt present
  have kept : linked.object id = heap.object id := by
    refine (Heap.object_setProperty_ne differs _).trans ?_
    rw [Heap.object_allocate, if_neg differs]
  constructor
  · refine (Heap.object_setProperty_self still _).trans ?_
    rw [kept]
  · refine (Heap.object_setProperty_ne differs.symm _).trans ?_
    refine (Heap.object_setProperty_self there _).trans ?_
    rw [Heap.object_allocate_next]

theorem instances_extends {older heap : Heap} {id : ObjectId} (grown : older.Extends heap)
    (new : older.size ≤ id.index) : older.Extends (instances id heap).2 :=
  ((grown.trans (.allocate ..)).modify grown.size_le _).modify new _

/-- A normal function comes with a prototype object that links back. -/
theorem function_makes (heap : Heap) {callable : Callable} (normal : callable.kind = .normal)
    (length : Nat) :
    ∃ larger, function callable length heap = (heap.next, larger) ∧ heap.Extends larger ∧
      larger.MadeFunction callable heap.next ⟨heap.size + 1⟩ := by
  have present : heap.next.index < (heap.withFunction callable length).size := by
    rw [Heap.size_withFunction]
    exact Nat.lt_succ_self _
  have next_eq : (heap.withFunction callable length).next = ⟨heap.size + 1⟩ := by
    rw [Heap.next, Heap.size_withFunction]
  obtain ⟨object_eq, prototype_eq⟩ := instances_makes present
  rw [Heap.object_withFunction, next_eq] at object_eq
  rw [next_eq] at prototype_eq
  have own (key : PropertyKey) := congrArg (Object.property? · key) object_eq
  simp only [Object.property?_setProperty] at own
  refine ⟨_, function_eq_of_normal normal length heap,
    instances_extends Heap.extends_withFunction (Nat.le_refl _), ?_⟩
  constructor
  · rw [object_eq]
    rfl
  · rw [object_eq]
    rfl
  · rw [object_eq]
    rfl
  · exact ⟨_, own "prototype", rfl, rfl⟩
  · intro key missing
    simp only [List.map, List.mem_cons, not_or, List.not_mem_nil, not_false_eq_true] at missing
    refine (own key).trans ?_
    rw [if_neg missing.2.2.1, if_neg missing.2.1, if_neg missing.1]
    exact Table.get?_empty key
  · exact prototype_eq

/-- The heap with a new function that can be constructed. -/
theorem function_made {callable : Callable} (heap : Heap) (normal : callable.kind = .normal)
    (length : Nat) :
    heap.Extends (function callable length heap).2 ∧
      (function callable length heap).2.MadeFunction callable heap.next ⟨heap.size + 1⟩ := by
  obtain ⟨larger, built, grown, made⟩ := function_makes heap normal length
  rw [built]
  exact ⟨grown, made⟩

end Build

namespace Run

/-- An assignment that is a write, to an extensible object. -/
theorem set_write {engine : Engine} {state : State} {id : ObjectId} {key : PropertyKey}
    (ordinary : (state.heap.object id).proxy? = none)
    (found : state.heap.assignment id key = some .write)
    (extensible : (state.heap.object id).extensible = true) (value : Value) :
    set id key value engine state =
      .done true { state with heap := state.heap.setValue id key value } := by
  have accepts : (state.heap.object id).accepts key = true := by
    rw [Object.accepts, extensible]
    rfl
  have followed : follow (·.assignment id key) engine state = .done .write state := by
    rw [follow, found]
  rw [set, ask_bind, Heap.resolve_of_ordinary ordinary, bind_of_done followed]
  dsimp only
  rw [ask_bind, if_pos accepts]
  rfl

/-- A definition that the object allows is a write. -/
theorem define_apply {engine : Engine} {state : State} {id : ObjectId} {key : PropertyKey}
    {descriptor : Descriptor} {property : Property}
    (allowed : (state.heap.object id).defined key descriptor = .ok property) :
    define id key descriptor engine state =
      .done () { state with heap := state.heap.setProperty id key property } := by
  rw [define, ask_bind, allowed]
  rfl

theorem define_refused {engine : Engine} {state : State} {id : ObjectId} {key : PropertyKey}
    {descriptor : Descriptor} {fault : Fault}
    (refused : (state.heap.object id).defined key descriptor = .error fault) :
    define id key descriptor engine state = .failed (.fault fault) state := by
  rw [define, ask_bind, refused]
  rfl

/-- A function runs on the engine below. -/
theorem call_function {state : State} {id : ObjectId} {callable : Callable}
    (held : (state.heap.object id).kind = .function callable) (this : Value) (arguments : List Value)
    (depth : Nat) :
    call (.object id) this arguments (Engine.ofDepth (depth + 1)) state =
      Frame.run { callee := id, callable, this, arguments } (Engine.ofDepth depth) state := by
  rw [call, ask_bind, Heap.function?_of_kind held]
  rfl

end Run

end ClassLowering
