import ClassLowering.Class.Member
import ClassLowering.Proofs.OrdinarySet

/-!
# Definitions of fields

A field is defined over a property that its key already reaches, and assigned where there is none. The two
refuse a field differently: a definition fails, but the answer of the assignment is not looked at. So a field
that a closed object does not take is lost without a word, unless an object above it owns the key.
-/

namespace ClassLowering

open Bounded Relation

/-! ## What the test for the key finds -/

namespace Heap

variable {heap : Heap} {key : PropertyKey} {id next owner : ObjectId} {property : Property}

theorem PassesOn.has_eq (passes : heap.PassesOn key id next) : heap.has id key = heap.has next key :=
  walk_of_moves (has_inside heap key) (hasStride_moves_iff.mpr passes)

theorem NearestOwner.has_eq (nearest : heap.NearestOwner key owner property id) :
    heap.has id key = some true := by
  induction nearest with
  | here ordinary held =>
      refine walk_of_finish ?_
      simp only [hasStride, ordinary, Object.hasOwn_eq_isSome, held, Option.isSome_some, if_true]
  | further passes _ ih => exact passes.has_eq.trans ih

theorem Unowned.has_eq (unowned : heap.Unowned key id) : heap.has id key = some false := by
  induction unowned with
  | @last id ends missing =>
      refine walk_of_finish ?_
      unfold onward? at ends
      cases target : (heap.object id).target? with
      | some target =>
          rw [target] at ends
          cases ends
      | none =>
          rw [target] at ends
          simp only [hasStride, target, Object.hasOwn_eq_isSome, missing, Option.isSome_none,
            Bool.false_eq_true, if_false, ends]
          rfl
  | further passes _ ih => exact passes.has_eq.trans ih

/-- An object that is no proxy does not own a key that nothing on its route owns. -/
theorem Unowned.missing (unowned : heap.Unowned key id)
    (ordinary : (heap.object id).proxy? = none) : (heap.object id).property? key = none := by
  cases unowned with
  | last _ missing => exact missing
  | further passes _ => exact passes.2 (target?_of_ordinary ordinary)

end Heap

/-! ## The property of a field -/

/-- The property of a field: a value with all attributes. -/
def Property.field (value : Value) : Property :=
  { slot := .data value, writable := true, enumerable := true, configurable := true }

/-- The definition that a field asks for. -/
def Descriptor.field (value : Value) : Descriptor := .data value true true true

/-- A description with all attributes is that of a field. -/
theorem Property.eq_field {property : Property} {value : Value}
    (described : property.descriptor = .field value) : property = .field value := by
  obtain ⟨slot, writable, enumerable, configurable⟩ := property
  cases slot with
  | data held =>
      obtain ⟨rfl, rfl, rfl, rfl⟩ :
          held = value ∧ writable = true ∧ enumerable = true ∧ configurable = true := by
        simpa [descriptor, Descriptor.field, Descriptor.data] using described
      rfl
  | accessor getter setter =>
      simp [descriptor, Descriptor.field, Descriptor.data, Descriptor.accessor] at described

/-- A field asks for everything, so that nothing in place shows through. -/
theorem Descriptor.field_upon (value : Value) (current : Descriptor) :
    (Descriptor.field value).upon current = .field value := by
  simp [upon, leavesAccessor, isAccessor, isData, field, data]

namespace Object

variable {object : Object} {key : PropertyKey} {value : Value}

/-- An object takes no field: its own property cannot be configured, or it takes no new one. -/
def WithholdsField (object : Object) (key : PropertyKey) : Prop :=
  match object.property? key with
  | some current => current.configurable = false
  | none => object.extensible = false

/-- The property that an assignment makes where there is none. A key that was removed outright comes back with
the attributes that it had. -/
def assignedField (object : Object) (key : PropertyKey) (value : Value) : Property :=
  ((object.removed.get? key).map (·.withValue value)).getD (.field value)

theorem assignedField_of_whole (whole : object.removed = .empty) :
    object.assignedField key value = .field value := by
  rw [assignedField, whole, Table.get?_empty]
  rfl

theorem setValue_of_missing (missing : object.property? key = none) :
    object.setValue key value = object.setProperty key (object.assignedField key value) := by
  rw [setValue, latest?, missing, Option.none_or]
  rfl

/-- The definition of a field is refused exactly where the object takes none. -/
theorem refuses_field_iff : object.Refuses key (.field value) ↔ object.WithholdsField key := by
  unfold WithholdsField
  constructor
  · rintro (⟨missing, closed⟩ | ⟨held, fixed, _⟩)
    · rw [missing]
      exact closed
    · rw [held]
      exact fixed
  · cases held : object.property? key with
    | some current => exact fun fixed => .fixed held fixed (.configurable rfl)
    | none => exact fun closed => .closed held closed

theorem refusal_kind (object : Object) (key : PropertyKey) :
    (object.refusal key).kind = .typeError := by
  unfold refusal
  split <;> rfl

end Object

/-! ## What a definition of a field does -/

/-- What the definition of a field does on an object, by what its route owns and what the object takes. -/
structure State.DefinesField (state : State) (id : ObjectId) (key : PropertyKey) (value : Value) :
    Prop where
  /-- Over a property that the key reaches, the object gets the field, and nothing else changes. -/
  defined : (∃ owner property, state.heap.NearestOwner key owner property id) →
    ¬(state.heap.object id).WithholdsField key →
      ∃ heap, state.heap.Writes id key (.field value) heap ∧ ∀ engine,
        Run.defineField (.object id) key value engine state = .done (.object id) { state with heap }
  refused : (∃ owner property, state.heap.NearestOwner key owner property id) →
    (state.heap.object id).WithholdsField key →
      ∃ fault : Fault, fault.kind = .typeError ∧ ∀ engine,
        Run.defineField (.object id) key value engine state = .failed (.fault fault) state
  assigned : state.heap.Unowned key id → ¬(state.heap.object id).WithholdsField key →
    ∃ heap, state.heap.Writes id key ((state.heap.object id).assignedField key value) heap ∧ ∀ engine,
      Run.defineField (.object id) key value engine state = .done (.object id) { state with heap }
  /-- The object is given back as if it had the field. -/
  dropped : state.heap.Unowned key id → (state.heap.object id).WithholdsField key →
    (state.heap.object id).property? key = none ∧ ∀ engine,
      Run.defineField (.object id) key value engine state = .done (.object id) state
  endless : state.heap.Looped id → state.heap.RouteLacks id key →
    ∀ engine, Run.defineField (.object id) key value engine state = .exhausted
  decided : (∃ owner property, state.heap.NearestOwner key owner property id) ∨
    state.heap.Unowned key id ∨ state.heap.Looped id ∧ state.heap.RouteLacks id key

namespace Run

variable {state : State} {id : ObjectId} {key : PropertyKey} {value : Value} {found : Bool}

/-- The test for the key decides between a definition and an assignment. -/
theorem defineField_of_has (tested : state.heap.has id key = some found) (engine : Engine) :
    defineField (.object id) key value engine state =
      (if found then define id key (.field value) >>= fun _ => pure (.object id)
        else set id key value >>= fun _ => pure (.object id)) engine state := by
  have followed : has id key engine state = .done found state := by rw [has, follow, tested]
  refine (bind_of_done followed).trans ?_
  cases found <;> rfl

/-- An object that takes the field gets it by a definition, and any other object fails it. -/
theorem define_field (present : id.index < state.heap.size) (key : PropertyKey) (value : Value) :
    (¬(state.heap.object id).WithholdsField key → ∃ heap,
      state.heap.Writes id key (.field value) heap ∧
        ∀ engine, define id key (.field value) engine state = .done () { state with heap }) ∧
    ((state.heap.object id).WithholdsField key → ∀ engine,
      define id key (.field value) engine state =
        .failed (.fault ((state.heap.object id).refusal key)) state) := by
  have unmixed : ¬(Descriptor.field value).Mixed := fun mixed => nomatch mixed.1
  constructor
  · intro takes
    obtain ⟨property, defined, described⟩ :=
      Object.exists_defined (fun refuses => takes (Object.refuses_field_iff.mp refuses)) unmixed
    cases Property.eq_field (described.trans (Descriptor.field_upon value _))
    exact ⟨_, Heap.writes_setProperty present key _, fun engine => define_apply defined⟩
  · intro withholds engine
    have refuses : (state.heap.object id).Refuses key (.field value) :=
      Object.refuses_field_iff.mpr withholds
    rw [define, ask_bind, refuses.defined_eq]
    rfl

/-- An assignment to a key without owner answers whether the object took it. -/
theorem set_unowned (present : id.index < state.heap.size)
    (ordinary : (state.heap.object id).proxy? = none) (unowned : state.heap.Unowned key id)
    (value : Value) :
    (¬(state.heap.object id).WithholdsField key → ∃ heap,
      state.heap.Writes id key ((state.heap.object id).assignedField key value) heap ∧
        ∀ engine, set id key value engine state = .done true { state with heap }) ∧
    ((state.heap.object id).WithholdsField key → ∀ engine,
      set id key value engine state = .done false state) := by
  have missing := unowned.missing ordinary
  unfold Object.WithholdsField
  rw [missing]
  constructor
  · intro takes
    have extensible : (state.heap.object id).extensible = true := Bool.not_eq_false _ ▸ takes
    refine ⟨_, Heap.writes_setProperty present key _, fun engine => ?_⟩
    have same : state.heap.setValue id key value =
        state.heap.setProperty id key ((state.heap.object id).assignedField key value) :=
      Heap.modify_congr present (Object.setValue_of_missing missing)
    rw [set_write ordinary unowned.assignment_eq extensible, same]
  · intro closed engine
    have refused : (state.heap.object id).accepts key = false := by
      rw [Object.accepts, Object.hasOwn_eq_isSome, missing]
      exact (Bool.or_false _).trans closed
    rw [set_of_ordinary ordinary unowned.assignment_eq, assign, ask_bind, refused]
    rfl

end Run

/-- In whatever state, the definition of a field on an object that is no proxy is one of these. -/
theorem State.definesField (state : State) {id : ObjectId} (present : id.index < state.heap.size)
    (ordinary : (state.heap.object id).proxy? = none) (key : PropertyKey) (value : Value) :
    state.DefinesField id key value := by
  constructor
  · rintro ⟨owner, property, nearest⟩ takes
    obtain ⟨heap, writes, defined⟩ := (Run.define_field present key value).1 takes
    refine ⟨heap, writes, fun engine => ?_⟩
    exact (Run.defineField_of_has nearest.has_eq engine).trans (Run.bind_of_done (defined engine))
  · rintro ⟨owner, property, nearest⟩ withholds
    have failed := (Run.define_field present key value).2 withholds
    refine ⟨(state.heap.object id).refusal key, Object.refusal_kind .., fun engine => ?_⟩
    exact (Run.defineField_of_has nearest.has_eq engine).trans (Run.bind_of_failed (failed engine))
  · intro unowned takes
    obtain ⟨heap, writes, assigned⟩ := (Run.set_unowned present ordinary unowned value).1 takes
    refine ⟨heap, writes, fun engine => ?_⟩
    exact (Run.defineField_of_has unowned.has_eq engine).trans (Run.bind_of_done (assigned engine))
  · intro unowned withholds
    have dropped := (Run.set_unowned present ordinary unowned value).2 withholds
    refine ⟨unowned.missing ordinary, fun engine => ?_⟩
    exact (Run.defineField_of_has unowned.has_eq engine).trans (Run.bind_of_done (dropped engine))
  · intro looped lacks engine
    refine Run.bind_of_exhausted ?_
    rw [Run.has, Run.follow, Heap.has_eq_none_iff.mpr ⟨looped, lacks⟩]
  · exact state.heap.owned_or_unowned_or_looped key id

/-- In every state of a session, a definition of a field on an object that is no proxy gives the object the
field or fails with a `TypeError`, except that a closed object is given back without the field where no object
above it owns the key. With a host that removes no property outright, an assigned field has all attributes. -/
theorem field_definition_outcomes (profile : Profile) (marked : List Helper) {law : Law}
    {before state : State} (reached : (Session.prepared profile marked).Reaches law before)
    (during : before.Becomes law state) {id : ObjectId} (present : id.index < state.heap.size)
    (ordinary : (state.heap.object id).proxy? = none) (key : PropertyKey) (value : Value) :
    state.DefinesField id key value ∧
      (law.removes = false → (state.heap.object id).assignedField key value = .field value) := by
  have sound := Session.sound_of_reaches reached during
  refine ⟨state.definesField present ordinary key value, fun keeps => ?_⟩
  exact Object.assignedField_of_whole ((sound.heap.within id).2.2.2.whole keeps)

/-- Steps by which a host makes an object below one with a read-only, hidden property. -/
def shadowingSteps : List Script.Step :=
  [.perform (.create .object) [] { result := some "parent" },
    .perform (.onProperty (.defineRaw false false true))
      [.named "parent", .value (.string "x"), .value .null] {},
    .perform (.create .object) [.named "parent"] {}]

/-- A field shadows a read-only property that the object inherits. -/
theorem inherited_property_shadowed :
    let start := { Session.prepared Preset.es5.profile [] with scopes := #[{}] }
    let state := (Session.runSteps ⟨0⟩ shadowingSteps start ∅).2
    let id : ObjectId := ⟨start.heap.size + 1⟩
    (Session.prepared Preset.es5.profile []).Reaches .host state ∧ state.Becomes .host state ∧
      id.index < state.heap.size ∧ (state.heap.object id).proxy? = none ∧
      ∃ heap, state.heap.Writes id "x" (.field (.boolean true)) heap ∧ ∀ engine,
        Run.defineField (.object id) "x" (.boolean true) engine state =
          .done (.object id) { state with heap } := by
  intro start state id
  have lawful : Script.LawfulSteps .host start.heap.size shadowingSteps := by simp [shadowingSteps]
  have reached := Session.prepared_reaches Preset.es5.profile [] lawful
  have unchanged : state.Becomes .host state := .refl
  have present : id.index < state.heap.size := by decide +kernel
  have ordinary : (state.heap.object id).proxy? = none := by decide +kernel
  have missing : (state.heap.object id).property? "x" = none := by decide +kernel
  have onward : state.heap.onward? id = some start.heap.next := by decide +kernel
  have upper : (state.heap.object start.heap.next).target? = none := by decide +kernel
  have held : (state.heap.object start.heap.next).property? "x" =
      some { slot := .data .null, writable := false, enumerable := false, configurable := true } := by
    decide +kernel
  have extensible : (state.heap.object id).extensible = true := by decide +kernel
  have takes : ¬(state.heap.object id).WithholdsField "x" := by
    rw [Object.WithholdsField, missing]
    exact ne_false_of_eq_true extensible
  have nearest := Heap.NearestOwner.further ⟨onward, fun _ => missing⟩ (.here upper held)
  obtain ⟨outcomes, _⟩ :=
    field_definition_outcomes _ _ reached unchanged present ordinary "x" (.boolean true)
  exact ⟨reached, unchanged, present, ordinary, outcomes.defined ⟨_, _, nearest⟩ takes⟩

/-- Steps that close a new object. -/
def emptyClosingSteps : List Script.Step :=
  [.perform (.create .object) [] { result := some "o" },
    .perform (.onProperty .preventExtensions) [.named "o"] {}]

/-- The definition of a field on a closed object succeeds, and the object does not get the field. -/
theorem closed_object_loses_field :
    let start := { Session.prepared Preset.modern.profile [] with scopes := #[{}] }
    let state := (Session.runSteps ⟨0⟩ emptyClosingSteps start ∅).2
    let id := start.heap.next
    (Session.prepared Preset.modern.profile []).Reaches .script state ∧
      id.index < state.heap.size ∧ (state.heap.object id).proxy? = none ∧
      ¬ ∀ engine after, Run.defineField (.object id) "x" (.boolean true) engine state =
          .done (.object id) after →
        (after.heap.object id).property? "x" = some (.field (.boolean true)) := by
  intro start state id
  have lawful : Script.LawfulSteps .script start.heap.size emptyClosingSteps := by simp [emptyClosingSteps]
  have reached := Session.prepared_reaches Preset.modern.profile [] lawful
  have present : id.index < state.heap.size := by decide +kernel
  have ordinary : (state.heap.object id).proxy? = none := by decide +kernel
  have missing : (state.heap.object id).property? "x" = none := by decide +kernel
  have onward : state.heap.onward? id = some Intrinsic.objectPrototype.id := by decide +kernel
  have ends : state.heap.onward? Intrinsic.objectPrototype.id = none := by decide +kernel
  have lacking : (state.heap.object Intrinsic.objectPrototype.id).property? "x" = none := by
    decide +kernel
  have closed : (state.heap.object id).extensible = false := by decide +kernel
  have withholds : (state.heap.object id).WithholdsField "x" := by
    rw [Object.WithholdsField, missing]
    exact closed
  have unowned : state.heap.Unowned "x" id := .further ⟨onward, fun _ => missing⟩ (.last ends lacking)
  obtain ⟨_, dropped⟩ :=
    (state.definesField present ordinary "x" (.boolean true)).dropped unowned withholds
  refine ⟨reached, present, ordinary, fun defines => ?_⟩
  have defined := defines _ _ (dropped (Engine.ofDepth 0))
  rw [missing] at defined
  cases defined

end ClassLowering
