import ClassLowering.Proofs.Accessors.Heap
import ClassLowering.Proofs.Composition.Access
import ClassLowering.Proofs.Heap.Keeping
import ClassLowering.Proofs.PropertyDefinition
import ClassLowering.Proofs.Soundness.Session

/-!
# Descriptors as objects

A script sees a property as an object with a field for each attribute, and an object with such fields asks
for a definition. `descriptors_round_trip` says that one undoes the other, as long as `Object.prototype`
lends no field to the objects in between: what was described is asked for, nothing that is fixed is asked to
change, and a definition by the description of the property in place leaves all as it is.
-/

namespace ClassLowering

/-! ## Properties and their descriptions -/

namespace Descriptor

/-- The field of a description under a name, as a script sees it. -/
def named? (descriptor : Descriptor) (name : String) : Option Value :=
  match name with
  | "enumerable" => descriptor.enumerable.map .boolean
  | "configurable" => descriptor.configurable.map .boolean
  | "value" => descriptor.value
  | "writable" => descriptor.writable.map .boolean
  | "get" => descriptor.get
  | "set" => descriptor.set
  | _ => none

/-- Where there was nothing, a description is completed by `undefined` and false. -/
theorem upon_nothing (descriptor : Descriptor) :
    descriptor.upon {} =
      if descriptor.isAccessor then
        .accessor (some (descriptor.get.getD .undefined)) (some (descriptor.set.getD .undefined))
          (descriptor.enumerable.getD false) (descriptor.configurable.getD false)
      else
        .data (descriptor.value.getD .undefined) (descriptor.writable.getD false)
          (descriptor.enumerable.getD false) (descriptor.configurable.getD false) := by
  have kind : descriptor.leavesAccessor {} = descriptor.isAccessor := by
    rw [leavesAccessor, show isAccessor {} = false from rfl, Bool.and_false, Bool.or_false]
  simp only [upon, kind, Option.or_none]

end Descriptor

namespace Property

variable {heap : Heap} {property : Property}

/-- The description of a property leaves nothing open. -/
theorem upon_descriptor (property : Property) : property.descriptor.upon {} = property.descriptor := by
  obtain ⟨slot, _, _, _⟩ := property
  cases slot <;> rfl

theorem named?_enumerable (property : Property) :
    property.descriptor.named? "enumerable" = some (.boolean property.enumerable) := by
  obtain ⟨slot, _, _, _⟩ := property
  cases slot <;> rfl

theorem named?_configurable (property : Property) :
    property.descriptor.named? "configurable" = some (.boolean property.configurable) := by
  obtain ⟨slot, _, _, _⟩ := property
  cases slot <;> rfl

theorem keepsAccessor_self (stored : Option Value) :
    keepsAccessor (some (stored.getD .undefined)) stored = true := by
  rw [keepsAccessor, Value.getD_defined?, Option.getD_some, Value.same_iff]

/-- Whatever is fixed about a property, its description asks for no change. -/
theorem allows_descriptor (property : Property) : property.allows property.descriptor = true := by
  obtain ⟨slot, writable, enumerable, configurable⟩ := property
  cases slot with
  | data value => cases configurable <;> cases writable <;> simp [allows, descriptor, keepsSlot,
      Descriptor.data, Descriptor.isAccessor]
  | accessor getter setter => cases configurable <;> simp [allows, descriptor, keepsSlot,
      Descriptor.accessor, Descriptor.isData, keepsAccessor_self]

/-- No stored function is `undefined`. -/
theorem defined?_getD {stored : Option Value} (calls : heap.Calls stored) :
    Value.defined? (some (stored.getD .undefined)) = stored := by
  cases stored with
  | none => rfl
  | some function =>
      cases function with
      | undefined => exact absurd (calls .undefined rfl) Bool.false_ne_true
      | _ => rfl

/-- A property is left as it is by a definition that its description asks for. -/
theorem redefine_descriptor (fits : heap.Fits property.slot) :
    property.redefine property.descriptor = property := by
  obtain ⟨slot, writable, enumerable, configurable⟩ := property
  cases slot with
  | data value => rfl
  | accessor getter setter =>
      have getter_eq := defined?_getD fits.1
      have setter_eq := defined?_getD fits.2
      simp [redefine, redefineSlot, writableBefore, descriptor, Descriptor.accessor, Descriptor.isData,
        getter_eq, setter_eq]

theorem grants_descriptor (fits : heap.Fits property.slot) : heap.Grants property.descriptor := by
  obtain ⟨slot, writable, enumerable, configurable⟩ := property
  cases slot with
  | data value => exact Heap.grants_of_data rfl rfl
  | accessor getter setter =>
      rw [descriptor, Heap.Grants]
      dsimp only [Descriptor.accessor]
      rw [defined?_getD fits.1, defined?_getD fits.2]
      exact fits

end Property

/-! ## The objects that describe properties -/

/-- An object describes a property as a script sees it: it inherits from `Object.prototype`, and its strings are
the names of the fields. -/
structure Object.Records (object : Object) (descriptor : Descriptor) : Prop where
  ordinary : object.proxy? = none
  link : object.prototype = some Intrinsic.objectPrototype.id
  fields : ∀ name : String,
    object.property? name = (descriptor.named? name).map fun value => { slot := .data value }

/-- What is built for a descriptor describes the property that this would make. -/
theorem Build.descriptorRecord_records (descriptor : Descriptor) (heap : Heap) :
    ∃ record, Build.descriptorRecord descriptor heap = heap.allocate record ∧
      record.Records (descriptor.upon {}) := by
  refine ⟨_, rfl, rfl, rfl, fun name => ?_⟩
  rw [Descriptor.upon_nothing]
  cases isAccessor : descriptor.isAccessor with
  | true =>
      simp only [if_true, List.foldl, List.cons_append, List.nil_append, Object.property?,
        Table.get?_insert, Table.get?_empty, PropertyKey.string.injEq]
      unfold Descriptor.named?
      repeat' split
      all_goals simp_all [Descriptor.accessor]
  | false =>
      simp only [Bool.false_eq_true, if_false, List.foldl, List.cons_append, List.nil_append,
        Object.property?, Table.get?_insert, Table.get?_empty, PropertyKey.string.injEq]
      unfold Descriptor.named?
      repeat' split
      all_goals simp_all [Descriptor.data]

namespace Heap

/-- Objects inherit no field of a description: neither `Object.prototype` nor anything above it has one. -/
def LendsNoField (heap : Heap) : Prop :=
  ∀ name ∈ ["get", "set", "value", "writable"],
    heap.has Intrinsic.objectPrototype.id (.string name) = some false

instance (heap : Heap) : Decidable heap.LendsNoField :=
  inferInstanceAs (Decidable (∀ name ∈ _, _))

variable {law : Law} {heap larger : Heap} {id record : ObjectId} {key : PropertyKey}
  {property : Property}

theorem LendsNoField.extends (lends : heap.LendsNoField) (sound : heap.Sound law)
    (grown : heap.Extends larger) : larger.LendsNoField := by
  intro name special
  rw [(grown.keeps name).has_eq sound (sound.intrinsic .objectPrototype)]
  exact lends name special

theorem Extends.keepsFunctions (grown : heap.Extends larger) : heap.KeepsFunctions larger := by
  refine keepsFunctions_of_callable? fun id callable held => ?_
  rw [grown.object_eq id ?_]
  · exact held
  · have function : (heap.object id).kind = .function callable := by
      unfold Object.callable? at held
      split at held
      · next same =>
        cases held
        exact same
      · cases held
    exact index_lt_of_kind function nofun

/-- A property that is written over itself. -/
theorem setProperty_self (held : (heap.object id).property? key = some property) :
    heap.setProperty id key property = heap := by
  have properties_eq : (heap.object id).properties.insert key property = (heap.object id).properties := by
    refine Table.eq_of_keys_eq ?_ fun other => ?_
    · have used : key ∈ (heap.object id).properties.keys := by
        rw [← Table.contains_iff, Table.contains_eq_isSome]
        exact Option.isSome_of_mem held
      rw [Table.keys_insert, if_pos used]
    · rw [Table.get?_insert]
      split
      · next same => exact same ▸ held.symm
      · rfl
  have object_eq : (heap.object id).setProperty key property = heap.object id :=
    congrArg (fun properties => { heap.object id with properties }) properties_eq
  exact (modify_congr (index_lt_of_property held) object_eq).trans (modify_self heap id)

end Heap

namespace Run

variable {engine : Engine} {state : State} {id record : ObjectId} {key : PropertyKey}
  {property : Property} {descriptor : Descriptor}

/-- A field of a description is read from the object itself. -/
theorem field?_of_records (records : (state.heap.object record).Records descriptor) (engine : Engine)
    (name : String) (lent : descriptor.named? name = none →
      state.heap.has Intrinsic.objectPrototype.id (.string name) = some false) :
    field? record name engine state = .done (descriptor.named? name) state := by
  have held := records.fields name
  cases named : descriptor.named? name with
  | none =>
      rw [named] at held
      have passes : state.heap.Passes name record Intrinsic.objectPrototype.id :=
        ⟨records.ordinary, held, records.link⟩
      have missing : has record name engine state = .done false state := by
        rw [has, follow, passes.has_eq, lent named]
      exact bind_of_done missing
  | some value =>
      rw [named] at held
      have found : has record name engine state = .done true state := by
        have finished : state.heap.hasStride name record = .finish true := by
          simp only [Heap.hasStride, Heap.target?_of_ordinary records.ordinary,
            Object.hasOwn_eq_isSome, held, Option.map_some, Option.isSome_some, if_true]
        rw [has, follow, Heap.has, Heap.walk_of_finish finished]
      have read : get record name engine state = .done value state :=
        getFor_plain (Heap.plainRead?_own records.ordinary held rfl)
      rw [field?, bind_of_done found]
      exact bind_of_done read

/-- The object that describes a property asks for what the property is. -/
theorem descriptorOf_of_records
    (records : (state.heap.object record).Records property.descriptor)
    (grants : state.heap.Grants property.descriptor) (lends : state.heap.LendsNoField) :
    descriptorOf record engine state = .done property.descriptor state := by
  have field := field?_of_records records engine
  have lent (name : String) (special : name ∈ ["get", "set", "value", "writable"]) :=
    field name fun _ => lends name special
  have enumerable := field "enumerable" fun absent =>
    nomatch property.named?_enumerable.symm.trans absent
  have configurable := field "configurable" fun absent =>
    nomatch property.named?_configurable.symm.trans absent
  unfold descriptorOf
  refine (bind_of_done enumerable).trans ((bind_of_done configurable).trans ?_)
  refine (bind_of_done (lent "value" (by decide))).trans ?_
  refine (bind_of_done (lent "writable" (by decide))).trans ?_
  refine (bind_of_done (lent "get" (by decide))).trans ?_
  refine (bind_of_done (lent "set" (by decide))).trans ?_
  refine (bind_of_done (checkAccessor_apply grants.1)).trans ?_
  refine (bind_of_done (checkAccessor_apply grants.2)).trans ?_
  obtain ⟨slot, _, _, _⟩ := property
  cases slot <;> rfl

/-! ## Describing and defining -/

variable {kind : FunctionKind} {function : Value}

/-- `Object.getOwnPropertyDescriptor` for an own property. -/
theorem describe_apply (describes : state.heap.builtin? function =
      some (kind, .objectGetOwnPropertyDescriptor))
    (held : (state.heap.object id).property? key = some property) (this : Value) (depth : Nat) :
    ∃ record larger, call function this [.object id, key.toValue] (Engine.ofDepth (depth + 1)) state =
        .done (.object record) { state with heap := larger } ∧
      state.heap.Extends larger ∧ (larger.object record).Records property.descriptor := by
  obtain ⟨callee, callable, _, called⟩ := call_builtin describes depth
  obtain ⟨record, built, records⟩ :=
    Build.descriptorRecord_records property.descriptor state.heap
  have ran : Builtin.runGetOwnPropertyDescriptor
      { callee, callable, this, arguments := [.object id, key.toValue] } (Engine.ofDepth depth) state =
        .done (.object state.heap.next) { state with heap := (state.heap.allocate record).2 } := by
    simp only [Builtin.runGetOwnPropertyDescriptor, Frame.argument, List.getElem?_cons_zero,
      List.getElem?_cons_succ, Option.getD_some, ask_bind, Heap.key_toValue, held]
    exact bind_of_done (build_apply built)
  refine ⟨state.heap.next, (state.heap.allocate record).2, (called this _).trans ran, .allocate .., ?_⟩
  rw [Heap.object_allocate_next, ← property.upon_descriptor]
  exact records

/-- `Object.defineProperty` with an object that was read. -/
theorem defineProperty_apply (defines : state.heap.builtin? function = some (kind, .objectDefineProperty))
    {depth : Nat} (read : descriptorOf record (Engine.ofDepth depth) state = .done descriptor state)
    (this : Value) (id : ObjectId) (key : PropertyKey) :
    call function this [.object id, key.toValue, .object record] (Engine.ofDepth (depth + 1)) state =
      (define id key descriptor >>= fun _ => pure (.object id)) (Engine.ofDepth depth) state := by
  obtain ⟨callee, callable, _, called⟩ := call_builtin defines depth
  have ran : Builtin.runDefineProperty
      { callee, callable, this, arguments := [.object id, key.toValue, .object record] }
        (Engine.ofDepth depth) state =
      (define id key descriptor >>= fun _ => pure (.object id)) (Engine.ofDepth depth) state := by
    simp only [Builtin.runDefineProperty, Frame.argument, List.getElem?_cons_zero,
      List.getElem?_cons_succ, Option.getD_some, ask_bind, Heap.key_toValue]
    exact bind_of_done read
  exact (called this _).trans ran

/-- A definition by the description of the property in place changes nothing. -/
theorem define_described (held : (state.heap.object id).property? key = some property)
    (fits : state.heap.Fits property.slot) :
    define id key property.descriptor engine state = .done () state := by
  have allowed : (state.heap.object id).defined key property.descriptor = .ok property := by
    rw [Object.defined, held]
    exact (if_pos property.allows_descriptor).trans (congrArg _ (Property.redefine_descriptor fits))
  rw [define_apply allowed, Heap.setProperty_self held]

/-- A definition by the description of a property, where there is none, makes one with this description. -/
theorem define_copy (state : State) (present : id.index < state.heap.size)
    (missing : (state.heap.object id).property? key = none)
    (extensible : (state.heap.object id).extensible = true) (property : Property) (engine : Engine) :
    ∃ copy after, define id key property.descriptor engine state =
        .done () { state with heap := after } ∧
      copy.descriptor = property.descriptor ∧ state.heap.Writes id key copy after := by
  have defined : (state.heap.object id).defined key property.descriptor =
      .ok (.ofDescriptor property.descriptor) := by
    rw [Object.defined, missing]
    exact if_pos extensible
  refine ⟨_, _, define_apply defined, ?_, Heap.writes_setProperty present key _⟩
  rw [Property.descriptor_ofDescriptor, property.upon_descriptor]

end Run

/-- In every state of a session in which `Object.prototype` lends no field of a description: the description of
an own property whose functions can be called is a new object, a definition of the same property by this
object succeeds and leaves everything as it is, and a definition on an extensible object without the key
makes a property of the same description. Whatever is built for a descriptor is read back as the descriptor
with `undefined` and false where it leaves a field of its kind open. -/
theorem descriptors_round_trip (profile : Profile) (marked : List Helper) {law : Law}
    {before state : State} (reached : (Session.prepared profile marked).Reaches law before)
    (during : before.Becomes law state) (lends : state.heap.LendsNoField) :
    (∀ (describe define : Value) (kind other : FunctionKind),
      state.heap.builtin? describe = some (kind, .objectGetOwnPropertyDescriptor) →
      state.heap.builtin? define = some (other, .objectDefineProperty) →
      ∀ id key property, (state.heap.object id).property? key = some property →
        state.heap.Fits property.slot → ∀ this depth, ∃ record heap,
          let described := { state with heap }
          Run.call describe this [.object id, key.toValue] (Engine.ofDepth (depth + 1)) state =
              .done (.object record) described ∧
            state.heap.Extends heap ∧
            Run.call define this [.object id, key.toValue, .object record]
              (Engine.ofDepth (depth + 1)) described = .done (.object id) described ∧
            ∀ target, target.index < heap.size → (heap.object target).property? key = none →
              (heap.object target).extensible = true → ∃ copy after,
                Run.call define this [.object target, key.toValue, .object record]
                    (Engine.ofDepth (depth + 1)) described =
                  .done (.object target) { described with heap := after } ∧
                copy.descriptor = property.descriptor ∧ heap.Writes target key copy after) ∧
    (∀ descriptor, state.heap.Grants descriptor → ∀ engine, ∃ record heap,
      Run.build (Build.descriptorRecord descriptor) engine state =
          .done record { state with heap } ∧
        state.heap.Extends heap ∧
        Run.descriptorOf record engine { state with heap } =
          .done (descriptor.upon {}) { state with heap }) := by
  have sound := (Session.sound_of_reaches reached during).heap
  constructor
  · intro describe define kind other describes defines id key property held fits this depth
    obtain ⟨record, heap, called, grown, records⟩ := Run.describe_apply describes held this depth
    let described := { state with heap }
    have still : (described.heap.object id).property? key = some property := by
      rw [grown.object_eq id (Heap.index_lt_of_property held)]
      exact held
    have fitsStill : described.heap.Fits property.slot := fits.mono grown.keepsFunctions
    have definesStill : described.heap.builtin? define = some (other, .objectDefineProperty) :=
      Heap.builtin?_of_kind_eq (fun id present => congrArg Object.kind (grown.object_eq id present)) defines
    have read (engine : Engine) :
        Run.descriptorOf record engine described = .done property.descriptor described :=
      Run.descriptorOf_of_records records (Property.grants_descriptor fitsStill) (lends.extends sound grown)
    refine ⟨record, heap, called, grown, ?_, fun target present missing extensible => ?_⟩
    · rw [Run.defineProperty_apply definesStill (read _)]
      exact Run.bind_of_done (Run.define_described still fitsStill)
    · obtain ⟨copy, after, defined, same, writes⟩ :=
        Run.define_copy described present missing extensible property (.ofDepth depth)
      refine ⟨copy, after, ?_, same, writes⟩
      rw [Run.defineProperty_apply definesStill (read _)]
      exact Run.bind_of_done defined
  · intro descriptor grants engine
    obtain ⟨record, built, records⟩ := Build.descriptorRecord_records descriptor state.heap
    have grown : state.heap.Extends (state.heap.allocate record).2 := .allocate ..
    rw [← Property.descriptor_ofDescriptor] at records ⊢
    refine ⟨state.heap.next, _, Run.build_apply built, grown,
      Run.descriptorOf_of_records ?_ ?_ (lends.extends sound grown)⟩
    · exact (Heap.object_allocate_next state.heap record).symm ▸ records
    · exact Property.grants_descriptor ((Heap.fits_ofDescriptor grants).mono grown.keepsFunctions)

/-- In a fresh realm, the property `prototype` of the global `Object` can neither be configured nor written. It is
described, defined again by this description, and copied to the global object. -/
theorem fixed_property_redefined :
    let state := Session.prepared Preset.modern.profile []
    let constructor : ObjectId := ⟨11⟩
    let define : Value := .object ⟨15⟩
    let describe : Value := .object ⟨16⟩
    state.Reaches .host state ∧ state.Becomes .host state ∧ state.heap.LendsNoField ∧
      ∃ property record heap after,
        (state.heap.object constructor).property? "prototype" = some property ∧
        property.configurable = false ∧ property.writable = false ∧
        Run.call describe .undefined [.object constructor, .string "prototype"] (Engine.ofDepth 1) state =
          .done (.object record) { state with heap } ∧
        Run.call define .undefined [.object constructor, .string "prototype", .object record]
            (Engine.ofDepth 1) { state with heap } =
          .done (.object constructor) { state with heap } ∧
        Run.call define .undefined [.object Intrinsic.global.id, .string "prototype", .object record]
            (Engine.ofDepth 1) { state with heap } =
          .done (.object Intrinsic.global.id) { state with heap := after } ∧
        ((after.object Intrinsic.global.id).property? "prototype").map Property.descriptor =
          some property.descriptor := by
  intro state constructor define describe
  have reached : state.Reaches .host state := .refl
  have during : state.Becomes .host state := .refl
  have lends : state.heap.LendsNoField := by decide +kernel
  let property : Property :=
    { slot := .data (.object Intrinsic.objectPrototype.id)
      writable := false
      enumerable := false
      configurable := false }
  have held : (state.heap.object constructor).property? "prototype" = some property := by decide +kernel
  have describes : state.heap.builtin? describe = some (.method, .objectGetOwnPropertyDescriptor) := by
    decide +kernel
  have defines : state.heap.builtin? define = some (.method, .objectDefineProperty) := by decide +kernel
  have missing : (state.heap.object Intrinsic.global.id).property? "prototype" = none := by decide +kernel
  have extensible : (state.heap.object Intrinsic.global.id).extensible = true := by decide +kernel
  have there : Intrinsic.global.id.index < state.heap.size := by decide +kernel
  obtain ⟨record, heap, described, grown, same, copied⟩ :=
    (descriptors_round_trip _ _ reached during lends).1 describe define _ _ describes defines constructor
      "prototype" property held trivial .undefined 0
  have kept := grown.object_eq Intrinsic.global.id there
  obtain ⟨copy, after, defined, same_descriptor, writes⟩ :=
    copied Intrinsic.global.id (Nat.lt_of_lt_of_le there grown.size_le) (kept ▸ missing) (kept ▸ extensible)
  refine ⟨reached, during, lends, property, record, heap, after, held, rfl, rfl, described, same, defined, ?_⟩
  rw [writes.held, Option.map_some, same_descriptor]

end ClassLowering
