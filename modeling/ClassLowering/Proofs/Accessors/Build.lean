import ClassLowering.Proofs.Accessors.Heap
import ClassLowering.Proofs.Soundness.Realm

/-!
# Guarded realms

What runs build holds data, and functions whose code tests the accessors that it defines. A fresh realm
is guarded: the accessor of prototype links has a getter and a setter of the host.
-/

namespace ClassLowering

/-! ## Tables of data -/

namespace Table

/-- Every property of a table is data. -/
def IsData (table : Table) : Prop :=
  ∀ key property, table.get? key = some property → ∃ value, property.slot = .data value

theorem isData_empty : Table.empty.IsData := by
  intro key property held
  rw [get?_empty] at held
  cases held

theorem IsData.insert {table : Table} (isData : table.IsData) {key : PropertyKey}
    {property : Property} {value : Value} (slot : property.slot = .data value) :
    (table.insert key property).IsData := by
  intro other found held
  rw [get?_insert] at held
  split at held
  · cases held
    exact ⟨value, slot⟩
  · exact isData other found held

theorem IsData.insertElements {table : Table} (isData : table.IsData) (values : List Value)
    (place : Nat) : (table.insertElements place values).IsData := by
  induction values generalizing table place with
  | nil => exact isData
  | cons value rest ih => exact ih (isData.insert rfl) _

theorem IsData.insertFields {table : Table} (isData : table.IsData)
    (fields : List (String × Value)) :
    (fields.foldl (fun table field => table.insert field.1 { slot := .data field.2 }) table).IsData := by
  induction fields generalizing table with
  | nil => exact isData
  | cons field rest ih => exact ih (isData.insert rfl)

end Table

namespace Heap

variable {heap : Heap} {object : Object}

theorem furnishes_of_isData (isData : object.properties.IsData) : heap.Furnishes object := by
  intro key property held
  obtain ⟨value, slot⟩ := isData key property held
  rw [slot]
  trivial

theorem furnishes_of_empty (empty : object.properties = .empty) : heap.Furnishes object :=
  furnishes_of_isData (empty ▸ Table.isData_empty)

end Heap

/-! ## Builds -/

namespace Build

variable {α β : Type}

/-- A build on any guarded heap leaves a guarded heap with the functions that were there. -/
def Guards (build : Build α) : Prop := ∀ heap : Heap, heap.Guarded → heap.Tends (build heap).2

theorem guards_pure (result : α) : Guards (pure result) := fun _ guarded => .refl guarded

theorem guards_bind {first : Build α} {rest : α → Build β} (before : Guards first)
    (after : ∀ result, Guards (rest result)) : Guards (first >>= rest) := by
  intro heap guarded
  have earlier := before heap guarded
  exact earlier.trans (after _ _ earlier.guarded)

theorem guards_forM {items : List α} {body : α → Build Unit}
    (each : ∀ item ∈ items, Guards (body item)) : Guards (items.forM body) := by
  induction items with
  | nil => exact guards_pure ()
  | cons item rest ih =>
      exact guards_bind (each item (.head _)) fun _ =>
        ih fun other member => each other (.tail _ member)

theorem guards_whenever (condition : Bool) {build : Build Unit} (guards : Guards build) :
    Guards (whenever condition build) := by
  unfold whenever
  split
  · exact guards
  · exact guards_pure ()

/-- New objects that are no functions and hold data. -/
theorem guards_allocate {object : Object} (isData : object.properties.IsData)
    (inert : object.callable? = none) : Guards (allocate object) := by
  intro heap guarded
  refine guarded.allocate (Heap.furnishes_of_isData isData) fun callable held => ?_
  rw [inert] at held
  cases held

theorem guards_setProperty (id : ObjectId) (key : PropertyKey) {property : Property} {value : Value}
    (slot : property.slot = .data value) : Guards (setProperty id key property) := by
  intro heap guarded
  refine guarded.setProperty ?_
  rw [slot]
  trivial

theorem guards_object (prototype : Option ObjectId) : Guards (object prototype) :=
  guards_allocate Table.isData_empty rfl

theorem guards_plainObject : Guards plainObject := guards_object _

theorem guards_boxedBoolean (truth : Bool) (prototype : ObjectId) :
    Guards (boxedBoolean truth prototype) := guards_allocate Table.isData_empty rfl

theorem guards_error (errorClass : ErrorClass) (message : String) :
    Guards (error errorClass message) := guards_allocate (Table.isData_empty.insert rfl) rfl

theorem guards_list (values : List Value) : Guards (list values) :=
  guards_allocate ((Table.isData_empty.insertElements values 0).insert rfl) rfl

theorem guards_descriptorRecord (descriptor : Descriptor) : Guards (descriptorRecord descriptor) :=
  guards_allocate (Table.isData_empty.insertFields _) rfl

theorem guards_defineGlobal (name : String) (value : Value) : Guards (defineGlobal name value) :=
  guards_setProperty _ _ rfl

theorem guards_instances (function : ObjectId) : Guards (instances function) :=
  guards_bind guards_plainObject fun _ =>
    guards_bind (guards_setProperty _ _ rfl) fun _ => guards_setProperty _ _ rfl

/-- What follows the allocation of a function. -/
theorem guards_furnish (callable : Callable) (length : Nat) (id : ObjectId) :
    Guards do
      setProperty id "length"
        { slot := .data (.number (Number.ofNat length)), writable := false, enumerable := false }
      setProperty id "name"
        { slot := .data (.string callable.name), writable := false, enumerable := false }
      whenever (callable.kind = .normal) (instances id)
      return id :=
  guards_bind (guards_setProperty _ _ rfl) fun _ =>
    guards_bind (guards_setProperty _ _ rfl) fun _ =>
      guards_bind (guards_whenever _ (guards_instances id)) fun _ => guards_pure id

theorem allocate_function_tends {heap : Heap} (guarded : heap.Guarded) {callable : Callable}
    (tested : callable.code.Tested) (prototype : Option ObjectId) :
    heap.Tends (heap.allocate { prototype, kind := .function callable }).2 := by
  refine guarded.allocate (Heap.furnishes_of_empty rfl) fun other held => ?_
  cases held
  exact tested

theorem guards_function {callable : Callable} (tested : callable.code.Tested) (length : Nat) :
    Guards (function callable length) := by
  intro heap guarded
  have made := allocate_function_tends guarded tested (some Intrinsic.functionPrototype.id)
  exact made.trans (guards_furnish callable length heap.next _ made.guarded)

/-- What was made as a function can be called. -/
theorem isCallable_function {heap : Heap} (guarded : heap.Guarded) {callable : Callable}
    (tested : callable.code.Tested) (length : Nat) :
    (function callable length heap).2.isCallable (.object (function callable length heap).1) = true := by
  have made := allocate_function_tends guarded tested (some Intrinsic.functionPrototype.id)
  refine (guards_furnish callable length heap.next _ made.guarded).keeps (.object heap.next) ?_
  unfold Heap.isCallable Heap.function?
  dsimp only
  rw [Heap.object_allocate_next]
  rfl

theorem guards_method (name : String) (length : Nat) (builtin : Builtin) (captured : List Value) :
    Guards (method name length builtin captured) := guards_function (by trivial) length

theorem isCallable_method {heap : Heap} (guarded : heap.Guarded) (name : String) (length : Nat)
    (builtin : Builtin) (captured : List Value) :
    (method name length builtin captured heap).2.isCallable
      (.object (method name length builtin captured heap).1) = true :=
  isCallable_function guarded (by trivial) length

theorem guards_installMethod (target : ObjectId) (name : String) (length : Nat) (builtin : Builtin) :
    Guards (installMethod target name length builtin) :=
  guards_bind (guards_method name length builtin []) fun _ =>
    guards_bind (guards_setProperty _ _ rfl) fun _ => guards_pure _

theorem guards_constructor (name : String) (length : Nat) (builtin : Builtin) (prototype : ObjectId) :
    Guards (constructor name length builtin prototype) :=
  guards_bind (guards_function (by trivial) length) fun _ =>
    guards_bind (guards_setProperty _ _ rfl) fun _ =>
      guards_bind (guards_setProperty _ _ rfl) fun _ => guards_pure _

theorem guards_installHelpers (marked : List Helper) : Guards (installHelpers marked) :=
  guards_forM fun _ _ => guards_bind (guards_method _ _ _ []) fun _ => guards_defineGlobal _ _

end Build

theorem Failure.guards_value (failure : Failure) : Build.Guards failure.value := by
  cases failure with
  | fault cause => exact Build.guards_bind (Build.guards_error _ _) fun _ => Build.guards_pure _
  | thrown value => exact Build.guards_pure value

/-! ## Fresh realms -/

namespace Realm

open Build

theorem guards_installMethods (target : ObjectId) (methods : List (String × Nat × Builtin)) :
    Guards (installMethods target methods) :=
  guards_forM fun _ _ => guards_bind (guards_installMethod target _ _ _) fun _ => guards_pure ()

/-- The getter and the setter of prototype links can be called when the accessor is installed. -/
theorem guards_installLinkAccessor : Guards installLinkAccessor := by
  intro heap guarded
  unfold installLinkAccessor
  have first := guards_method "get __proto__" 0 .linkGetter [] heap guarded
  have getter := isCallable_method guarded "get __proto__" 0 .linkGetter []
  have second := guards_method "set __proto__" 1 .linkSetter [] _ first.guarded
  have setter := isCallable_method first.guarded "set __proto__" 1 .linkSetter []
  refine (first.trans second).trans (second.guarded.setProperty ⟨?_, ?_⟩)
  · rintro _ ⟨⟩
    exact second.keeps _ getter
  · rintro _ ⟨⟩
    exact setter

theorem guards_installObject (profile : Profile) : Guards (installObject profile) := by
  unfold installObject
  refine guards_bind (guards_constructor _ _ _ _) fun _ => ?_
  refine guards_bind (guards_whenever _ (guards_installMethods _ _)) fun _ => ?_
  refine guards_bind (guards_whenever _ (guards_installMethods _ _)) fun _ => ?_
  refine guards_bind (guards_installMethods _ _) fun _ => ?_
  refine guards_bind (guards_installMethods _ _) fun _ => ?_
  refine guards_bind (guards_whenever _ guards_installLinkAccessor) fun _ => ?_
  exact guards_defineGlobal _ _

theorem guards_installErrorClass (errorClass : ErrorClass) (parent : Option ObjectId) :
    Guards (installErrorClass errorClass parent) := by
  unfold installErrorClass
  refine guards_bind (guards_constructor _ _ _ _) fun _ => ?_
  refine guards_bind (guards_whenever _ fun _ guarded => guarded.setLink parent) fun _ => ?_
  refine guards_bind (guards_setProperty _ _ rfl) fun _ => ?_
  refine guards_bind (guards_setProperty _ _ rfl) fun _ => ?_
  exact guards_bind (guards_defineGlobal _ _) fun _ => guards_pure _

theorem guards_installErrors : Guards installErrors :=
  guards_bind (guards_installErrorClass _ _) fun _ =>
    guards_bind (guards_installErrorClass _ _) fun _ =>
      guards_bind (guards_installErrorClass _ _) fun _ =>
        guards_bind (guards_installErrorClass _ _) fun _ => guards_pure _

theorem guards_installBoolean : Guards installBoolean :=
  guards_bind (guards_constructor _ _ _ _) fun _ =>
    guards_bind (guards_installMethods _ _) fun _ => guards_defineGlobal _ _

theorem guards_installReflect (support : ReflectSupport) : Guards (installReflect support) := by
  refine guards_whenever _ ?_
  refine guards_bind guards_plainObject fun reflect => ?_
  refine guards_bind (guards_installMethod _ _ _ _) fun _ => ?_
  refine guards_bind (guards_whenever _ (guards_setProperty _ _ rfl)) fun _ => ?_
  refine guards_bind (guards_installMethods _ _) fun _ => ?_
  exact guards_defineGlobal _ _

theorem guards_installProxy (offered : Bool) : Guards (installProxy offered) :=
  guards_whenever _ <|
    guards_bind guards_plainObject fun _ =>
      guards_bind (guards_constructor _ _ _ _) fun _ => guards_defineGlobal _ _

theorem guards_install (profile : Profile) : Guards (install profile) := by
  unfold install
  refine guards_bind (guards_installMethods _ _) fun _ => ?_
  refine guards_bind (guards_installObject profile) fun _ => ?_
  refine guards_bind guards_installErrors fun _ => ?_
  refine guards_bind guards_installBoolean fun _ => ?_
  refine guards_bind (guards_installReflect _) fun _ => ?_
  refine guards_bind (guards_installProxy _) fun _ => ?_
  exact guards_defineGlobal _ _

theorem guarded_skeleton : skeleton.Guarded := by
  refine ⟨fun id => ?_, fun id callable held => ?_⟩
  · obtain ⟨prototype, kind, object_eq, _, _⟩ := skeleton_object id
    exact Heap.furnishes_of_empty (by rw [object_eq])
  · obtain ⟨prototype, kind, object_eq, kinds, _⟩ := skeleton_object id
    rw [object_eq] at held
    rcases kinds with rfl | rfl <;> cases held

/-- The heap of every profile is guarded. -/
theorem guarded_heap (profile : Profile) : (heap profile).Guarded := by
  rw [heap]
  exact (guards_install profile _ guarded_skeleton).guarded

end Realm

/-- A session starts guarded, whatever helpers its program marks. -/
theorem Session.guarded_prepared (profile : Profile) (marked : List Helper) :
    (prepared profile marked).heap.Guarded :=
  (Build.guards_installHelpers marked _ (Realm.guarded_heap profile)).guarded

end ClassLowering
