import ClassLowering.Proofs.InstanceGuard
import ClassLowering.Proofs.InternalFailures
import Mathlib.Tactic.MkIffOfInductiveProp

/-!
# The errors of a realm

A realm installs a constructor for each error class, under the name of the class, and a prototype object with
this name. Whatever a session does later, the errors are in place where these are as they were installed: what
else it takes, the kinds of the objects and the prototype objects of the constructors, no script can change.
-/

namespace ClassLowering

open Bounded Relation

/-- What an object holds under a key of its own. -/
def Object.slot? (object : Object) (key : PropertyKey) : Option Slot :=
  (object.property? key).map Property.slot

theorem Object.slot?_of_fixedPrototype? {object : Object} {prototype : ObjectId}
    (fixed : object.fixedPrototype? = some prototype) :
    object.slot? "prototype" = some (.data (.object prototype)) := by
  unfold fixedPrototype? at fixed
  split at fixed
  · next found =>
    cases fixed
    rw [slot?, found]
    rfl
  · cases fixed

/-- A constructor of errors is a function. -/
theorem ObjectKind.exists_of_makesErrors {kind : ObjectKind} (makes : kind.makesErrors = true) :
    ∃ callable, kind = .function callable := by
  unfold makesErrors at makes
  split at makes
  · exact ⟨_, rfl⟩
  · cases makes

theorem Heap.index_lt_of_makesErrors {heap : Heap} {id : ObjectId}
    (makes : (heap.object id).kind.makesErrors = true) : id.index < heap.size := by
  obtain ⟨callable, function⟩ := ObjectKind.exists_of_makesErrors makes
  exact index_lt_of_kind function nofun

/-- The prototype object of an error class. -/
def ErrorClass.prototype (errorClass : ErrorClass) : ObjectId := (Intrinsic.errorPrototype errorClass).id

namespace Heap

variable {heap : Heap} {id : ObjectId} {key : PropertyKey} {value : Value}

theorem plainRead?_slot (ordinary : (heap.object id).proxy? = none)
    (held : (heap.object id).slot? key = some (.data value)) : heap.plainRead? id key = some value := by
  obtain ⟨property, found, slot_eq⟩ := Option.map_eq_some_iff.mp held
  exact plainRead?_own ordinary found slot_eq

theorem storedStride_slot (held : (heap.object id).slot? key = some (.data value)) :
    heap.storedStride key id = .finish (some value) := by
  obtain ⟨property, found, slot_eq⟩ := Option.map_eq_some_iff.mp held
  obtain ⟨slot, _, _, _⟩ := property
  cases slot_eq
  simp only [storedStride, found]

theorem storedValue_own (held : (heap.object id).slot? key = some (.data value)) :
    heap.storedValue id key = some value := by
  rw [storedValue, walk_of_finish (storedStride_slot held)]
  rfl

/-- What an object lacks is read from the object that it inherits from. -/
theorem storedValue_inherited {above : ObjectId} (missing : (heap.object id).property? key = none)
    (links : heap.Links id above) : heap.storedValue id key = heap.storedValue above key := by
  have moved : Moves (heap.storedStride key) id above := by
    simp only [Moves, storedStride, missing]
    exact moves_follow_iff.mpr links
  rw [storedValue, storedValue,
    walk_of_moves (fun _ _ moved => index_lt_of_prototype (storedStride_moves moved)) moved]

theorem reports_of_links {above : ObjectId} (ordinary : (heap.object id).proxy? = none)
    (links : heap.Links id above) : heap.Reports id above :=
  (prototypeOf_of_ordinary ordinary).trans links

/-- The constructor of an error class that the global variable of its name holds. -/
def errorConstructor? (heap : Heap) (errorClass : ErrorClass) : Option ObjectId :=
  match (heap.object Intrinsic.global.id).slot? errorClass.name with
  | some (.data (.object id)) => some id
  | _ => none

theorem slot?_of_errorConstructor? {errorClass : ErrorClass}
    (found : heap.errorConstructor? errorClass = some id) :
    (heap.object Intrinsic.global.id).slot? errorClass.name = some (.data (.object id)) := by
  unfold errorConstructor? at found
  split at found
  · next held => exact held.trans (by rw [Option.some.inj found])
  · cases found

/-- Errors of a class are in place: their constructor under its global name, with the prototype object of the
class, and on this the name of the class and a link to the prototype object of plain errors. -/
structure HasErrors (heap : Heap) (errorClass : ErrorClass) : Prop where
  constructor : ∃ constructor, heap.plainRead? Intrinsic.global.id errorClass.name = some (.object constructor) ∧
    heap.ShowsPrototype (.object constructor) (.object errorClass.prototype)
  name : (heap.object errorClass.prototype).slot? "name" = some (.data (.string errorClass.name))
  plain : errorClass ≠ .error → heap.Reports errorClass.prototype ErrorClass.error.prototype

end Heap

/-! ## The errors of a realm -/

namespace Realm

/-- What a realm installs for an error class. -/
@[mk_iff] structure Equips (heap : Heap) (errorClass : ErrorClass) : Prop where
  constructor : (heap.errorConstructor? errorClass).map (fun id =>
    ((heap.object id).kind.makesErrors, (heap.object id).fixedPrototype?)) =
      some (true, some errorClass.prototype)
  name : (heap.object errorClass.prototype).slot? "name" = some (.data (.string errorClass.name))
  plain : errorClass ≠ .error →
    (heap.object errorClass.prototype).prototype = some ErrorClass.error.prototype
  ordinary : (heap.object errorClass.prototype).proxy? = none
  global_ordinary : (heap.object Intrinsic.global.id).proxy? = none
  global_plain : (heap.object Intrinsic.global.id).kind.makesErrors = false

set_option synthInstance.maxSize 512 in
theorem heap_equips (profile : Profile) (errorClass : ErrorClass) :
    Equips (Realm.heap profile) errorClass := by
  have listed : errorClass ∈ ErrorClass.all := by cases errorClass <;> decide
  refine (?_ : ∀ errorClass ∈ ErrorClass.all, Equips (Realm.heap profile) errorClass) errorClass listed
  obtain ⟨g, s, l, reflect, p⟩ := profile
  simp only [equips_iff]
  cases reflect <;> revert g s l p <;> decide +kernel

/-- The errors of a realm are as they were installed: what the global variables of their constructors hold, and
the names and the links of their prototype objects. -/
structure ErrorsInstalled (law : Law) (profile : Profile) (heap : Heap) : Prop where
  global : ∀ errorClass : ErrorClass,
    (heap.object Intrinsic.global.id).slot? errorClass.name =
      ((Realm.heap profile).object Intrinsic.global.id).slot? errorClass.name
  name : ∀ errorClass : ErrorClass,
    (heap.object errorClass.prototype).slot? "name" =
      ((Realm.heap profile).object errorClass.prototype).slot? "name"
  link : ∀ errorClass : ErrorClass,
    (heap.object errorClass.prototype).prototype =
      ((Realm.heap profile).object errorClass.prototype).prototype
  /-- No script gives an installed constructor another prototype object, but hosts may. -/
  shown : law.writes = true → ∀ id, ((Realm.heap profile).object id).kind.makesErrors = true →
    (heap.object id).slot? "prototype" = ((Realm.heap profile).object id).slot? "prototype"

/-- Only the objects of the realm matter. -/
theorem ErrorsInstalled.keep {law : Law} {profile : Profile} {heap larger : Heap}
    (installed : ErrorsInstalled law profile heap)
    (same : ∀ id, id.index < (Realm.heap profile).size → larger.object id = heap.object id) :
    ErrorsInstalled law profile larger := by
  have intrinsic (intrinsic : Intrinsic) : larger.object intrinsic.id = heap.object intrinsic.id :=
    same _ ((heap_sound profile).intrinsic intrinsic)
  refine ⟨fun errorClass => ?_, fun errorClass => ?_, fun errorClass => ?_, fun unasked id makes => ?_⟩
  · rw [intrinsic]
    exact installed.global errorClass
  · rw [ErrorClass.prototype, intrinsic]
    exact installed.name errorClass
  · rw [ErrorClass.prototype, intrinsic]
    exact installed.link errorClass
  · rw [same id (Heap.index_lt_of_makesErrors makes)]
    exact installed.shown unasked id makes

theorem errorsInstalled_heap (law : Law) (profile : Profile) :
    ErrorsInstalled law profile (Realm.heap profile) :=
  ⟨fun _ => rfl, fun _ => rfl, fun _ => rfl, fun _ _ _ => rfl⟩

end Realm

/-- Of what was there, the installation of helpers changes the global object only. -/
theorem Build.installHelpers_extendsBut (heap : Heap) (marked : List Helper) :
    heap.ExtendsBut Intrinsic.global.id (Build.installHelpers marked heap).2 := by
  unfold Build.installHelpers
  induction Helper.inOrder marked generalizing heap with
  | nil => exact (Heap.Extends.refl heap).but _
  | cons helper rest ih =>
      have made (callable : Callable) :
          heap.ExtendsBut Intrinsic.global.id (heap.withFunction callable helper.arity) :=
        Heap.extends_withFunction.but _
      exact ((made _).trans (.modify _ _ _)).trans (ih _)

namespace Session

variable {law : Law} {profile : Profile} {marked : List Helper} {before state : State} {id : ObjectId}

/-- Hosts prepare a realm by changes. -/
theorem prepared_leads (profile : Profile) (marked : List Helper) :
    (start profile).state.Leads .driver (prepared profile marked) := by
  have ran : Run.build (Build.installHelpers marked) (Engine.ofDepth 0) (start profile).state =
      .done () (prepared profile marked) := rfl
  exact (Script.installHelpers_sound (start_sound .driver profile) rfl marked).leads ran

/-- The objects of a realm stay there, and keep their kinds. -/
theorem kind_eq_of_reaches (reached : (prepared profile marked).Reaches law before)
    (during : before.Becomes law state) (present : id.index < (Realm.heap profile).size) :
    id.index < state.heap.size ∧ (state.heap.object id).kind = ((Realm.heap profile).object id).kind := by
  obtain ⟨there, prepares⟩ := State.kind_eq_of_changes (prepared_leads profile marked).changes present
  obtain ⟨there, keeps⟩ :=
    State.kind_eq_of_changes (reached.leads (prepared_sound law profile marked)).changes there
  obtain ⟨there, goesOn⟩ := State.kind_eq_of_changes during there
  exact ⟨there, (goesOn.trans keeps).trans prepares⟩

/-- No script takes its prototype object from an installed constructor of errors. -/
theorem fixedPrototype?_of_reaches (reached : (prepared profile marked).Reaches .script before)
    (during : before.Becomes .script state) {prototype : ObjectId}
    (makes : ((Realm.heap profile).object id).kind.makesErrors = true)
    (fixed : ((Realm.heap profile).object id).fixedPrototype? = some prototype) :
    (state.heap.object id).fixedPrototype? = some prototype := by
  have sound := prepared_sound .script profile marked
  have elsewhere : id ≠ Intrinsic.global.id := by
    rintro rfl
    have plain := (Realm.heap_equips profile .error).global_plain
    exact Bool.false_ne_true (plain.symm.trans makes)
  have kept := (Build.installHelpers_extendsBut (Realm.heap profile) marked).object_eq id elsewhere
    (Heap.index_lt_of_makesErrors makes)
  rw [← kept] at fixed
  have changes := (reached.leads sound).changes.trans during
  exact (State.hardens_of_changes changes sound id).fixedPrototype?_eq fixed

/-- Where the errors of the realm are as they were installed, they are in place. -/
theorem hasErrors_of_reaches (reached : (prepared profile marked).Reaches law before)
    (during : before.Becomes law state) (installed : Realm.ErrorsInstalled law profile state.heap)
    (errorClass : ErrorClass) : state.heap.HasErrors errorClass := by
  have equips := Realm.heap_equips profile errorClass
  have intrinsic (intrinsic : Intrinsic) :=
    (kind_eq_of_reaches reached during ((Realm.heap_sound profile).intrinsic intrinsic)).2
  have global_ordinary : (state.heap.object Intrinsic.global.id).proxy? = none := by
    rw [Object.proxy?, intrinsic .global]
    exact equips.global_ordinary
  have ordinary : (state.heap.object errorClass.prototype).proxy? = none := by
    rw [Object.proxy?, ErrorClass.prototype, intrinsic (.errorPrototype errorClass)]
    exact equips.ordinary
  obtain ⟨constructor, held, answers⟩ := Option.map_eq_some_iff.mp equips.constructor
  obtain ⟨makes, fixed⟩ := Prod.mk.inj answers
  obtain ⟨callable, function⟩ := ObjectKind.exists_of_makesErrors makes
  have kind :=
    (kind_eq_of_reaches reached during (Heap.index_lt_of_makesErrors makes)).2.trans function
  have shown : (state.heap.object constructor).slot? "prototype" =
      some (.data (.object errorClass.prototype)) := by
    cases law with
    | script => exact Object.slot?_of_fixedPrototype? (fixedPrototype?_of_reaches reached during makes fixed)
    | host | driver => exact (installed.shown rfl constructor makes).trans (Object.slot?_of_fixedPrototype? fixed)
  refine ⟨⟨constructor, ?_, constructor, callable, Heap.function?_of_kind kind, ?_⟩, ?_, fun other => ?_⟩
  · exact Heap.plainRead?_slot global_ordinary
      ((installed.global errorClass).trans (Heap.slot?_of_errorConstructor? held))
  · exact Heap.plainRead?_slot (Heap.proxy?_of_function kind) shown
  · exact (installed.name errorClass).trans equips.name
  · exact Heap.reports_of_links ordinary ((installed.link errorClass).trans (equips.plain other))

end Session

end ClassLowering
