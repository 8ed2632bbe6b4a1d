import ClassLowering.Proofs.Construction.Instance
import ClassLowering.Proofs.Construction.Lowered
import ClassLowering.Proofs.Run.Constructing
import ClassLowering.Proofs.Run.Steps

/-!
# Lineages of classes

A lineage is made from its base downwards: the constructor of each class links to the one above it, and
its prototype object to the one of that. A lineage stays one whatever happens to objects that it does not
consist of.
-/

namespace ClassLowering

open Relation

/-- A constructor that classes can derive from, and its prototype object. -/
structure Heap.Base (heap : Heap) (constructor prototype : ObjectId) : Prop where
  constructs : ∃ callable, heap.Constructs constructor callable
  instances : heap.plainRead? constructor "prototype" = some (.object prototype)
  clears : heap.Clears "__proto__" constructor Intrinsic.objectPrototype.id
  prototype_clears : heap.Clears "__proto__" prototype Intrinsic.objectPrototype.id

/-- Wherever the realm is untouched, classes can derive from the root. -/
def Root.Rests (profile : Profile) : Root → Prop
  | .plain => True
  | .host constructor prototype =>
      ∀ heap, Realm.Untouched profile heap → heap.Base constructor prototype

/-- In an untouched realm classes can derive from a constructor, whatever is added to a heap. -/
def Heap.StaysBase (profile : Profile) (heap : Heap) (constructor prototype : ObjectId) : Prop :=
  ∀ larger, heap.Extends larger → Realm.Untouched profile larger → larger.Base constructor prototype

theorem Heap.StaysBase.extends {profile : Profile} {heap larger : Heap}
    {constructor prototype : ObjectId} (stays : heap.StaysBase profile constructor prototype)
    (grown : heap.Extends larger) : larger.StaysBase profile constructor prototype :=
  fun largest further untouched => stays largest (grown.trans further) untouched

/-- Classes can derive from the root, whatever is added to a heap. -/
def Root.RestsOn (profile : Profile) (heap : Heap) : Root → Prop
  | .plain => True
  | .host constructor prototype => heap.StaysBase profile constructor prototype

namespace Root

variable {profile : Profile} {root : Root} {heap larger : Heap}

theorem Rests.on (rests : root.Rests profile) (heap : Heap) : root.RestsOn profile heap := by
  cases root with
  | plain => trivial
  | host constructor prototype => exact fun larger _ untouched => rests larger untouched

theorem RestsOn.extends (rests : root.RestsOn profile heap) (grown : heap.Extends larger) :
    root.RestsOn profile larger := by
  cases root with
  | plain => trivial
  | host constructor prototype => exact Heap.StaysBase.extends rests grown

theorem RestsOn.parent_clears (rests : root.RestsOn profile heap)
    (untouched : Realm.Untouched profile heap) :
    heap.Clears "__proto__" (root.parentFor []) Intrinsic.objectPrototype.id := by
  cases root with
  | plain => exact .single untouched.offers.functionPrototype_passes
  | host constructor prototype => exact (rests heap (.refl heap) untouched).clears

theorem RestsOn.above_clears (rests : root.RestsOn profile heap)
    (untouched : Realm.Untouched profile heap) :
    heap.Clears "__proto__" (root.aboveFor []) Intrinsic.objectPrototype.id := by
  cases root with
  | plain => exact .refl
  | host constructor prototype => exact (rests heap (.refl heap) untouched).prototype_clears

/-- The prototype object of a root of the host is of the realm. -/
theorem Rests.index_lt (rests : root.Rests profile) :
    (root.aboveFor []).index < (Realm.heap profile).size :=
  ((rests.on _).above_clears (Realm.untouched_heap profile)).index_lt
    ((Realm.heap_sound profile).intrinsic .objectPrototype)

end Root

namespace State

variable {state : State} {made : MadeClass}

/-- A class stands in a state, with a parent of its constructor and one of its prototype object. -/
structure Stands (state : State) (made : MadeClass) (instanceStep : Script.Step) (parent above : ObjectId) :
    Prop where
  kind : (state.heap.object made.constructor).kind =
    .function (made.outline.callable instanceStep made.scope)
  instances : state.heap.Holds made.constructor "prototype" (.object made.prototype)
  passes : state.heap.Passes "__proto__" made.constructor parent
  ordinary : (state.heap.object made.prototype).proxy? = none
  back : state.heap.Holds made.prototype "constructor" (.object made.constructor)
  missing : ∀ key : PropertyKey, key ≠ "constructor" →
    (state.heap.object made.prototype).property? key = none
  link : state.heap.Links made.prototype above

/-- The super caller of a class is a variable of its scope. -/
def CallsSuper (state : State) (made : MadeClass) : Prop :=
  ∃ caller callable, state.Binds made.scope "_super" (.object caller) ∧
    (state.heap.object caller).kind = .function callable ∧
    callable.code = .builtin .superCaller ∧ callable.captured = [.object made.constructor]

/-- Classes that derive from each other, the most derived one first. -/
inductive Lineage (root : Root) (state : State) : List MadeClass → Prop
  | nil : Lineage root state []
  | cons {made : MadeClass} {above : List MadeClass}
      (stands : state.Stands made (root.stepFor above) (root.parentFor above) (root.aboveFor above))
      (calls : root.stepFor above = LoweredClass.superStep → state.CallsSuper made)
      (lineage : Lineage root state above) : Lineage root state (made :: above)

/-! ## Links of a lineage -/

theorem Stands.prototype_passes {step : Script.Step} {parent above : ObjectId}
    (stands : state.Stands made step parent above) {key : PropertyKey} (other : key ≠ "constructor") :
    state.heap.Passes key made.prototype above :=
  ⟨stands.ordinary, stands.missing key other, stands.link⟩

variable {root : Root} {above classes : List MadeClass} {profile : Profile} {key : PropertyKey}

theorem Lineage.stands (lineage : state.Lineage root classes) (member : made ∈ classes) :
    ∃ step parent above, state.Stands made step parent above := by
  induction lineage with
  | nil => cases member
  | cons stands _ _ ih =>
      rcases List.mem_cons.mp member with rfl | older
      · exact ⟨_, _, _, stands⟩
      · exact ih older

/-- The classes above a class of a lineage are a lineage. -/
theorem Lineage.of_suffix (lineage : state.Lineage root classes) (suffix : above <:+ classes) :
    state.Lineage root above := by
  induction lineage with
  | nil =>
      cases List.suffix_nil.mp suffix
      exact .nil
  | cons stands calls lineage ih =>
      rcases List.suffix_cons_iff.mp suffix with rfl | shorter
      · exact .cons stands calls lineage
      · exact ih shorter

/-- What is handed on to `Object.prototype` from the root is so from all constructors. -/
theorem Lineage.parent_clears (lineage : state.Lineage root classes)
    (rests : state.heap.Clears "__proto__" (root.parentFor []) Intrinsic.objectPrototype.id) :
    state.heap.Clears "__proto__" (root.parentFor classes) Intrinsic.objectPrototype.id := by
  induction lineage with
  | nil => exact rests
  | cons stands _ _ ih => exact .head stands.passes ih

theorem Lineage.constructor_clears (lineage : state.Lineage root classes)
    (rests : state.heap.Clears "__proto__" (root.parentFor []) Intrinsic.objectPrototype.id)
    (member : made ∈ classes) :
    state.heap.Clears "__proto__" made.constructor Intrinsic.objectPrototype.id := by
  obtain ⟨below, above, rfl⟩ := List.append_of_mem member
  exact (lineage.of_suffix (List.suffix_append below (made :: above))).parent_clears rests

/-- All keys but the link back are handed on from the prototype objects to that of the root. -/
theorem Lineage.above_clears (lineage : state.Lineage root classes) (other : key ≠ "constructor") :
    state.heap.Clears key (root.aboveFor classes) (root.aboveFor []) := by
  induction lineage with
  | nil => exact .refl
  | cons stands _ _ ih => exact .head (stands.prototype_passes other) ih

/-- A class can derive from a lineage that is not empty, or from a constructor of the host. -/
theorem Lineage.base (lineage : state.Lineage root classes)
    (rests : root.RestsOn profile state.heap) (untouched : Realm.Untouched profile state.heap)
    (derives : root.stepFor classes = LoweredClass.superStep) :
    state.heap.Base (root.parentFor classes) (root.aboveFor classes) := by
  have clears := lineage.parent_clears (rests.parent_clears untouched)
  have above := (lineage.above_clears (by decide)).trans (rests.above_clears untouched)
  cases lineage with
  | nil =>
      cases root with
      | plain => cases derives
      | host constructor prototype => exact rests state.heap (.refl _) untouched
  | cons stands =>
      have ordinary := Heap.proxy?_of_function stands.kind
      exact ⟨⟨_, stands.kind, nofun⟩, stands.instances.plainRead? ordinary, clears, above⟩

/-- The prototype object of the most derived class is below those of all classes. -/
theorem Lineage.clears_member (lineage : state.Lineage root classes) (other : key ≠ "constructor")
    (member : made ∈ classes) :
    state.heap.Clears key (root.aboveFor classes) made.prototype := by
  induction lineage with
  | nil => cases member
  | cons stands _ _ ih =>
      rcases List.mem_cons.mp member with rfl | older
      · exact .refl
      · exact .head (stands.prototype_passes other) (ih older)

/-- What links to the prototype object of the most derived class inherits from those of all classes. -/
theorem Lineage.inherits_eq (lineage : state.Lineage root classes) (member : made ∈ classes)
    {id : ObjectId} (ordinary : (state.heap.object id).proxy? = none)
    (links : state.heap.Links id (root.aboveFor classes)) :
    state.heap.inherits id made.prototype = some true := by
  have other : ("__proto__" : PropertyKey) ≠ "constructor" := by decide
  exact (lineage.clears_member other member).inherits_eq ordinary links

/-- The chain above the prototype object of the most derived class. -/
theorem Lineage.chain_eq (lineage : state.Lineage root classes) {rest : List ObjectId}
    (listed : state.heap.chain (root.aboveFor []) = some rest) :
    state.heap.chain (root.aboveFor classes) = some (classes.map MadeClass.prototype ++ rest) := by
  induction lineage with
  | nil => exact listed
  | cons stands _ _ ih => exact Heap.chain_of_links stands.ordinary stands.link ih

/-- An assignment to a key is a write from the prototype objects upwards if it is one from that of the
root. -/
theorem Lineage.assignment_eq (lineage : state.Lineage root classes)
    (allowed : state.heap.assignment (root.aboveFor []) key = some .write) :
    state.heap.assignment (root.aboveFor classes) key = some .write := by
  cases lineage with
  | nil => exact allowed
  | @cons made above stands _ lineage =>
      by_cases back : key = "constructor"
      · exact back ▸ stands.back.assignment_eq stands.ordinary
      · exact Heap.Clears.assignment_eq
          (.head (stands.prototype_passes back) (lineage.above_clears back)) allowed

/-! ## What leaves a lineage alone -/

/-- An object that no lineage consists of: outside the realm, of no kind, and without properties. -/
structure Inert (profile : Profile) (state : State) (id : ObjectId) : Prop where
  outside : (Realm.heap profile).size ≤ id.index
  kind : (state.heap.object id).kind = .ordinary
  missing : ∀ key, (state.heap.object id).property? key = none

variable {id touched : ObjectId} {entries : List JournalEntry} {after : State}

theorem inert_of_new (untouched : state.Untouched profile) (new : state.heap.size ≤ id.index) :
    state.Inert profile id := by
  have absent := Heap.object_of_size_le new
  refine ⟨Nat.le_trans untouched.heap.size_le new, by rw [absent], fun key => ?_⟩
  rw [absent]
  exact Table.get?_empty key

theorem inert_of_blank {prototype : ObjectId} (outside : (Realm.heap profile).size ≤ id.index)
    (blank : state.heap.Blank id prototype) : state.Inert profile id := by
  refine ⟨outside, ?_, fun key => (blank.passes key).missing⟩
  rw [blank]
  rfl

section Kept

variable (evolved : state.Evolves profile touched entries after) (inert : state.Inert profile touched)
include evolved inert

theorem Evolves.object_of_property {property : Property}
    (held : (state.heap.object id).property? key = some property) :
    after.heap.object id = state.heap.object id := by
  refine evolved.heap.object_eq id ?_ (Heap.index_lt_of_property held)
  rintro rfl
  rw [inert.missing] at held
  cases held

theorem Evolves.object_of_function {callable : Callable}
    (held : (state.heap.object id).kind = .function callable) :
    after.heap.object id = state.heap.object id := by
  refine evolved.heap.object_eq id ?_ (Heap.index_lt_of_kind held nofun)
  rintro rfl
  rw [inert.kind] at held
  cases held

theorem Stands.evolves {step : Script.Step} {parent above : ObjectId}
    (stands : state.Stands made step parent above) : after.Stands made step parent above := by
  obtain ⟨_, held, _⟩ := stands.back
  have constructor_eq := evolved.object_of_function inert stands.kind
  have prototype_eq := evolved.object_of_property inert held
  exact ⟨constructor_eq ▸ stands.kind, stands.instances.congr constructor_eq,
    stands.passes.congr constructor_eq, prototype_eq ▸ stands.ordinary,
    stands.back.congr prototype_eq, prototype_eq ▸ stands.missing, stands.link.congr prototype_eq⟩

theorem CallsSuper.evolves (calls : state.CallsSuper made) : after.CallsSuper made := by
  obtain ⟨caller, callable, binds, kind, code, captured⟩ := calls
  have caller_eq := evolved.object_of_function inert kind
  have scope_eq := evolved.scope_eq made.scope binds.index_lt
  exact ⟨caller, callable, binds.congr scope_eq, caller_eq ▸ kind, code, captured⟩

theorem Lineage.evolves (lineage : state.Lineage root classes) : after.Lineage root classes := by
  induction lineage with
  | nil => exact .nil
  | cons stands calls _ ih =>
      exact .cons (stands.evolves evolved inert) (fun step => (calls step).evolves evolved inert) ih

end Kept

end State

end ClassLowering
