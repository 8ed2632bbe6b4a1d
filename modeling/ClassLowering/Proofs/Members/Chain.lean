import ClassLowering.Proofs.Construction.Linking
import ClassLowering.Proofs.Members.Ladder

/-!
# Chains of classes

In a chain of classes every class but the last is linked below the next one. The prototype objects are a
ladder of what was installed as members, the constructors are one of the statics. A function that was just
made starts a chain, and can be linked below the newest class of a chain.
-/

namespace ClassLowering

open Relation

/-- A class with its prototype object, and with what was installed on both, in order. -/
structure PopulatedClass where
  constructor : ObjectId
  prototype : ObjectId
  members : MemberList := []
  statics : MemberList := []

namespace PopulatedClass

/-- The prototype object of a class with its members. -/
def memberRung (made : PopulatedClass) : Rung := ⟨made.prototype, made.members⟩

/-- The constructor of a class with its statics. -/
def staticRung (made : PopulatedClass) : Rung := ⟨made.constructor, made.statics⟩

/-- The class with more members and statics. -/
def populated (made : PopulatedClass) (members statics : MemberList) : PopulatedClass :=
  { made with members := made.members ++ members, statics := made.statics ++ statics }

/-- What a prototype object has for itself. -/
def prototypeKeys : List PropertyKey := ["constructor"]

/-- What a function has for itself. -/
def functionKeys : List PropertyKey := ["length", "name", "prototype"]

/-- Members keep off what classes have for themselves, and off the accessor of prototype links. -/
def reservedKeys : List PropertyKey := "__proto__" :: (prototypeKeys ++ functionKeys)

end PopulatedClass

open PopulatedClass

/-- No member has a reserved key. -/
def MemberList.Free (members : MemberList) : Prop := ∀ entry ∈ members, entry.1 ∉ reservedKeys

instance (members : MemberList) : Decidable members.Free :=
  inferInstanceAs (Decidable (∀ entry ∈ members, entry.1 ∉ reservedKeys))

namespace MemberList

variable {members more : MemberList} {key : PropertyKey}

theorem Free.append (free : members.Free) (also : more.Free) : Free (members ++ more) := by
  intro entry member
  rcases List.mem_append.mp member with first | second
  · exact free entry first
  · exact also entry second

theorem Free.last?_eq_none (free : members.Free) (reserved : key ∈ reservedKeys) :
    members.last? key = none :=
  MemberList.last?_eq_none fun entry member same => free entry member (same ▸ reserved)

theorem Free.not_prototypeKey (free : members.Free) : ∀ entry ∈ members, entry.1 ∉ prototypeKeys :=
  fun entry member own => free entry member (.tail _ (List.mem_append_left _ own))

theorem Free.not_functionKey (free : members.Free) : ∀ entry ∈ members, entry.1 ∉ functionKeys :=
  fun entry member own => free entry member (.tail _ (List.mem_append_right _ own))

end MemberList

namespace State

variable {profile : Profile} {state after : State} {made : PopulatedClass}
variable {classes : List PopulatedClass}

/-- A constructor and its prototype object, which hold each other. -/
structure Pairs (profile : Profile) (state : State) (made : PopulatedClass) : Prop where
  kind : ∃ callable, (state.heap.object made.constructor).kind = .function callable
  plain : (state.heap.object made.prototype).kind = .ordinary
  instances : state.heap.Holds made.constructor "prototype" (.object made.prototype)
  back : (state.heap.object made.prototype).property? "constructor" =
    some (.hidden (.object made.constructor))
  constructor_outside : (Realm.heap profile).size ≤ made.constructor.index
  prototype_outside : (Realm.heap profile).size ≤ made.prototype.index
  freeMembers : made.members.Free
  freeStatics : made.statics.Free

/-- A state carries a chain of classes, the newest one first. -/
structure Carries (profile : Profile) (state : State) (classes : List PopulatedClass) : Prop where
  untouched : state.Untouched profile
  pairs : ∀ made ∈ classes, state.Pairs profile made
  distinct : (classes.map PopulatedClass.constructor).Nodup
  members : state.heap.Ladder prototypeKeys Intrinsic.objectPrototype.id (classes.map memberRung)
  statics : state.heap.Ladder functionKeys Intrinsic.functionPrototype.id (classes.map staticRung)

/-! ## Which objects are the same -/

theorem Pairs.index_lt (pairs : state.Pairs profile made) :
    made.constructor.index < state.heap.size ∧ made.prototype.index < state.heap.size :=
  ⟨pairs.instances.index_lt, Heap.index_lt_of_property pairs.back⟩

/-- Functions are no prototype objects. -/
theorem Pairs.prototype_ne {other : PopulatedClass} (pairs : state.Pairs profile made)
    (others : state.Pairs profile other) : other.prototype ≠ made.constructor := by
  intro same
  obtain ⟨callable, kind⟩ := pairs.kind
  have plain := others.plain
  rw [same, kind] at plain
  cases plain

/-- A prototype object belongs to one constructor. -/
theorem Pairs.constructor_eq {other : PopulatedClass} (pairs : state.Pairs profile made)
    (others : state.Pairs profile other) (same : other.prototype = made.prototype) :
    other.constructor = made.constructor := by
  have back := others.back
  rw [same, pairs.back] at back
  exact (Value.object.inj (Slot.data.inj (congrArg Property.slot (Option.some.inj back)))).symm

theorem Pairs.congr (pairs : state.Pairs profile made)
    (constructor_eq : after.heap.object made.constructor = state.heap.object made.constructor)
    (prototype_eq : after.heap.object made.prototype = state.heap.object made.prototype) :
    after.Pairs profile made :=
  { pairs with
    kind := constructor_eq ▸ pairs.kind
    plain := prototype_eq ▸ pairs.plain
    instances := pairs.instances.congr constructor_eq
    back := prototype_eq ▸ pairs.back }

/-- Whatever leaves the classes and the realm alone keeps the chain. -/
theorem Carries.keep (carries : state.Carries profile classes) (untouched : after.Untouched profile)
    (same : ∀ made ∈ classes,
      after.heap.object made.constructor = state.heap.object made.constructor ∧
        after.heap.object made.prototype = state.heap.object made.prototype) :
    after.Carries profile classes := by
  refine ⟨untouched, fun made member => ?_, carries.distinct, ?_, ?_⟩
  · exact (carries.pairs made member).congr (same made member).1 (same made member).2
  · refine carries.members.congr fun rung member => ?_
    obtain ⟨made, held, rfl⟩ := List.mem_map.mp member
    exact (same made held).2
  · refine carries.statics.congr fun rung member => ?_
    obtain ⟨made, held, rfl⟩ := List.mem_map.mp member
    exact (same made held).1

/-! ## New classes -/

/-- A function as it is when it was just made, outside the realm. -/
structure NewFunction (profile : Profile) (state : State) (id prototype : ObjectId) : Prop where
  made : ∃ callable, state.heap.MadeFunction callable id prototype
  outside : (Realm.heap profile).size ≤ id.index
  prototype_outside : (Realm.heap profile).size ≤ prototype.index

variable {id prototype base above : ObjectId}

/-- A class that is linked pairs with its prototype object. -/
theorem pairs_of_linked {callable : Callable}
    (linked : state.heap.LinkedClass callable id prototype base above)
    (outside : (Realm.heap profile).size ≤ id.index)
    (prototype_outside : (Realm.heap profile).size ≤ prototype.index) :
    state.Pairs profile { constructor := id, prototype } where
  kind := ⟨callable, linked.kind⟩
  plain := by
    rw [linked.prototype]
    rfl
  instances := linked.instances
  back := by
    rw [linked.prototype]
    refine (Object.property?_setProperty ..).trans ?_
    rw [if_pos rfl]
  constructor_outside := outside
  prototype_outside := prototype_outside
  freeMembers := nofun
  freeStatics := nofun

/-- The prototype object of a class that was just linked has no members. -/
theorem memberRung_of_linked {callable : Callable}
    (linked : state.heap.LinkedClass callable id prototype base above) :
    state.heap.ShowsRung prototypeKeys ⟨prototype, []⟩ above := by
  refine ⟨?_, ?_, ?_, fun key other => ?_⟩
  · rw [linked.prototype]
    rfl
  · rw [linked.prototype]
    rfl
  · rw [Heap.Links, linked.prototype]
    rfl
  · rw [linked.prototype]
    refine (Object.property?_setProperty ..).trans ?_
    rw [if_neg fun same => other (List.mem_singleton.mpr same)]
    exact Table.get?_empty key

theorem staticRung_of_linked {callable : Callable}
    (linked : state.heap.LinkedClass callable id prototype base above)
    (missing : ∀ key, key ∉ functionKeys → (state.heap.object id).property? key = none) :
    state.heap.ShowsRung functionKeys ⟨id, []⟩ base :=
  ⟨linked.passes.ordinary, linked.extensible, linked.passes.links, missing⟩

/-- A function that was just made is a chain of one class. -/
theorem NewFunction.carries (new : state.NewFunction profile id prototype)
    (untouched : state.Untouched profile) :
    state.Carries profile [{ constructor := id, prototype }] := by
  obtain ⟨callable, made⟩ := new.made
  refine ⟨untouched, fun one member => ?_, List.nodup_singleton _, ?_, ?_⟩
  · cases List.mem_singleton.mp member
    exact pairs_of_linked made.linked new.outside new.prototype_outside
  · exact .cons (memberRung_of_linked made.linked) .nil
  · exact .cons (staticRung_of_linked made.linked made.missing) .nil

/-- Linking leaves the other properties of a function as they are. -/
theorem linked_property? (present : id.index < state.heap.size) {key : PropertyKey}
    (other : key ≠ "prototype") :
    ((state.linked profile id base above).heap.object id).property? key =
      (state.heap.object id).property? key := by
  have there : id.index < (state.heap.withPrototype id above).size := by
    refine Nat.lt_of_lt_of_le present ?_
    exact Heap.extendsBut_withPrototype.size_le
  have object_eq : (state.linked profile id base above).heap.object id =
      { (state.heap.object id).setValue "prototype" (.object state.heap.next) with
        prototype := some base } := by
    refine (Heap.object_modify_self _ _ _ there).trans ?_
    rw [Heap.object_withPrototype_self present]
  rw [object_eq]
  refine (Object.property?_setProperty ..).trans ?_
  rw [if_neg other]

section Linking

variable {newest : PopulatedClass} {rest : List PopulatedClass}
variable (carries : state.Carries profile (newest :: rest))
  (new : state.NewFunction profile id prototype)
  (apart : id ∉ (newest :: rest).map PopulatedClass.constructor)
include carries new apart

/-- What touches the new function only, and makes objects, leaves the classes alone. -/
theorem Carries.same_of_extendsBut {heap : Heap} (grown : state.heap.ExtendsBut id heap)
    (made : PopulatedClass) (member : made ∈ newest :: rest) :
    heap.object made.constructor = state.heap.object made.constructor ∧
      heap.object made.prototype = state.heap.object made.prototype := by
  obtain ⟨callable, fresh⟩ := new.made
  have pairs := carries.pairs made member
  refine ⟨grown.object_eq _ ?_ pairs.index_lt.1, grown.object_eq _ ?_ pairs.index_lt.2⟩
  · rintro rfl
    exact apart (List.mem_map_of_mem member)
  · rintro same
    have plain := pairs.plain
    rw [same, fresh.kind] at plain
    cases plain

/-- The new function is not met above the newest class. -/
theorem Carries.linksTo_eq_false :
    (state.heap.withPrototype id newest.prototype).linksTo newest.constructor id = false := by
  have grown : state.heap.ExtendsBut id (state.heap.withPrototype id newest.prototype) :=
    Heap.extendsBut_withPrototype
  have realm := carries.untouched.heap.extendsBut grown new.outside
  have same := carries.same_of_extendsBut new apart grown
  have ladder : (state.heap.withPrototype id newest.prototype).Ladder functionKeys
      Intrinsic.functionPrototype.id ((newest :: rest).map staticRung) := by
    refine carries.statics.congr fun rung member => ?_
    obtain ⟨made, held, rfl⟩ := List.mem_map.mp member
    exact (same made held).1
  have plain : Rung.find? ((newest :: rest).map staticRung) "__proto__" = none := by
    refine Rung.find?_eq_none fun rung member entry inside same => ?_
    obtain ⟨made, held, rfl⟩ := List.mem_map.mp member
    exact (carries.pairs made held).freeStatics entry inside (same ▸ List.mem_cons_self)
  have passes := ladder.passes (by decide) plain
  have outside (intrinsic : Intrinsic) : intrinsic.id ≠ id := by
    rintro rfl
    exact Nat.lt_irrefl _
      (Nat.lt_of_lt_of_le ((Realm.heap_sound profile).intrinsic intrinsic) new.outside)
  refine Heap.linksTo_apart "__proto__" ?_ (outside .objectPrototype) realm.objectPrototype_ordinary realm.offers.objectPrototype
  refine .tail (passes.lift (fun current => current) ?_)
    ⟨realm.offers.functionPrototype_passes, outside _⟩
  rintro current next ⟨step, member⟩
  refine ⟨step, ?_⟩
  rintro rfl
  refine apart ?_
  rwa [List.map_map] at member

/-- A new function is linked below the newest class. -/
theorem Carries.link_apply (links : profile.Links) (depth : Nat) :
    Run.linkClass (.object id) (.object newest.constructor) (Engine.ofDepth (depth + 1)) state =
      .done () (state.linked profile id newest.constructor newest.prototype) := by
  obtain ⟨callable, fresh⟩ := new.made
  have pairs := carries.pairs newest List.mem_cons_self
  obtain ⟨_, kind⟩ := pairs.kind
  exact Run.linkClass_admitted carries.untouched links new.outside fresh kind
    (pairs.instances.plainRead? (Heap.proxy?_of_function kind)) (carries.linksTo_eq_false new apart)
    depth

/-- A function that was linked is the newest class. -/
theorem Carries.linked :
    (state.linked profile id newest.constructor newest.prototype).Carries profile
      ({ constructor := id, prototype := state.heap.next } :: newest :: rest) := by
  obtain ⟨callable, fresh⟩ := new.made
  have evolved := Run.evolves_linked profile state id newest.constructor newest.prototype
  have kept := carries.keep (carries.untouched.evolves evolved new.outside)
    (carries.same_of_extendsBut new apart evolved.heap)
  have linked := fresh.linkedClass profile newest.constructor newest.prototype
  refine ⟨kept.untouched, fun made member => ?_, List.nodup_cons.mpr ⟨apart, carries.distinct⟩, ?_, ?_⟩
  · rcases List.mem_cons.mp member with rfl | older
    · exact pairs_of_linked linked new.outside carries.untouched.heap.size_le
    · exact kept.pairs made older
  · exact .cons (memberRung_of_linked linked) kept.members
  · refine .cons (staticRung_of_linked linked fun key other => ?_) kept.statics
    rw [linked_property? fresh.instances.index_lt]
    · exact fresh.missing key other
    · rintro rfl
      exact other (by decide)

end Linking

end State

end ClassLowering
