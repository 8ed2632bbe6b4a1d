import ClassLowering.Proofs.Run.PrototypeLink
import ClassLowering.Script.Scope

/-!
# Runs that leave the past alone

A run may make objects and scopes, change one object that was there, and find out about the host; all
else stays as it was. Such runs compose, and an untouched realm stays untouched by them, unless the one
object is of the realm.
-/

namespace ClassLowering

namespace Heap

variable {heap middle larger : Heap} {touched id : ObjectId}

/-- Everything that was there, with the exception of one object, is there unchanged. -/
structure ExtendsBut (heap : Heap) (touched : ObjectId) (larger : Heap) : Prop where
  size_le : heap.size ≤ larger.size
  object_eq : ∀ id, id ≠ touched → id.index < heap.size → larger.object id = heap.object id

theorem Extends.but (grown : heap.Extends larger) (touched : ObjectId) :
    heap.ExtendsBut touched larger :=
  ⟨grown.size_le, fun id _ present => grown.object_eq id present⟩

namespace ExtendsBut

/-- A change of an object that was not there is no exception. -/
theorem of_new (grown : heap.ExtendsBut touched larger) (new : heap.size ≤ touched.index) :
    heap.Extends larger := by
  refine ⟨grown.size_le, fun id present => grown.object_eq id ?_ present⟩
  rintro rfl
  exact Nat.lt_irrefl _ (Nat.lt_of_lt_of_le present new)

/-- A later change may be of the same object, or of one that was not there at first. -/
theorem trans_place {other : ObjectId} (first : heap.ExtendsBut touched middle)
    (second : middle.ExtendsBut other larger) (place : other = touched ∨ heap.size ≤ other.index) :
    heap.ExtendsBut touched larger := by
  refine ⟨Nat.le_trans first.size_le second.size_le, fun id differs present => ?_⟩
  have spared : id ≠ other := by
    rintro rfl
    rcases place with same | new
    · exact differs same
    · exact Nat.lt_irrefl _ (Nat.lt_of_lt_of_le present new)
  have kept := second.object_eq id spared (Nat.lt_of_lt_of_le present first.size_le)
  exact kept.trans (first.object_eq id differs present)

theorem trans (first : heap.ExtendsBut touched middle) (second : middle.ExtendsBut touched larger) :
    heap.ExtendsBut touched larger := first.trans_place second (.inl rfl)

theorem modify (heap : Heap) (id : ObjectId) (change : Object → Object) :
    heap.ExtendsBut id (heap.modify id change) where
  size_le := by rw [size_modify]
  object_eq _ differs _ := object_modify_ne heap change differs

end ExtendsBut

end Heap

namespace Realm

variable {profile : Profile} {heap larger : Heap} {touched : ObjectId}

theorem Untouched.extendsBut (untouched : Untouched profile heap)
    (grown : heap.ExtendsBut touched larger) (outside : (Realm.heap profile).size ≤ touched.index) :
    Untouched profile larger := by
  refine untouched.keep grown.size_le fun id present => ?_
  have differs : id ≠ touched := by
    rintro rfl
    exact Nat.lt_irrefl _ (Nat.lt_of_lt_of_le present outside)
  exact grown.object_eq id differs (Nat.lt_of_lt_of_le present untouched.size_le)

end Realm

namespace State

/-- What a run may do to a state: change one object, make new ones, find out what is right about the host,
open scopes, and add entries to the journal. -/
structure Evolves (profile : Profile) (touched : ObjectId) (entries : List JournalEntry)
    (before after : State) : Prop where
  heap : before.heap.ExtendsBut touched after.heap
  caches : before.caches.Agree profile → after.caches.Agree profile
  scopes_le : before.scopes.size ≤ after.scopes.size
  scope_eq : ∀ id, id.index < before.scopes.size → after.scope id = before.scope id
  journal : after.journal = entries ++ before.journal

variable {profile : Profile} {touched : ObjectId} {entries later : List JournalEntry}
variable {before middle after : State}

namespace Evolves

/-- A change of the heap alone. -/
theorem of_heap {heap : Heap} (grown : before.heap.ExtendsBut touched heap) :
    before.Evolves profile touched [] { before with heap } :=
  ⟨grown, id, Nat.le_refl _, fun _ _ => rfl, rfl⟩

theorem refl (state : State) : state.Evolves profile touched [] state :=
  of_heap ((Heap.Extends.refl _).but touched)

theorem trans_place {other : ObjectId} (first : before.Evolves profile touched entries middle)
    (second : middle.Evolves profile other later after)
    (place : other = touched ∨ before.heap.size ≤ other.index) :
    before.Evolves profile touched (later ++ entries) after where
  heap := first.heap.trans_place second.heap place
  caches agree := second.caches (first.caches agree)
  scopes_le := Nat.le_trans first.scopes_le second.scopes_le
  scope_eq id present :=
    (second.scope_eq id (Nat.lt_of_lt_of_le present first.scopes_le)).trans
      (first.scope_eq id present)
  journal := by rw [second.journal, first.journal, List.append_assoc]

theorem trans (first : before.Evolves profile touched entries middle)
    (second : middle.Evolves profile touched later after) :
    before.Evolves profile touched (later ++ entries) after := first.trans_place second (.inl rfl)

/-- A run that touches nothing that was there may as well touch any object. -/
theorem any (evolves : before.Evolves profile touched entries after)
    (new : before.heap.size ≤ touched.index) (other : ObjectId) :
    before.Evolves profile other entries after :=
  { evolves with heap := (evolves.heap.of_new new).but other }

theorem knowing {caches : Caches} (agree : before.caches.Agree profile → caches.Agree profile) :
    before.Evolves profile touched [] (before.knowing caches) where
  heap := (Heap.Extends.refl _).but touched
  caches := agree
  scopes_le := Nat.le_refl _
  scope_eq _ _ := rfl
  journal := rfl

end Evolves

theorem Untouched.evolves (untouched : before.Untouched profile)
    (evolves : before.Evolves profile touched entries after)
    (outside : (Realm.heap profile).size ≤ touched.index) : after.Untouched profile :=
  ⟨untouched.heap.extendsBut evolves.heap outside, evolves.caches untouched.caches⟩

/-- What finding out about the host does to a state: it makes objects, and keeps what it found out. -/
structure Adds (profile : Profile) (before after : State) : Prop where
  heap : before.heap.Extends after.heap
  caches : before.caches.Agree profile → after.caches.Agree profile
  symbolCount : after.symbolCount = before.symbolCount
  scopes : after.scopes = before.scopes
  journal : after.journal = before.journal

namespace Adds

theorem of_heap {heap : Heap} (grown : before.heap.Extends heap) :
    before.Adds profile { before with heap } := ⟨grown, id, rfl, rfl, rfl⟩

theorem refl (state : State) : state.Adds profile state := of_heap (.refl _)

theorem trans (first : before.Adds profile middle) (second : middle.Adds profile after) :
    before.Adds profile after where
  heap := first.heap.trans second.heap
  caches agree := second.caches (first.caches agree)
  symbolCount := second.symbolCount.trans first.symbolCount
  scopes := second.scopes.trans first.scopes
  journal := second.journal.trans first.journal

theorem knowing {caches : Caches} (agree : before.caches.Agree profile → caches.Agree profile) :
    before.Adds profile (before.knowing caches) := ⟨.refl _, agree, rfl, rfl, rfl⟩

theorem knowingLinks (state : State) : state.Adds profile (state.knowingLinks profile) :=
  knowing fun agree => agree.with_lookup

theorem evolves (adds : before.Adds profile after) (touched : ObjectId) :
    before.Evolves profile touched [] after where
  heap := adds.heap.but touched
  caches := adds.caches
  scopes_le := Nat.le_of_eq (congrArg Array.size adds.scopes).symm
  scope_eq id _ := by rw [State.scope, adds.scopes, State.scope]
  journal := adds.journal

end Adds

theorem Untouched.adds (untouched : before.Untouched profile) (adds : before.Adds profile after) :
    after.Untouched profile :=
  untouched.evolves (adds.evolves before.heap.next) untouched.heap.size_le

end State

end ClassLowering
