import ClassLowering.Proofs.Composition.Basic
import ClassLowering.Proofs.Heap.Routes
import ClassLowering.Proofs.PropertyDefinition

/-!
# Assignments

An assignment to an object that is no proxy is decided by the nearest owner of the key, which is found along
prototype links and the targets of proxies. An accessor or a read-only value there takes the assignment over or
withholds it; otherwise the object itself gets the value. The attributes of the property that it gets are
right because attributes never outlive a property, unless a driver removes one outright.
-/

namespace ClassLowering

open Bounded Relation

/-! ## The nearest owner -/

namespace Property

/-- An assignment further down the chain may not take place. -/
def Withholds (property : Property) : Prop :=
  match property.slot with
  | .data _ => property.writable = false
  | .accessor _ setter => setter = none

/-- An assignment further down the chain meets writable data. -/
def LetsWrite (property : Property) : Prop :=
  match property.slot with
  | .data _ => property.writable = true
  | .accessor .. => False

end Property

namespace Heap

variable {heap : Heap} {key : PropertyKey} {id next owner : ObjectId} {property : Property}
  {found : Assignment}

/-- The nearest owner of a key on the route of an object, with the property that it owns. -/
inductive NearestOwner (heap : Heap) (key : PropertyKey) (owner : ObjectId) (property : Property) :
    ObjectId → Prop where
  | here (ordinary : (heap.object owner).target? = none)
      (held : (heap.object owner).property? key = some property) :
      NearestOwner heap key owner property owner
  | further {id next : ObjectId} (passes : heap.PassesOn key id next)
      (rest : NearestOwner heap key owner property next) : NearestOwner heap key owner property id

/-- The route of an object ends, and nothing on it owns a key. -/
inductive Unowned (heap : Heap) (key : PropertyKey) : ObjectId → Prop where
  | last {id : ObjectId} (ends : heap.onward? id = none)
      (missing : (heap.object id).property? key = none) : Unowned heap key id
  | further {id next : ObjectId} (passes : heap.PassesOn key id next) (rest : Unowned heap key next) :
      Unowned heap key id

/-- An assignment goes on past whatever does not own the key. -/
theorem PassesOn.assignment_eq (passes : heap.PassesOn key id next)
    (ended : heap.assignment next key = some found) : heap.assignment id key = some found :=
  walk_of_reaches (assignment_inside heap key) (.single (assignmentStride_moves_iff.mpr passes)) ended

/-- The nearest owner decides an assignment. -/
theorem NearestOwner.assignment_eq (nearest : heap.NearestOwner key owner property id) :
    (∀ getter setter, property.slot = .accessor getter (some setter) →
      heap.assignment id key = some (.setter setter)) ∧
    (property.Withholds → heap.assignment id key = some .refused) ∧
    (property.LetsWrite → heap.assignment id key = some .write) := by
  induction nearest with
  | here ordinary held =>
      have decides {answer : Assignment} (same : heap.assignmentStride key owner = .finish answer) :
          heap.assignment owner key = some answer := walk_of_finish same
      obtain ⟨slot, writable, _, _⟩ := property
      refine ⟨fun getter setter same => decides ?_, fun withholds => decides ?_, fun lets => decides ?_⟩
      · cases same
        simp only [assignmentStride, ordinary, held]
      · cases slot with
        | data value =>
            cases withholds
            simp only [assignmentStride, ordinary, held, Bool.false_eq_true, if_false]
        | accessor getter setter =>
            cases withholds
            simp only [assignmentStride, ordinary, held]
      · cases slot with
        | data value =>
            cases lets
            simp only [assignmentStride, ordinary, held, if_true]
        | accessor getter setter => exact lets.elim
  | further passes _ ih =>
      exact ⟨fun getter setter same => passes.assignment_eq (ih.1 getter setter same),
        fun withholds => passes.assignment_eq (ih.2.1 withholds),
        fun lets => passes.assignment_eq (ih.2.2 lets)⟩

theorem Unowned.assignment_eq (unowned : heap.Unowned key id) :
    heap.assignment id key = some .write := by
  induction unowned with
  | @last id ends missing =>
      refine walk_of_finish ?_
      unfold onward? at ends
      cases target : (heap.object id).target? with
      | some target =>
          rw [target] at ends
          cases ends
      | none =>
          rw [target] at ends
          simp only [assignmentStride, target, missing, ends]
          rfl
  | further passes _ ih => exact passes.assignment_eq ih

/-- A value is written where the nearest property lets it be, and where there is none. -/
theorem assignment_eq_write (writable : (∃ owner property, heap.NearestOwner key owner property id ∧
    property.LetsWrite) ∨ heap.Unowned key id) : heap.assignment id key = some .write := by
  rcases writable with ⟨_, _, nearest, lets⟩ | unowned
  · exact nearest.assignment_eq.2.2 lets
  · exact unowned.assignment_eq

/-- A route comes to an owner, ends, or runs into a loop without one. -/
theorem owned_or_unowned_or_looped (heap : Heap) (key : PropertyKey) (id : ObjectId) :
    (∃ owner property, heap.NearestOwner key owner property id) ∨ heap.Unowned key id ∨
      heap.Looped id ∧ heap.RouteLacks id key := by
  cases ended : heap.assignment id key with
  | none => exact .inr (.inr (assignment_eq_none_iff.mp ended))
  | some found =>
      obtain ⟨last, reaches, finished⟩ := walkFor_finishes ended
      induction reaches using ReflTransGen.head_induction_on with
      | refl =>
          unfold assignmentStride at finished
          dsimp only at finished
          cases target : (heap.object last).target? with
          | some target =>
              rw [target] at finished
              cases finished
          | none =>
              cases held : (heap.object last).property? key with
              | some property => exact .inl ⟨last, property, .here target held⟩
              | none =>
                  refine .inr (.inl (.last ?_ held))
                  rw [target, held] at finished
                  rw [onward?, target]
                  cases linked : (heap.object last).prototype with
                  | none => rfl
                  | some above =>
                      rw [linked] at finished
                      cases finished
      | @head start next moved _ ih =>
          have passes := assignmentStride_moves_iff.mp moved
          have later : heap.assignment next key = some found := by
            rw [← ended, assignment, assignment, walk_of_moves (assignment_inside heap key) moved]
          rcases ih later with ⟨owner, property, nearest⟩ | unowned | ⟨looped, lacks⟩
          · exact .inl ⟨owner, property, .further passes nearest⟩
          · exact .inr (.inl (.further passes unowned))
          · rw [assignment_eq_none_iff.mpr ⟨looped, lacks⟩] at later
            cases later

end Heap

/-! ## What an assignment does -/

/-- The property that an assignment makes of a value: it keeps the attributes in place, and has all of them
where there was no property. -/
def Object.assigned (object : Object) (key : PropertyKey) (value : Value) : Property :=
  match object.property? key with
  | some current => { current with slot := .data value }
  | none => { slot := .data value, writable := true, enumerable := true, configurable := true }

/-- Where nothing was removed outright, a value comes with no attributes but those in place. -/
theorem Object.setValue_of_whole {object : Object} (whole : object.removed = .empty)
    (key : PropertyKey) (value : Value) :
    object.setValue key value = object.setProperty key (object.assigned key value) := by
  rw [setValue, latest?, whole, Table.get?_empty, Option.or_none, assigned]
  cases object.property? key <;> rfl

theorem Object.assigned_slot (object : Object) (key : PropertyKey) (value : Value) :
    (object.assigned key value).slot = .data value := by
  unfold assigned
  split <;> rfl

/-- What an assignment to a key of an object does, in each of the cases in which its route can be. -/
structure State.AssignsOrdinarily (state : State) (id : ObjectId) (key : PropertyKey) (value : Value) :
    Prop where
  /-- A setter is called once, for the object and with the value. Unless it fails, the answer is true. -/
  setter : ∀ owner property getter setter, state.heap.NearestOwner key owner property id →
    property.slot = .accessor getter (some setter) → ∀ engine,
      Run.set id key value engine state =
        (Run.call setter (.object id) [value] >>= fun _ => pure true) engine state
  withheld : ∀ owner property, state.heap.NearestOwner key owner property id → property.Withholds →
    ∀ engine, Run.set id key value engine state = .done false state
  closed : (∃ owner property, state.heap.NearestOwner key owner property id ∧ property.LetsWrite) ∨
      state.heap.Unowned key id →
    (state.heap.object id).hasOwn key = false → (state.heap.object id).extensible = false →
      ∀ engine, Run.set id key value engine state = .done false state
  /-- The value is what a read gives, and nothing else changes. -/
  written : (∃ owner property, state.heap.NearestOwner key owner property id ∧ property.LetsWrite) ∨
      state.heap.Unowned key id →
    (state.heap.object id).hasOwn key = true ∨ (state.heap.object id).extensible = true →
      ∃ heap, state.heap.Writes id key ((state.heap.object id).assigned key value) heap ∧
        ∀ engine, Run.set id key value engine state = .done true { state with heap } ∧
          Run.get id key engine { state with heap } = .done value { state with heap }
  endless : state.heap.Looped id → state.heap.RouteLacks id key →
    ∀ engine, Run.set id key value engine state = .exhausted
  /-- The answer is false only where nothing happened. -/
  unchanged : ∀ engine after, Run.set id key value engine state = .done false after → after = state
  decided : (∃ owner property, state.heap.NearestOwner key owner property id ∧
      (property.Withholds ∨ property.LetsWrite ∨
        ∃ getter setter, property.slot = .accessor getter (some setter))) ∨
    state.heap.Unowned key id ∨ state.heap.Looped id ∧ state.heap.RouteLacks id key

theorem Property.withholds_or_letsWrite_or_sets (property : Property) :
    property.Withholds ∨ property.LetsWrite ∨
      ∃ getter setter, property.slot = .accessor getter (some setter) := by
  obtain ⟨slot, writable, _, _⟩ := property
  cases slot with
  | data value =>
      cases writable with
      | true => exact .inr (.inl rfl)
      | false => exact .inl rfl
  | accessor getter setter =>
      cases setter with
      | some setter => exact .inr (.inr ⟨getter, setter, rfl⟩)
      | none => exact .inl rfl

namespace Run

variable {state : State} {id : ObjectId} {key : PropertyKey} {value : Value}
  (ordinary : (state.heap.object id).proxy? = none)
include ordinary

theorem set_of_ordinary {found : Assignment} (ended : state.heap.assignment id key = some found)
    (engine : Engine) : set id key value engine state = assign id key value found engine state := by
  have resolved := Heap.resolve_of_ordinary ordinary
  have followed : state.heap.assignment (state.heap.resolve id) key = some found := by
    rwa [resolved]
  rw [set_of_assignment followed engine, resolved]

theorem set_endless (ended : state.heap.assignment id key = none) (engine : Engine) :
    set id key value engine state = .exhausted := by
  have resolved := Heap.resolve_of_ordinary ordinary
  have followed : follow (·.assignment id key) engine state = .exhausted := by rw [follow, ended]
  rw [set_eq, ask_bind, resolved, bind_of_exhausted followed]

/-- A write that the object does not accept. -/
theorem set_closed (ended : state.heap.assignment id key = some .write)
    (refuses : (state.heap.object id).accepts key = false) (engine : Engine) :
    set id key value engine state = .done false state := by
  rw [set_of_ordinary ordinary ended, assign, ask_bind, refuses]
  rfl

/-- The answer is false only where nothing happened. -/
theorem state_eq_of_set_false {engine : Engine} {after : State}
    (ran : set id key value engine state = .done false after) : after = state := by
  cases ended : state.heap.assignment id key with
  | none =>
      rw [set_endless ordinary ended] at ran
      cases ran
  | some found =>
      rw [set_of_ordinary ordinary ended] at ran
      cases found with
      | setter setter =>
          obtain ⟨_, _, _, answered⟩ := done_of_bind ran
          cases answered
      | refused =>
          cases ran
          rfl
      | write =>
          rw [assign, ask_bind] at ran
          split at ran
          · cases ran
          · cases ran
            rfl

/-- A write that the object accepts. -/
theorem set_written (present : id.index < state.heap.size)
    (whole : (state.heap.object id).removed = .empty)
    (ended : state.heap.assignment id key = some .write)
    (accepts : (state.heap.object id).accepts key = true) :
    ∃ heap, state.heap.Writes id key ((state.heap.object id).assigned key value) heap ∧
      ∀ engine, set id key value engine state = .done true { state with heap } ∧
        get id key engine { state with heap } = .done value { state with heap } := by
  let property := (state.heap.object id).assigned key value
  have writes := Heap.writes_setProperty present key property
  refine ⟨_, writes, fun engine => ⟨?_, getFor_plain (Heap.plainRead?_own ?_ writes.held ?_)⟩⟩
  · have same : state.heap.setValue id key value = state.heap.setProperty id key property :=
      Heap.modify_congr present (Object.setValue_of_whole whole key value)
    rw [set_of_ordinary ordinary ended, assign, ask_bind, if_pos accepts, ← same]
    rfl
  · simp only [Object.proxy?, writes.kind]
    exact ordinary
  · exact Object.assigned_slot ..

end Run

theorem State.Sound.assignsOrdinarily {law : Law} {state : State} {id : ObjectId}
    (sound : state.Sound law) (keeps : law.removes = false) (present : id.index < state.heap.size)
    (ordinary : (state.heap.object id).proxy? = none) (key : PropertyKey) (value : Value) :
    state.AssignsOrdinarily id key value := by
  constructor
  · intro _ _ getter _ nearest held
    exact Run.set_of_ordinary ordinary (nearest.assignment_eq.1 getter _ held)
  · intro _ _ nearest withholds
    exact Run.set_of_ordinary ordinary (nearest.assignment_eq.2.1 withholds)
  · intro writable missing closed
    refine Run.set_closed ordinary (Heap.assignment_eq_write writable) ?_
    rw [Object.accepts, missing, closed]
    rfl
  · intro writable accepts
    have whole := (sound.heap.within id).2.2.2.whole keeps
    refine Run.set_written ordinary present whole (Heap.assignment_eq_write writable) ?_
    rw [Object.accepts, Bool.or_eq_true]
    exact accepts.symm
  · intro looped lacks
    exact Run.set_endless ordinary (Heap.assignment_eq_none_iff.mpr ⟨looped, lacks⟩)
  · intro engine after ran
    exact Run.state_eq_of_set_false ordinary ran
  · rcases state.heap.owned_or_unowned_or_looped key id with ⟨owner, property, nearest⟩ | rest
    · exact .inl ⟨owner, property, nearest, property.withholds_or_letsWrite_or_sets⟩
    · exact .inr rest

/-- In every state of a session with a host that removes no property outright, an assignment to any object
that is no proxy is ordinary. -/
theorem assignments_ordinary (profile : Profile) (marked : List Helper) {law : Law}
    (keeps : law.removes = false) {before state : State}
    (reached : (Session.prepared profile marked).Reaches law before)
    (during : before.Becomes law state) {id : ObjectId} (present : id.index < state.heap.size)
    (ordinary : (state.heap.object id).proxy? = none) (key : PropertyKey) (value : Value) :
    state.AssignsOrdinarily id key value :=
  (Session.sound_of_reaches reached during).assignsOrdinarily keeps present ordinary key value

/-- Steps by which a host makes an object with a hidden property. -/
def hidingSteps : List Script.Step :=
  [.perform (.create .object) [] { result := some "o" },
    .perform (.onProperty (.defineRaw true false false))
      [.named "o", .value (.string "x"), .value .null] {}]

/-- An assignment to a hidden property leaves it hidden. -/
theorem hidden_property_assigned :
    let start := { Session.prepared Preset.es5.profile [] with scopes := #[{}] }
    let state := (Session.runSteps ⟨0⟩ hidingSteps start ∅).2
    let id := start.heap.next
    Law.host.removes = false ∧
      (Session.prepared Preset.es5.profile []).Reaches .host state ∧ state.Becomes .host state ∧
      id.index < state.heap.size ∧ (state.heap.object id).proxy? = none ∧
      ∃ heap, state.heap.Writes id "x"
          { slot := .data (.boolean true), writable := true, enumerable := false, configurable := false }
          heap ∧
        ∀ engine, Run.set id "x" (.boolean true) engine state = .done true { state with heap } ∧
          Run.get id "x" engine { state with heap } = .done (.boolean true) { state with heap } := by
  intro start state id
  have lawful : Script.LawfulSteps .host start.heap.size hidingSteps := by simp [hidingSteps]
  have reached := Session.prepared_reaches Preset.es5.profile [] lawful
  have unchanged : state.Becomes .host state := .refl
  have present : id.index < state.heap.size := by decide +kernel
  have held : (state.heap.object id).property? "x" =
      some { slot := .data .null, writable := true, enumerable := false, configurable := false } := by
    decide +kernel
  have ordinary : (state.heap.object id).proxy? = none := by decide +kernel
  have assigns := assignments_ordinary _ _ rfl reached unchanged present ordinary "x" (.boolean true)
  have nearest : state.heap.NearestOwner "x" id _ id := .here (Heap.target?_of_ordinary ordinary) held
  have owned : (state.heap.object id).hasOwn "x" = true := by
    rw [Object.hasOwn_eq_isSome, held]
    rfl
  obtain ⟨heap, writes, sets⟩ := assigns.written (.inl ⟨id, _, nearest, rfl⟩) (.inl owned)
  rw [Object.assigned, held] at writes
  exact ⟨rfl, reached, unchanged, present, ordinary, heap, writes, sets⟩

end ClassLowering
