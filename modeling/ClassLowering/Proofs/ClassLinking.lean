import ClassLowering.Proofs.Construction.Instance
import ClassLowering.Proofs.Construction.Linking
import ClassLowering.Proofs.LinkWriters

/-!
# Linking classes

A class that is linked to a base takes a new prototype object, which stands below that of the base, and is
itself linked to the base. The first is an assignment and the second goes the way of the host; the assignment
is of another key than those by which this way is found, so that it does not get in the way.
-/

namespace ClassLowering

open Relation

/-! ## What a new prototype object leaves alone -/

namespace Heap

variable {law : Law} {heap : Heap} {key : PropertyKey} {derived holder id : ObjectId}
  {link : Option ObjectId}

/-- A new prototype object changes nothing but the property that holds it. -/
theorem keeps_reprototyped (present : holder.index < heap.size) (other : key ≠ "prototype") :
    heap.Keeps key (heap.reprototyped derived holder link) := by
  have self : (heap.reprototyped derived holder link).object holder =
      (heap.object holder).setValue "prototype" (.object heap.next) := object_reprototyped_self present
  have others (id : ObjectId) (differs : id ≠ holder) (there : id.index < heap.size) :
      (heap.reprototyped derived holder link).object id = heap.object id :=
    extendsBut_reprototyped.object_eq id differs there
  refine ⟨by simp, fun id there => ?_, fun id there => ?_, fun id there => ?_⟩
  · by_cases same : id = holder
    · rw [same, self]
      rfl
    · rw [others id same there]
  · by_cases same : id = holder
    · rw [same, self]
      rfl
    · rw [others id same there]
  · by_cases same : id = holder
    · rw [same, self, Object.property?_setValue_ne _ other]
    · rw [others id same there]

end Heap

namespace State

variable {law : Law} {state : State} {id : ObjectId} {heap : Heap}

section Keeps

variable (sound : state.heap.Sound law) (object : state.heap.Keeps "Object" heap)
  (writer : state.heap.Keeps "setPrototypeOf" heap)
include sound object writer

/-- A heap that keeps the keys on the way to the functions of `Object` speaks for the same strategy. -/
theorem writerStrategy_of_keeps : writerStrategy { state with heap } = state.writerStrategy := by
  rw [writerStrategy, writerStrategy, Heap.prototypeStrategy, Heap.prototypeStrategy,
    object.objectFunction?_eq writer sound]

/-- The way of the host to the link of an object is that of any heap that keeps the keys on it. -/
theorem WritesLinks.of_keeps (writes : state.WritesLinks id) (present : id.index < state.heap.size)
    (accessor : state.heap.Keeps "__proto__" heap) : WritesLinks { state with heap } id := by
  have strategy_eq := writerStrategy_of_keeps sound object writer
  cases writes with
  | standard strategy held found =>
      exact .standard (strategy_eq.trans strategy)
        ((object.objectFunction?_eq writer sound).trans held)
        (Heap.builtin?_of_kind_eq object.kind_eq found)
  | legacy strategy held found =>
      refine .legacy (strategy_eq.trans strategy) ?_ (Heap.builtin?_of_kind_eq object.kind_eq found)
      rw [accessor.resolve_eq sound present, accessor.assignment_eq sound (sound.within_resolve present)]
      exact held

end Keeps

end State

/-! ## Both chains -/

/-- A function that can be linked: it takes changes, it holds its prototype object as a value that assignments
may change, and it looks up `__proto__` on `Object.prototype`. -/
structure Heap.Linkable (heap : Heap) (id : ObjectId) : Prop where
  kind : ∃ callable, (heap.object id).kind = .function callable
  extensible : (heap.object id).extensible = true
  instances : ∃ value, heap.Holds id "prototype" value
  climbs : ReflTransGen (heap.PassesOn "__proto__") id Intrinsic.objectPrototype.id

/-- The link of a class after it was linked to a base: `null` leaves it as it is. -/
def Value.linkOver (base : Value) (link : Option ObjectId) : Option ObjectId :=
  match base with
  | .object id => some id
  | _ => link

/-- A class was linked to a base that gives a link to its prototype objects. -/
structure State.LinkedTo (before : State) (id : ObjectId) (base : Value) (above : Option ObjectId)
    (after : State) : Prop where
  /-- The new prototype object has the link that the base gives, and nothing but the link back. -/
  created : after.heap.object before.heap.next =
    { prototype := above
      properties := Table.empty.insert "constructor"
        { slot := .data (.object id), writable := true, enumerable := false, configurable := true } }
  /-- The class holds it with the attributes in place, and is linked to the base. -/
  class_eq : ∃ property, (before.heap.object id).property? "prototype" = some property ∧
    after.heap.object id =
      { before.heap.object id with
        properties := (before.heap.object id).properties.insert "prototype"
          { property with slot := .data (.object before.heap.next) }
        prototype := base.linkOver (before.heap.object id).prototype }
  others_eq : ∀ other, other ≠ id → other.index < before.heap.size →
    after.heap.object other = before.heap.object other
  size_eq : after.heap.size = before.heap.size + 1
  /-- Apart from the heap, it may be known now how links are written. -/
  rest : ∃ writer, after =
    { before with heap := after.heap, caches := { before.caches with writer } }

/-- The link of a class is all that is left to change once it has its prototype object. -/
theorem State.linkedTo_of_relinked {before after : State} {id : ObjectId} {base value : Value}
    {above : Option ObjectId} (holds : before.heap.Holds id "prototype" value)
    (relinked : (before.heap.reprototyped id id above).Relinked id
      (base.linkOver (before.heap.object id).prototype) after.heap)
    (rest : ∃ writer, after =
      { before with heap := after.heap, caches := { before.caches with writer } }) :
    before.LinkedTo id base above after := by
  have present := holds.index_lt
  have differs := Heap.ne_next_of_lt present
  obtain ⟨property, held, _⟩ := holds
  refine ⟨?_, ⟨property, held, ?_⟩, fun other apart there => ?_, ?_, rest⟩
  · rw [relinked.others_eq _ differs.symm, Heap.object_reprototyped_next present]
    rfl
  · rw [relinked.object_eq, Heap.object_reprototyped_self present, Object.setValue, Object.latest?, held]
    rfl
  · rw [relinked.others_eq other apart]
    exact Heap.extendsBut_reprototyped.object_eq other apart there
  · rw [relinked.size_eq, Heap.size_reprototyped]

namespace Run

variable {law : Law} {state : State} {id : ObjectId} {base : Value} {above : Option ObjectId}

/-- A class that is linked to a base above which it does not stand gets both links. -/
theorem linkClass_linkable (sound : state.heap.Sound law) (writes : state.WritesLinks id) {depth : Nat}
    (linkable : state.heap.Linkable id)
    (fits : state.FitsAsBase (Engine.ofDepth (depth + 1)) base above)
    (apart : ∀ upper, base = .object upper → ¬ state.heap.Above upper id) :
    ∃ after, linkClass (.object id) base (Engine.ofDepth (depth + 1)) state = .done () after ∧
      state.LinkedTo id base above after := by
  obtain ⟨callable, kind⟩ := linkable.kind
  obtain ⟨value, holds⟩ := linkable.instances
  have present := holds.index_lt
  let named : State := { state with heap := state.heap.reprototyped id id above }
  have there : id.index < named.heap.size := by
    rw [Heap.size_reprototyped]
    exact Nat.lt_succ_of_lt present
  have self : named.heap.object id =
      (state.heap.object id).setValue "prototype" (.object state.heap.next) :=
    Heap.object_reprototyped_self present
  have linked := linkClass_held fits kind linkable.extensible holds
  cases fits with
  | null =>
      refine ⟨named, linked, State.linkedTo_of_relinked holds ⟨?_, fun _ _ => rfl, rfl⟩ ⟨_, rfl⟩⟩
      rw [self]
      rfl
  | @function upper _ _ callableBase _ =>
      have keeps (key : PropertyKey) (other : key ≠ "prototype") : state.heap.Keeps key named.heap :=
        Heap.keeps_reprototyped present other
      have ordinary : (named.heap.object id).proxy? = none := by
        rw [(keeps "__proto__" (by decide)).proxy?_eq present]
        exact Heap.proxy?_of_function kind
      have extensible : (named.heap.object id).extensible = true := by
        rw [self]
        exact linkable.extensible
      have unmet : named.heap.linksTo upper id = false := by
        rw [(keeps "__proto__" (by decide)).linksTo_eq sound (Heap.index_lt_of_kind callableBase nofun),
          ← Bool.not_eq_true]
        exact fun met => apart upper rfl (Heap.above_of_linksTo met)
      have admits := Heap.admitsLink_of_apart extensible unmet
      -- The way to the link is looked up after the assignment, in the heap that this has changed.
      have renamed : named.WritesLinks id := writes.of_keeps sound (keeps _ (by decide))
        (keeps _ (by decide)) present (keeps _ (by decide))
      have written := setPrototypeOf_relinks id (some upper) renamed depth
      rw [named.knowingWriter.relink_admitted ordinary admits] at written
      refine ⟨_, linked.trans (bind_of_done written), ?_⟩
      exact State.linkedTo_of_relinked holds (Heap.setLink_relinked there) ⟨_, rfl⟩

end Run

/-- In every state of a session whose host links prototypes and is untouched, linking gives a class both
chains: its new prototype object stands below that of the base, and the class below the base. A base that is
neither a function nor `null` is refused before any effect. -/
theorem linking_establishes_chains (profile : Profile) (marked : List Helper) {law : Law}
    {before state : State} (reached : (Session.prepared profile marked).Reaches law before)
    (during : before.Becomes law state) (untouched : state.Untouched profile)
    (writable : profile.objectSetPrototypeOf = true ∨ profile.legacyProtoAccessor = true)
    (depth : Nat) :
    (∀ id base above, state.heap.Linkable id →
      state.FitsAsBase (Engine.ofDepth (depth + 1)) base above →
      (∀ upper, base = .object upper → ¬ state.heap.Above upper id) →
        ∃ after,
          Run.linkClass (.object id) base (Engine.ofDepth (depth + 1)) state = .done () after ∧
            state.LinkedTo id base above after) ∧
    (∀ derived base, state.heap.isCallable base = false → base ≠ .null →
      ∃ fault : Fault, fault.kind = .invalidBaseType ∧
        ∀ engine, Run.linkClass derived base engine state = .failed (.fault fault) state) := by
  have sound := (Session.sound_of_reaches reached during).heap
  refine ⟨fun id base above linkable fits apart => ?_, fun derived base uncallable present => ?_⟩
  · obtain ⟨callable, kind⟩ := linkable.kind
    have writes : state.WritesLinks id :=
      untouched.heap.writesLinks (untouched.writer_offered writable) fun _ found => by
        rw [Heap.resolve_of_ordinary (Heap.proxy?_of_function kind)]
        exact Heap.assignment_of_passesOn linkable.climbs found
    exact Run.linkClass_linkable sound writes linkable fits apart
  · exact ⟨.invalidBase, rfl, fun engine => Run.linkClass_invalidBase derived uncallable present⟩

/-- What comes next does not stand above anything that was there. -/
theorem Heap.Sound.not_above_next {law : Law} {heap larger : Heap} {id : ObjectId}
    (sound : heap.Sound law) (grown : heap.Extends larger) (present : id.index < heap.size) :
    ¬ larger.Above id heap.next := by
  intro reached
  rcases reflTransGen_iff_eq_or_transGen.mp reached with same | further
  · exact ne_next_of_lt present same.symm
  · exact Nat.lt_irrefl _ (grown.transGen_links sound.linksInside present further).2

/-- On a host with nothing but the accessor, a function is linked to an older one. -/
theorem function_linked_by_accessor :
    let profile := Preset.protoAccessorOnly.profile
    let start := Session.prepared profile []
    let first := (Build.function Run.idleFunction 0 start.heap).2
    let state : State := { start with heap := (Build.function Run.idleFunction 0 first).2 }
    let base := start.heap.next
    let derived := first.next
    start.Reaches .host start ∧ start.Becomes .host state ∧ state.Untouched profile ∧
      profile.legacyProtoAccessor = true ∧ state.heap.Linkable derived ∧
      ∃ after,
        Run.linkClass (.object derived) (.object base) (Engine.ofDepth 1) state = .done () after ∧
          state.LinkedTo derived (.object base) (some ⟨start.heap.size + 1⟩) after := by
  intro profile start first state base derived
  have reached : start.Reaches .host start := .refl
  have sound : start.Sound .host := Session.prepared_sound .host profile []
  have growing (heap : Heap) (sound : heap.Sound .host) :
      Build.Grows .host heap heap (Build.function Run.idleFunction 0) :=
    Build.function_grows sound Run.within_idleFunction 0 nofun
  have grows := growing start.heap sound.heap
  have founded : first.Sound .host := grows.grown.sound sound.heap
  have during : start.Becomes .host state :=
    .tail (.single (.heap (.grow grows.grown))) (.heap (.grow (growing first founded).grown))
  have normal : Run.idleFunction.kind = .normal := rfl
  have makes (heap : Heap) : heap.Extends (Build.function Run.idleFunction 0 heap).2 ∧
      (Build.function Run.idleFunction 0 heap).2.MadeFunction Run.idleFunction heap.next
        ⟨heap.size + 1⟩ := by
    obtain ⟨larger, built, grown, made⟩ := Build.function_makes heap normal 0
    rw [built]
    exact ⟨grown, made⟩
  obtain ⟨firstGrown, older⟩ := makes start.heap
  obtain ⟨secondGrown, newer⟩ := makes first
  have fresh : start.Untouched profile := Session.start_untouched profile
  have untouched : state.Untouched profile :=
    fresh.adds ((State.Adds.of_heap firstGrown).trans (.of_heap secondGrown))
  have kept := older.grow secondGrown
  have climbs : state.heap.Clears "__proto__" derived Intrinsic.objectPrototype.id :=
    .head newer.linked.passes (.single untouched.heap.offers.functionPrototype_passes)
  have linkable : state.heap.Linkable derived :=
    ⟨⟨_, newer.kind⟩, newer.extensible, ⟨_, newer.instances⟩,
      climbs.along fun _ _ passes => passes.passesOn⟩
  have fits : state.FitsAsBase (Engine.ofDepth 1) (.object base) (some ⟨start.heap.size + 1⟩) :=
    .function kept.kind
      (Run.getFor_plain (kept.instances.plainRead? (Heap.proxy?_of_function kept.kind)))
  have apart (upper : ObjectId) (same : Value.object base = .object upper) :
      ¬ state.heap.Above upper derived := by
    cases same
    exact founded.not_above_next secondGrown older.instances.index_lt
  obtain ⟨links, _⟩ := linking_establishes_chains profile [] reached during untouched (.inr rfl) 0
  exact ⟨reached, during, untouched, rfl, linkable, links derived _ _ linkable fits apart⟩

end ClassLowering
