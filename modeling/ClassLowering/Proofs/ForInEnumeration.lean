import ClassLowering.Proofs.OrdinarySet
import ClassLowering.Proofs.Property.OwnKeys

/-!
# Enumerations along a chain

An enumeration lists the enumerable strings of an object and of everything above it, and leaves out what a
nearer object owns. So it lists a key when the nearest owner of the key has it enumerable: a hidden property
hides those above it too. The keys of one object come together, in the order of its own keys.
-/

namespace ClassLowering

open Relation

namespace Heap

variable {heap : Heap} {id next owner other : ObjectId} {key : PropertyKey} {property also : Property}
  {above chain : List ObjectId} {group keys : List String} {text : String}

/-! ## Nearest owners of ordinary objects -/

theorem NearestOwner.held (nearest : heap.NearestOwner key owner property id) :
    (heap.object owner).property? key = some property := by
  induction nearest with
  | here _ held => exact held
  | further _ _ ih => exact ih

/-- An object has one nearest owner of a key. -/
theorem NearestOwner.unique (nearest : heap.NearestOwner key owner property id)
    (again : heap.NearestOwner key other also id) : owner = other ∧ property = also := by
  induction nearest with
  | here ordinary held =>
      cases again with
      | here _ heldAgain => exact ⟨rfl, Option.some.inj (held.symm.trans heldAgain)⟩
      | further passes _ =>
          rw [passes.2 ordinary] at held
          cases held
  | further passes _ ih =>
      cases again with
      | here ordinary held =>
          rw [passes.2 ordinary] at held
          cases held
      | further passesAgain rest => exact ih (passes.1.unique passesAgain.1 ▸ rest)

/-- The nearest owner of a key that an object owns is the object. -/
theorem nearestOwner_self_iff (ordinary : (heap.object id).proxy? = none) :
    heap.NearestOwner key id property id ↔ (heap.object id).property? key = some property :=
  ⟨NearestOwner.held, .here (target?_of_ordinary ordinary)⟩

/-- The nearest owner above an object is that of the next object, unless the object owns the key. -/
theorem nearestOwner_next_iff (ordinary : (heap.object id).proxy? = none)
    (links : heap.Links id next) (differs : owner ≠ id) :
    heap.NearestOwner key owner property id ↔
      (heap.object id).property? key = none ∧ heap.NearestOwner key owner property next := by
  have onward : heap.Onward id next := (onward_iff_links (target?_of_ordinary ordinary)).mpr links
  constructor
  · intro nearest
    cases nearest with
    | here _ _ => exact absurd rfl differs
    | further passes rest =>
        exact ⟨passes.2 (target?_of_ordinary ordinary), passes.1.unique onward ▸ rest⟩
  · rintro ⟨missing, rest⟩
    exact .further ⟨onward, fun _ => missing⟩ rest

/-! ## The objects of a chain -/

/-- The objects from one up to the end of its prototype links, none of them a proxy. -/
inductive Chained (heap : Heap) : ObjectId → List ObjectId → Prop where
  | last {id : ObjectId} (ordinary : (heap.object id).proxy? = none)
      (unlinked : (heap.object id).prototype = none) : Chained heap id [id]
  | further {id next : ObjectId} {above : List ObjectId}
      (ordinary : (heap.object id).proxy? = none) (links : heap.Links id next)
      (rest : Chained heap next above) : Chained heap id (id :: above)

theorem Chained.reaches (chained : heap.Chained id chain) (member : owner ∈ chain) :
    heap.Above id owner := by
  induction chained with
  | last _ _ =>
      rw [List.mem_singleton.mp member]
      exact .refl
  | further _ links _ ih =>
      rcases List.mem_cons.mp member with rfl | later
      · exact .refl
      · exact .head links (ih later)

theorem Chained.proxyFree (chained : heap.Chained id chain) : heap.ProxyFree id := by
  induction chained with
  | @last id ordinary unlinked =>
      intro met reached
      by_cases same : id = met
      · exact same ▸ ordinary
      · exact absurd reached (not_above_of_unlinked same unlinked)
  | further ordinary links _ ih =>
      intro met reached
      rcases ReflTransGen.cases_head reached with rfl | ⟨other, linked, later⟩
      · exact ordinary
      · exact ih met (Option.some.inj (linked.symm.trans links) ▸ later)

/-- Without cycles, an object does not come again above itself. -/
theorem Chained.differs (acyclic : heap.Acyclic) (links : heap.Links id next)
    (rest : heap.Chained next above) (member : owner ∈ above) : owner ≠ id := by
  rintro rfl
  exact acyclic owner (.head' links (rest.reaches member))

theorem Chained.nodup (acyclic : heap.Acyclic) (chained : heap.Chained id chain) : chain.Nodup := by
  induction chained with
  | last _ _ => exact List.nodup_singleton _
  | further _ links rest ih =>
      exact List.nodup_cons.mpr ⟨fun member => rest.differs acyclic links member rfl, ih⟩

/-- The nearest owner of a key stands on the chain. -/
theorem NearestOwner.mem_chain (nearest : heap.NearestOwner key owner property id)
    (chained : heap.Chained id chain) : owner ∈ chain := by
  induction chained with
  | last ordinary unlinked =>
      cases nearest with
      | here _ _ => exact List.mem_singleton_self _
      | further passes _ =>
          have links := (onward_iff_links (target?_of_ordinary ordinary)).mp passes.1
          rw [Links, unlinked] at links
          cases links
  | @further id next above ordinary links _ ih =>
      by_cases same : owner = id
      · exact same ▸ List.mem_cons_self
      · exact List.mem_cons_of_mem id (ih ((nearestOwner_next_iff ordinary links same).mp nearest).2)

/-- What a bounded search upwards lists is the chain. -/
theorem chained_of_chainFor {bound : Nat} (free : heap.ProxyFree id)
    (listed : heap.chainFor bound id = some chain) : heap.Chained id chain := by
  induction bound generalizing id chain with
  | zero => cases listed
  | succ bound ih =>
      have ordinary := free.ordinary
      rw [chainFor, prototypeOf_of_ordinary ordinary] at listed
      cases linked : (heap.object id).prototype with
      | none =>
          rw [linked] at listed
          cases listed
          exact .last ordinary linked
      | some next =>
          rw [linked] at listed
          obtain ⟨above, rest, rfl⟩ := Option.map_eq_some_iff.mp listed
          exact .further ordinary linked (ih (free.of_links linked) rest)

/-! ## Enumerations without the record of what was seen -/

/-- Leaving out what was seen before is the same as taking it away from the whole enumeration. -/
theorem forInAlong_eq_filter (seen : Std.ExtTreeSet PropertyKey PropertyKey.order)
    (tables : List Table) :
    forInAlong seen tables =
      (forInAlong ∅ tables).filter fun text => !seen.contains (.string text) := by
  induction tables generalizing seen with
  | nil => rfl
  | cons table above ih =>
      rw [forInAlong, forInAlong, List.filter_append, ih (seen.insertMany table.keys),
        ih (Std.ExtTreeSet.insertMany ∅ table.keys), List.filter_filter, List.filter_filter]
      congr 1
      · simp
      · congr 1
        funext text
        simp [Std.ExtTreeSet.contains_insertMany_list, Bool.and_comm]

/-- An enumeration starts with the strings of the first object, and goes on with what is enumerated above
it, less the keys that the first object owns. -/
theorem forInAlong_cons (table : Table) (above : List Table) :
    forInAlong ∅ (table :: above) =
      table.enumerableStrings ++
        (forInAlong ∅ above).filter fun text => !table.contains (.string text) := by
  rw [forInAlong, forInAlong_eq_filter (Std.ExtTreeSet.insertMany ∅ table.keys) above]
  congr 1
  · simp
  · congr 1
    funext text
    rw [Std.ExtTreeSet.contains_insertMany_list, Std.ExtTreeSet.contains_empty, Bool.false_or,
      Bool.not_inj_iff, Bool.eq_iff_iff, Table.contains_iff, List.contains_iff_mem]

/-! ## What each object contributes -/

/-- The keys that one object contributes to the enumeration of another: the enumerable strings of which it
is the nearest owner, in the order of its own keys. -/
structure Contributes (heap : Heap) (id owner : ObjectId) (group : List String) : Prop where
  ordered : (group.map PropertyKey.string).Sublist (heap.object owner).properties.orderedKeys
  exact : ∀ text, text ∈ group ↔ ∃ property, heap.NearestOwner (.string text) owner property id ∧
    property.enumerable = true

/-- Nothing hides the strings of the object itself. -/
theorem contributes_self (ordinary : (heap.object id).proxy? = none) :
    heap.Contributes id id (heap.object id).properties.enumerableStrings := by
  constructor
  · exact Table.enumerableStrings_sublist _
  · intro text
    rw [Table.mem_enumerableStrings]
    simp only [nearestOwner_self_iff ordinary, Object.property?]

/-- An object above contributes what it contributes to the next object, less the keys in between. -/
theorem Contributes.further (contributes : heap.Contributes next owner group)
    (ordinary : (heap.object id).proxy? = none) (links : heap.Links id next) (differs : owner ≠ id) :
    heap.Contributes id owner
      (group.filter fun text => !(heap.object id).properties.contains (.string text)) := by
  constructor
  · exact (List.filter_sublist.map _).trans contributes.ordered
  · intro text
    have missing_iff : (!(heap.object id).properties.contains (.string text)) = true ↔
        (heap.object id).property? (.string text) = none := by
      rw [Bool.not_eq_true', Table.contains_eq_isSome, Option.isSome_eq_false_iff,
        Option.isNone_iff_eq_none, Object.property?]
    rw [List.mem_filter, contributes.exact, missing_iff]
    simp only [nearestOwner_next_iff ordinary links differs]
    constructor
    · rintro ⟨⟨property, nearest, enumerable⟩, missing⟩
      exact ⟨property, ⟨missing, nearest⟩, enumerable⟩
    · rintro ⟨property, ⟨missing, nearest⟩, enumerable⟩
      exact ⟨⟨property, nearest, enumerable⟩, missing⟩

theorem Contributes.nodup (contributes : heap.Contributes id owner group) : group.Nodup :=
  (contributes.ordered.nodup (Table.orderedKeys_nodup _)).of_map _

/-- An enumeration is what the objects of the chain contribute, one after the other. -/
theorem forInAlong_grouped (acyclic : heap.Acyclic) (chained : heap.Chained id chain) :
    ∃ groups, List.Forall₂ (heap.Contributes id) chain groups ∧
      forInAlong ∅ (chain.map fun id => (heap.object id).properties) = groups.flatten := by
  induction chained with
  | @last id ordinary _ =>
      refine ⟨[(heap.object id).properties.enumerableStrings],
        .cons (contributes_self ordinary) .nil, ?_⟩
      rw [List.map_cons, forInAlong_cons]
      rfl
  | @further id next above ordinary links rest ih =>
      obtain ⟨groups, contributions, listed⟩ := ih
      let own := (heap.object id).properties
      refine ⟨own.enumerableStrings ::
        groups.map (List.filter fun text => !own.contains (.string text)), ?_, ?_⟩
      · refine .cons (contributes_self ordinary) (List.forall₂_map_right_iff.mpr ?_)
        have apart : ∀ owner ∈ above, owner ≠ id := fun _ => rest.differs acyclic links
        apply ((List.forall₂_and_left above groups).mpr ⟨apart, contributions⟩).imp
        rintro owner group ⟨differs, contributes⟩
        exact contributes.further ordinary links differs
      · rw [List.map_cons, forInAlong_cons, listed, List.filter_flatten, List.flatten_cons]

variable {groups : List (List String)}

theorem mem_grouped (contributions : List.Forall₂ (heap.Contributes id) chain groups) :
    text ∈ groups.flatten ↔ ∃ owner ∈ chain, ∃ property,
      heap.NearestOwner (.string text) owner property id ∧ property.enumerable = true := by
  induction contributions with
  | nil => simp
  | cons contributes _ ih =>
      rw [List.flatten_cons, List.mem_append, contributes.exact, ih]
      simp only [List.exists_mem_cons_iff]

/-- No key is contributed twice: it has one nearest owner. -/
theorem grouped_nodup (contributions : List.Forall₂ (heap.Contributes id) chain groups)
    (distinct : chain.Nodup) : groups.flatten.Nodup := by
  induction contributions with
  | nil => exact List.nodup_nil
  | @cons owner group chain groups contributes rest ih =>
      obtain ⟨apart, distinct⟩ := List.nodup_cons.mp distinct
      rw [List.flatten_cons, List.nodup_append']
      refine ⟨contributes.nodup, ih distinct, fun text first second => ?_⟩
      obtain ⟨_, nearest, _⟩ := (contributes.exact text).mp first
      obtain ⟨other, member, _, again, _⟩ := (mem_grouped rest).mp second
      have same : owner = other := (nearest.unique again).1
      exact apart (same ▸ member)

/-! ## Whole enumerations -/

/-- What the keys that an enumeration of an object visits are. -/
structure Enumerates (heap : Heap) (id : ObjectId) (keys : List String) : Prop where
  once : keys.Nodup
  /-- A key is visited when its nearest owner has it enumerable. -/
  exact : ∀ text, text ∈ keys ↔ ∃ owner property,
    heap.NearestOwner (.string text) owner property id ∧ property.enumerable = true
  /-- A property that is not enumerable hides what lies above it. -/
  hides : ∀ text owner property, heap.NearestOwner (.string text) owner property id →
    property.enumerable = false → text ∉ keys
  /-- The keys come by their nearest owners, from the object upwards, and those of one owner in the order
  of its own keys. -/
  grouped : ∃ chain groups, heap.Chained id chain ∧
    List.Forall₂ (heap.Contributes id) chain groups ∧ keys = groups.flatten

theorem enumerates_grouped (acyclic : heap.Acyclic) (chained : heap.Chained id chain)
    (contributions : List.Forall₂ (heap.Contributes id) chain groups) :
    heap.Enumerates id groups.flatten := by
  have exact (text : String) : text ∈ groups.flatten ↔ ∃ owner property,
      heap.NearestOwner (.string text) owner property id ∧ property.enumerable = true := by
    rw [mem_grouped contributions]
    constructor
    · rintro ⟨owner, _, property, nearest, enumerable⟩
      exact ⟨owner, property, nearest, enumerable⟩
    · rintro ⟨owner, property, nearest, enumerable⟩
      exact ⟨owner, nearest.mem_chain chained, property, nearest, enumerable⟩
  refine ⟨grouped_nodup contributions (chained.nodup acyclic), exact, ?_,
    chain, groups, chained, contributions, rfl⟩
  intro text owner property nearest hidden member
  obtain ⟨other, also, again, enumerable⟩ := (exact text).mp member
  rw [← (nearest.unique again).2, hidden] at enumerable
  cases enumerable

/-- Where there are no cycles and no proxies, an enumeration ends, and visits what it should. -/
theorem forInKeys_enumerates (acyclic : heap.Acyclic) (free : heap.ProxyFree id) :
    ∃ keys, heap.forInKeys id = some keys ∧ heap.Enumerates id keys := by
  obtain ⟨keys, ended⟩ := forInKeys_ends acyclic free
  obtain ⟨chain, listed, rfl⟩ := Option.map_eq_some_iff.mp ended
  have chained := chained_of_chainFor free listed
  obtain ⟨groups, contributions, same⟩ := forInAlong_grouped acyclic chained
  refine ⟨_, ended, ?_⟩
  rw [same]
  exact enumerates_grouped acyclic chained contributions

end Heap

/-- In every state of a session, the enumeration of an object whose chain holds no proxy visits exactly the
strings that their nearest owners have enumerable, each once, by their owners from the object upwards. -/
theorem enumerations_exact (profile : Profile) (marked : List Helper) {law : Law} {before state : State}
    (reached : (Session.prepared profile marked).Reaches law before) (during : before.Becomes law state)
    {id : ObjectId} (free : state.heap.ProxyFree id) :
    ∃ keys, state.heap.forInKeys id = some keys ∧ state.heap.Enumerates id keys := by
  have sound := Session.sound_of_reaches reached during
  exact Heap.forInKeys_enumerates sound.heap.acyclic free

/-- Steps that make an object below one with two keys, and hide one of them by a property of its own. -/
def coveringSteps : List Script.Step :=
  [.perform (.create .object) [] { result := some "parent" },
    .perform (.onProperty .set) [.named "parent", .value (.string "kept"), .value .null] {},
    .perform (.onProperty .set) [.named "parent", .value (.string "hidden"), .value .null] {},
    .perform (.create .object) [.named "parent"] { result := some "o" },
    .perform (.onProperty (.define { value := some (.value .null), enumerable := some false }))
      [.named "o", .value (.string "hidden")] {}]

/-- A hidden property of an object keeps an enumerable one above it out of an enumeration. -/
theorem hidden_key_not_enumerated :
    let start := { Session.prepared Preset.modern.profile [] with scopes := #[{}] }
    let state := (Session.runSteps ⟨0⟩ coveringSteps start ∅).2
    let id : ObjectId := ⟨start.heap.size + 1⟩
    (Session.prepared Preset.modern.profile []).Reaches .host state ∧ state.Becomes .host state ∧
      state.heap.ProxyFree id ∧
      ∃ keys, state.heap.forInKeys id = some keys ∧ state.heap.Enumerates id keys ∧
        "kept" ∈ keys ∧ "hidden" ∉ keys := by
  intro start state id
  have lawful : Script.LawfulSteps .host start.heap.size coveringSteps := by simp [coveringSteps]
  have reached := Session.prepared_reaches Preset.modern.profile [] lawful
  have unchanged : state.Becomes .host state := .refl
  let parent := start.heap.next
  have ordinary : (state.heap.object id).proxy? = none := by decide +kernel
  have links : state.heap.Links id parent := by decide +kernel
  have upper : (state.heap.object parent).proxy? = none := by decide +kernel
  have upperLinks : state.heap.Links parent Intrinsic.objectPrototype.id := by decide +kernel
  have top : (state.heap.object Intrinsic.objectPrototype.id).proxy? = none := by decide +kernel
  have ends : (state.heap.object Intrinsic.objectPrototype.id).prototype = none := by decide +kernel
  have free : state.heap.ProxyFree id :=
    (Heap.Chained.further ordinary links (.further upper upperLinks (.last top ends))).proxyFree
  have missing : (state.heap.object id).property? "kept" = none := by decide +kernel
  have held : (state.heap.object parent).property? "kept" =
      some { slot := .data .null, writable := true, enumerable := true, configurable := true } := by
    decide +kernel
  have hidden : (state.heap.object id).property? "hidden" =
      some { slot := .data .null, writable := false, enumerable := false, configurable := false } := by
    decide +kernel
  obtain ⟨keys, listed, enumerates⟩ := enumerations_exact _ _ reached unchanged free
  refine ⟨reached, unchanged, free, keys, listed, enumerates, ?_, ?_⟩
  · have apart : parent ≠ id := by decide +kernel
    have nearest := (Heap.nearestOwner_next_iff ordinary links apart).mpr
      ⟨missing, (Heap.nearestOwner_self_iff upper).mpr held⟩
    exact (enumerates.exact "kept").mpr ⟨parent, _, nearest, rfl⟩
  · have nearest := (Heap.nearestOwner_self_iff ordinary).mpr hidden
    exact enumerates.hides "hidden" id _ nearest rfl

end ClassLowering
