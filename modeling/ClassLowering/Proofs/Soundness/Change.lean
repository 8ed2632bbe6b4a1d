import ClassLowering.Proofs.Soundness.Heap

/-!
# Changes

`Heap.Change` lists what a run can do to a heap in one go, each change with the test that the run has
made before it, and `State.Change` what it can do to a state. All of them keep what is sound sound, so
that `Leads`, any number of changes, goes from sound states to sound ones.
-/

namespace ClassLowering

open Bounded Relation

/-! ## What keeps a fixed prototype object -/

/-- A definition that a fixed value allows leaves it as it is. -/
theorem Property.redefine_of_fixed {property : Property} {value : Value} {descriptor : Descriptor}
    (held : property.slot = .data value) (readOnly : property.writable = false)
    (fixed : property.configurable = false) (allowed : property.allows descriptor = true) :
    property.redefine descriptor = property := by
  obtain ⟨slot, writable, enumerable, configurable⟩ := property
  cases held
  cases readOnly
  cases fixed
  simp only [allows, keepsSlot, Bool.false_or, Bool.and_eq_true, Bool.not_eq_true'] at allowed
  obtain ⟨⟨notConfigurable, sameEnumerable⟩, notAccessor, notWritable, sameValue⟩ := allowed
  have slot_eq : descriptor.value.getD value = value := by
    cases named : descriptor.value with
    | none => rfl
    | some other =>
        rw [named] at sameValue
        exact Value.same_iff.mp sameValue
  have writable_eq : descriptor.writable.getD false = false := by
    cases named : descriptor.writable <;> simp_all
  have enumerable_eq : descriptor.enumerable.getD enumerable = enumerable := by
    cases named : descriptor.enumerable <;> simp_all
  have configurable_eq : descriptor.configurable.getD false = false := by
    cases named : descriptor.configurable <;> simp_all
  simp only [redefine, redefineSlot, writableBefore, notAccessor, Bool.false_or,
    Bool.false_eq_true, if_false, slot_eq, writable_eq, enumerable_eq, configurable_eq]

namespace Object

variable {object : Object} {key : PropertyKey}

theorem property?_of_fixedPrototype? (equipped : object.fixedPrototype?.isSome = true) :
    ∃ prototype enumerable, object.property? "prototype" =
      some { slot := .data (.object prototype), writable := false, enumerable, configurable := false } := by
  unfold fixedPrototype? at equipped
  split at equipped
  · next prototype enumerable found => exact ⟨prototype, enumerable, found⟩
  · cases equipped

theorem fixedPrototype?_setProperty {property : Property} (differs : key ≠ "prototype") :
    (object.setProperty key property).fixedPrototype? = object.fixedPrototype? := by
  rw [fixedPrototype?, property?_setProperty, if_neg (Ne.symm differs), fixedPrototype?]

theorem fixedPrototype?_of_defined {descriptor : Descriptor} {property : Property}
    (equipped : object.fixedPrototype?.isSome = true)
    (permitted : object.defined key descriptor = .ok property) :
    (object.setProperty key property).fixedPrototype?.isSome = true := by
  by_cases same : key = "prototype"
  · obtain ⟨prototype, enumerable, found⟩ := property?_of_fixedPrototype? equipped
    rw [same] at permitted ⊢
    simp only [defined, found] at permitted
    split at permitted
    · next allowed =>
      cases permitted
      rw [fixedPrototype?, property?_setProperty, if_pos rfl,
        Property.redefine_of_fixed rfl rfl rfl allowed]
      rfl
    · cases permitted
  · rw [fixedPrototype?_setProperty same]
    exact equipped

end Object

namespace Heap

variable {law : Law} {heap after : Heap} {id : ObjectId} {key : PropertyKey}

theorem fixedPrototype?_of_write {value : Value} (ordinary : (heap.object id).proxy? = none)
    (equipped : (heap.object id).fixedPrototype?.isSome = true)
    (found : heap.assignment id key = some .write) :
    ((heap.object id).setValue key value).fixedPrototype?.isSome = true := by
  have differs : key ≠ "prototype" := by
    rintro rfl
    obtain ⟨prototype, enumerable, held⟩ := Object.property?_of_fixedPrototype? equipped
    have refused : heap.assignment id "prototype" = some .refused :=
      walk_of_finish (by
        simp only [assignmentStride, target?_of_ordinary ordinary, held]
        rfl)
    rw [found] at refused
    cases refused
  rw [Object.setValue, Object.fixedPrototype?_setProperty differs]
  exact equipped

/-! ## What keeps a heap sound -/

theorem kind_modify (heap : Heap) (target id : ObjectId) {change : Object → Object}
    (kind_eq : ∀ object, (change object).kind = object.kind) :
    ((heap.modify target change).object id).kind = (heap.object id).kind := by
  by_cases same : id = target
  · rw [same]
    rcases Nat.lt_or_ge target.index heap.size with present | absent
    · rw [object_modify_self heap target change present]
      exact kind_eq _
    · have absent' : (heap.modify target change).size ≤ target.index := by rwa [size_modify]
      rw [object_of_size_le absent, object_of_size_le absent']
  · rw [object_modify_ne heap change same]

/-- A change of one object that leaves its kind and its link alone. -/
theorem Sound.modify (sound : heap.Sound law) (present : id.index < heap.size)
    {change : Object → Object} (kind_eq : (change (heap.object id)).kind = (heap.object id).kind)
    (prototype_eq : (change (heap.object id)).prototype = (heap.object id).prototype)
    (within : Within law heap.size (change (heap.object id))) : (heap.modify id change).Sound law := by
  have kinds (other : ObjectId) :
      ((heap.modify id change).object other).kind = (heap.object other).kind := by
    rw [object_modify heap id other change present]
    split
    · next same => rw [kind_eq, same]
    · rfl
  have links (other : ObjectId) :
      ((heap.modify id change).object other).prototype = (heap.object other).prototype := by
    rw [object_modify heap id other change present]
    split
    · next same => rw [prototype_eq, same]
    · rfl
  have proxies (other : ObjectId) :
      ((heap.modify id change).object other).proxy? = (heap.object other).proxy? := by
    simp only [Object.proxy?, kinds]
  constructor
  · rw [size_modify]
    exact sound.intrinsics
  · intro other
    rw [size_modify, object_modify heap id other change present]
    split
    · exact within
    · exact sound.within other
  · intro other proxied
    rw [links]
    rw [proxies] at proxied
    exact sound.bare other proxied
  · intro other target linked
    rw [Object.target?, proxies] at linked
    exact sound.targets other target linked
  · exact acyclic_of_links_iff sound.acyclic links

theorem within_setProperty {size : Nat} {object : Object} {property : Property}
    (before : Within law size object) (within : Within law size property)
    (equipped : law.writes = false → object.kind.makesErrors = true →
      (object.setProperty key property).fixedPrototype?.isSome = true) :
    Within law size (object.setProperty key property) := by
  refine ⟨fun other => ?_, before.2.1, before.2.2.1, before.2.2.2.whole, equipped⟩
  change Within law size ((object.properties.insert key property).get? other)
  rw [Table.get?_insert]
  split
  · exact within
  · exact before.1 other

theorem Sound.setProperty (sound : heap.Sound law) (present : id.index < heap.size)
    {property : Property} (within : Within law heap.size property)
    (equipped : law.writes = false → (heap.object id).kind.makesErrors = true →
      ((heap.object id).setProperty key property).fixedPrototype?.isSome = true) :
    (heap.setProperty id key property).Sound law :=
  sound.modify present rfl rfl (within_setProperty (sound.within id) within equipped)

theorem Sound.setValue (sound : heap.Sound law) (present : id.index < heap.size) {value : Value}
    (within : Within law heap.size value)
    (equipped : law.writes = false → (heap.object id).kind.makesErrors = true →
      ((heap.object id).setValue key value).fixedPrototype?.isSome = true) :
    (heap.setValue id key value).Sound law := by
  refine sound.modify present rfl rfl (within_setProperty (sound.within id) ?_ equipped)
  cases (heap.object id).latest? key with
  | some property => exact within
  | none => exact within

theorem Sound.removeProperty (sound : heap.Sound law) (unasked : law.removes = true)
    (present : id.index < heap.size) : (heap.modify id (·.removeProperty key)).Sound law := by
  cases held : (heap.object id).property? key with
  | none =>
      have same : (heap.object id).removeProperty key = heap.object id := by
        rw [Object.removeProperty, held]
      exact sound.modify present (by rw [same]) (by rw [same]) (by rw [same]; exact sound.within id)
  | some property =>
      have removed : (heap.object id).removeProperty key =
          { heap.object id with
            properties := (heap.object id).properties.erase key
            removed := (heap.object id).removed.insert key property } := by
        rw [Object.removeProperty, held]
      refine sound.modify present (by rw [removed]) (by rw [removed]) ?_
      rw [removed]
      have whole (whole : law.removes = false) := Bool.false_ne_true (whole.symm.trans unasked)
      have asked (asked : law.writes = false) :=
        Bool.false_ne_true (asked.symm.trans (Law.writes_of_removes unasked))
      refine ⟨fun other => ?_, (sound.within id).2.1, (sound.within id).2.2.1,
        fun kept => (whole kept).elim, fun kept => (asked kept).elim⟩
      change Within law heap.size (((heap.object id).properties.erase key).get? other)
      rw [Table.get?_erase]
      split
      · trivial
      · exact (sound.within id).1 other

theorem Sound.setLink_of_acyclic (sound : heap.Sound law) (present : id.index < heap.size)
    (ordinary : (heap.object id).proxy? = none) {prototype : Option ObjectId}
    (acyclic : (heap.setLink id prototype).Acyclic) (within : Within law heap.size prototype) :
    (heap.setLink id prototype).Sound law := by
  have objects (other : ObjectId) : (heap.setLink id prototype).object other =
      if other = id then { heap.object id with prototype } else heap.object other :=
    object_modify heap id other _ present
  have proxies (other : ObjectId) :
      ((heap.setLink id prototype).object other).proxy? = (heap.object other).proxy? := by
    rw [objects]
    split
    · next same => rw [same]; rfl
    · rfl
  have size_eq : (heap.setLink id prototype).size = heap.size := size_modify ..
  constructor
  · rw [size_eq]
    exact sound.intrinsics
  · intro other
    rw [size_eq, objects]
    split
    · obtain ⟨properties, _, held, keeps⟩ := sound.within id
      exact ⟨properties, within, held, keeps.whole, keeps.equipped⟩
    · exact sound.within other
  · intro other proxied
    rw [proxies] at proxied
    rw [objects]
    split
    · next same =>
      rw [same] at proxied
      exact absurd ordinary proxied
    · exact sound.bare other proxied
  · intro other target linked
    rw [Object.target?, proxies] at linked
    exact sound.targets other target linked
  · exact acyclic

theorem Sound.setLink (sound : heap.Sound law) (present : id.index < heap.size)
    (ordinary : (heap.object id).proxy? = none) {prototype : Option ObjectId}
    (admitted : heap.admitsLink id prototype = true) (within : Within law heap.size prototype) :
    (heap.setLink id prototype).Sound law := by
  refine sound.setLink_of_acyclic present ordinary ?_ within
  rcases (admitsLink_iff sound.acyclic sound.bare).mp admitted with same | ⟨_, apart⟩
  · refine acyclic_of_links_iff sound.acyclic fun other => ?_
    rw [Heap.setLink, object_modify heap id other _ present]
    split
    · next equal => rw [equal, same]
    · rfl
  · exact sound.acyclic.setLink present apart

/-! ## New objects -/

theorem Sound.linksInside (sound : heap.Sound law) : heap.LinksInside :=
  fun _ _ linked => sound.within_prototype linked

/-- A heap that holds another one and new objects. Whatever a new object names is there, and it links to
older objects. -/
structure GrowsTo (law : Law) (heap larger : Heap) : Prop extends Extends heap larger where
  within : ∀ id, heap.size ≤ id.index → Within law larger.size (larger.object id)
  bare : ∀ id, heap.size ≤ id.index → (larger.object id).proxy? ≠ none →
    (larger.object id).prototype = none
  targets : ∀ id target, heap.size ≤ id.index → (larger.object id).target? = some target →
    target.index < id.index
  descends : ∀ id next, heap.size ≤ id.index → larger.Links id next → next.index < id.index

theorem within_default (law : Law) (size : Nat) : Within law size ({} : Object) := by
  refine ⟨fun key => ?_, trivial, trivial, fun _ => rfl, fun _ makes => nomatch makes⟩
  rw [Object.property?, Table.get?_empty]
  trivial

theorem GrowsTo.refl (law : Law) (heap : Heap) : heap.GrowsTo law heap where
  toExtends := .refl heap
  within id absent := by
    rw [object_of_size_le absent]
    exact within_default law _
  bare id absent _ := by rw [object_of_size_le absent]
  targets id _ absent linked := by
    rw [object_of_size_le absent] at linked
    cases linked
  descends id _ absent linked := by
    rw [Links, object_of_size_le absent] at linked
    cases linked

/-- A heap that grows stays sound. -/
theorem GrowsTo.sound {larger : Heap} (grown : heap.GrowsTo law larger) (sound : heap.Sound law) :
    larger.Sound law := by
  have old {id : ObjectId} (present : id.index < heap.size) := grown.object_eq id present
  constructor
  · exact Nat.lt_of_lt_of_le sound.intrinsics grown.size_le
  · intro id
    rcases Nat.lt_or_ge id.index heap.size with present | new
    · rw [old present]
      exact (sound.within id).mono grown.size_le
    · exact grown.within id new
  · intro id proxied
    rcases Nat.lt_or_ge id.index heap.size with present | new
    · rw [old present] at proxied ⊢
      exact sound.bare id proxied
    · exact grown.bare id new proxied
  · intro id target linked
    rcases Nat.lt_or_ge id.index heap.size with present | new
    · rw [old present] at linked
      exact sound.targets id target linked
    · exact grown.targets id target new linked
  · exact sound.acyclic.extends sound.linksInside grown.toExtends grown.descends

theorem GrowsTo.allocate {larger : Heap} (grown : heap.GrowsTo law larger) {object : Object}
    (within : Within law larger.size object)
    (bare : object.proxy? ≠ none → object.prototype = none) :
    heap.GrowsTo law (larger.allocate object).2 where
  toExtends := grown.toExtends.trans (.allocate larger object)
  within id new := by
    have le : larger.size ≤ (larger.allocate object).2.size := by simp
    rw [object_allocate]
    split
    · exact within.mono le
    · exact (grown.within id new).mono le
  bare id new proxied := by
    rw [object_allocate] at proxied ⊢
    by_cases same : id = larger.next
    · rw [if_pos same] at proxied ⊢
      exact bare proxied
    · rw [if_neg same] at proxied ⊢
      exact grown.bare id new proxied
  targets id target new linked := by
    rw [object_allocate] at linked
    split at linked
    · next same =>
      obtain ⟨⟨_, handler⟩, proxied, rfl⟩ := Option.map_eq_some_iff.mp linked
      rw [same]
      exact (within_proxy_of_object within proxied).1
    · exact grown.targets id target new linked
  descends id next new linked := by
    rw [Links, object_allocate] at linked
    split at linked
    · next same =>
      have within := within.2.1
      rw [linked] at within
      rw [same]
      exact within
    · exact grown.descends id next new linked

theorem GrowsTo.setProperty {larger : Heap} (grown : heap.GrowsTo law larger)
    (new : heap.size ≤ id.index) (present : id.index < larger.size) {property : Property}
    (within : Within law larger.size property)
    (equipped : law.writes = false → (larger.object id).kind.makesErrors = true →
      ((larger.object id).setProperty key property).fixedPrototype?.isSome = true) :
    heap.GrowsTo law (larger.setProperty id key property) := by
  have objects (other : ObjectId) := object_modify larger id other (·.setProperty key property) present
  have kinds (other : ObjectId) :
      ((larger.setProperty id key property).object other).kind = (larger.object other).kind :=
    kind_modify larger id other fun _ => rfl
  have links (other : ObjectId) : ((larger.setProperty id key property).object other).prototype =
      (larger.object other).prototype := by
    rw [Heap.setProperty, objects]
    split
    · next same => rw [same]; rfl
    · rfl
  have proxies (other : ObjectId) :
      ((larger.setProperty id key property).object other).proxy? = (larger.object other).proxy? := by
    simp only [Object.proxy?, kinds]
  constructor
  · exact grown.toExtends.modify new _
  · intro other fresh
    rw [Heap.setProperty, size_modify, objects]
    split
    · exact within_setProperty (grown.within id new) within equipped
    · exact grown.within other fresh
  · intro other fresh proxied
    rw [proxies] at proxied
    rw [links]
    exact grown.bare other fresh proxied
  · intro other target fresh linked
    rw [Object.target?, proxies] at linked
    exact grown.targets other target fresh linked
  · intro other next fresh linked
    rw [Links, links] at linked
    exact grown.descends other next fresh linked

/-! ## Changes of a heap -/

/-- One change of a heap. The last three are left to hosts that are building an object. -/
inductive Change (law : Law) (heap : Heap) : Heap → Prop
  /-- New objects. -/
  | grow {larger : Heap} (grown : heap.GrowsTo law larger) : Change law heap larger
  /-- A definition that the object and the property in place allow. -/
  | define {id : ObjectId} {key : PropertyKey} {descriptor : Descriptor} {property : Property}
      (present : id.index < heap.size)
      (permitted : (heap.object id).defined key descriptor = .ok property)
      (within : Within law heap.size property) : Change law heap (heap.setProperty id key property)
  /-- An assignment that nothing on the chain takes or refuses. -/
  | write {id : ObjectId} {key : PropertyKey} {value : Value} (present : id.index < heap.size)
      (ordinary : (heap.object id).proxy? = none) (found : heap.assignment id key = some .write)
      (accepted : (heap.object id).accepts key = true) (within : Within law heap.size value) :
      Change law heap (heap.setValue id key value)
  /-- A prototype link that is admitted. -/
  | link {id : ObjectId} {prototype : Option ObjectId} (present : id.index < heap.size)
      (ordinary : (heap.object id).proxy? = none)
      (admitted : heap.admitsLink id prototype = true) (within : Within law heap.size prototype) :
      Change law heap (heap.setLink id prototype)
  /-- No properties from now on. -/
  | close {id : ObjectId} (present : id.index < heap.size) :
      Change law heap (heap.modify id fun object => { object with extensible := false })
  | overwrite {id : ObjectId} {key : PropertyKey} {property : Property} (unasked : law.writes = true)
      (present : id.index < heap.size) (within : Within law heap.size property) :
      Change law heap (heap.setProperty id key property)
  | overwriteValue {id : ObjectId} {key : PropertyKey} {value : Value} (unasked : law.writes = true)
      (present : id.index < heap.size) (within : Within law heap.size value) :
      Change law heap (heap.setValue id key value)
  | remove {id : ObjectId} {key : PropertyKey} (unasked : law.removes = true)
      (present : id.index < heap.size) : Change law heap (heap.modify id (·.removeProperty key))

theorem Change.size_le (changed : heap.Change law after) : heap.size ≤ after.size := by
  cases changed with
  | grow grown => exact grown.size_le
  | _ => exact Nat.le_of_eq (size_modify ..).symm

/-- Every change keeps a heap sound. -/
theorem Change.sound (changed : heap.Change law after) (sound : heap.Sound law) :
    after.Sound law := by
  cases changed with
  | grow grown => exact grown.sound sound
  | define present permitted within =>
      exact sound.setProperty present within fun asked makes =>
        Object.fixedPrototype?_of_defined ((sound.within _).2.2.2.equipped asked makes) permitted
  | write present ordinary found _ within =>
      exact sound.setValue present within fun asked makes =>
        fixedPrototype?_of_write ordinary ((sound.within _).2.2.2.equipped asked makes) found
  | link present ordinary admitted within => exact sound.setLink present ordinary admitted within
  | close present =>
      obtain ⟨properties, link, held, keeps⟩ := sound.within _
      exact sound.modify present rfl rfl ⟨properties, link, held, keeps.whole, keeps.equipped⟩
  | overwrite unasked present within =>
      exact sound.setProperty present within fun asked =>
        absurd (asked.symm.trans unasked) Bool.false_ne_true
  | overwriteValue unasked present within =>
      exact sound.setValue present within fun asked =>
        absurd (asked.symm.trans unasked) Bool.false_ne_true
  | remove unasked present => exact sound.removeProperty unasked present

/-- An object that is there keeps its kind: a function its code, and a proxy its target. -/
theorem Change.kind_eq (changed : heap.Change law after) (present : id.index < heap.size) :
    (after.object id).kind = (heap.object id).kind := by
  cases changed with
  | grow grown => rw [grown.object_eq id present]
  | remove => exact kind_modify heap _ id fun object => by unfold Object.removeProperty; split <;> rfl
  | _ => exact kind_modify heap _ id fun _ => rfl

end Heap

namespace Caches

/-- An answer that is found once and then kept. -/
def Kept {α : Type} (before after : Option α) : Prop := ∀ answer, before = some answer → after = some answer

/-- Caches that hold all that others hold. -/
structure FilledTo (before after : Caches) : Prop where
  lookup : Kept before.lookup after.lookup
  writer : Kept before.writer after.writer
  nativeConstruct : Kept before.nativeConstruct after.nativeConstruct

end Caches

namespace State

variable {law : Law} {before middle after : State}

/-- A state whose heap is sound and whose variables hold objects that are there. -/
structure Sound (law : Law) (state : State) : Prop where
  heap : state.heap.Sound law
  scopes : ∀ scope ∈ state.scopes, ∀ entry ∈ scope.bindings,
    Within law state.heap.size entry.2

/-- One change of a state. -/
inductive Change (law : Law) (state : State) : State → Prop
  | heap {heap : Heap} (changed : state.heap.Change law heap) : Change law state { state with heap }
  | caches {caches : Caches} (filled : state.caches.FilledTo caches) :
      Change law state { state with caches }
  | symbol : Change law state { state with symbolCount := state.symbolCount + 1 }
  | scopes {scopes : Array Scope}
      (within : ∀ scope ∈ scopes, ∀ entry ∈ scope.bindings, Within law state.heap.size entry.2) :
      Change law state { state with scopes }
  | journal (journal : List JournalEntry) : Change law state { state with journal }

theorem Change.size_le (changed : before.Change law after) : before.heap.size ≤ after.heap.size := by
  cases changed with
  | heap changed => exact changed.size_le
  | _ => exact Nat.le_refl _

theorem Change.sound (changed : before.Change law after) (sound : before.Sound law) :
    after.Sound law := by
  cases changed with
  | heap changed =>
      exact ⟨changed.sound sound.heap, fun scope member entry bound =>
        (sound.scopes scope member entry bound).mono changed.size_le⟩
  | scopes within => exact ⟨sound.heap, within⟩
  | _ => exact ⟨sound.heap, sound.scopes⟩

theorem sound_of_changes (changes : ReflTransGen (Change law) before after)
    (sound : before.Sound law) : after.Sound law := by
  induction changes with
  | refl => exact sound
  | tail _ changed ih => exact changed.sound ih

theorem Change.kind_eq (changed : before.Change law after) {id : ObjectId}
    (present : id.index < before.heap.size) :
    (after.heap.object id).kind = (before.heap.object id).kind := by
  cases changed with
  | heap changed => exact changed.kind_eq present
  | _ => rfl

theorem kind_eq_of_changes (changes : ReflTransGen (Change law) before after) {id : ObjectId}
    (present : id.index < before.heap.size) :
    id.index < after.heap.size ∧ (after.heap.object id).kind = (before.heap.object id).kind := by
  induction changes with
  | refl => exact ⟨present, rfl⟩
  | tail _ changed ih =>
      obtain ⟨there, same⟩ := ih
      exact ⟨Nat.lt_of_lt_of_le there changed.size_le, (changed.kind_eq there).trans same⟩

/-- Any number of changes, to a state that is sound. -/
structure Leads (law : Law) (before after : State) : Prop where
  changes : ReflTransGen (Change law) before after
  sound : after.Sound law
  size_le : before.heap.size ≤ after.heap.size

namespace Leads

theorem refl (sound : before.Sound law) : before.Leads law before :=
  ⟨.refl, sound, Nat.le_refl _⟩

theorem trans (first : before.Leads law middle) (second : middle.Leads law after) :
    before.Leads law after :=
  ⟨first.changes.trans second.changes, second.sound, Nat.le_trans first.size_le second.size_le⟩

theorem single (sound : before.Sound law) (changed : before.Change law after) :
    before.Leads law after :=
  ⟨.single changed, changed.sound sound, changed.size_le⟩

/-- What names objects that are there goes on doing so. -/
theorem keeps {α : Type} [Bounded α] (leads : before.Leads law after) {data : α}
    (within : Within law before.heap.size data) : Within law after.heap.size data :=
  within.mono leads.size_le

theorem callable?_eq (leads : before.Leads law after) {id : ObjectId}
    (present : id.index < before.heap.size) :
    (after.heap.object id).callable? = (before.heap.object id).callable? := by
  simp only [Object.callable?, (kind_eq_of_changes leads.changes present).2]

end Leads

end State

end ClassLowering
