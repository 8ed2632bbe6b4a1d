import ClassLowering.Proofs.Composition.Anticipation
import ClassLowering.Proofs.Members.Ladder
import ClassLowering.Proofs.OrdinarySet
import ClassLowering.Proofs.Soundness.Session

/-!
# Reads above a class

`superGet` goes up the links that the host shows, and reads what the nearest owner of the key has; a read goes
up the stored links. Where no proxy and no stray `__proto__` is in the way, both come to the same owner, by
either strategy. The search settles on a strategy, which a getter may see: it runs as in a read that begins
where the strategy is known. That makes a difference only to a getter that changes the host and then has
the realm settle on another strategy.
-/

namespace ClassLowering

open Relation

namespace State

/-- The strategy by which prototype links are read: the one that is known, or else the one that the globals
speak for. -/
def lookupStrategy (state : State) : PrototypeStrategy :=
  state.caches.lookup.getD state.heap.prototypeStrategy

/-- The state once it was asked how prototype links are read. -/
def settled (state : State) : State := state.readingBy state.lookupStrategy

/-- The state after a search for the owner of a key. The host is only asked above the first object. -/
def searched (state : State) (id : ObjectId) (key : PropertyKey) : State :=
  if (state.heap.object id).hasOwn key then state else state.settled

theorem searched_heap (state : State) (id : ObjectId) (key : PropertyKey) :
    (state.searched id key).heap = state.heap := by
  rw [searched]
  split <;> rfl

end State

namespace Heap

variable {heap : Heap} {id next : ObjectId}

/-- No object from here upwards owns `__proto__`, except that `Object.prototype` may. -/
def Unshadowed (heap : Heap) (id : ObjectId) : Prop :=
  ∀ met, heap.Above id met → met ≠ Intrinsic.objectPrototype.id →
    (heap.object met).property? "__proto__" = none

theorem Unshadowed.of_links (unshadowed : heap.Unshadowed id) (links : heap.Links id next) :
    heap.Unshadowed next :=
  fun met above => unshadowed met (.head links above)

/-- What is above an object that hands a key on to the end of its chain is on the way. -/
theorem Clears.eq_or_passes {key : PropertyKey} {top : ObjectId} (clears : heap.Clears key id top)
    (ends : (heap.object top).prototype = none) {met : ObjectId} (above : heap.Above id met) :
    met = top ∨ ∃ next, heap.Passes key met next := by
  induction clears using ReflTransGen.head_induction_on with
  | refl =>
      rcases ReflTransGen.cases_head above with same | ⟨next, links, _⟩
      · exact .inl same.symm
      · rw [Links, ends] at links
        cases links
  | @head start next passes _ ih =>
      rcases ReflTransGen.cases_head above with rfl | ⟨other, links, further⟩
      · exact .inr ⟨next, passes⟩
      · cases Option.some.inj (links.symm.trans passes.links)
        exact ih further

variable {profile : Profile}

theorem Clears.proxyFree (clears : heap.Clears "__proto__" id Intrinsic.objectPrototype.id)
    (untouched : Realm.Untouched profile heap) : heap.ProxyFree id := by
  intro met above
  rcases clears.eq_or_passes untouched.offers.objectPrototype above with rfl | ⟨next, passes⟩
  · exact untouched.objectPrototype_ordinary
  · exact passes.ordinary

theorem Clears.unshadowed (clears : heap.Clears "__proto__" id Intrinsic.objectPrototype.id)
    (untouched : Realm.Untouched profile heap) : heap.Unshadowed id := by
  intro met above below
  rcases clears.eq_or_passes untouched.offers.objectPrototype above with rfl | ⟨next, passes⟩
  · exact absurd rfl below
  · exact passes.missing

/-- A read of `__proto__` finds nothing, or the getter of the host. -/
theorem lookup_proto (untouched : Realm.Untouched profile heap) (acyclic : heap.Acyclic)
    (free : heap.ProxyFree id) (unshadowed : heap.Unshadowed id) :
    heap.lookup id "__proto__" = some .missing ∨
      ∃ getter, heap.lookup id "__proto__" = some (.accessor (some getter)) ∧
        heap.builtin? getter = some (.method, .linkGetter) := by
  obtain ⟨found, ended⟩ := lookup_ends acyclic id "__proto__"
  obtain ⟨last, reaches, finished⟩ := walkFor_finishes ended
  have above : heap.Above id last := ReflTransGen.mono (fun _ _ moved => lookupStride_moves moved) _ _ reaches
  have ordinary := free last above
  cases held : (heap.object last).property? "__proto__" with
  | none =>
      simp only [lookupStride, ordinary, held] at finished
      cases linked : (heap.object last).prototype with
      | none =>
          rw [linked] at finished
          cases finished
          exact .inl ended
      | some next =>
          rw [linked] at finished
          cases finished
  | some property =>
      have top : last = Intrinsic.objectPrototype.id := by
        by_contra differs
        rw [unshadowed last above differs] at held
        cases held
      subst top
      have legacy : profile.legacyProtoAccessor = true := by
        rw [← Bool.not_eq_false]
        intro missing
        rw [untouched.offers.linkAccessor_missing missing] at held
        cases held
      obtain ⟨property, getter, setter, owned, slot, got, _⟩ :=
        untouched.showsLinks.linkAccessor_held legacy
      rw [lookupStride_own ordinary owned, Property.found, slot] at finished
      cases finished
      exact .inr ⟨getter, ended, got⟩

end Heap

namespace Run

variable {profile : Profile} {state : State} {id target : ObjectId} {key : PropertyKey}
  {receiver : Value} {depth : Nat}

/-! ## The links that the host shows -/

/-- By either strategy, the link that is read is the stored one. -/
theorem getPrototypeBy_apply (offered : profile.objectGetPrototypeOf = true)
    (untouched : Realm.Untouched profile state.heap) (acyclic : state.heap.Acyclic)
    (free : state.heap.ProxyFree id) (unshadowed : state.heap.Unshadowed id)
    (strategy : PrototypeStrategy) (this : Value) :
    getPrototypeBy strategy this (.object id) (Engine.ofDepth (depth + 1)) state =
      .done (.ofObject? (state.heap.object id).prototype) state := by
  have shows := untouched.showsLinks
  cases strategy with
  | standard =>
      have reader := shows.getPrototypeOf
      rw [if_pos offered] at reader
      obtain ⟨function, held, found⟩ := Realm.objectFunction?_of_offered reader
      rw [getPrototypeBy, ask_bind, held]
      exact call_objectGetPrototypeOf found free.ordinary
  | legacy =>
      have told := askedPrototypeOf_apply shows free.ordinary this depth
      rw [if_pos offered] at told
      rcases Heap.lookup_proto untouched acyclic free unshadowed with missing | ⟨getter, found, got⟩
      · have read : getOf (.object id) "__proto__" (Engine.ofDepth (depth + 1)) state =
            .done .undefined state := getFor_of_lookup missing _
        exact (bind_of_done read).trans told
      · have read : getOf (.object id) "__proto__" (Engine.ofDepth (depth + 1)) state =
            .done (.ofObject? (state.heap.object id).prototype) state :=
          (getFor_of_lookup found _).trans (call_linkGetter got free.ordinary)
        refine (bind_of_done read).trans ?_
        split
        · rfl
        · exact told

theorem getPrototypeOf_settles (offered : profile.objectGetPrototypeOf = true)
    (untouched : Realm.Untouched profile state.heap) (acyclic : state.heap.Acyclic)
    (free : state.heap.ProxyFree id) (unshadowed : state.heap.Unshadowed id) (depth : Nat) :
    getPrototypeOf (.object id) (Engine.ofDepth (depth + 1)) state =
      .done (.ofObject? (state.heap.object id).prototype) state.settled := by
  have asked : lookupStrategy (Engine.ofDepth (depth + 1)) state =
      .done state.lookupStrategy state.settled := rfl
  have untouchedStill : Realm.Untouched profile state.settled.heap := untouched
  rw [getPrototypeOf, ask_bind, bind_of_done asked]
  exact getPrototypeBy_apply offered untouchedStill acyclic free unshadowed _ _

/-! ## The nearest owner -/

variable {engine : Engine} {owner : ObjectId} {property : Property} {bound : Nat} {found : Lookup}

/-- The owner's property is read as by a read that finds it. -/
theorem readOwn_eq_answer (held : (state.heap.object owner).property? key = some property) :
    readOwn owner key receiver engine state = answer key receiver property.found engine state := by
  rw [readOwn, ask_bind, held]
  obtain ⟨slot, _, _, _⟩ := property
  cases slot with
  | data value => rfl
  | accessor getter setter => cases getter <;> rfl

/-- A read that ends in some rounds tells what a search finds in one more: the owner of the property that the
read finds, or that there is none. -/
theorem ownerFor_apply (offered : profile.objectGetPrototypeOf = true)
    (untouched : Realm.Untouched profile state.heap) (acyclic : state.heap.Acyclic)
    (free : state.heap.ProxyFree id) (unshadowed : state.heap.Unshadowed id)
    (walked : Heap.walkFor (state.heap.lookupStride key) bound id = some found) (depth : Nat) :
    (∃ owner property, state.heap.NearestOwner key owner property id ∧
      (state.heap.object owner).property? key = some property ∧ found = property.found ∧
      ownerFor key (bound + 1) (.object id) (Engine.ofDepth (depth + 1)) state =
        .done (some owner) (state.searched id key)) ∨
    (state.heap.Unowned key id ∧ found = .missing ∧
      ownerFor key (bound + 1) (.object id) (Engine.ofDepth (depth + 1)) state =
        .done none (state.searched id key)) := by
  induction bound generalizing id state with
  | zero => cases walked
  | succ bound ih =>
      have target := Heap.target?_of_ordinary free.ordinary
      rw [State.searched, Object.hasOwn_eq_isSome]
      cases held : (state.heap.object id).property? key with
      | some property =>
          rw [Heap.walkFor_of_finish (Heap.lookupStride_own free.ordinary held)] at walked
          cases walked
          exact .inl ⟨id, property, .here target held, held, rfl, ownerFor_own held⟩
      | none =>
          have asked := getPrototypeOf_settles offered untouched acyclic free unshadowed depth
          rw [ownerFor_above held asked, if_neg nofun]
          cases linked : (state.heap.object id).prototype with
          | none =>
              rw [Heap.walkFor_of_finish (Heap.lookupStride_missing free.ordinary held linked)] at walked
              cases walked
              refine .inr ⟨.last ?_ held, rfl, rfl⟩
              rw [Heap.onward?, target]
              exact linked
          | some next =>
              have links : state.heap.Links id next := linked
              have passes : state.heap.Passes key id next := ⟨free.ordinary, held, links⟩
              have passesOn : state.heap.PassesOn key id next :=
                ⟨(Heap.onward_iff_links target).mpr links, fun _ => held⟩
              rw [Heap.walkFor_of_moves passes.lookup_moves] at walked
              -- The host was asked already, and further questions change nothing.
              have settled : state.settled.searched next key = state.settled := by
                rw [State.searched]
                split <;> rfl
              have untouchedStill : Realm.Untouched profile state.settled.heap := untouched
              have later := ih untouchedStill acyclic (free.of_links links)
                (unshadowed.of_links links) walked
              rw [settled] at later
              rcases later with ⟨owner, property, nearest, owned, same, ran⟩ | ⟨unowned, missing, ran⟩
              · exact .inl ⟨owner, property, .further passesOn nearest, owned, same, ran⟩
              · exact .inr ⟨.further passesOn unowned, missing, ran⟩

/-- A read above an object does with its nearest owner what a read does with the property that it finds. -/
theorem superGet_apply (offered : profile.objectGetPrototypeOf = true)
    (untouched : Realm.Untouched profile state.heap) (acyclic : state.heap.Acyclic)
    (free : state.heap.ProxyFree target) (unshadowed : state.heap.Unshadowed target)
    (enough : state.heap.size + 1 < depth) :
    ∃ found, state.heap.lookup target key = some found ∧
      superGet (.object target) key receiver (Engine.ofDepth depth) state =
        answer key receiver found (Engine.ofDepth depth) (state.searched target key) ∧
      ((∃ owner property, state.heap.NearestOwner key owner property target ∧
          (state.heap.object owner).property? key = some property ∧ found = property.found) ∨
        (state.heap.Unowned key target ∧ found = .missing)) := by
  obtain ⟨less, rfl⟩ := Nat.exists_eq_succ_of_ne_zero (Nat.ne_of_gt (Nat.zero_lt_of_lt enough))
  obtain ⟨found, ended⟩ := Heap.lookup_ends acyclic target key
  have searched_heap := state.searched_heap target key
  have all_rounds {owner? : Option ObjectId} (ran : ownerFor key (state.heap.size + 1 + 1)
      (.object target) (Engine.ofDepth (less + 1)) state = .done owner? (state.searched target key)) :
      ownerFor key (less + 1) (.object target) (Engine.ofDepth (less + 1)) state =
        .done owner? (state.searched target key) :=
    (ownerFor_settled enough (by rw [ran]; exact nofun)).trans ran
  refine ⟨found, ended, ?_⟩
  rcases ownerFor_apply offered untouched acyclic free unshadowed ended less with
    ⟨owner, property, nearest, held, rfl, ran⟩ | ⟨unowned, rfl, ran⟩
  · refine ⟨(superGet_of_ownerFor (all_rounds ran)).trans ?_, .inl ⟨owner, property, nearest, held, rfl⟩⟩
    exact readOwn_eq_answer (searched_heap ▸ held)
  · exact ⟨(superGet_of_ownerFor (all_rounds ran)).trans rfl, .inr ⟨unowned, rfl⟩⟩

end Run

/-- In every state of a session with an untouched realm that can read prototype links by a function of
`Object`: a read above an object whose chain holds neither a proxy nor a stray `__proto__` comes to the same
owner as a plain read, and reads the same property on behalf of the receiver. It has the result and the
effects of a plain read in the state after the search. So has a plain read in the state as it is, up to what
is known of the host, unless its getter has the realm settle on another strategy. -/
theorem super_reads_as_get (profile : Profile) (marked : List Helper)
    (offered : profile.objectGetPrototypeOf = true) {law : Law} {before state : State}
    (reached : (Session.prepared profile marked).Reaches law before) (during : before.Becomes law state)
    (untouched : Realm.Untouched profile state.heap) {target : ObjectId}
    (free : state.heap.ProxyFree target) (unshadowed : state.heap.Unshadowed target) (key : PropertyKey)
    (receiver : Value) {depth : Nat} (enough : state.heap.size + 1 < depth) :
    let engine := Engine.ofDepth depth
    let searched := state.searched target key
    let above := Run.superGet (.object target) key receiver engine state
    let plain := Run.getFor target key receiver engine state
    ((∃ owner property, state.heap.NearestOwner key owner property target ∧
        above = Run.readOwn owner key receiver engine searched ∧
        plain = Run.readOwn owner key receiver engine state) ∨
      (state.heap.Unowned key target ∧ above = .done .undefined searched ∧
        plain = .done .undefined state)) ∧
    above = Run.getFor target key receiver engine searched ∧
    ((state.heap.object target).hasOwn key = true → above = plain) ∧
    ((state.heap.object target).hasOwn key = false → ∀ last, plain.Leaves last →
      last.OpenTo state.lookupStrategy → above = plain.readingBy state.lookupStrategy) := by
  intro engine searched above plain
  have acyclic := (Session.sound_of_reaches reached during).heap.acyclic
  obtain ⟨found, ended, above_eq, decided⟩ :=
    Run.superGet_apply offered untouched acyclic free unshadowed enough
  have searched_heap : searched.heap = state.heap := state.searched_heap target key
  have plain_eq : plain = Run.answer key receiver found engine state := Run.getFor_of_lookup ended engine
  have later_eq : Run.getFor target key receiver engine searched =
      Run.answer key receiver found engine searched :=
    Run.getFor_of_lookup (searched_heap ▸ ended) engine
  have same : above = Run.getFor target key receiver engine searched := above_eq.trans later_eq.symm
  refine ⟨?_, same, fun owns => ?_, fun lacks last leaves settles => ?_⟩
  · rcases decided with ⟨owner, property, nearest, held, rfl⟩ | ⟨unowned, rfl⟩
    · refine .inl ⟨owner, property, nearest, ?_, plain_eq.trans (Run.readOwn_eq_answer held).symm⟩
      exact above_eq.trans (Run.readOwn_eq_answer (searched_heap ▸ held)).symm
    · exact .inr ⟨unowned, above_eq, plain_eq⟩
  · have unasked : searched = state := if_pos owns
    rw [same, unasked]
  · have asked : searched = state.settled := if_neg (by rw [lacks]; exact nofun)
    rw [same, asked]
    exact (Run.getFor_composed receiver).anticipates_ofDepth _ state last _ leaves settles

/-- On an ES5 host, the key `__proto__` above `Function.prototype` is read, by the accessor that is inherited,
as the prototype of the receiver, and the host is known to be asked by way of this accessor. -/
theorem functionPrototype_super_reads_proto :
    let profile := Preset.es5.profile
    let state := Session.prepared profile []
    let target := Intrinsic.functionPrototype.id
    let engine := Engine.ofDepth (state.heap.size + 2)
    profile.objectGetPrototypeOf = true ∧ state.Reaches .host state ∧ state.Becomes .host state ∧
      Realm.Untouched profile state.heap ∧ state.heap.ProxyFree target ∧
      state.heap.Unshadowed target ∧ (state.heap.object target).hasOwn "__proto__" = false ∧
      Run.superGet (.object target) "__proto__" (.object target) engine state =
        .done (.object Intrinsic.objectPrototype.id) (state.readingBy .legacy) := by
  intro profile state target engine
  have untouched : Realm.Untouched profile state.heap := Realm.untouched_heap profile
  have clears : state.heap.Clears "__proto__" target Intrinsic.objectPrototype.id :=
    .single untouched.offers.functionPrototype_passes
  have free := clears.proxyFree untouched
  have unshadowed := clears.unshadowed untouched
  have lacks : (state.heap.object target).hasOwn "__proto__" = false := by
    rw [Object.hasOwn_eq_isSome, untouched.offers.functionPrototype_passes.missing]
    rfl
  have enough : state.heap.size + 1 < state.heap.size + 2 := Nat.lt_succ_self _
  have agrees := super_reads_as_get profile [] rfl (.refl : state.Reaches .host state) .refl untouched free
    unshadowed "__proto__" (.object target) enough
  have read : Run.getFor target "__proto__" (.object target) engine state =
      .done (.object Intrinsic.objectPrototype.id) state := by
    have shown := Run.getOf_proto_apply untouched.showsLinks rfl clears (state.heap.size + 1)
    rwa [untouched.offers.functionPrototype] at shown
  have strategy : state.lookupStrategy = .legacy := untouched.showsLinks.prototypeStrategy_eq
  refine ⟨rfl, .refl, .refl, untouched, free, unshadowed, lacks, ?_⟩
  have above := agrees.2.2.2 lacks state (Outcome.leaves_of_done read) nofun
  rw [above, read, strategy]
  rfl

/-- Steps that make an object with a `__proto__` of its own, take away `Object.setPrototypeOf`, and only then
ask for the prototype of the object. -/
def changingSteps : List Script.Step :=
  [.perform (.create .object) [] { result := some "x" },
    .perform (.onProperty (.define { value := some (.value (.boolean true)) }))
      [.named "x", .value (.string "__proto__")] {},
    .perform (.create (.globalProperty "Object")) [] { result := some "O" },
    .perform (.onProperty .set)
      [.named "O", .value (.string "setPrototypeOf"), .value .undefined] {},
    .perform (.onPrototype .getPrototypeOf) [.named "x"] { result := some "p" },
    .leave [.named "p"] {}]

/-- A getter that changes the host. -/
def changingGetter : Callable := { name := "g", kind := .method, code := .script changingSteps ⟨0⟩ }

/-- An object below `Object.prototype` whose property `k` is read by a getter. -/
def Object.reading (getter : ObjectId) : Object where
  prototype := some Intrinsic.objectPrototype.id
  properties := Table.empty.insert "k" { slot := .accessor (some (.object getter)) none }

/-- The heap with the getter, an object that is read by it, and an object below. -/
def Heap.withChangingGetter (heap : Heap) : Heap :=
  let called := heap.withFunction changingGetter 0
  let above := (called.allocate (.reading heap.next)).2
  (above.allocate (.inheriting (some called.next))).2

/-- A getter that changes the host tells a read above a class from a plain read. By the plain read, the realm
first asks how prototype links are read after the change, and the getter returns the stray `__proto__`; by
the other one it was known before, and the getter returns the prototype. -/
theorem changing_getter_tells_reads_apart :
    let profile := Preset.modern.profile
    let start := { Session.prepared profile [] with scopes := #[{}] }
    let state := { start with heap := start.heap.withChangingGetter }
    let target : ObjectId := ⟨start.heap.size + 2⟩
    let engine := Engine.ofDepth (state.heap.size + 2)
    profile.objectGetPrototypeOf = true ∧ (Session.prepared profile []).Reaches .host start ∧
      start.Becomes .host state ∧ Realm.Untouched profile state.heap ∧ state.heap.ProxyFree target ∧
      state.heap.Unshadowed target ∧
      ∃ afterAbove afterPlain,
        Run.superGet (.object target) "k" (.object target) engine state =
          .done (.object Intrinsic.objectPrototype.id) afterAbove ∧
        Run.getFor target "k" (.object target) engine state = .done (.boolean true) afterPlain := by
  intro profile start state target engine
  have reached : (Session.prepared profile []).Reaches .host start := .single (.scope none)
  have sound : start.Sound .host := (reached.leads (Session.prepared_sound .host profile [])).sound
  have lawful : Within .host start.heap.size changingGetter := by
    refine ⟨?_, Bounded.within_nil⟩
    simp [changingGetter, changingSteps]
  let called := start.heap.withFunction changingGetter 0
  have grown : start.heap.GrowsTo .host called := by
    have grows := (Build.function_grows sound.heap lawful 0 fun _ => rfl).grown
    have method : changingGetter.kind ≠ .normal := by decide
    rwa [Build.function_eq_of_method method] at grows
  have getter : Within .host called.size start.heap.next := by
    rw [Within, Heap.size_withFunction]
    exact Nat.lt_succ_self _
  have slot : Within .host called.size (Slot.accessor (some (.object start.heap.next)) none) :=
    ⟨⟨getter, by simp⟩, trivial, by simp⟩
  have top : Within .host called.size (some Intrinsic.objectPrototype.id) :=
    (grown.sound sound.heap).intrinsic .objectPrototype
  have parent : Within .host (called.allocate (.reading start.heap.next)).2.size (some called.next) :=
    Heap.next_index_lt called _
  have above : start.heap.GrowsTo .host (called.allocate (.reading start.heap.next)).2 :=
    grown.allocate
      (Build.within_object (Table.within_insert Table.within_empty slot) top trivial fun _ => rfl)
      (absurd rfl)
  have below : start.heap.GrowsTo .host state.heap :=
    above.allocate (Build.within_object Table.within_empty parent trivial fun _ => rfl) (absurd rfl)
  have during : start.Becomes .host state := .single (.heap (.grow below))
  have untouched : Realm.Untouched profile state.heap :=
    (Realm.untouched_heap profile).keep below.size_le below.object_eq
  have clears : state.heap.Clears "__proto__" target Intrinsic.objectPrototype.id := by
    have first : state.heap.Passes "__proto__" target called.next := by decide +kernel
    have second : state.heap.Passes "__proto__" called.next Intrinsic.objectPrototype.id := by
      decide +kernel
    exact .head first (.single second)
  obtain ⟨afterAbove, ranAbove⟩ : ∃ last,
      Run.superGet (.object target) "k" (.object target) engine state =
        .done (.object Intrinsic.objectPrototype.id) last := Outcome.done_of_result (by decide +kernel)
  obtain ⟨afterPlain, ranPlain⟩ : ∃ last, Run.getFor target "k" (.object target) engine state =
      .done (.boolean true) last := Outcome.done_of_result (by decide +kernel)
  exact ⟨rfl, reached, during, untouched, clears.proxyFree untouched, clears.unshadowed untouched,
    afterAbove, afterPlain, ranAbove, ranPlain⟩

end ClassLowering
