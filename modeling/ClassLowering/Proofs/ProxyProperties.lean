import ClassLowering.Proofs.Run.Making
import ClassLowering.Proofs.Soundness.Session

/-!
# Own properties of proxies

Assignments, tests and prototype links go through a proxy to the object behind it. The own table of a
proxy takes no part in that: a definition on a proxy goes to this table, where neither the target nor any
read sees it, and an enumeration of a proxy misses what the object behind it owns.
-/

namespace ClassLowering

open Relation

namespace Heap

variable {heap : Heap} {id target behind : ObjectId} {key : PropertyKey} {property : Property}

/-- A proxy stands for its target. -/
def StandsFor (heap : Heap) (id target : ObjectId) : Prop := (heap.object id).target? = some target

/-! ## What a proxy hands on -/

theorem target_inside (heap : Heap) : heap.Inside heap.targetStride :=
  fun _ _ moved => index_lt_of_target (moves_follow_iff.mp moved)

theorem StandsFor.assignment_eq (stands : heap.StandsFor id target) (key : PropertyKey) :
    heap.assignment id key = heap.assignment target key := by
  refine walk_of_moves (assignment_inside heap key) ?_
  unfold StandsFor at stands
  simp only [Moves, assignmentStride, stands]

theorem StandsFor.has_eq (stands : heap.StandsFor id target) (key : PropertyKey) :
    heap.has id key = heap.has target key := by
  refine walk_of_moves (has_inside heap key) ?_
  unfold StandsFor at stands
  simp only [Moves, hasStride, stands]

theorem StandsFor.unlinked (stands : heap.StandsFor id target) (bare : heap.ProxiesBare) :
    (heap.object id).prototype = none := by
  refine bare id fun ordinary => ?_
  rw [StandsFor, target?_of_ordinary ordinary] at stands
  cases stands

/-- A proxy reports the prototype that its target reports. Where the chain of targets never ends, neither
has one. -/
theorem StandsFor.prototypeOf_eq (stands : heap.StandsFor id target) (bare : heap.ProxiesBare) :
    heap.prototypeOf id = heap.prototypeOf target := by
  have same : heap.walk heap.targetStride id = heap.walk heap.targetStride target :=
    walk_of_moves (target_inside heap) (moves_follow_iff.mpr stands)
  rw [prototypeOf, prototypeOf, resolve, resolve, same]
  cases ended : heap.walk heap.targetStride target with
  | some holder => rfl
  | none =>
      have further : ∃ next, heap.StandsFor target next := by
        cases linked : (heap.object target).target? with
        | some next => exact ⟨next, linked⟩
        | none =>
            have finished : heap.targetStride target = .finish target := by
              rw [targetStride, linked]
              rfl
            rw [walk_of_finish finished] at ended
            cases ended
      obtain ⟨next, again⟩ := further
      exact (stands.unlinked bare).trans (again.unlinked bare).symm

/-- What goes through one object to another: tests, assignments, and the question for the prototype. -/
structure Forwards (heap : Heap) (id behind : ObjectId) : Prop where
  has : ∀ key, heap.has id key = heap.has behind key
  assignment : ∀ key, heap.assignment id key = heap.assignment behind key
  prototypeOf : heap.prototypeOf id = heap.prototypeOf behind

theorem StandsFor.forwards (stands : heap.StandsFor id target) (bare : heap.ProxiesBare) :
    heap.Forwards id target :=
  ⟨stands.has_eq, stands.assignment_eq, stands.prototypeOf_eq bare⟩

/-- Proxies forward to whatever stands behind them, through proxies of proxies. -/
theorem forwards_of_standsFor (bare : heap.ProxiesBare)
    (stands : ReflTransGen heap.StandsFor id behind) : heap.Forwards id behind := by
  induction stands with
  | refl => exact ⟨fun _ => rfl, fun _ => rfl, rfl⟩
  | tail _ last ih =>
      have next := last.forwards bare
      refine ⟨fun key => ?_, fun key => ?_, ?_⟩
      · rw [ih.has, next.has]
      · rw [ih.assignment, next.assignment]
      · rw [ih.prototypeOf, next.prototypeOf]

/-- The chain of a proxy is that of the object behind it, with the proxy in the place of this object. -/
theorem Forwards.chain_eq (forwards : heap.Forwards id behind) :
    heap.chain id = (heap.chain behind).map fun chain => id :: chain.tail := by
  rw [chain, chain, chainFor, chainFor, forwards.prototypeOf]
  cases heap.prototypeOf behind with
  | none => rfl
  | some above =>
      dsimp only
      rw [Option.map_map]
      rfl

/-- An enumeration of a proxy visits its own keys, and then those above the object behind it. -/
theorem Forwards.forInKeys_eq (forwards : heap.Forwards id behind) :
    heap.forInKeys id = (heap.chain behind).map fun chain =>
      forInAlong ∅ ((id :: chain.tail).map fun id => (heap.object id).properties) := by
  rw [forInKeys, forwards.chain_eq, Option.map_map]
  rfl

/-! ## What stays on a proxy -/

/-- Reads, assignments and tests from any object find the same in both heaps, and every object reports the
same prototype. -/
structure ReadsAlike (heap other : Heap) : Prop where
  lookup : ∀ id key, other.lookup id key = heap.lookup id key
  assignment : ∀ id key, other.assignment id key = heap.assignment id key
  has : ∀ id key, other.has id key = heap.has id key
  prototypeOf : ∀ id, other.prototypeOf id = heap.prototypeOf id

theorem ReadsAlike.plainRead?_eq {other : Heap} (alike : heap.ReadsAlike other) (id : ObjectId)
    (key : PropertyKey) : other.plainRead? id key = heap.plainRead? id key := by
  rw [plainRead?, plainRead?, alike.lookup]

/-- What is seen of an object while reads pass: its proxy data and its link, and its properties unless it
is a proxy. -/
theorem setProperty_seen (stands : heap.StandsFor id target) (key : PropertyKey) (property : Property)
    (other : ObjectId) :
    ((heap.setProperty id key property).object other).proxy? = (heap.object other).proxy? ∧
      ((heap.setProperty id key property).object other).prototype = (heap.object other).prototype ∧
      ((heap.object other).proxy? = none →
        (heap.setProperty id key property).object other = heap.object other) := by
  by_cases same : other = id
  · subst same
    rw [object_setProperty_self (index_lt_of_target stands)]
    refine ⟨rfl, rfl, fun ordinary => ?_⟩
    rw [StandsFor, target?_of_ordinary ordinary] at stands
    cases stands
  · rw [object_setProperty_ne same]
    exact ⟨rfl, rfl, fun _ => rfl⟩

/-- No walk looks at the own table of a proxy. -/
theorem StandsFor.readsAlike (stands : heap.StandsFor id target) (key : PropertyKey)
    (property : Property) : heap.ReadsAlike (heap.setProperty id key property) := by
  have seen (other : ObjectId) := setProperty_seen stands key property other
  generalize after_eq : heap.setProperty id key property = after at seen ⊢
  have size_eq : after.size = heap.size := by rw [← after_eq, size_setProperty]
  have targets : after.targetStride = heap.targetStride := by
    funext other
    simp only [targetStride, Object.target?, (seen other).1]
  constructor
  · intro start key
    have strides : after.lookupStride key = heap.lookupStride key := by
      funext other
      obtain ⟨proxied, _, kept⟩ := seen other
      cases ordinary : (heap.object other).proxy? with
      | none => simp only [lookupStride, kept ordinary]
      | some pair => simp only [lookupStride, proxied, ordinary]
    rw [lookup, lookup, walk, walk, strides, size_eq]
  · intro start key
    have strides : after.assignmentStride key = heap.assignmentStride key := by
      funext other
      obtain ⟨proxied, _, kept⟩ := seen other
      cases ordinary : (heap.object other).proxy? with
      | none => simp only [assignmentStride, kept ordinary]
      | some pair => simp only [assignmentStride, Object.target?, proxied, ordinary, Option.map_some]
    rw [assignment, assignment, walk, walk, strides, size_eq]
  · intro start key
    have strides : after.hasStride key = heap.hasStride key := by
      funext other
      obtain ⟨proxied, _, kept⟩ := seen other
      cases ordinary : (heap.object other).proxy? with
      | none => simp only [hasStride, kept ordinary]
      | some pair => simp only [hasStride, Object.target?, proxied, ordinary, Option.map_some]
    rw [has, has, walk, walk, strides, size_eq]
  · intro start
    rw [prototypeOf, prototypeOf, resolve, resolve, walk, walk, targets, size_eq, (seen _).2.1]

end Heap

/-- A definition fails without effect, or writes one own property of the object itself. -/
theorem Run.define_outcome (id : ObjectId) (key : PropertyKey) (descriptor : Descriptor)
    (engine : Engine) (state : State) :
    (∃ fault, define id key descriptor engine state = .failed (.fault fault) state) ∨
      ∃ property, define id key descriptor engine state =
        .done () { state with heap := state.heap.setProperty id key property } := by
  rw [define, ask_bind]
  cases (state.heap.object id).defined key descriptor with
  | error fault => exact .inl ⟨fault, rfl⟩
  | ok property => exact .inr ⟨property, rfl⟩

namespace Run

section Untrapped

variable {state : State} {id target handler : ObjectId} {key : PropertyKey} {trap : Value}
variable (proxied : (state.heap.object id).proxy? = some (target, handler))
  (read : state.heap.plainRead? handler "get" = some trap) (nullish : trap.isNullish = true)
include proxied read nullish

/-- A proxy without a `get` trap hands a read on. -/
theorem getFor_untrapped (receiver : Value) (depth : Nat) :
    getFor id key receiver (Engine.ofDepth (depth + 1)) state =
      getFor target key receiver (Engine.ofDepth depth) state := by
  have asked : Run.read handler "get" (.object handler) (Engine.ofDepth (depth + 1)) state =
      .done trap state := by
    change getFor handler "get" _ (Engine.ofDepth depth) state = _
    exact getFor_plain read
  rw [getFor_of_proxy proxied]
  refine (bind_of_done asked).trans ?_
  rw [if_pos nullish]
  rfl

/-- Whatever is defined on the proxy, a read gives what the target has. -/
theorem get_defined_on_proxy {value : Value} (held : state.heap.plainRead? target key = some value)
    (other : PropertyKey) (property : Property) (depth : Nat) :
    let after : State := { state with heap := state.heap.setProperty id other property }
    get id key (Engine.ofDepth (depth + 1)) after = .done value after := by
  intro after
  have stands : state.heap.StandsFor id target := by
    rw [Heap.StandsFor, Object.target?, proxied]
    rfl
  have alike := stands.readsAlike other property
  have still := (Heap.setProperty_seen stands other property id).1.trans proxied
  have unread : after.heap.plainRead? handler "get" = some trap := (alike.plainRead?_eq ..).trans read
  exact (getFor_untrapped still unread nullish (.object id) depth).trans
    (getFor_plain ((alike.plainRead?_eq ..).trans held))

end Untrapped

end Run

/-- In every state that a session reaches, a proxy forwards tests, assignments and its link to whatever
stands behind it, but keeps definitions: they fail without effect, or add an own property to the proxy
alone, after which every read, assignment and test finds what it found before. An enumeration visits the
own keys of the proxy in the place of those behind it. -/
theorem proxy_keeps_definitions (profile : Profile) {state : State}
    (reached : (Session.start profile).state.Reaches .driver state) {id behind : ObjectId}
    (stands : TransGen state.heap.StandsFor id behind) :
    state.heap.Forwards id behind ∧
      (state.heap.forInKeys id = (state.heap.chain behind).map fun chain =>
        Heap.forInAlong ∅ ((id :: chain.tail).map fun id => (state.heap.object id).properties)) ∧
      ∀ engine key descriptor,
        (∃ fault, Run.define id key descriptor engine state = .failed (.fault fault) state) ∨
          ∃ after,
            Run.define id key descriptor engine state = .done () { state with heap := after } ∧
              (after.object id).hasOwn key = true ∧
              (∀ other, other ≠ id → after.object other = state.heap.object other) ∧
              state.heap.ReadsAlike after := by
  have bare := (reached.leads (Session.start_sound .driver profile)).sound.heap.bare
  have forwards := Heap.forwards_of_standsFor bare stands.to_reflTransGen
  refine ⟨forwards, forwards.forInKeys_eq, fun engine key descriptor => ?_⟩
  obtain ⟨target, first, _⟩ := TransGen.head'_iff.mp stands
  rcases Run.define_outcome id key descriptor engine state with failed | ⟨property, wrote⟩
  · exact .inl failed
  · refine .inr ⟨_, wrote, ?_, fun other differs => Heap.object_setProperty_ne differs _,
      first.readsAlike key property⟩
    rw [Heap.object_setProperty_self (Heap.index_lt_of_target first), Object.hasOwn_eq_isSome,
      Object.property?_setProperty, if_pos rfl]
    rfl

/-- Steps that make an object with one property, and a proxy without traps in front of it. -/
def proxySteps : List Script.Step :=
  [.perform (.create .object) [] { result := some "target" },
    .perform (.onProperty .set) [.named "target", .value (.string "x"), .value (.boolean true)] {},
    .perform (.create .object) [] { result := some "handler" },
    .perform (.create (.globalProperty "Proxy")) [] { result := some "Proxy" },
    .perform (.onFunction .construct) [.named "Proxy", .named "target", .named "handler"] {}]

/-- The state in which a session has a proxy. -/
@[irreducible] def proxyState : State :=
  let start := { (Session.start Preset.modern.profile).state with scopes := #[{}] }
  (Session.runSteps ⟨0⟩ proxySteps start ∅).2

theorem proxyState_reached :
    (Session.start Preset.modern.profile).state.Reaches .driver proxyState := by
  rw [proxyState]
  exact Session.start_reaches Preset.modern.profile (by simp [proxySteps])

/-- The proxy of the session has no properties and takes new ones; its target has one. -/
theorem proxyState_made :
    let target : ObjectId := ⟨(Realm.heap Preset.modern.profile).size⟩
    let handler : ObjectId := ⟨target.index + 1⟩
    let proxy : ObjectId := ⟨target.index + 2⟩
    target ≠ proxy ∧ (proxyState.heap.object proxy).proxy? = some (target, handler) ∧
      (proxyState.heap.object proxy).extensible = true ∧
      (proxyState.heap.object proxy).property? "y" = none ∧
      (proxyState.heap.object proxy).hasOwn "x" = false ∧
      (proxyState.heap.object target).hasOwn "x" = true ∧
      proxyState.heap.plainRead? target "y" = some .undefined ∧
      proxyState.heap.plainRead? handler "get" = some .undefined := by
  decide +kernel

/-- A definition of a new property on the proxy succeeds. -/
theorem proxyState_takes (engine : Engine) :
    Run.define ⟨(Realm.heap Preset.modern.profile).size + 2⟩ "y" (.data .null true true true) engine
        proxyState =
      .done ()
        { proxyState with
          heap := proxyState.heap.setProperty ⟨(Realm.heap Preset.modern.profile).size + 2⟩ "y"
            (.ofDescriptor (.data .null true true true)) } := by
  obtain ⟨_, _, extensible, missing, _⟩ := proxyState_made
  refine Run.define_apply ?_
  rw [Object.defined, missing]
  dsimp only
  rw [if_pos extensible]

/-- A definition on this proxy leaves its target and all reads as they are. -/
theorem proxied_definition_unseen :
    let target : ObjectId := ⟨(Realm.heap Preset.modern.profile).size⟩
    let proxy : ObjectId := ⟨target.index + 2⟩
    (Session.start Preset.modern.profile).state.Reaches .driver proxyState ∧
      TransGen proxyState.heap.StandsFor proxy target ∧
      proxyState.heap.has proxy "x" = proxyState.heap.has target "x" ∧
      ∃ after,
        Run.define proxy "y" (.data .null true true true) (Engine.ofDepth 0) proxyState =
            .done () { proxyState with heap := after } ∧
          after.object target = proxyState.heap.object target ∧ proxyState.heap.ReadsAlike after := by
  intro target proxy
  obtain ⟨apart, proxied, _⟩ := proxyState_made
  have stands : TransGen proxyState.heap.StandsFor proxy target := by
    refine .single ?_
    rw [Heap.StandsFor, Object.target?, proxied]
    rfl
  obtain ⟨forwards, _, keeps⟩ := proxy_keeps_definitions _ proxyState_reached stands
  have wrote : Run.define proxy "y" (.data .null true true true) (Engine.ofDepth 0) proxyState =
      .done () _ := proxyState_takes _
  rcases keeps (Engine.ofDepth 0) "y" (.data .null true true true) with ⟨_, failed⟩ | made
  · rw [wrote] at failed
    cases failed
  · obtain ⟨after, wrote, _, others, alike⟩ := made
    exact ⟨proxyState_reached, stands, forwards.has "x", after, wrote,
      others target apart, alike⟩

/-- The target has a property that its proxy, which gives no trap, does not show as its own, and what is
defined on the proxy cannot be read there. -/
theorem proxied_property_unseen :
    let target : ObjectId := ⟨(Realm.heap Preset.modern.profile).size⟩
    let handler : ObjectId := ⟨target.index + 1⟩
    let proxy : ObjectId := ⟨target.index + 2⟩
    (proxyState.heap.object proxy).proxy? = some (target, handler) ∧
      proxyState.heap.plainRead? handler "get" = some .undefined ∧
      (proxyState.heap.object target).hasOwn "x" = true ∧
      (proxyState.heap.object proxy).hasOwn "x" = false ∧
      ∃ after,
        Run.define proxy "y" (.data .null true true true) (Engine.ofDepth 1) proxyState =
            .done () after ∧
          Run.get proxy "y" (Engine.ofDepth 1) after = .done .undefined after := by
  intro target handler proxy
  obtain ⟨_, proxied, _, _, hidden, owned, unread, untrapped⟩ := proxyState_made
  refine ⟨proxied, untrapped, owned, hidden, _, proxyState_takes _, ?_⟩
  exact Run.get_defined_on_proxy proxied untrapped rfl unread "y" _ 0

end ClassLowering
