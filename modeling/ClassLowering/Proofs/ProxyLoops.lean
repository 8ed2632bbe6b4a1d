import ClassLowering.Proofs.Heap.Routes
import ClassLowering.Proofs.PrototypeLinks

/-!
# Loops through proxies

The test for cycles before a prototype link is written looks no further than the first proxy, while tests,
assignments, enumerations and instance checks go on behind it. A link whose route comes back through a
proxy is therefore admitted, and closes a loop. No other change closes one.
-/

namespace ClassLowering

open Relation

namespace Heap

variable {law : Law} {heap after : Heap} {id next : ObjectId}

/-- No route comes back to where it was. -/
def Loopless (heap : Heap) : Prop := ∀ id, ¬ TransGen heap.Onward id id

/-- A prototype link that is admitted although the route of the prototype comes back to its holder. -/
structure ClosesLoop (heap : Heap) (id prototype : ObjectId) : Prop where
  ordinary : (heap.object id).proxy? = none
  admitted : heap.admitsLink id (some prototype) = true
  back : heap.PassesProxy prototype id

/-- All walks from an object end unless its route has a loop. -/
theorem Sound.walksEnd_iff (sound : heap.Sound law) : heap.WalksEnd id ↔ ¬ heap.Looped id := by
  constructor
  · rintro ends looped
    obtain ⟨keys, ended⟩ := ends.forInKeys
    rw [sound.forInKeys_eq_none_iff.mpr looped] at ended
    cases ended
  · intro straight
    refine ⟨lookup_ends sound.acyclic id, fun key => ?_, fun key => ?_, ?_, fun ancestor => ?_⟩
    · exact Option.ne_none_iff_exists'.mp fun endless => straight (assignment_eq_none_iff.mp endless).1
    · exact Option.ne_none_iff_exists'.mp fun endless => straight (has_eq_none_iff.mp endless).1
    · exact Option.ne_none_iff_exists'.mp fun endless =>
        straight (sound.forInKeys_eq_none_iff.mp endless)
    · exact Option.ne_none_iff_exists'.mp fun endless =>
        straight (sound.inherits_eq_none_iff.mp endless).1

/-! ## Changes that close no loop -/

theorem Loopless.of_onward_eq (loopless : heap.Loopless)
    (same : ∀ id, after.onward? id = heap.onward? id) : after.Loopless := by
  have onwards : after.Onward = heap.Onward := by
    funext id next
    rw [Onward, Onward, same]
  rwa [Loopless, onwards]

/-- In a fresh heap everything leads to older objects. -/
theorem Founded.loopless (founded : heap.Founded law) : heap.Loopless := by
  refine fun id cycle => Nat.lt_irrefl _ (index_lt_of_descends (fun current next onward => ?_) cycle)
  rcases standsFor_or_links onward with stands | ⟨_, links⟩
  · exact founded.sound.targets current next stands
  · exact founded.descends current next links

theorem onward?_modify (id other : ObjectId) {change : Object → Object}
    (kind_eq : ∀ object, (change object).kind = object.kind)
    (prototype_eq : ∀ object, (change object).prototype = object.prototype) :
    (heap.modify id change).onward? other = heap.onward? other := by
  have kinds : ((heap.modify id change).object other).kind = (heap.object other).kind :=
    kind_modify heap id other kind_eq
  have links : ((heap.modify id change).object other).prototype = (heap.object other).prototype := by
    by_cases same : other = id
    · subst same
      rcases Nat.lt_or_ge other.index heap.size with present | absent
      · rw [object_modify_self heap other change present, prototype_eq]
      · rw [object_of_size_le absent, object_of_size_le (by rwa [size_modify])]
    · rw [object_modify_ne heap change same]
  rw [onward?, onward?, Object.target?, Object.target?, Object.proxy?, Object.proxy?, kinds, links]

theorem Sound.index_lt_of_onward (sound : heap.Sound law) (onward : heap.Onward id next) :
    next.index < heap.size :=
  (standsFor_or_links onward).elim sound.within_target fun links => sound.within_prototype links.2

/-- New objects lead to older ones, and old objects to those to which they led before. -/
theorem Loopless.grow (loopless : heap.Loopless) (sound : heap.Sound law)
    (grown : heap.GrowsTo law after) : after.Loopless := by
  have old {first last : ObjectId} (present : first.index < heap.size)
      (route : TransGen after.Onward first last) :
      last.index < heap.size ∧ TransGen heap.Onward first last := by
    have onward_iff {id next : ObjectId} (present : id.index < heap.size) :
        after.Onward id next ↔ heap.Onward id next := by
      rw [Onward, Onward, onward?, onward?, grown.object_eq id present]
    induction route with
    | single onward =>
        have there := (onward_iff present).mp onward
        exact ⟨sound.index_lt_of_onward there, .single there⟩
    | tail _ onward ih =>
        obtain ⟨present, before⟩ := ih
        have there := (onward_iff present).mp onward
        exact ⟨sound.index_lt_of_onward there, before.tail there⟩
  have new {id next : ObjectId} (new : heap.size ≤ id.index) (onward : after.Onward id next) :
      next.index < id.index :=
    (standsFor_or_links onward).elim (grown.targets id next new) fun links =>
      grown.descends id next new links.2
  intro id cycle
  rcases Nat.lt_or_ge id.index heap.size with present | absent
  · exact loopless id (old present cycle).2
  · have below {last : ObjectId} (route : TransGen after.Onward id last) : last.index < id.index := by
      induction route with
      | single onward => exact new absent onward
      | @tail middle last _ onward ih =>
          rcases Nat.lt_or_ge middle.index heap.size with present | absent'
          · exact Nat.lt_of_lt_of_le (old present (.single onward)).1 absent
          · exact Nat.lt_trans (new absent' onward) ih
    exact Nat.lt_irrefl _ (below cycle)

/-! ## Links that close a loop -/

/-- A way over a changed link either does without it or goes through its holder. -/
theorem transGen_onward_setLink {prototype : Option ObjectId} {start last : ObjectId}
    (route : TransGen (heap.setLink id prototype).Onward start last) :
    TransGen heap.Onward start last ∨
      (heap.setLink id prototype).Route start id ∧
        TransGen (heap.setLink id prototype).Onward id last := by
  induction route with
  | single onward =>
      by_cases same : start = id
      · subst same
        exact .inr ⟨.refl, .single onward⟩
      · exact .inl (.single ((onward_setLink_of_ne same).mp onward))
  | @tail middle last before onward ih =>
      by_cases same : middle = id
      · subst same
        exact .inr ⟨before.to_reflTransGen, .single onward⟩
      · rcases ih with direct | ⟨there, further⟩
        · exact .inl (direct.tail ((onward_setLink_of_ne same).mp onward))
        · exact .inr ⟨there, further.tail onward⟩

/-- A link that is admitted closes no loop, or closes one through a proxy. -/
theorem Loopless.setLink (loopless : heap.Loopless) (sound : heap.Sound law)
    (present : id.index < heap.size) (ordinary : (heap.object id).proxy? = none)
    {prototype : Option ObjectId} (admitted : heap.admitsLink id prototype = true) :
    (heap.setLink id prototype).Loopless ∨
      ∃ next, prototype = some next ∧ heap.ClosesLoop id next := by
  by_cases closes : TransGen (heap.setLink id prototype).Onward id id
  · refine .inr ?_
    obtain ⟨next, rfl, route⟩ :=
      (loops_setLink_iff present (target?_of_ordinary ordinary)).mp closes
    refine ⟨next, rfl, ordinary, admitted, ?_⟩
    rcases (admitsLink_iff sound.acyclic sound.bare).mp admitted with same | ⟨_, apart⟩
    · have onward : heap.Onward id next := onward_of_links sound.bare same
      exact absurd (TransGen.head' onward route) (loopless id)
    · exact (above_or_passesProxy route).resolve_left (apart next rfl)
  · refine .inl fun met cycle => ?_
    rcases transGen_onward_setLink cycle with direct | ⟨there, further⟩
    · exact loopless met direct
    · exact closes (further.trans_left there)

/-- A change closes no loop, unless it is an admitted link that closes one through a proxy. -/
theorem Change.loopless (changed : heap.Change law after) (sound : heap.Sound law)
    (loopless : heap.Loopless) : after.Loopless ∨
      ∃ id prototype, heap.ClosesLoop id prototype ∧ after = heap.setLink id (some prototype) := by
  cases changed with
  | grow grown => exact .inl (loopless.grow sound grown)
  | link present ordinary admitted _ =>
      rcases loopless.setLink sound present ordinary admitted with still | ⟨next, rfl, closes⟩
      · exact .inl still
      · exact .inr ⟨_, next, closes, rfl⟩
  | remove =>
      refine .inl (loopless.of_onward_eq fun other => onward?_modify _ other ?_ ?_) <;>
        · intro object
          unfold Object.removeProperty
          split <;> rfl
  | _ => exact .inl (loopless.of_onward_eq fun other => onward?_modify _ other (fun _ => rfl) fun _ => rfl)

end Heap

namespace State

variable {law : Law} {before after state : State}

/-- The state with another prototype link. -/
def relinked (state : State) (id prototype : ObjectId) : State :=
  { state with heap := state.heap.setLink id (some prototype) }

theorem Change.loopless (changed : before.Change law after) (sound : before.Sound law)
    (loopless : before.heap.Loopless) : after.heap.Loopless ∨
      ∃ id prototype, before.heap.ClosesLoop id prototype ∧ after = before.relinked id prototype := by
  cases changed with
  | heap changed =>
      rcases changed.loopless sound.heap loopless with still | ⟨id, prototype, closes, rfl⟩
      · exact .inl still
      · exact .inr ⟨id, prototype, closes, rfl⟩
  | _ => exact .inl loopless

theorem leads_of_changes (changes : ReflTransGen (Change law) before after)
    (sound : before.Sound law) : before.Leads law after := by
  induction changes with
  | refl => exact .refl sound
  | tail _ changed ih => exact ih.trans (.single ih.sound changed)

/-- Somewhere on the way to a heap with a loop, an admitted link closed one through a proxy. -/
theorem exists_closing (changes : ReflTransGen (Change law) before after) (sound : before.Sound law)
    (loopless : before.heap.Loopless) (loops : ¬ after.heap.Loopless) :
    ∃ earlier id prototype, before.Leads law earlier ∧ earlier.heap.ClosesLoop id prototype ∧
      (earlier.relinked id prototype).Leads law after := by
  induction changes with
  | refl => exact absurd loopless loops
  | @tail middle last changes changed ih =>
      have leads := leads_of_changes changes sound
      by_cases still : middle.heap.Loopless
      · rcases changed.loopless leads.sound still with straight | ⟨id, prototype, closes, rfl⟩
        · exact absurd straight loops
        · exact ⟨middle, id, prototype, leads, closes, .refl (changed.sound leads.sound)⟩
      · obtain ⟨earlier, id, prototype, led, closes, further⟩ := ih still
        exact ⟨earlier, id, prototype, led, closes, further.trans (.single leads.sound changed)⟩

end State

/-- In every state that a session reaches, the walks from an object end exactly if its route has no loop,
and every loop passes a proxy. A prototype link is accepted unless it is refused for its stored links, and
then closes a loop exactly when the route of the prototype comes to its holder; each loop was closed in
this way, by a link whose prototype came to its holder through a proxy. -/
theorem loops_closed_through_proxies (profile : Profile) {state : State}
    (reached : (Session.start profile).state.Reaches .driver state) :
    (∀ id, state.heap.WalksEnd id ↔ ¬ state.heap.Looped id) ∧
    (∀ id, TransGen state.heap.Onward id id → state.heap.PassesProxy id id ∧
      ∃ earlier holder prototype, (Session.start profile).state.Leads .driver earlier ∧
        earlier.heap.ClosesLoop holder prototype ∧
        (earlier.relinked holder prototype).Leads .driver state) ∧
    ∀ engine id prototype, id.index < state.heap.size → (state.heap.object id).proxy? = none →
      ¬ state.heap.Refuses id (some prototype) →
        Run.setPrototype id (some prototype) engine state = .done true (state.relinked id prototype) ∧
          (TransGen (state.relinked id prototype).heap.Onward id id ↔
            state.heap.Route prototype id) := by
  have fresh := Session.start_sound .driver profile
  have leads := reached.leads fresh
  have sound := leads.sound.heap
  refine ⟨fun id => sound.walksEnd_iff, fun id cycle => ⟨sound.acyclic.passesProxy cycle, ?_⟩, ?_⟩
  · have founded := Realm.founds_heap .driver profile
    exact State.exists_closing leads.changes fresh founded.loopless fun loopless => loopless id cycle
  · intro engine id prototype present ordinary admits
    rw [← Heap.admitsLink_eq_false_iff sound.acyclic sound.bare, Bool.not_eq_false] at admits
    refine ⟨by rw [Run.setPrototype_apply ordinary, if_pos admits]; rfl, ?_⟩
    refine (Heap.loops_setLink_iff present (Heap.target?_of_ordinary ordinary)).trans ?_
    simp

/-- Steps that make an object with a proxy in front of it, and the proxy the prototype of the object. -/
def loopSteps : List Script.Step :=
  [.perform (.create .object) [] { result := some "target" },
    .perform (.create .object) [] { result := some "handler" },
    .perform (.create (.globalProperty "Proxy")) [] { result := some "Proxy" },
    .perform (.onFunction .construct) [.named "Proxy", .named "target", .named "handler"]
      { result := some "proxy" },
    .perform (.onPrototype .setRawPrototype) [.named "target", .named "proxy"] {}]

/-- The state in which a session has an object whose prototype is a proxy of the object. -/
@[irreducible] def loopState : State :=
  let start := { (Session.start Preset.modern.profile).state with scopes := #[{}] }
  (Session.runSteps ⟨0⟩ loopSteps start ∅).2

theorem loopState_reached : (Session.start Preset.modern.profile).state.Reaches .driver loopState := by
  rw [loopState]
  exact Session.start_reaches Preset.modern.profile (by simp [loopSteps])

/-- The object and its proxy lead to each other, and neither has a property `y`. -/
theorem loopState_made :
    let target : ObjectId := ⟨(Realm.heap Preset.modern.profile).size⟩
    let proxy : ObjectId := ⟨target.index + 2⟩
    loopState.heap.onward? proxy = some target ∧ loopState.heap.onward? target = some proxy ∧
      (loopState.heap.object proxy).proxy?.map Prod.fst = some target ∧
      loopState.heap.has proxy "y" = none := by
  decide +kernel

/-- The loop of this object and its proxy was closed by a link, and walks from the proxy need not end. -/
theorem loopState_closed :
    let proxy : ObjectId := ⟨(Realm.heap Preset.modern.profile).size + 2⟩
    (Session.start Preset.modern.profile).state.Reaches .driver loopState ∧
      TransGen loopState.heap.Onward proxy proxy ∧ ¬ loopState.heap.WalksEnd proxy ∧
      ∃ earlier holder prototype, (Session.start Preset.modern.profile).state.Leads .driver earlier ∧
        earlier.heap.ClosesLoop holder prototype ∧
        (earlier.relinked holder prototype).Leads .driver loopState := by
  intro proxy
  obtain ⟨first, second, _, _⟩ := loopState_made
  have cycle : TransGen loopState.heap.Onward proxy proxy := .tail (.single first) second
  obtain ⟨ends, origin, _⟩ := loops_closed_through_proxies _ loopState_reached
  refine ⟨loopState_reached, cycle, fun endless => ?_, (origin proxy cycle).2⟩
  exact (ends proxy).mp endless (Heap.looped_of_cycle cycle)

/-- A route that starts at a proxy comes back to it, and a test for a key on this proxy never ends. -/
theorem proxy_route_returns :
    let target : ObjectId := ⟨(Realm.heap Preset.modern.profile).size⟩
    let proxy : ObjectId := ⟨target.index + 2⟩
    (Session.start Preset.modern.profile).state.Reaches .driver loopState ∧
      loopState.heap.StandsFor proxy target ∧ loopState.heap.Links target proxy ∧
      ∀ engine, Run.has proxy "y" engine loopState = .exhausted := by
  intro target proxy
  obtain ⟨_, second, proxied, endless⟩ := loopState_made
  refine ⟨loopState_reached, proxied, ?_, fun engine => ?_⟩
  · have ordinary : (loopState.heap.object target).target? = none := by decide +kernel
    exact (Heap.onward_iff_links ordinary).mp second
  · rw [Run.has, Run.follow, endless]

end ClassLowering
