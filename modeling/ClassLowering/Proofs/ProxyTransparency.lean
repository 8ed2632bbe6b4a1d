import ClassLowering.Proofs.Composition.Depth
import ClassLowering.Proofs.Heap.Shortcut

/-!
# Transparent proxies

A proxy whose handler gives no trap acts as the object behind it: reads, assignments, tests, prototype
links and instance checks have the result and the effect that they have there. Where such a proxy is a
prototype, what stands below finds what it would find if the object behind the proxy were the prototype.
-/

namespace ClassLowering

open Relation

/-- A chain of proxies from one object to another that is none. The handlers give no trap, and give that
without an effect. -/
inductive State.Untrapped (state : State) : ObjectId → ObjectId → Prop
  | ordinary {id : ObjectId} (ordinary : (state.heap.object id).proxy? = none) : Untrapped state id id
  | proxy {id next handler target : ObjectId} {trap : Value}
      (proxied : (state.heap.object id).proxy? = some (next, handler))
      (reads : (Run.get handler "get").Ends state (.done trap state)) (nullish : trap.isNullish = true)
      (further : Untrapped state next target) : Untrapped state id target

namespace State.Untrapped

variable {state : State} {id target : ObjectId}

theorem target_ordinary (untrapped : state.Untrapped id target) :
    (state.heap.object target).proxy? = none := by
  induction untrapped with
  | ordinary ordinary => exact ordinary
  | proxy _ _ _ _ ih => exact ih

theorem standsFor (untrapped : state.Untrapped id target) :
    ReflTransGen state.heap.StandsFor id target := by
  induction untrapped with
  | ordinary _ => exact .refl
  | proxy proxied _ _ _ ih =>
      refine .head ?_ ih
      rw [Heap.StandsFor, Object.target?, proxied]
      rfl

end State.Untrapped

namespace Run

variable {state : State} {id next handler target start : ObjectId} {key : PropertyKey}
  {receiver trap : Value} {found : Lookup} {outcome : Outcome Value}

/-! ## Reads of proxies without traps -/

/-- A read that moves on is a read of the next object, for the same receiver. -/
theorem getFor_of_moves (moved : Heap.Moves (state.heap.lookupStride key) id next) (engine : Engine) :
    getFor id key receiver engine state = getFor next key receiver engine state := by
  have same : state.heap.lookup id key = state.heap.lookup next key :=
    Heap.walk_of_moves (Heap.lookup_inside _ key) moved
  rw [getFor_eq, getFor_eq, bind_apply, bind_apply, follow, follow, same]

section Proxied

variable (proxied : (state.heap.object id).proxy? = some (next, handler))
include proxied

variable (nullish : trap.isNullish = true)
include nullish

/-- Where the engine suffices for the trap, the read goes to the target. -/
theorem getFor_handed_on {depth : Nat}
    (reads : get handler "get" (Engine.ofDepth depth) state = .done trap state) :
    getFor id key receiver (Engine.ofDepth (depth + 1)) state =
      getFor next key receiver (Engine.ofDepth depth) state := by
  have asked : read handler "get" (.object handler) (Engine.ofDepth (depth + 1)) state =
      .done trap state := reads
  rw [getFor_of_proxy proxied]
  refine (bind_of_done asked).trans ?_
  rw [if_pos nullish]
  rfl

variable (reads : (get handler "get").Ends state (.done trap state))
include reads

/-- A read that ends has asked for the trap and has gone on at the target, with one call less. -/
theorem getFor_descends {depth : Nat}
    (ended : getFor id key receiver (Engine.ofDepth depth) state ≠ .exhausted) :
    ∃ less, less < depth ∧ getFor id key receiver (Engine.ofDepth depth) state =
      getFor next key receiver (Engine.ofDepth less) state := by
  rw [getFor_of_proxy proxied] at ended
  cases depth with
  | zero => exact absurd (bind_of_exhausted rfl) ended
  | succ depth =>
      have asked : get handler "get" (Engine.ofDepth depth) state ≠ .exhausted := fun exhausted =>
        ended (bind_of_exhausted exhausted)
      have answered := get_composed.ends_unique ⟨asked, depth, rfl⟩ reads
      exact ⟨depth, Nat.lt_succ_self _, getFor_handed_on proxied nullish answered⟩

/-- The proxy and its target are read with the same results. -/
theorem getFor_ends_iff_next :
    (getFor id key receiver).Ends state outcome ↔ (getFor next key receiver).Ends state outcome := by
  constructor
  · rintro ⟨ended, depth, rfl⟩
    obtain ⟨less, _, same⟩ := getFor_descends proxied nullish reads ended
    exact ⟨ended, less, same.symm⟩
  · intro ends
    obtain ⟨ended, depth, from_there⟩ := (getFor_composed receiver).ends_iff.mp ends
    obtain ⟨_, more, answers⟩ := get_composed.ends_iff.mp reads
    have handed : getFor id key receiver (Engine.ofDepth (max depth more + 1)) state = _ :=
      getFor_handed_on proxied nullish (answers _ (Nat.le_max_right depth more))
    exact ⟨ended, _, handed.trans (from_there _ (Nat.le_max_left depth more))⟩

end Proxied

theorem getFor_ends_iff (untrapped : state.Untrapped id target) :
    (getFor id key receiver).Ends state outcome ↔ (getFor target key receiver).Ends state outcome := by
  induction untrapped with
  | ordinary _ => exact Iff.rfl
  | proxy proxied reads nullish _ ih => exact (getFor_ends_iff_next proxied nullish reads).trans ih

/-- A read of such a proxy that ends reads the object behind it with fewer calls. -/
theorem getFor_less (proxied : (state.heap.object id).proxy? ≠ none)
    (untrapped : state.Untrapped id target) {depth : Nat}
    (ended : getFor id key receiver (Engine.ofDepth depth) state ≠ .exhausted) :
    ∃ less, less < depth ∧ getFor id key receiver (Engine.ofDepth depth) state =
      getFor target key receiver (Engine.ofDepth less) state := by
  induction untrapped generalizing depth with
  | ordinary ordinary => exact absurd ordinary proxied
  | @proxy id next handler target trap this reads nullish further ih =>
      obtain ⟨less, lt, same⟩ := getFor_descends this nullish reads ended
      by_cases again : (state.heap.object next).proxy? = none
      · cases further with
        | ordinary _ => exact ⟨less, lt, same⟩
        | proxy other _ _ _ =>
            rw [again] at other
            cases other
      · obtain ⟨least, lt', same'⟩ := ih again (same ▸ ended)
        exact ⟨least, Nat.lt_trans lt' lt, same.trans same'⟩

/-! ## Reads from below a proxy -/

section Below

variable {holder : ObjectId} (bare : state.heap.ProxiesBare) (links : state.heap.Links holder id)
  (untrapped : state.Untrapped id target)
include bare links untrapped

/-- What is found with the shortcut past a proxy without traps is answered. -/
theorem getFor_ends_iff_answer
    (ended : (state.heap.through holder target).lookup start key = some found) :
    (getFor start key receiver).Ends state outcome ↔ (answer key receiver found).Ends state outcome := by
  have shortcut : Heap.Shortcut (state.heap.lookupStride key)
      ((state.heap.through holder target).lookupStride key) holder id target :=
    Heap.lookup_shortcut bare links
  obtain ⟨last, reaches, finished⟩ := Heap.walkFor_finishes ended
  clear ended
  induction reaches using ReflTransGen.head_induction_on with
  | refl => exact ends_congr (getFor_of_lookup (Heap.walk_of_finish (shortcut.finish_iff.mp finished)))
  | head moved _ ih =>
      refine Iff.trans ?_ ih
      rcases shortcut.moves_or_jumps moved with same | ⟨rfl, rfl, first⟩
      · exact ends_congr (getFor_of_moves same)
      · exact (ends_congr (getFor_of_moves first)).trans (getFor_ends_iff untrapped)

/-- A read does not end if it would not find anything with the shortcut: it comes back to the proxy again
and again. The induction is on the number of calls, since the read goes on behind the proxy with fewer. -/
theorem getFor_exhausted (acyclic : state.heap.Acyclic)
    (proxied : (state.heap.object id).proxy? ≠ none)
    (endless : (state.heap.through holder target).lookup start key = none) (depth : Nat) :
    getFor start key receiver (Engine.ofDepth depth) state = .exhausted := by
  have shortcut : Heap.Shortcut (state.heap.lookupStride key)
      ((state.heap.through holder target).lookupStride key) holder id target :=
    Heap.lookup_shortcut bare links
  have inside := Heap.lookup_inside (state.heap.through holder target) key
  induction depth using Nat.strong_induction_on generalizing start with
  | _ depth fewer =>
      obtain ⟨found, ended⟩ := Heap.lookup_ends acyclic start key
      obtain ⟨last, reaches, finished⟩ := Heap.walkFor_finishes ended
      clear ended
      induction reaches using ReflTransGen.head_induction_on with
      | refl =>
          have answered : (state.heap.through holder target).lookup last key = some found :=
            Heap.walk_of_finish (shortcut.finish_iff.mpr finished)
          rw [endless] at answered
          cases answered
      | head moved _ ih =>
          rw [getFor_of_moves moved]
          rcases shortcut.moves_or_jumped moved with same | ⟨rfl, rfl, jumped⟩
          · exact ih ((Heap.walk_of_moves inside same).symm.trans endless)
          · have behind := (Heap.walk_of_moves inside jumped).symm.trans endless
            by_contra ended
            obtain ⟨less, lt, same⟩ := getFor_less proxied untrapped ended
            exact ended (same.trans (fewer less lt behind))

end Below

end Run

/-! ## Transparency -/

/-- One object acts as another one: reads for any receiver, assignments, tests, prototype links and
instance checks have the same result and the same effect. -/
structure State.ActsAs (state : State) (id target : ObjectId) : Prop where
  get : ∀ key receiver outcome, (Run.getFor id key receiver).Ends state outcome ↔
    (Run.getFor target key receiver).Ends state outcome
  set : ∀ key value engine, Run.set id key value engine state = Run.set target key value engine state
  has : ∀ key engine, Run.has id key engine state = Run.has target key engine state
  prototypeOf : state.heap.prototypeOf id = state.heap.prototypeOf target
  setPrototype : ∀ prototype engine,
    Run.setPrototype id prototype engine state = Run.setPrototype target prototype engine state
  instanceOf : ∀ function depth, Run.instanceOf (.object id) function (Engine.ofDepth depth) state =
    Run.instanceOf (.object target) function (Engine.ofDepth depth) state

/-- An object finds what it finds on another heap, and does the same with it: getters run on the receiver
and setters on the object, and what is written is written on the object. -/
structure State.Finds (state : State) (other : Heap) (id : ObjectId) : Prop where
  get : ∀ key receiver outcome, (Run.getFor id key receiver).Ends state outcome ↔
    ∃ found, other.lookup id key = some found ∧ (Run.answer key receiver found).Ends state outcome
  set : ∀ key value engine, Run.set id key value engine state =
    (Run.follow (fun _ => other.assignment id key) >>= Run.assign id key value) engine state
  has : ∀ key engine, Run.has id key engine state =
    Run.follow (fun _ => other.has id key) engine state

/-- Proxies keep their targets. -/
theorem State.Leads.standsFor {law : Law} {before after : State} (leads : before.Leads law after)
    {id target : ObjectId} (stands : before.heap.StandsFor id target) :
    after.heap.StandsFor id target := by
  have kept := (State.kind_eq_of_changes leads.changes (Heap.index_lt_of_target stands)).2
  rwa [Heap.StandsFor, Object.target?, Object.proxy?, kept]

theorem Heap.Forwards.inherits_eq {heap : Heap} {id behind : ObjectId}
    (forwards : heap.Forwards id behind) (ancestor : ObjectId) :
    heap.inherits id ancestor = heap.inherits behind ancestor := by
  rw [inherits, inherits, forwards.prototypeOf]

/-- An instance check of a proxy is one of the object behind it, also where reading the prototype of the
function runs a script. -/
theorem Run.instanceOf_standsFor {state : State} (sound : state.Sound .driver) {id target : ObjectId}
    (stands : ReflTransGen state.heap.StandsFor id target) (function : Value) (depth : Nat) :
    instanceOf (.object id) function (Engine.ofDepth depth) state =
      instanceOf (.object target) function (Engine.ofDepth depth) state := by
  unfold instanceOf
  rw [ask_bind, ask_bind]
  cases called : state.heap.function? function with
  | none => rfl
  | some pair =>
      obtain ⟨constructor, callable⟩ := pair
      have there := (sound.heap.within_function called).1
      have led : SoundAt .driver (Engine.ofDepth depth) state (get constructor "prototype") :=
        get_sound (Engine.ofDepth_sound .driver depth) sound there
      dsimp only
      rw [bind_apply, bind_apply]
      cases read : get constructor "prototype" (Engine.ofDepth depth) state with
      | done prototype next =>
          have leads := led.leads read
          cases prototype with
          | object prototype =>
              have still : ReflTransGen next.heap.StandsFor id target :=
                ReflTransGen.mono (fun _ _ stands => leads.standsFor stands) _ _ stands
              have same := (Heap.forwards_of_standsFor leads.sound.heap.bare still).inherits_eq prototype
              dsimp only
              rw [follow, follow, same]
          | _ => rfl
      | failed failure next => rfl
      | exhausted => rfl

/-- In every state that a session reaches, a proxy whose handlers give no trap acts as the object behind
it. Where it is the prototype of an object, everything finds what it would find if the object behind the
proxy were the prototype instead, and does the same with it. -/
theorem untrapped_proxies_transparent (profile : Profile) {state : State}
    (reached : (Session.start profile).state.Reaches .driver state) {id target : ObjectId}
    (proxied : (state.heap.object id).proxy? ≠ none) (untrapped : state.Untrapped id target) :
    state.ActsAs id target ∧ ∀ holder, state.heap.Links holder id →
      ∀ start, (state.heap.object start).proxy? = none →
        state.Finds (state.heap.through holder target) start := by
  have sound := (reached.leads (Session.start_sound .driver profile)).sound
  have bare := sound.heap.bare
  have stands := untrapped.standsFor
  have behind := Heap.target?_of_ordinary untrapped.target_ordinary
  have forwards := Heap.forwards_of_standsFor bare stands
  have resolved : state.heap.resolve id = state.heap.resolve target := by
    rw [Heap.resolve_of_standsFor stands behind, Heap.resolve_of_standsFor .refl behind]
  refine ⟨⟨fun key receiver outcome => Run.getFor_ends_iff untrapped, fun key value engine => ?_,
    fun key engine => ?_, forwards.prototypeOf, fun prototype engine => ?_,
    fun function depth => Run.instanceOf_standsFor sound stands function depth⟩, ?_⟩
  · rw [Run.set, Run.set, Run.ask_bind, Run.ask_bind, resolved]
  · rw [Run.has, Run.has, Run.follow, Run.follow, forwards.has]
  · simp only [Run.setPrototype, Run.ask_bind, resolved]
  · intro holder links start ordinary
    refine ⟨fun key receiver outcome => ?_, fun key value engine => ?_, fun key engine => ?_⟩
    · cases found : (state.heap.through holder target).lookup start key with
      | some found =>
          rw [Run.getFor_ends_iff_answer bare links untrapped found]
          simp
      | none =>
          refine iff_of_false (fun ends => ?_) (by simp)
          obtain ⟨ended, depth, same⟩ := ends
          rw [Run.getFor_exhausted bare links untrapped sound.heap.acyclic proxied found] at same
          exact ended same.symm
    · rw [Run.set_eq, Run.ask_bind, Heap.resolve_of_ordinary ordinary, Run.bind_apply, Run.bind_apply,
        Run.follow, Run.follow, Heap.assignment_through bare links stands]
    · rw [Run.has, Run.follow, Run.follow, Heap.has_through bare links stands]

/-- Steps that make an object with one property, a proxy without traps in front of it, and an object whose
prototype is the proxy. -/
def belowSteps : List Script.Step :=
  [.perform (.create .object) [] { result := some "target" },
    .perform (.onProperty .set) [.named "target", .value (.string "x"), .value (.boolean true)] {},
    .perform (.create .object) [] { result := some "handler" },
    .perform (.create (.globalProperty "Proxy")) [] { result := some "Proxy" },
    .perform (.onFunction .construct) [.named "Proxy", .named "target", .named "handler"]
      { result := some "proxy" },
    .perform (.create .object) [.named "proxy"] {}]

/-- The state in which a session has an object below a proxy. -/
@[irreducible] def belowState : State :=
  let start := { (Session.start Preset.modern.profile).state with scopes := #[{}] }
  (Session.runSteps ⟨0⟩ belowSteps start ∅).2

theorem belowState_reached : (Session.start Preset.modern.profile).state.Reaches .driver belowState := by
  rw [belowState]
  exact Session.start_reaches Preset.modern.profile (by simp [belowSteps])

theorem belowState_made :
    let target : ObjectId := ⟨(Realm.heap Preset.modern.profile).size⟩
    let handler : ObjectId := ⟨target.index + 1⟩
    let proxy : ObjectId := ⟨target.index + 2⟩
    let below : ObjectId := ⟨target.index + 3⟩
    (belowState.heap.object proxy).proxy? = some (target, handler) ∧
      belowState.heap.plainRead? handler "get" = some .undefined ∧
      (belowState.heap.object target).proxy? = none ∧
      (belowState.heap.object below).prototype = some proxy ∧
      (belowState.heap.object below).proxy? = none ∧
      (belowState.heap.through below target).lookup below "x" = some (.data (.boolean true)) := by
  decide +kernel

/-- The property of the object behind the proxy is read through the proxy, and from below it. -/
theorem property_read_through :
    let target : ObjectId := ⟨(Realm.heap Preset.modern.profile).size⟩
    let proxy : ObjectId := ⟨target.index + 2⟩
    let below : ObjectId := ⟨target.index + 3⟩
    (Session.start Preset.modern.profile).state.Reaches .driver belowState ∧
      (belowState.heap.object proxy).proxy? ≠ none ∧ belowState.Untrapped proxy target ∧
      (∀ engine, Run.has proxy "x" engine belowState = Run.has target "x" engine belowState) ∧
      (Run.get below "x").Ends belowState (.done (.boolean true) belowState) := by
  intro target proxy below
  obtain ⟨proxied, unread, behind, links, ordinary, found⟩ := belowState_made
  have untrapped : belowState.Untrapped proxy target :=
    .proxy proxied ⟨nofun, 0, Run.getFor_plain unread⟩ rfl (.ordinary behind)
  have isProxy : (belowState.heap.object proxy).proxy? ≠ none := by
    rw [proxied]
    exact Option.some_ne_none _
  obtain ⟨acts, finds⟩ := untrapped_proxies_transparent _ belowState_reached isProxy untrapped
  have reads := (finds below links below ordinary).get "x" (.object below)
    (.done (.boolean true) belowState)
  exact ⟨belowState_reached, isProxy, untrapped, acts.has "x", reads.mpr ⟨_, found, nofun, 0, rfl⟩⟩

end ClassLowering
