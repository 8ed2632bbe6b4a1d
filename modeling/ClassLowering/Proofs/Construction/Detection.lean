import ClassLowering.Proofs.Composition.Basic
import ClassLowering.Proofs.Run.SuperCall

/-!
# Finding out about native construction

In an untouched realm the search for a native `Reflect.construct` has the answer of the profile. A search
that has to try constructs a boxed boolean; what it makes on the way is left behind.
-/

namespace ClassLowering

/-- A boxed boolean that inherits from a prototype object. -/
def Object.boxing (truth : Bool) (prototype : ObjectId) : Object :=
  { prototype := some prototype, kind := .boolean truth }

/-- What `Reflect.construct` gives for `Boolean`, some arguments, and a new target with a prototype
object. -/
def Profile.constructedBoolean (profile : Profile) (arguments : List Value) (prototype : ObjectId) :
    Object :=
  if profile.reflect = .native then
    .boxing (arguments[0]?.getD Value.undefined).isTruthy prototype
  else .inheriting (some prototype)

namespace Realm

variable {profile : Profile} {heap : Heap}

/-- The global `Reflect` and its function that constructs. -/
structure ReflectFound (profile : Profile) (heap : Heap) (reflect function : ObjectId) : Prop where
  global : heap.global? "Reflect" = some (.object reflect)
  construct : heap.plainRead? reflect "construct" = some (.object function)
  builtin : heap.builtin? (.object function) = some (.method, reflectConstructor profile.reflect)
  sham : heap.plainRead? function "sham" =
    some (if profile.reflect = .sham then .boolean true else .undefined)

/-- The global `Boolean` and the function that asks a boxed boolean for its value. -/
structure BooleanFound (heap : Heap) (boolean prototype : ObjectId) (valueOf : Value) : Prop where
  global : heap.global? "Boolean" = some (.object boolean)
  builtin : heap.builtin? (.object boolean) = some (.builtinConstructor, .booleanConstructor)
  passes : heap.Passes "__proto__" boolean Intrinsic.functionPrototype.id
  instances : heap.plainRead? boolean "prototype" = some (.object prototype)
  prototype_passes : heap.Passes "__proto__" prototype Intrinsic.objectPrototype.id
  inherited : heap.plainRead? prototype "valueOf" = some valueOf
  asks : heap.builtin? valueOf = some (.method, .booleanValueOf)

theorem reflectConstructor_of_imitated {support : ReflectSupport} (imitated : support ≠ .native) :
    reflectConstructor support = .reflectConstructPolyfill := by
  cases support <;> first | rfl | exact absurd rfl imitated

theorem object_of_builtin? {value : Value} {found : FunctionKind × Builtin}
    (builtin : heap.builtin? value = some found) : ∃ id, value = .object id := by
  obtain ⟨id, _, _, same, _⟩ := Heap.function?_of_builtin? builtin
  exact ⟨id, same⟩

theorem passes_of_passesTo? {id next : ObjectId} {key : PropertyKey}
    (found : heap.passesTo? (some (.object id)) key = some next) : heap.Passes key id next := by
  unfold Heap.passesTo? at found
  dsimp only at found
  split at found
  · cases found
  · next passing =>
    rw [Object.hasOwn_eq_isSome, Bool.or_eq_true, not_or] at passing
    obtain ⟨ordinary, missing⟩ := passing
    exact ⟨Option.not_isSome_iff_eq_none.mp ordinary, Option.not_isSome_iff_eq_none.mp missing, found⟩

theorem Offers.reflect_found (offers : Offers profile heap) (present : profile.reflect ≠ .absent) :
    ∃ reflect function, ReflectFound profile heap reflect function := by
  obtain ⟨value, read, builtin⟩ := Option.bind_eq_some_iff.mp (offers.reflectConstruct present)
  obtain ⟨function, rfl⟩ := object_of_builtin? builtin
  obtain ⟨reflect, global, construct⟩ := Heap.readFrom?_eq_some read
  have sham := offers.sham present
  rw [read] at sham
  exact ⟨reflect, function, global, construct, builtin, sham⟩

theorem Offers.boolean_found (offers : Offers profile heap) :
    ∃ boolean prototype valueOf, BooleanFound heap boolean prototype valueOf := by
  obtain ⟨value, global, builtin⟩ := Option.bind_eq_some_iff.mp offers.boolean
  obtain ⟨boolean, rfl⟩ := object_of_builtin? builtin
  obtain ⟨valueOf, read, asks⟩ := Option.bind_eq_some_iff.mp offers.booleanValueOf
  obtain ⟨prototype, above, inherited⟩ := Heap.readFrom?_eq_some read
  obtain ⟨id, same, instances⟩ := Heap.readFrom?_eq_some above
  cases global.symm.trans same
  have passes := offers.boolean_passes
  have prototype_passes := offers.booleanPrototype_passes
  have first : heap.readFrom? (some (.object boolean)) "prototype" = some (.object prototype) :=
    instances
  rw [global] at passes
  rw [global, first] at prototype_passes
  exact ⟨boolean, prototype, valueOf, global, builtin, passes_of_passesTo? passes, instances,
    passes_of_passesTo? prototype_passes, inherited, asks⟩

/-- All untouched heaps of a profile have the same `Reflect`. -/
theorem reflect_found (present : profile.reflect ≠ .absent) :
    ∃ reflect function, ∀ heap, Untouched profile heap →
      ReflectFound profile heap reflect function := by
  obtain ⟨reflect, function, fresh⟩ := (heap_offers profile).reflect_found present
  refine ⟨reflect, function, fun heap untouched => ?_⟩
  obtain ⟨_, _, found⟩ := untouched.offers.reflect_found present
  have global : heap.global? "Reflect" = (Realm.heap profile).global? "Reflect" :=
    untouched.global?_eq (by decide)
  have construct := untouched.reflectConstruct?_eq
  rw [Heap.reflectConstruct?, Heap.reflectConstruct?, found.global, fresh.global] at construct
  rw [found.global, fresh.global] at global
  cases global
  cases (found.construct.symm.trans construct).trans fresh.construct
  exact found

/-- All untouched heaps of a profile have the same `Boolean`. -/
theorem boolean_found (profile : Profile) :
    ∃ boolean prototype valueOf, ∀ heap, Untouched profile heap →
      BooleanFound heap boolean prototype valueOf := by
  obtain ⟨boolean, prototype, valueOf, fresh⟩ := (heap_offers profile).boolean_found
  refine ⟨boolean, prototype, valueOf, fun heap untouched => ?_⟩
  obtain ⟨_, _, _, found⟩ := untouched.offers.boolean_found
  have global : heap.global? "Boolean" = (Realm.heap profile).global? "Boolean" :=
    untouched.global?_eq (by decide)
  have instances : heap.readFrom? (heap.global? "Boolean") "prototype" =
      (Realm.heap profile).readFrom? (heap.global? "Boolean") "prototype" := by
    rw [global]
    exact untouched.readFrom?_eq (within_global? profile _) (by decide)
  have inherited := untouched.booleanValueOf?_eq
  rw [Heap.booleanValueOf?, Heap.booleanValueOf?] at inherited
  rw [found.global, fresh.global] at global
  cases global
  rw [found.global] at instances
  cases (found.instances.symm.trans instances).trans fresh.instances
  have first : heap.readFrom? (some (.object boolean)) "prototype" = some (.object prototype) :=
    found.instances
  have last : (Realm.heap profile).readFrom? (some (.object boolean)) "prototype" =
    some (.object prototype) := fresh.instances
  rw [found.global, fresh.global, first, last] at inherited
  cases (found.inherited.symm.trans inherited).trans fresh.inherited
  exact found

end Realm

namespace Run

variable {profile : Profile} {state : State} {engine : Engine}

theorem getGlobal_apply {name : String} {value : Value}
    (found : state.heap.global? name = some value) :
    getGlobal name engine state = .done value state := getFor_plain found

/-- Before it constructs, the trial has a new target and an empty list of arguments. -/
theorem tryReflectConstruct_begins (profile : Profile) {boolean : ObjectId}
    (global : state.heap.global? "Boolean" = some (.object boolean)) (engine : Engine)
    (reflect : ObjectId) (function : Value) :
    ∃ probe newTarget prototype list,
      state.Adds profile probe ∧
      probe.heap.MadeFunction idleFunction newTarget prototype ∧
      probe.heap.object list = Build.listObject [] ∧
      tryReflectConstruct reflect function engine state =
        (do
          let boxed ← call function (.object reflect)
            [.object boolean, .object list, .object newTarget]
          let prototype ← getOf (.object boolean) "prototype"
          let valueOf ← getOf prototype "valueOf"
          let _ ← call valueOf boxed []) engine probe := by
  obtain ⟨larger, ran, grown, made⟩ :=
    Build.function_makes state.heap (show idleFunction.kind = .normal from rfl) 0
  let first : State := { state with heap := larger }
  have built : build (.function idleFunction 0) engine state = .done state.heap.next first :=
    build_apply ran
  refine ⟨first.making (Build.listObject []), state.heap.next, ⟨state.heap.size + 1⟩,
    larger.next, ?_, ?_, ?_, ?_⟩
  · exact (State.Adds.of_heap grown).trans (.making first _)
  · exact made.grow (.allocate larger _)
  · exact Heap.object_allocate_next larger _
  · rw [tryReflectConstruct, bind_of_done (getGlobal_apply global), bind_of_done built]
    rfl

/-- A boxed boolean for a new target inherits from the prototype object of that. -/
theorem runBooleanConstructor_apply {callee target prototype : ObjectId} {callable : Callable}
    (ordinary : (state.heap.object target).proxy? = none)
    (instances : state.heap.Holds target "prototype" (.object prototype)) (arguments : List Value) :
    Builtin.runBooleanConstructor { callee, callable, arguments, newTarget := some target } engine
        state =
      .done (.object state.heap.next)
        (state.making (.boxing (arguments[0]?.getD Value.undefined).isTruthy prototype)) := by
  rw [Builtin.runBooleanConstructor]
  exact bind_of_done (instancePrototype_apply ordinary instances _)

theorem truthOf_boxed {id : ObjectId} {truth : Bool}
    (boxed : (state.heap.object id).kind = .boolean truth) (method : String) :
    Builtin.truthOf (.object id) method engine state = .done truth state := by
  rw [Builtin.truthOf, ask_bind, Object.boolean?, boxed]
  rfl

theorem truthOf_unboxed {id : ObjectId} (ordinary : (state.heap.object id).kind = .ordinary)
    (method : String) :
    Builtin.truthOf (.object id) method engine state =
      .failed (.fault (.notABoolean method)) state := by
  rw [Builtin.truthOf, ask_bind, Object.boolean?, ordinary]
  rfl

variable {boolean prototype : ObjectId} {valueOf : Value}

/-- The end of the trial: the value of what was constructed. -/
theorem ask_boxed_value (found : Realm.BooleanFound state.heap boolean prototype valueOf)
    (boxed : ObjectId) (depth : Nat) :
    (do
      let prototype ← getOf (.object boolean) "prototype"
      let valueOf ← getOf prototype "valueOf"
      let _ ← call valueOf (.object boxed) [] : Run Unit) (Engine.ofDepth (depth + 1)) state =
      (do let _ ← Builtin.truthOf (.object boxed) "valueOf" : Run Unit) (Engine.ofDepth depth)
        state := by
  have above : getOf (.object boolean) "prototype" (Engine.ofDepth (depth + 1)) state = _ :=
    getFor_plain found.instances
  have below : getOf (.object prototype) "valueOf" (Engine.ofDepth (depth + 1)) state = _ :=
    getFor_plain found.inherited
  obtain ⟨_, _, _, called⟩ := call_builtin found.asks depth
  rw [bind_of_done above, bind_of_done below, bind_apply, called]
  simp only [Builtin.run, Builtin.runBooleanValueOf, bind_apply]
  cases Builtin.truthOf (.object boxed) "valueOf" (Engine.ofDepth depth) state <;> rfl

/-- `Reflect.construct` gives a new object for `Boolean` and a new target: a boxed boolean where it is
native, and an object of no kind where it is imitated. -/
theorem call_reflectConstruct {function : Value} {arguments : List Value}
    (builtin : state.heap.builtin? function = some (.method, Realm.reflectConstructor profile.reflect))
    (untouched : state.Untouched profile)
    (found : ∀ heap, Realm.Untouched profile heap → Realm.BooleanFound heap boolean prototype valueOf)
    {target instances list : ObjectId} {callable : Callable}
    (targets : state.heap.Constructs target callable)
    (held : state.heap.Holds target "prototype" (.object instances))
    (listed : state.heap.object list = Build.listObject arguments)
    (few : arguments.length ≤ maxArguments) (this : Value) (depth : Nat) :
    call function this [.object boolean, .object list, .object target]
        (Engine.ofDepth (depth + 2)) state =
      .done (.object state.heap.next)
        (state.making (profile.constructedBoolean arguments instances)) := by
  obtain ⟨_, _, _, called⟩ := call_builtin builtin (depth + 1)
  obtain ⟨constructor, function, kind, code⟩ :=
    Heap.kind_of_builtin? (found _ untouched.heap).builtin
  have constructs : state.heap.Constructs boolean constructor := ⟨function, by rw [kind]; exact nofun⟩
  have ordinary := Heap.proxy?_of_function targets.kind
  rw [called, Profile.constructedBoolean]
  split
  · next native =>
    rw [native]
    refine (Builtin.runReflectConstruct_apply constructs targets listed few).trans ?_
    rw [runConstructor, if_pos kind]
    change Frame.run _ _ _ = _
    rw [Frame.run, code]
    exact runBooleanConstructor_apply ordinary held arguments
  · next imitated =>
    rw [Realm.reflectConstructor_of_imitated imitated]
    refine (Builtin.runReflectConstructPolyfill_apply constructs targets listed few held).trans ?_
    have kept : (state.making (.inheriting (some instances))).Untouched profile :=
      untouched.adds (.making ..)
    obtain ⟨_, _, _, called⟩ := call_builtin (found _ kept.heap).builtin depth
    -- Without a new target, `Boolean` gives a truth value that is no object.
    have truth : call (.object boolean) (.object state.heap.next) arguments
        (Engine.ofDepth (depth + 1)) (state.making (.inheriting (some instances))) =
          .done (.boolean (arguments[0]?.getD Value.undefined).isTruthy)
            (state.making (.inheriting (some instances))) := called _ _
    rw [bind_of_done truth]
    rfl

/-- The trial succeeds exactly on a native `Reflect.construct`; either way it only makes objects. -/
theorem attempt_tryReflectConstruct (untouched : state.Untouched profile)
    {reflect function : ObjectId}
    (found : ∀ heap, Realm.Untouched profile heap → Realm.ReflectFound profile heap reflect function)
    (depth : Nat) :
    ∃ after, state.Adds profile after ∧
      tryReflectConstruct reflect (.object function) (Engine.ofDepth (depth + 2)) state =
        if profile.reflect = .native then .done () after
        else .failed (.fault (.notABoolean "valueOf")) after := by
  obtain ⟨boolean, booleans, valueOf, booleanFound⟩ := Realm.boolean_found profile
  obtain ⟨probe, newTarget, prototype, list, added, made, listed, begun⟩ :=
    tryReflectConstruct_begins profile (booleanFound _ untouched.heap).global
      (Engine.ofDepth (depth + 2)) reflect (.object function)
  have probed := untouched.adds added
  have constructed := call_reflectConstruct (found _ probed.heap).builtin probed booleanFound
    ⟨made.kind, nofun⟩ made.instances listed (Nat.zero_le _) (.object reflect) depth
  let object := profile.constructedBoolean [] prototype
  have whole : state.Adds profile (probe.making object) := added.trans (.making probe object)
  have kept := untouched.adds whole
  refine ⟨probe.making object, whole, ?_⟩
  rw [begun, bind_of_done constructed]
  refine (ask_boxed_value (booleanFound _ kept.heap) _ (depth + 1)).trans ?_
  have held : (probe.making object).heap.object probe.heap.next = object :=
    Heap.object_allocate_next ..
  split
  · next native =>
    have boxed : object = .boxing false prototype := if_pos native
    exact bind_of_done (truthOf_boxed (by rw [held, boxed]; rfl) _)
  · next imitated =>
    have unboxed : object = .inheriting (some prototype) := if_neg imitated
    exact bind_of_failed (truthOf_unboxed (by rw [held, unboxed]; rfl) _)

/-- A host with proxies is trusted; any other exactly if it constructs natively. -/
theorem trustsConstruct_apply (untouched : state.Untouched profile) {reflect function : ObjectId}
    (found : ∀ heap, Realm.Untouched profile heap → Realm.ReflectFound profile heap reflect function)
    (depth : Nat) :
    ∃ after, state.Adds profile after ∧
      trustsConstruct reflect (.object function) (Engine.ofDepth (depth + 2)) state =
        if profile.proxy = true ∨ profile.reflect = .native then .done true after
        else .failed (.fault (.notABoolean "valueOf")) after := by
  obtain ⟨proxy, global, callable⟩ := Option.map_eq_some_iff.mp untouched.heap.offers.proxy
  rw [trustsConstruct, bind_of_done (getGlobal_apply global), ask_bind, callable]
  by_cases offered : profile.proxy = true
  · exact ⟨state, .refl state, by rw [if_pos offered, if_pos (.inl offered)]; rfl⟩
  · obtain ⟨after, added, tried⟩ := attempt_tryReflectConstruct untouched found depth
    refine ⟨after, added, ?_⟩
    rw [if_neg offered, bind_apply, tried]
    by_cases native : profile.reflect = .native
    · rw [if_pos native, if_pos (.inr native)]
      rfl
    · rw [if_neg native, if_neg (not_or.mpr ⟨offered, native⟩)]

theorem constructsNatively_eq (present : profile.reflect ≠ .absent) (serious : profile.reflect ≠ .sham) :
    profile.constructsNatively = decide (profile.proxy = true ∨ profile.reflect = .native) := by
  unfold Profile.constructsNatively
  cases support : profile.reflect with
  | absent => exact absurd support present
  | sham => exact absurd support serious
  | native => simp
  | polyfill => simp

/-- The search finds what the profile says, or fails where this is nothing. -/
theorem detectNativeConstruct_apply (untouched : state.Untouched profile) (depth : Nat) :
    ∃ after, state.Adds profile after ∧
      (detectNativeConstruct (Engine.ofDepth (depth + 2)) state =
          .done profile.constructsNatively after ∨
        profile.constructsNatively = false ∧ ∃ failure,
          detectNativeConstruct (Engine.ofDepth (depth + 2)) state = .failed failure after) := by
  have offers := untouched.heap.offers
  by_cases present : profile.reflect = .absent
  · refine ⟨state, .refl state, .inl ?_⟩
    rw [detectNativeConstruct, bind_of_done (getGlobal_apply (offers.reflectAbsent present)),
      Profile.constructsNatively, present]
    rfl
  · obtain ⟨reflect, function, found⟩ := Realm.reflect_found present
    have reflectFound := found _ untouched.heap
    have construct : get reflect "construct" (Engine.ofDepth (depth + 2)) state =
      .done (.object function) state := getFor_plain reflectFound.construct
    have sham : getOf (.object function) "sham" (Engine.ofDepth (depth + 2)) state = .done _ state :=
      getFor_plain reflectFound.sham
    have held : ¬ (!(Value.object function).isTruthy) = true := Bool.false_ne_true
    rw [detectNativeConstruct, bind_of_done (getGlobal_apply reflectFound.global)]
    dsimp only
    rw [bind_of_done construct, respectsNewTarget, if_neg held, bind_of_done sham]
    by_cases flagged : profile.reflect = .sham
    · refine ⟨state, .refl state, .inl ?_⟩
      rw [if_pos flagged, Profile.constructsNatively, flagged]
      rfl
    · obtain ⟨after, added, trusted⟩ := trustsConstruct_apply untouched found depth
      refine ⟨after, added, ?_⟩
      rw [if_neg flagged, if_neg (show ¬ Value.undefined.isTruthy = true from Bool.false_ne_true),
        trusted, constructsNatively_eq present flagged]
      split
      · next trusts => exact .inl (by rw [decide_eq_true trusts])
      · next doubts => exact .inr ⟨decide_eq_false doubts, _, rfl⟩

theorem keepNativeConstruct_apply (agree : state.caches.Agree profile) :
    keepNativeConstruct profile.constructsNatively engine state =
      .done profile.constructsNatively
        (state.knowing { state.caches with nativeConstruct := some profile.constructsNatively }) := by
  have kept : state.caches.nativeConstruct.getD profile.constructsNatively =
      profile.constructsNatively := by
    cases cached : state.caches.nativeConstruct with
    | none => rfl
    | some found => exact agree.nativeConstruct found cached
  rw [keepNativeConstruct, kept]
  rfl

/-- Whether the host constructs natively is as the profile says, and is known from then on. -/
theorem hasNativeConstruct_apply (untouched : state.Untouched profile) (depth : Nat) :
    ∃ after, state.Adds profile after ∧
      hasNativeConstruct (Engine.ofDepth (depth + 2)) state =
        .done profile.constructsNatively after := by
  cases cached : state.caches.nativeConstruct with
  | some found =>
      refine ⟨state, .refl state, ?_⟩
      rw [← untouched.caches.nativeConstruct found cached]
      exact hasNativeConstruct_known cached
  | none =>
      obtain ⟨after, added, detected⟩ := detectNativeConstruct_apply untouched depth
      have agree := added.caches untouched.caches
      refine ⟨_, added.trans (.knowing fun before => before.with_nativeConstruct), ?_⟩
      rw [hasNativeConstruct_unknown cached]
      rcases detected with found | ⟨nothing, failure, failed⟩
      · exact (bind_of_done (attempt_of_done found)).trans (keepNativeConstruct_apply agree)
      · have kept : keepNativeConstruct profile.constructsNatively (Engine.ofDepth (depth + 2)) after =
          _ := keepNativeConstruct_apply agree
        rw [nothing] at kept ⊢
        exact (bind_of_done (attempt_of_failed failed)).trans kept

end Run

end ClassLowering
