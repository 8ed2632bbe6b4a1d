import ClassLowering.Proofs.Heap.Passing
import ClassLowering.Proofs.Realm.Transfer

/-!
# Prototype links in untouched realms

In a state with an untouched realm, what is known about the host is what its profile says. Then both
strategies read and write the stored prototype link of an object from which `__proto__` is looked up on
`Object.prototype`.
-/

namespace ClassLowering

/-- How prototype links are reached on a host: its accessor for them does not count. -/
def Profile.prototypeStrategy (profile : Profile) : PrototypeStrategy :=
  if profile.objectSetPrototypeOf then .standard else .legacy

/-- A host that links prototypes, and reads links by a function of `Object` if it writes them so. -/
structure Profile.Links (profile : Profile) : Prop where
  consistent : profile.objectSetPrototypeOf = true → profile.objectGetPrototypeOf = true
  writable : profile.objectSetPrototypeOf = true ∨ profile.legacyProtoAccessor = true

theorem Profile.Links.readable {profile : Profile} (links : profile.Links) :
    profile.objectGetPrototypeOf = true ∨ profile.legacyProtoAccessor = true :=
  links.writable.imp_left links.consistent

/-- Whether a host constructs natively for a new target. A polyfill passes for it next to proxies. -/
def Profile.constructsNatively (profile : Profile) : Bool :=
  match profile.reflect with
  | .absent | .sham => false
  | .native => true
  | .polyfill => profile.proxy

/-- The state, with more found out about the host. -/
def State.knowing (state : State) (caches : Caches) : State := { state with caches }

@[simp] theorem State.knowing_heap (state : State) (caches : Caches) :
    (state.knowing caches).heap = state.heap := rfl

/-- What a realm has found out is right for its host. -/
structure Caches.Agree (caches : Caches) (profile : Profile) : Prop where
  lookup : ∀ found, caches.lookup = some found → found = profile.prototypeStrategy
  writer : ∀ found, caches.writer = some found → found = profile.prototypeStrategy
  nativeConstruct : ∀ found, caches.nativeConstruct = some found → found = profile.constructsNatively

/-- A state in which the functions of the host are as the realm installed them. -/
structure State.Untouched (profile : Profile) (state : State) : Prop where
  heap : Realm.Untouched profile state.heap
  caches : state.caches.Agree profile

/-- A fresh realm is untouched. -/
theorem Session.start_untouched (profile : Profile) :
    (Session.start profile).state.Untouched profile :=
  ⟨Realm.untouched_heap profile, nofun, nofun, nofun⟩

namespace Caches.Agree

variable {profile : Profile} {caches : Caches}

theorem with_lookup (agree : caches.Agree profile) :
    { caches with lookup := some profile.prototypeStrategy }.Agree profile :=
  ⟨fun _ held => (Option.some.inj held).symm, agree.writer, agree.nativeConstruct⟩

theorem with_writer (agree : caches.Agree profile) :
    { caches with writer := some profile.prototypeStrategy }.Agree profile :=
  ⟨agree.lookup, fun _ held => (Option.some.inj held).symm, agree.nativeConstruct⟩

theorem with_nativeConstruct (agree : caches.Agree profile) :
    { caches with nativeConstruct := some profile.constructsNatively }.Agree profile :=
  ⟨agree.lookup, agree.writer, fun _ held => (Option.some.inj held).symm⟩

end Caches.Agree

namespace Realm

variable {profile : Profile} {heap : Heap}

theorem Untouched.objectPrototype_ordinary (untouched : Untouched profile heap) :
    (heap.object Intrinsic.objectPrototype.id).proxy? = none := by
  rw [untouched.proxy?_eq ((heap_sound profile).intrinsic .objectPrototype)]
  cases proxied : ((Realm.heap profile).object Intrinsic.objectPrototype.id).proxy? with
  | none => rfl
  | some pair =>
      have older := (heap_sound profile).targets Intrinsic.objectPrototype.id pair.1
        (congrArg (Option.map Prod.fst) proxied)
      exact absurd older (Nat.not_lt_zero _)

/-- A heap in which prototype links can be asked for as on a fresh host: the functions of `Object` for links
and the accessor are there as the profile has them. -/
structure ShowsLinks (profile : Profile) (heap : Heap) : Prop where
  getPrototypeOf : (heap.objectFunction? "getPrototypeOf").map heap.builtin? =
    if profile.objectGetPrototypeOf then some (some (.method, .objectGetPrototypeOf)) else none
  setPrototypeOf : (heap.objectFunction? "setPrototypeOf").map heap.builtin? =
    if profile.objectSetPrototypeOf then some (some (.method, .objectSetPrototypeOf)) else none
  linkAccessor : heap.linkAccessor? =
    if profile.legacyProtoAccessor then some (some (.method, .linkGetter), some (.method, .linkSetter))
    else none
  ordinary : (heap.object Intrinsic.objectPrototype.id).proxy? = none

theorem Untouched.showsLinks (untouched : Untouched profile heap) : ShowsLinks profile heap :=
  ⟨untouched.offers.getPrototypeOf, untouched.offers.setPrototypeOf, untouched.offers.linkAccessor,
    untouched.objectPrototype_ordinary⟩

theorem ShowsLinks.prototypeStrategy_eq (shows : ShowsLinks profile heap) :
    heap.prototypeStrategy = profile.prototypeStrategy := by
  have asked := congrArg Option.isSome shows.setPrototypeOf
  rw [Option.isSome_map] at asked
  rw [Heap.prototypeStrategy, Profile.prototypeStrategy, asked]
  cases profile.objectSetPrototypeOf <;> rfl

/-- `Function.prototype` hands `__proto__` on to `Object.prototype`. -/
theorem Offers.functionPrototype_passes (offers : Offers profile heap) :
    heap.Passes "__proto__" Intrinsic.functionPrototype.id Intrinsic.objectPrototype.id :=
  ⟨offers.functionPrototype_ordinary, offers.functionPrototype_missing, offers.functionPrototype⟩

/-- The function that an untouched global `Object` has under a name. -/
theorem objectFunction?_of_offered {name : String} {found : FunctionKind × Builtin}
    (offered : (heap.objectFunction? name).map heap.builtin? = some (some found)) :
    ∃ function, heap.objectFunction? name = some function ∧ heap.builtin? function = some found :=
  Option.map_eq_some_iff.mp offered

theorem ShowsLinks.linkAccessor_held (shows : ShowsLinks profile heap)
    (legacy : profile.legacyProtoAccessor = true) :
    ∃ property getter setter,
      (heap.object Intrinsic.objectPrototype.id).property? "__proto__" = some property ∧
        property.slot = .accessor (some getter) (some setter) ∧
        heap.builtin? getter = some (.method, .linkGetter) ∧
        heap.builtin? setter = some (.method, .linkSetter) := by
  have offered := shows.linkAccessor
  rw [if_pos legacy] at offered
  obtain ⟨property, held, read⟩ := Option.map_eq_some_iff.mp offered
  split at read
  · next getter setter slot =>
    obtain ⟨got, put⟩ := Prod.mk.inj read
    obtain ⟨getter, rfl, got⟩ := Option.bind_eq_some_iff.mp got
    obtain ⟨setter, rfl, put⟩ := Option.bind_eq_some_iff.mp put
    exact ⟨property, getter, setter, held, slot, got, put⟩
  · cases read

theorem Offers.linkAccessor_missing (offers : Offers profile heap)
    (legacy : profile.legacyProtoAccessor = false) :
    (heap.object Intrinsic.objectPrototype.id).property? "__proto__" = none := by
  have offered := offers.linkAccessor
  rw [legacy] at offered
  exact Option.map_eq_none_iff.mp offered

end Realm

namespace State

variable {profile : Profile} {state : State}

/-- A state in which prototype links can be asked for as on a fresh host, and in which nothing else is
known about how to do so. -/
structure ShowsLinks (profile : Profile) (state : State) : Prop where
  heap : Realm.ShowsLinks profile state.heap
  lookup : ∀ found, state.caches.lookup = some found → found = profile.prototypeStrategy

theorem Untouched.showsLinks (untouched : state.Untouched profile) : state.ShowsLinks profile :=
  ⟨untouched.heap.showsLinks, untouched.caches.lookup⟩

/-- The state once it is known how prototype links are read. -/
@[reducible] def knowingLinks (state : State) (profile : Profile) : State :=
  state.knowing { state.caches with lookup := some profile.prototypeStrategy }

end State

/-- Asking again, on a host that may not tell, does not change what is known of a link. -/
theorem Value.ofObject?_told (link : Option ObjectId) (told : Bool) :
    (if (Value.ofObject? link).isTruthy then Value.ofObject? link
      else if told then .ofObject? link else .null) = .ofObject? link := by
  cases link with
  | some prototype => rfl
  | none => cases told <;> rfl

namespace Run

variable {profile : Profile} {state : State} {engine : Engine} {id : ObjectId}

theorem lookupStrategy_apply (shows : state.ShowsLinks profile) :
    lookupStrategy engine state =
      .done profile.prototypeStrategy (state.knowingLinks profile) := by
  have found : state.caches.lookup.getD state.heap.prototypeStrategy = profile.prototypeStrategy := by
    cases held : state.caches.lookup with
    | none => exact shows.heap.prototypeStrategy_eq
    | some strategy => exact shows.lookup strategy held
  rw [lookupStrategy, found]
  rfl

theorem writerStrategy_apply (untouched : state.Untouched profile) :
    writerStrategy engine state = .done profile.prototypeStrategy
      (state.knowing { state.caches with writer := some profile.prototypeStrategy }) := by
  have found : state.caches.writer.getD state.heap.prototypeStrategy = profile.prototypeStrategy := by
    cases held : state.caches.writer with
    | none => exact untouched.heap.showsLinks.prototypeStrategy_eq
    | some strategy => exact untouched.caches.writer strategy held
  rw [writerStrategy, found]
  rfl

theorem prototypeOfValue_apply (ordinary : (state.heap.object id).proxy? = none) :
    prototypeOfValue (.object id) engine state =
      .done (.ofObject? (state.heap.object id).prototype) state := by
  rw [prototypeOfValue, bind_apply, ask, Heap.prototypeOf_of_ordinary ordinary]
  rfl

/-- The function of the host that reads prototype links. -/
theorem call_objectGetPrototypeOf {depth : Nat} {function this : Value}
    (found : state.heap.builtin? function = some (.method, .objectGetPrototypeOf))
    (ordinary : (state.heap.object id).proxy? = none) :
    call function this [.object id] (Engine.ofDepth (depth + 1)) state =
      .done (.ofObject? (state.heap.object id).prototype) state := by
  obtain ⟨callee, callable, _, called⟩ := call_builtin found depth
  rw [called]
  exact prototypeOfValue_apply ordinary

/-- The getter of `__proto__`. -/
theorem call_linkGetter {depth : Nat} {function : Value}
    (found : state.heap.builtin? function = some (.method, .linkGetter))
    (ordinary : (state.heap.object id).proxy? = none) :
    call function (.object id) [] (Engine.ofDepth (depth + 1)) state =
      .done (.ofObject? (state.heap.object id).prototype) state := by
  obtain ⟨callee, callable, _, called⟩ := call_builtin found depth
  rw [called]
  exact prototypeOfValue_apply ordinary

/-- On a host with the accessor, a read of `__proto__` from below `Object.prototype` gives the link. -/
theorem getOf_proto_apply (shows : Realm.ShowsLinks profile state.heap)
    (legacy : profile.legacyProtoAccessor = true)
    (clears : state.heap.Clears "__proto__" id Intrinsic.objectPrototype.id) (depth : Nat) :
    getOf (.object id) "__proto__" (Engine.ofDepth (depth + 1)) state =
      .done (.ofObject? (state.heap.object id).prototype) state := by
  obtain ⟨property, getter, setter, held, slot, got, _⟩ := shows.linkAccessor_held legacy
  have found : state.heap.lookup Intrinsic.objectPrototype.id "__proto__" =
      some (.accessor (some getter)) := by
    rw [Heap.lookup_own shows.ordinary held, Property.found, slot]
  exact (getFor_of_lookup (clears.lookup_eq found) _).trans
    (call_linkGetter got (clears.ordinary shows.ordinary))

/-- On a host without the accessor, there is nothing to be read as `__proto__`. -/
theorem getOf_proto_missing (untouched : Realm.Untouched profile state.heap)
    (legacy : profile.legacyProtoAccessor = false)
    (clears : state.heap.Clears "__proto__" id Intrinsic.objectPrototype.id) :
    getOf (.object id) "__proto__" engine state = .done .undefined state := by
  have offers := untouched.offers
  have missing := Heap.lookupStride_missing untouched.objectPrototype_ordinary
    (offers.linkAccessor_missing legacy) offers.objectPrototype
  exact getFor_of_lookup (clears.lookup_eq (Heap.walk_of_finish missing)) engine

/-- What the function of `Object` tells of an object; without it, nothing. -/
theorem askedPrototypeOf_apply (shows : Realm.ShowsLinks profile state.heap)
    (ordinary : (state.heap.object id).proxy? = none) (this : Value) (depth : Nat) :
    askedPrototypeOf this (.object id) (Engine.ofDepth (depth + 1)) state =
      .done (if profile.objectGetPrototypeOf then .ofObject? (state.heap.object id).prototype
        else .null) state := by
  have reader := shows.getPrototypeOf
  rw [askedPrototypeOf, ask_bind]
  cases offered : profile.objectGetPrototypeOf with
  | true =>
      rw [if_pos offered] at reader
      obtain ⟨function, held, found⟩ := Realm.objectFunction?_of_offered reader
      rw [held]
      exact call_objectGetPrototypeOf found ordinary
  | false =>
      rw [offered] at reader
      rw [Option.map_eq_none_iff.mp reader]
      rfl

/-- A host that does not write links by a function of `Object` reads `__proto__`, and asks the function of
`Object` where this gives nothing. -/
theorem getPrototypeOf_legacy (shows : state.ShowsLinks profile)
    (legacy : profile.objectSetPrototypeOf = false) {value read asked : Value}
    (got : getOf value "__proto__" engine (state.knowingLinks profile) =
      .done read (state.knowingLinks profile))
    (told : askedPrototypeOf state.heap.globalObject value engine (state.knowingLinks profile) =
      .done asked (state.knowingLinks profile)) :
    getPrototypeOf value engine state =
      .done (if read.isTruthy then read else asked) (state.knowingLinks profile) := by
  have strategy : profile.prototypeStrategy = .legacy := if_neg (ne_true_of_eq_false legacy)
  rw [getPrototypeOf, ask_bind, bind_of_done (lookupStrategy_apply shows)]
  generalize state.knowingLinks profile = knowing at got told ⊢
  rw [strategy]
  refine (bind_of_done got).trans ?_
  split
  · rfl
  · exact told

/-- A host that writes links by a function of `Object` reads them by another one. -/
theorem getPrototypeOf_standard (shows : state.ShowsLinks profile) (links : profile.Links)
    (standard : profile.objectSetPrototypeOf = true) :
    ∃ function this,
      (state.knowingLinks profile).heap.builtin? function = some (.method, .objectGetPrototypeOf) ∧
      ∀ value engine, getPrototypeOf value engine state =
        call function this [value] engine (state.knowingLinks profile) := by
  have reader := shows.heap.getPrototypeOf
  rw [if_pos (links.consistent standard)] at reader
  obtain ⟨function, held, found⟩ := Realm.objectFunction?_of_offered reader
  have strategy : profile.prototypeStrategy = .standard := if_pos standard
  refine ⟨function, state.heap.globalObject, found, fun value engine => ?_⟩
  rw [getPrototypeOf, ask_bind, bind_of_done (lookupStrategy_apply shows), strategy]
  have asked : (state.knowingLinks profile).heap.objectFunction? "getPrototypeOf" = some function := held
  rw [getPrototypeBy, ask_bind, asked]
  rfl

/-- On every host that links prototypes, the link that is read is the stored one. -/
theorem getPrototypeOf_shown (shows : state.ShowsLinks profile) (links : profile.Links)
    (clears : state.heap.Clears "__proto__" id Intrinsic.objectPrototype.id) (depth : Nat) :
    getPrototypeOf (.object id) (Engine.ofDepth (depth + 1)) state =
      .done (.ofObject? (state.heap.object id).prototype) (state.knowingLinks profile) := by
  have ordinary := clears.ordinary shows.heap.ordinary
  have known : Realm.ShowsLinks profile (state.knowingLinks profile).heap := shows.heap
  cases standard : profile.objectSetPrototypeOf with
  | true =>
      obtain ⟨function, this, found, called⟩ := getPrototypeOf_standard shows links standard
      rw [called]
      exact call_objectGetPrototypeOf found ordinary
  | false =>
      have accessor : profile.legacyProtoAccessor = true :=
        links.writable.resolve_left (by rw [standard]; exact Bool.noConfusion)
      rw [getPrototypeOf_legacy shows standard (getOf_proto_apply known accessor clears depth)
        (askedPrototypeOf_apply known ordinary _ depth)]
      exact congrArg (Outcome.done · _) (Value.ofObject?_told ..)

/-- On a host that reads links by the functions of `Object`, or by the accessor where it does not write
them by these, the link that is read is the stored one. -/
theorem getPrototypeOf_apply (untouched : state.Untouched profile)
    (readable : profile.objectGetPrototypeOf = true ∨ profile.legacyProtoAccessor = true)
    (consistent : profile.objectSetPrototypeOf = true → profile.objectGetPrototypeOf = true)
    (clears : state.heap.Clears "__proto__" id Intrinsic.objectPrototype.id) (depth : Nat) :
    getPrototypeOf (.object id) (Engine.ofDepth (depth + 1)) state =
      .done (.ofObject? (state.heap.object id).prototype)
        (state.knowing { state.caches with lookup := some profile.prototypeStrategy }) := by
  have shows := untouched.showsLinks
  by_cases writable : profile.objectSetPrototypeOf = true ∨ profile.legacyProtoAccessor = true
  · exact getPrototypeOf_shown shows ⟨consistent, writable⟩ clears depth
  · obtain ⟨standard, legacy⟩ := not_or.mp writable
    have known : Realm.Untouched profile (state.knowingLinks profile).heap := untouched.heap
    have told := askedPrototypeOf_apply known.showsLinks
      (clears.ordinary untouched.heap.objectPrototype_ordinary) state.heap.globalObject depth
    rw [if_pos (readable.resolve_right legacy)] at told
    exact getPrototypeOf_legacy shows (Bool.eq_false_of_not_eq_true standard)
      (getOf_proto_missing known (Bool.eq_false_of_not_eq_true legacy) clears) told

/-- A host that writes links by a function of `Object`, but does not read them so, does not tell them:
the strategy goes by what writes. -/
theorem getPrototypeOf_refused (untouched : state.Untouched profile)
    (writes : profile.objectSetPrototypeOf = true) (unread : profile.objectGetPrototypeOf = false)
    (value : Value) :
    getPrototypeOf value engine state =
      .failed (.fault (.notAFunction (state.heap.text .undefined)))
        (state.knowing { state.caches with lookup := some profile.prototypeStrategy }) := by
  have reader := untouched.heap.offers.getPrototypeOf
  rw [unread] at reader
  have missing : state.heap.objectFunction? "getPrototypeOf" = none :=
    Option.map_eq_none_iff.mp reader
  have strategy : profile.prototypeStrategy = .standard := if_pos writes
  rw [getPrototypeOf, ask_bind, bind_of_done (lookupStrategy_apply untouched.showsLinks),
    State.knowingLinks, strategy, getPrototypeBy, ask_bind, State.knowing_heap, missing]
  rfl

end Run

end ClassLowering
