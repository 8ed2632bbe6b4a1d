import ClassLowering.Proofs.Composition.Basic
import ClassLowering.Proofs.Construction.Linking
import ClassLowering.Proofs.SuperCallRefinement

/-!
# Super calls without an instance

A constructor that uses `this` too early calls its super caller on `undefined`. Where the super call falls back
to a plain call, the missing instance is noticed when the base has returned without one. Where it constructs, the
prototype of the missing instance is asked for first, and the host refuses the question in words of its own.
-/

namespace ClassLowering

open Run

/-- What a host answers that is asked for the prototype of `undefined`. -/
def Profile.nullishLinkFault (profile : Profile) : Fault :=
  if profile.objectSetPrototypeOf then .nullishToObject else .readOfNullish "undefined" "__proto__"

/-- The outcome of a super call without an instance, by what the base gives. -/
def Outcome.withoutInstance (outcome : Outcome Value) : Outcome Value :=
  outcome.andThen fun result after =>
    match result with
    | .object id => .done (.object id) after
    | _ => .failed (.fault .thisUninitialized) after

theorem Outcome.withoutInstance_of_done {outcome : Outcome Value} {result : Value} {after : State}
    (ended : outcome = .done result after) (primitive : ∀ id, result ≠ .object id) :
    outcome.withoutInstance = .failed (.fault .thisUninitialized) after := by
  rw [ended]
  cases result with
  | object id => exact absurd rfl (primitive id)
  | _ => rfl

namespace Run

variable {profile : Profile} {state asked : State} {derived caller : ObjectId} {depth : Nat}
  {base : Value} {arguments : List Value}

/-- No host tells a prototype of `undefined`. -/
theorem getPrototypeOf_undefined (links : profile.Links) (shows : state.ShowsLinks profile)
    (depth : Nat) :
    getPrototypeOf .undefined (Engine.ofDepth (depth + 1)) state =
      .failed (.fault profile.nullishLinkFault) (state.knowingLinks profile) := by
  rw [Profile.nullishLinkFault]
  cases standard : profile.objectSetPrototypeOf with
  | true =>
      obtain ⟨function, this, found, asked⟩ := getPrototypeOf_standard shows links standard
      obtain ⟨_, _, _, called⟩ := call_builtin found depth
      rw [asked]
      exact called _ _
  | false =>
      have strategy : profile.prototypeStrategy = .legacy := if_neg (ne_true_of_eq_false standard)
      rw [getPrototypeOf, ask_bind, bind_of_done (lookupStrategy_apply shows), strategy]
      rfl

theorem runBase_plain (answered : hasNativeConstruct (Engine.ofDepth (depth + 2)) state = .done false asked)
    (this : Value) :
    runBase base this arguments (Engine.ofDepth (depth + 2)) state =
      call base this arguments (Engine.ofDepth (depth + 2)) asked := by
  rw [runBase, bind_of_done answered]
  rfl

/-- A base is not constructed without an instance. -/
theorem runBase_native (links : profile.Links) (shows : asked.ShowsLinks profile)
    (answered : hasNativeConstruct (Engine.ofDepth (depth + 2)) state = .done true asked) :
    runBase base .undefined arguments (Engine.ofDepth (depth + 2)) state =
      .failed (.fault profile.nullishLinkFault) (asked.knowingLinks profile) := by
  have told := getPrototypeOf_undefined links shows (depth + 1)
  have constructed : constructBase base .undefined arguments (Engine.ofDepth (depth + 2)) asked =
      .failed (.fault profile.nullishLinkFault) (asked.knowingLinks profile) := by
    rw [constructBase, constructorOfInstance]
    exact bind_of_failed (bind_of_failed told)
  rw [runBase, bind_of_done answered]
  exact constructed

/-- Without an instance, a super call gives the object that its base gives, and nothing else. -/
theorem constructorReturn_undefined (run : Run Value) (engine : Engine) :
    (do constructorReturn .undefined (← run) : Run Value) engine state =
      (run engine state).withoutInstance := by
  rw [bind_apply]
  cases run engine state with
  | done result after => cases result <;> rfl
  | failed failure after => rfl
  | exhausted => rfl

/-- A super caller on `undefined` runs the base that the class has now. -/
theorem call_superCaller_undefined (links : profile.Links) (told : state.ShowsLink profile derived)
    (held : (state.heap.object caller).kind = .function (superCaller derived)) (arguments : List Value)
    (depth : Nat) :
    call (.object caller) .undefined arguments (Engine.ofDepth (depth + 2)) state =
      (runBase (state.storedLink derived) .undefined arguments (Engine.ofDepth (depth + 1))
        (state.knowingLinks profile)).withoutInstance := by
  rw [call_superCaller held, superCall, bind_of_done (getPrototypeOf_link links told depth)]
  exact constructorReturn_undefined ..

end Run

/-- What a super caller does on `undefined`, once the host was asked how it constructs. -/
structure State.CallsWithoutInstance (profile : Profile) (asked : State) (base : Value)
    (arguments : List Value) (engine : Engine) (called : Outcome Value) : Prop where
  /-- Where the base is called, an object that it gives is the result. -/
  plain : profile.constructsNatively = false →
    called = (call base .undefined arguments engine asked).withoutInstance
  /-- A base that accepts `undefined` and gives no object leaves `this` uninitialized. -/
  uninitialized : profile.constructsNatively = false → ∀ result after,
    call base .undefined arguments engine asked = .done result after →
    (∀ id, result ≠ .object id) → called = .failed (.fault .thisUninitialized) after
  /-- Where it would be constructed, it does not run at all. -/
  native : profile.constructsNatively = true →
    called = .failed (.fault profile.nullishLinkFault) (asked.knowingLinks profile)

/-- On every host that links prototypes, with an untouched realm: a super caller that is called on `undefined`
reports that `this` is uninitialized where it calls the base as a plain function, and this gives no object. On a
host that constructs natively it fails before with a `TypeError`, whatever the base is. -/
theorem super_call_without_instance {profile : Profile} (links : profile.Links) {state : State}
    (untouched : state.Untouched profile) {derived caller : ObjectId}
    (clears : state.heap.Clears "__proto__" derived Intrinsic.objectPrototype.id)
    (held : (state.heap.object caller).kind = .function (superCaller derived)) (arguments : List Value)
    (depth : Nat) :
    ∃ asked, state.Adds profile asked ∧
      asked.CallsWithoutInstance profile (state.storedLink derived) arguments (Engine.ofDepth (depth + 2))
        (call (.object caller) .undefined arguments (Engine.ofDepth (depth + 3)) state) := by
  have told : state.ShowsLink profile derived := ⟨untouched.showsLinks, clears⟩
  have finding : state.Adds profile (state.knowingLinks profile) := .knowingLinks state
  obtain ⟨asked, added, answered⟩ := hasNativeConstruct_apply (untouched.adds finding) depth
  have whole := finding.trans added
  have ran := call_superCaller_undefined links told held arguments (depth + 1)
  have plain (imitates : profile.constructsNatively = false) :
      call (.object caller) .undefined arguments (Engine.ofDepth (depth + 3)) state =
        (call (state.storedLink derived) .undefined arguments (Engine.ofDepth (depth + 2))
          asked).withoutInstance := by
    rw [imitates] at answered
    rw [ran, runBase_plain answered]
  refine ⟨asked, whole, plain, ?_, ?_⟩
  · intro imitates result after ended primitive
    exact (plain imitates).trans (Outcome.withoutInstance_of_done ended primitive)
  · intro constructs
    rw [constructs] at answered
    rw [ran, runBase_native links (untouched.adds whole).showsLinks answered]
    rfl

/-- A class without anything of its own below a base. -/
def Object.derivedFrom (base : ObjectId) : Object where
  prototype := some base
  kind := .function idleFunction

theorem Heap.passes_derivedFrom {heap : Heap} {derived base : ObjectId}
    (made : heap.object derived = .derivedFrom base) (key : PropertyKey) :
    heap.Passes key derived base := by
  refine ⟨congrArg Object.proxy? made, ?_, congrArg Object.prototype made⟩
  rw [made]
  exact Table.get?_empty key

/-- The state with a function without effect. -/
def State.withIdleBase (start : State) : State :=
  { start with heap := (Build.function idleFunction 0 start.heap).2 }

/-- The state with a class below this function. -/
def State.withIdleClass (start : State) : State :=
  start.withIdleBase.making (.derivedFrom start.heap.next)

/-- With the super caller of the class, an untouched host is still untouched, and the class can be called. -/
theorem State.idleCaller_stands {profile : Profile} {start : State} (untouched : start.Untouched profile) :
    let derived := start.withIdleBase.heap.next
    let state := start.withIdleClass.withSuperCaller derived
    state.Untouched profile ∧ state.heap.Clears "__proto__" derived Intrinsic.objectPrototype.id ∧
      state.storedLink derived = .object start.heap.next ∧
      (state.heap.object start.heap.next).kind = .function idleFunction := by
  intro derived state
  obtain ⟨firstGrown, made⟩ :=
    Build.function_made start.heap (show idleFunction.kind = .normal from rfl) 0
  have later : start.withIdleBase.heap.Extends state.heap :=
    (Heap.Extends.allocate start.withIdleBase.heap _).trans Heap.extends_withFunction
  have still : state.Untouched profile :=
    untouched.adds ((State.Adds.of_heap firstGrown).trans
      ((State.Adds.making start.withIdleBase _).trans (.withSuperCaller start.withIdleClass derived)))
  have derivedMade : state.heap.object derived = .derivedFrom start.heap.next :=
    (Heap.extends_withFunction.object_eq derived (Heap.next_index_lt start.withIdleBase.heap _)).trans
      (Heap.object_allocate_next start.withIdleBase.heap _)
  have baseMade : state.heap.MadeFunction idleFunction start.heap.next ⟨start.heap.size + 1⟩ :=
    made.grow later
  have stored : state.storedLink derived = .object start.heap.next := by
    rw [State.storedLink, derivedMade]
    rfl
  have clears : state.heap.Clears "__proto__" derived Intrinsic.objectPrototype.id :=
    .head (Heap.passes_derivedFrom derivedMade _)
      (.head baseMade.linked.passes (.single still.heap.offers.functionPrototype_passes))
  exact ⟨still, clears, stored, baseMade.kind⟩

/-- On an ES5 host, a function without effect as a base: `this` is reported as uninitialized. -/
theorem idle_base_called_without_instance :
    let profile := Preset.es5.profile
    let start := Session.prepared profile []
    let derived := start.withIdleBase.heap.next
    let caller := start.withIdleClass.heap.next
    let state := start.withIdleClass.withSuperCaller derived
    profile.Links ∧ state.Untouched profile ∧
      state.heap.Clears "__proto__" derived Intrinsic.objectPrototype.id ∧
      (state.heap.object caller).kind = .function (superCaller derived) ∧
      ∃ asked, state.Adds profile asked ∧
        call (.object caller) .undefined [] (Engine.ofDepth 3) state =
          .failed (.fault .thisUninitialized) asked := by
  intro profile start derived caller state
  have links : profile.Links := ⟨Bool.noConfusion, .inr rfl⟩
  have fresh : start.Untouched profile := Session.start_untouched profile
  obtain ⟨untouched, clears, stored, kind⟩ := State.idleCaller_stands fresh
  have held : (state.heap.object caller).kind = .function (superCaller derived) :=
    kind_superCaller derived start.withIdleClass
  obtain ⟨asked, added, calls⟩ := super_call_without_instance links untouched clears held [] 0
  -- The function accepts the missing instance, and gives no object in its place.
  have accepted : call (state.storedLink derived) .undefined [] (Engine.ofDepth 2) asked =
      .done .undefined asked := by
    have kept : (asked.heap.object start.heap.next).kind = .function idleFunction := by
      rw [added.heap.object_eq _ (Heap.index_lt_of_kind kind nofun)]
      exact kind
    rw [stored]
    exact call_function kept .undefined [] 1
  exact ⟨links, untouched, clears, held, asked, added, calls.uninitialized rfl _ _ accepted nofun⟩

/-- Steps that make two functions, link the second to the first, and make its super caller. -/
def superCallerSteps : List Script.Step :=
  [.makeFunction { name := "B", kind := .normal } [] [] { result := some "B" },
    .makeFunction { name := "D", kind := .normal } [] [] { result := some "D" },
    .perform (.onClass .link) [.named "D", .named "B"] {},
    .perform (.onClass .superCaller) [.named "D"] {}]

/-- On a modern host, such a base accepts `undefined` and gives no object, but the super caller fails with a
`TypeError` about the missing instance. -/
theorem modern_host_reports_nullish_link :
    let profile := Preset.modern.profile
    let start := { Session.prepared profile [] with scopes := #[{}] }
    let state := (Session.runSteps ⟨0⟩ superCallerSteps start ∅).2
    let base := start.heap.next
    let derived : ObjectId := ⟨start.heap.size + 2⟩
    let caller : ObjectId := ⟨start.heap.size + 5⟩
    profile.Links ∧ (Session.prepared profile []).Reaches .script state ∧
      state.storedLink derived = .object base ∧
      (∃ after, call (.object base) .undefined [] (Engine.ofDepth 2) state = .done .undefined after) ∧
      ∃ after, call (.object caller) .undefined [] (Engine.ofDepth 3) state =
        .failed (.fault .nullishToObject) after := by
  intro profile start state base derived caller
  have links : profile.Links := ⟨fun _ => rfl, .inl rfl⟩
  have lawful : Script.LawfulSteps .script start.heap.size superCallerSteps := by simp [superCallerSteps]
  have reached := Session.prepared_reaches profile [] lawful
  have stored : state.storedLink derived = .object base := by decide +kernel
  have accepted : ∃ after, call (.object base) .undefined [] (Engine.ofDepth 2) state =
      .done .undefined after := Outcome.done_of_result (by decide +kernel)
  have refused : (call (.object caller) .undefined [] (Engine.ofDepth 3) state).failed?.any
      (fun ended => ended.1 = .fault .nullishToObject) = true := by decide +kernel
  obtain ⟨⟨failure, after⟩, failed, same⟩ := (Option.any_eq_true _ _).mp refused
  cases of_decide_eq_true same
  exact ⟨links, reached, stored, accepted, after, Outcome.failed_of_failed? failed⟩

end ClassLowering
