import ClassLowering.Proofs.Construction.Detection
import ClassLowering.Proofs.PrototypeLinks

/-!
# Super calls run the base

A super caller does to the heap what running the base of its class would do, and fails as this would.
It finds the base at every call, so that it follows the class when this is linked elsewhere.
-/

namespace ClassLowering

open Bounded Run

/-- What comes after an outcome. -/
def Outcome.andThen {α β : Type} (outcome : Outcome α) (rest : α → State → Outcome β) : Outcome β :=
  match outcome with
  | .done result state => rest result state
  | .failed failure state => .failed failure state
  | .exhausted => .exhausted

namespace Run

variable {profile : Profile} {state asked : State} {derived this : ObjectId} {depth : Nat}

/-- Later states hold the super caller as it was made. -/
theorem superCaller_kept {before made : State} {engine : Engine} {caller : ObjectId}
    (reached : (Session.start profile).state.Reaches .driver before)
    (present : derived.index < before.heap.size)
    (making : makeSuperCaller (.object derived) engine before = .done caller made)
    (later : made.Reaches .driver state) :
    (state.heap.object caller).kind = .function (superCaller derived) := by
  have sound := (reached.leads (Session.start_sound .driver profile)).sound
  have there : Within .driver before.heap.size (Value.object derived) := present
  have grown : SoundAt .driver engine before (makeSuperCaller (.object derived)) :=
    makeSuperCaller_sound sound there
  have first := grown.leads making
  have placed := grown.within making
  have kept := (State.kind_eq_of_changes (later.leads first.sound).changes placed).2
  rw [makeSuperCaller_apply] at making
  cases making
  exact kept.trans (kind_superCaller derived before)

/-- What is only done to the result of a run does not depend on the engine that is left. -/
theorem adapted_congr {α β : Type} {adapt : α → β} {first second : Run α} {engine other : Engine}
    {after : State} (same : first engine state = second other after) :
    (do return adapt (← first) : Run β) engine state =
      (do return adapt (← second) : Run β) other after := by
  rw [bind_apply, bind_apply, same]
  rfl

/-- On a host that constructs natively, a base is constructed for what the instance shows. -/
theorem constructBase_shown {base : Value} {arguments : List Value} (links : profile.Links)
    (told : state.ShowsLink profile this) (few : arguments.length ≤ maxArguments)
    (reflects : ∀ newTarget after, getOf (state.storedLink this) "constructor"
        (Engine.ofDepth (depth + 2)) (state.knowingLinks profile) = .done newTarget after →
      after.heap.ConstructsNatively) :
    (do return resultOr this (← constructBase base (.object this) arguments) : Run Value)
        (Engine.ofDepth (depth + 2)) state =
      (getOf (state.storedLink this) "constructor" (Engine.ofDepth (depth + 2))
          (state.knowingLinks profile)).andThen fun newTarget after =>
        (do return resultOr this (← constructFor base arguments (some newTarget)) : Run Value)
          (Engine.ofDepth (depth + 1)) (after.making (Build.listObject arguments)) := by
  have target := constructorOfInstance_eq links told (depth + 1)
  generalize getOf (state.storedLink this) "constructor" (Engine.ofDepth (depth + 2))
    (state.knowingLinks profile) = shown at reflects target ⊢
  cases shown with
  | done newTarget after =>
      exact adapted_congr (constructBase_native (reflects newTarget after rfl) few target)
  | failed failure after =>
      refine bind_of_failed ?_
      rw [constructBase]
      exact bind_of_failed target
  | exhausted =>
      refine bind_of_exhausted ?_
      rw [constructBase]
      exact bind_of_exhausted target

end Run

/-- After a super caller of a class was made, whatever scripts do, a call of it runs what is then stored
as the prototype link of the class. On a host that does not construct natively this is a plain call on
the instance; on one that does, and whose `Reflect.construct` is the native one, it is a construction for
the constructor that the stored link of the instance shows, with a list of the arguments left behind.
The result is that of the base, or the instance where that is no object. The host is asked first how it
constructs; where the answer is known nothing happens, and where the host is untouched all that is left of
the question is new objects and the answer. -/
theorem super_call_refines_construction {profile : Profile} (links : profile.Links)
    {before made state asked : State} {engine : Engine} {derived caller : ObjectId} {depth : Nat}
    {native : Bool}
    (reached : (Session.start profile).state.Reaches .driver before)
    (present : derived.index < before.heap.size)
    (making : makeSuperCaller (.object derived) engine before = .done caller made)
    (later : made.Reaches .driver state) (told : state.ShowsLink profile derived)
    (answered : hasNativeConstruct (Engine.ofDepth (depth + 2)) (state.knowingLinks profile) =
      .done native asked)
    (this : ObjectId) {arguments : List Value} (few : arguments.length ≤ maxArguments) :
    let called := call (.object caller) (.object this) arguments (Engine.ofDepth (depth + 3)) state
    let base := state.storedLink derived
    let shown := getOf (asked.storedLink this) "constructor" (Engine.ofDepth (depth + 2))
      (asked.knowingLinks profile)
    (native = false → called =
      (do return resultOr this (← call base (.object this) arguments)) (Engine.ofDepth (depth + 2))
        asked) ∧
    (native = true → asked.ShowsLink profile this →
      (∀ newTarget after, shown = .done newTarget after → after.heap.ConstructsNatively) →
      called = shown.andThen fun newTarget after =>
        (do return resultOr this (← constructFor base arguments (some newTarget)))
          (Engine.ofDepth (depth + 1)) (after.making (Build.listObject arguments))) ∧
    (∀ known, state.caches.nativeConstruct = some known →
      native = known ∧ asked = state.knowingLinks profile) ∧
    (state.Untouched profile → native = profile.constructsNatively ∧ state.Adds profile asked) := by
  intro called base shown
  have held := superCaller_kept reached present making later
  have ran : called = (do return resultOr this (← runBase base (.object this) arguments))
      (Engine.ofDepth (depth + 2)) (state.knowingLinks profile) :=
    (call_superCaller held _ _ _).trans (superCall_eq links told this arguments (depth + 1))
  refine ⟨?_, ?_, ?_, ?_⟩
  · rintro rfl
    refine ran.trans (adapted_congr ?_)
    rw [runBase, bind_of_done answered]
    rfl
  · rintro rfl told reflects
    refine Eq.trans (ran.trans (adapted_congr ?_)) (constructBase_shown links told few reflects)
    rw [runBase, bind_of_done answered]
    rfl
  · intro known cached
    have same : hasNativeConstruct (Engine.ofDepth (depth + 2)) (state.knowingLinks profile) =
      .done known (state.knowingLinks profile) := hasNativeConstruct_known cached
    cases answered.symm.trans same
    exact ⟨rfl, rfl⟩
  · intro untouched
    have finding : state.Adds profile (state.knowingLinks profile) := .knowingLinks state
    obtain ⟨after, added, same⟩ := hasNativeConstruct_apply (untouched.adds finding) depth
    cases answered.symm.trans same
    exact ⟨rfl, finding.trans added⟩

/-- The constructor of type errors inherits from that of errors; a super call constructs an error for
what the instance shows. -/
theorem error_super_called :
    let profile := Preset.modern.profile
    let start := (Session.start profile).state
    let made := start.withSuperCaller ⟨23⟩
    let this := (Intrinsic.errorPrototype .typeError).id
    start.Reaches .driver start ∧
      makeSuperCaller (.object ⟨23⟩) (Engine.ofDepth 0) start = .done start.heap.next made ∧
      made.ShowsLink profile ⟨23⟩ ∧ made.storedLink ⟨23⟩ = .object ⟨22⟩ ∧
      ∃ asked, made.Adds profile asked ∧
        call (.object start.heap.next) (.object this) [] (Engine.ofDepth 3) made =
          (do return resultOr this (← constructFor (.object ⟨22⟩) [] (some (.object ⟨22⟩))))
            (Engine.ofDepth 1) ((asked.knowingLinks profile).making (Build.listObject [])) := by
  intro profile start made this
  have links : profile.Links := ⟨fun _ => rfl, .inl rfl⟩
  have fresh := Session.start_untouched profile
  have grown : start.Adds profile made := .withSuperCaller ..
  have untouched := fresh.adds grown
  obtain ⟨typeError, error, typeErrors, errors, constructor_held⟩ :
      start.heap.Passes "__proto__" ⟨23⟩ ⟨22⟩ ∧
        start.heap.Passes "__proto__" ⟨22⟩ Intrinsic.functionPrototype.id ∧
        start.heap.Passes "__proto__" this ⟨4⟩ ∧
        start.heap.Passes "__proto__" ⟨4⟩ Intrinsic.objectPrototype.id ∧
        ((start.heap.object ⟨4⟩).property? "constructor").map (·.slot) =
          some (.data (.object ⟨22⟩)) := by
    decide +kernel
  have present : 23 < start.heap.size := Heap.index_lt_of_prototype typeError.links
  have above : start.heap.Clears "__proto__" ⟨23⟩ Intrinsic.objectPrototype.id :=
    .head typeError (.head error (.single fresh.heap.offers.functionPrototype_passes))
  have told : made.ShowsLink profile ⟨23⟩ := ⟨untouched.showsLinks, above.extends grown.heap⟩
  have link : made.storedLink ⟨23⟩ = .object ⟨22⟩ := by
    rw [State.storedLink, grown.heap.object_eq _ present, typeError.links]
    rfl
  have finding : made.Adds profile (made.knowingLinks profile) := .knowingLinks made
  obtain ⟨asked, added, answered⟩ := hasNativeConstruct_apply (untouched.adds finding) 0
  have whole : start.Adds profile asked := (grown.trans finding).trans added
  have kept := fresh.adds whole
  -- The instance is the prototype object of type errors, and shows the constructor of errors.
  have instance_told : asked.ShowsLink profile this :=
    ⟨kept.showsLinks, Heap.Clears.extends (.head typeErrors (.single errors)) whole.heap⟩
  have shown : getOf (asked.storedLink this) "constructor" (Engine.ofDepth 2)
      (asked.knowingLinks profile) = .done (.object ⟨22⟩) (asked.knowingLinks profile) := by
    have linked := whole.heap.object_eq this (Heap.index_lt_of_prototype typeErrors.links)
    have above := whole.heap.object_eq ⟨4⟩ (Heap.index_lt_of_prototype errors.links)
    obtain ⟨property, owned, slot⟩ := Option.map_eq_some_iff.mp constructor_held
    rw [State.storedLink, linked, typeErrors.links]
    refine getFor_plain (Heap.plainRead?_own ?_ ?_ slot)
    · exact above ▸ errors.ordinary
    · exact above ▸ owned
  have native : (asked.knowingLinks profile).heap.ConstructsNatively :=
    kept.heap.offers.reflectConstruct nofun
  have few : ([] : List Value).length ≤ maxArguments := Nat.zero_le _
  have making : makeSuperCaller (.object ⟨23⟩) (Engine.ofDepth 0) start =
    .done start.heap.next made := makeSuperCaller_apply ..
  obtain ⟨_, constructs, _, _⟩ :=
    super_call_refines_construction links .refl present making .refl told answered this few
  have ran := constructs rfl instance_told fun newTarget after same => by
    cases shown.symm.trans same
    exact native
  rw [shown, link] at ran
  exact ⟨.refl, making, told, link, asked, finding.trans added, ran⟩

/-- A base that gives no object when it is called: the super call gives its instance instead. -/
theorem boolean_super_called :
    let profile := Preset.es5.profile
    let start := (Session.start profile).state
    let derived := start.heap.next
    let before := start.making (.inheriting (some ⟨25⟩))
    let caller := before.heap.next
    let made := before.withSuperCaller derived
    let this := Intrinsic.booleanPrototype.id
    profile.Links ∧ start.Reaches .driver before ∧
      makeSuperCaller (.object derived) (Engine.ofDepth 0) before = .done caller made ∧
      made.Untouched profile ∧ made.ShowsLink profile derived ∧ made.ShowsLink profile this ∧
      made.storedLink derived = .object ⟨25⟩ ∧
      ∃ asked,
        hasNativeConstruct (Engine.ofDepth 2) (made.knowingLinks profile) = .done false asked ∧
        call (.object ⟨25⟩) (.object this) [] (Engine.ofDepth 2) asked = .done (.boolean false) asked ∧
        call (.object caller) (.object this) [] (Engine.ofDepth 3) made =
          .done (.object this) asked := by
  intro profile start derived before caller made this
  have links : profile.Links := ⟨Bool.noConfusion, .inr rfl⟩
  have fresh := Session.start_untouched profile
  have grown : start.Adds profile made := (State.Adds.making ..).trans (.withSuperCaller ..)
  have untouched := fresh.adds grown
  obtain ⟨boolean, below, builtin⟩ :
      start.heap.Passes "__proto__" ⟨25⟩ Intrinsic.functionPrototype.id ∧
        start.heap.Passes "__proto__" this Intrinsic.objectPrototype.id ∧
        start.heap.builtin? (.object ⟨25⟩) = some (.builtinConstructor, .booleanConstructor) := by
    decide +kernel
  have advanced : start.Advances .driver before := by
    have ran : Script.runStep { scope := ⟨0⟩ }
        (.perform (.create .object) [.value (.object ⟨25⟩)] {}) (Engine.ofDepth 0) start =
      .done (.next (.value (.object derived))) before := rfl
    refine .step (by trivial) ?_ ran
    have present : 25 < start.heap.size := Heap.index_lt_of_prototype boolean.links
    simpa
  have above : start.heap.Clears "__proto__" ⟨25⟩ Intrinsic.objectPrototype.id :=
    .head boolean (.single fresh.heap.offers.functionPrototype_passes)
  have clears : before.heap.Clears "__proto__" derived Intrinsic.objectPrototype.id :=
    .head (Heap.Blank.passes (Heap.object_allocate_next ..) _) (above.extends (.allocate ..))
  have told : made.ShowsLink profile derived :=
    ⟨untouched.showsLinks, clears.extends Heap.extends_withFunction⟩
  have link : made.storedLink derived = .object ⟨25⟩ := by
    have kept : made.heap.object derived = before.heap.object derived :=
      Heap.extends_withFunction.object_eq derived (Heap.next_index_lt ..)
    rw [State.storedLink, kept, State.making_heap, Heap.object_allocate_next]
    rfl
  have instance_told : made.ShowsLink profile this :=
    ⟨untouched.showsLinks, Heap.Clears.extends (.single below) grown.heap⟩
  have finding : made.Adds profile (made.knowingLinks profile) := .knowingLinks made
  obtain ⟨asked, added, answered⟩ := hasNativeConstruct_apply (untouched.adds finding) 0
  obtain ⟨_, _, _, called⟩ :=
    call_builtin (((grown.trans finding).trans added).heap.builtin?_eq builtin) 1
  have plain : call (.object ⟨25⟩) (.object this) [] (Engine.ofDepth 2) asked =
    .done (.boolean false) asked := called _ _
  have making : makeSuperCaller (.object derived) (Engine.ofDepth 0) before = .done caller made :=
    makeSuperCaller_apply ..
  have held : (made.heap.object caller).kind = .function (superCaller derived) :=
    kind_superCaller derived before
  have ran : runBase (.object ⟨25⟩) (.object this) [] (Engine.ofDepth 2)
      (made.knowingLinks profile) = .done (.boolean false) asked := by
    rw [runBase, bind_of_done answered]
    exact plain
  have result : call (.object caller) (.object this) [] (Engine.ofDepth 3) made =
      .done (.object this) asked := by
    rw [call_superCaller held, superCall_eq links told, link]
    exact bind_of_done ran
  exact ⟨links, .single advanced, making, untouched, told, instance_told, link, asked, answered,
    plain, result⟩

end ClassLowering
