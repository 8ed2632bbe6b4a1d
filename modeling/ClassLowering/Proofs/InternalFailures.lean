import ClassLowering.Proofs.Integrity

/-!
# Failures inside the host

Two faults name a place inside the host: an object is read as a proxy that is none, and an error
constructor has lost its prototype object. No script gets that far. A read tells a proxy by its kind, which
never changes, and the prototype object of an error constructor is fixed, so that every link, assignment and
definition aimed at it is refused.
-/

namespace ClassLowering

open Bounded

/-- A failure for a reason outside the host: it is no evaluation fault, unless a script raised that fault by
name. -/
def Failure.IsExternal (failure : Failure) : Prop :=
  ∀ fault, failure = .fault fault → fault.kind = .evaluation →
    ∃ message, fault = .raised .evaluation message

theorem Failure.isExternal_of_within {size : Nat} {failure : Failure}
    (within : Within .script size failure) : failure.IsExternal := by
  rintro fault rfl evaluation
  cases fault with
  | readThroughOrdinary => exact within.elim
  | errorPrototypeMissing => cases within
  | raised kind message =>
      cases evaluation
      exact ⟨message, rfl⟩
  | _ => cases evaluation

namespace Run

variable {α : Type} {engine : Engine} {state : State} {run : Run α}

/-- A run makes changes only, and if it fails, then for an external reason. -/
def FailsExternally (run : Run α) (engine : Engine) (state : State) : Prop :=
  match run engine state with
  | .done _ after => state.Becomes .script after
  | .failed failure after => state.Becomes .script after ∧ failure.IsExternal
  | .exhausted => True

theorem SoundAt.failsExternally [Bounded α] (sound : SoundAt .script engine state run) :
    run.FailsExternally engine state := by
  have ends := sound.1
  unfold FailsExternally
  cases ran : run engine state with
  | done result after =>
      rw [ran] at ends
      exact ends.1.changes
  | failed failure after =>
      rw [ran] at ends
      exact ⟨ends.1.changes, Failure.isExternal_of_within ends.2⟩
  | exhausted => trivial

end Run

/-- A fixed prototype object is the same object ever after. -/
theorem Object.Hardens.fixedPrototype?_eq {before after : Object} (hardens : before.Hardens after)
    {prototype : ObjectId} (fixed : before.fixedPrototype? = some prototype) :
    after.fixedPrototype? = some prototype := by
  unfold fixedPrototype? at fixed
  split at fixed
  · next enumerable held =>
    cases fixed
    obtain ⟨⟨slot, writable, _, configurable⟩, found, keeps⟩ := hardens.fixed _ _ held rfl
    obtain ⟨value, slot_eq, kept⟩ := keeps.data _ rfl
    obtain ⟨readOnly, same⟩ := kept rfl
    have still := keeps.configurable
    rw [Value.same_iff] at same
    cases slot_eq
    cases same
    cases readOnly
    cases still
    rw [fixedPrototype?, found]
  · cases fixed

/-- Failures inside the host are out of reach: nothing that runs from a state fails for such a reason, on
engines of any depth, and what would have to be missing is in place and stays so. -/
structure State.Shielded (state : State) : Prop where
  step : ∀ (depth : Nat) (context : Script.Context) (step : Script.Step),
    Within .script state.heap.size context → Within .script state.heap.size step →
      (Script.runStep context step).FailsExternally (Engine.ofDepth depth) state
  /-- Also where the script catches the failure. -/
  operation : ∀ (depth : Nat) (context : Script.Context) (operation : Script.Operation)
    (values : List Value), Within .script state.heap.size context →
      Within .script state.heap.size operation → Within .script state.heap.size values →
        (operation.perform context values).FailsExternally (Engine.ofDepth depth) state
  call : ∀ (depth : Nat) (frame : Frame), Within .script state.heap.size frame → state.heap.Backs frame →
    frame.run.FailsExternally (Engine.ofDepth depth) state
  read : ∀ (depth : Nat) (id : ObjectId) (key : PropertyKey) (receiver : Value),
    Within .script state.heap.size receiver →
      (Run.getFor id key receiver).FailsExternally (Engine.ofDepth depth) state
  /-- A read goes through proxies only. -/
  proxied : ∀ (id : ObjectId) (key : PropertyKey) (proxy : ObjectId),
    state.heap.lookup id key = some (.proxy proxy) → (state.heap.object proxy).proxy? ≠ none
  /-- A proxy keeps its two objects. -/
  kept : ∀ (later : State) (proxy : ObjectId), state.Becomes .script later → proxy.index < state.heap.size →
    (later.heap.object proxy).proxy? = (state.heap.object proxy).proxy?
  /-- The `prototype` of an error constructor reads as one object ever after. -/
  equipped : ∀ id, (state.heap.object id).kind.makesErrors = true → ∃ prototype,
    ∀ (later : State) (engine : Engine), state.Becomes .script later →
      Run.get id "prototype" engine later = .done (.object prototype) later

namespace State

variable {state later : State} {id : ObjectId}

theorem Becomes.proxy?_eq (becomes : state.Becomes .script later) (present : id.index < state.heap.size) :
    (later.heap.object id).proxy? = (state.heap.object id).proxy? := by
  simp only [Object.proxy?, (kind_eq_of_changes becomes present).2]

theorem Sound.get_prototype (sound : state.Sound .script)
    (makes : (state.heap.object id).kind.makesErrors = true) :
    ∃ prototype, ∀ (later : State) (engine : Engine), state.Becomes .script later →
      Run.get id "prototype" engine later = .done (.object prototype) later := by
  obtain ⟨prototype, fixed⟩ := Option.isSome_iff_exists.mp
    ((sound.heap.within id).2.2.2.equipped rfl makes)
  have present : id.index < state.heap.size := by
    by_contra absent
    rw [Heap.object_of_size_le (Nat.le_of_not_lt absent)] at makes
    cases makes
  refine ⟨prototype, fun later engine becomes => ?_⟩
  refine Builtin.get_fixedPrototype? ?_
    ((hardens_of_changes becomes sound id).fixedPrototype?_eq fixed)
  rw [(kind_eq_of_changes becomes present).2]
  exact makes

theorem Sound.shielded (sound : state.Sound .script) : state.Shielded where
  step depth _ step inside lawful :=
    (Script.runStep_sound (Engine.ofDepth_sound _ depth) sound inside step lawful).failsExternally
  operation depth _ _ _ inside lawful given :=
    (Script.operation_sound (Engine.ofDepth_sound _ depth) sound given inside lawful).failsExternally
  call depth _ given backed :=
    (Frame.run_sound (Engine.ofDepth_sound _ depth) sound given backed).failsExternally
  read depth _ _ _ on := (Run.getFor_sound (Engine.ofDepth_sound _ depth) sound on).failsExternally
  proxied _ _ _ found := Heap.proxied_of_lookup found
  kept _ _ becomes present := becomes.proxy?_eq present
  equipped _ makes := sound.get_prototype makes

end State

/-- In every session that a script can have with a host, failures inside the host are out of reach, between
the steps and in the middle of them. -/
theorem internal_failures_unreachable (profile : Profile) (marked : List Helper) {before state : State}
    (reached : (Session.prepared profile marked).Reaches .script before)
    (during : before.Becomes .script state) : state.Shielded :=
  (Session.sound_of_reaches reached during).shielded

/-- Steps by which a script goes for the prototype object of `Error`: it links `Error` as a derived class,
assigns and defines. -/
def tamperingSteps : List Script.Step :=
  [.perform (.create (.globalProperty "Error")) [] { result := some "error" },
    .perform (.onClass .link) [.named "error", .value .null] { failure := some "refused" },
    .perform (.onProperty .set)
      [.named "error", .value (.string "prototype"), .value .null] { failure := some "refused" },
    .perform (.onProperty (.define { value := some (.value .null) }))
      [.named "error", .value (.string "prototype")] { failure := some "refused" }]

/-- After such a script `Error` has the prototype object that it was made with. -/
theorem tampered_error_equipped :
    let start := { Session.prepared Preset.modern.profile [] with scopes := #[{}] }
    let state := (Session.runSteps ⟨0⟩ tamperingSteps start ∅).2
    (Session.prepared Preset.modern.profile []).Reaches .script state ∧ state.Becomes .script state ∧
      state.heap.plainRead? Intrinsic.global.id "Error" = some (.object ⟨22⟩) ∧
      (state.heap.object ⟨22⟩).fixedPrototype? = some (Intrinsic.errorPrototype .error).id ∧
      state.Shielded := by
  intro start state
  have lawful : Script.LawfulSteps .script start.heap.size tamperingSteps := by simp [tamperingSteps]
  have reached := Session.prepared_reaches Preset.modern.profile [] lawful
  have unchanged : state.Becomes .script state := .refl
  refine ⟨reached, unchanged, by decide +kernel, by decide +kernel, ?_⟩
  exact internal_failures_unreachable _ _ reached unchanged

end ClassLowering
