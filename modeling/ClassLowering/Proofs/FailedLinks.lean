import ClassLowering.Proofs.ClassLinking
import ClassLowering.Proofs.Composition.Basic
import ClassLowering.Proofs.Construction.Body

/-!
# Failed links

A class that is linked to a base is changed twice: it takes a new prototype object, and then a new link of its
own. Nothing is taken back. A link that fails before the first change leaves everything as it was, and one that
fails at the second leaves a class to which none of its instances belongs any more.
-/

namespace ClassLowering

open Bounded

/-! ## Guards -/

namespace Heap

variable {law : Law} {heap : Heap} {id ancestor : ObjectId}

/-- What something inherits from is there. -/
theorem Sound.index_lt_of_inherits (sound : heap.Sound law)
    (inherits : heap.inherits id ancestor = some true) : ancestor.index < heap.size := by
  rw [Heap.inherits] at inherits
  cases linked : heap.prototypeOf id with
  | none =>
      rw [linked] at inherits
      cases inherits
  | some first =>
      rw [linked] at inherits
      obtain ⟨last, reaches, finished⟩ := walkFor_finishes inherits
      have present : Within law heap.size last := invariant_of_reaches
        (fun _ _ moved => sound.within_reported (ancestorStride_moves moved))
        (sound.within_reported linked) reaches
      exact ancestorStride_finishes finished ▸ present

/-- Only what is there inherits from anything. -/
theorem index_lt_of_inherits (inherits : heap.inherits id ancestor = some true) :
    id.index < heap.size := by
  rw [Heap.inherits] at inherits
  cases linked : heap.prototypeOf id with
  | none =>
      rw [linked] at inherits
      cases inherits
  | some first => exact index_lt_of_prototypeOf linked

end Heap

/-- Guards go on to let those pass that they let pass, as long as nothing that was there changes. -/
theorem Heap.LetsPass.extends {law : Law} {state after : State} {constructor this : ObjectId}
    (passes : state.heap.LetsPass constructor this) (sound : state.heap.Sound law)
    (grown : state.heap.Extends after.heap) : after.heap.LetsPass constructor this := by
  obtain ⟨callable, prototype, kind, reads, inherits⟩ := letsPass_iff.mp passes
  have there := index_lt_of_kind kind nofun
  have keeps := grown.keeps "prototype"
  refine letsPass_iff.mpr ⟨callable, prototype, ?_, ?_, ?_⟩
  · rw [keeps.kind_eq constructor there, kind]
  · rw [keeps.plainRead?_eq sound there, reads]
  · rw [keeps.inherits_eq sound (index_lt_of_inherits inherits), inherits]

/-! ## Where a link fails -/

/-- The prototype object of a base is read, and that of a class is replaced, without a call. -/
structure Heap.PlainPrototypes (heap : Heap) (derived base : Value) : Prop where
  read : ∀ id, base = .object id → heap.isCallable base = true →
    ∃ value, heap.plainRead? id "prototype" = some value
  replaced : ∀ id setter, derived = .object id →
    heap.assignment (heap.resolve id) "prototype" ≠ some (.setter setter)

/-- A class has its new prototype object, but not yet its new link. -/
def State.halfway (state : State) (id : ObjectId) (above : Option ObjectId) : State :=
  { state with heap := state.heap.reprototyped id (state.heap.resolve id) above }

namespace Run

variable {law : Law} {engine : Engine} {state after : State} {derived base : Value} {failure : Failure}

/-- A function that gives no link to prototype objects, neither an object nor `null`, is refused. -/
theorem fits_or_refused {upper : ObjectId} {callable : Callable} {value : Value}
    (kind : (state.heap.object upper).kind = .function callable)
    (reads : state.heap.plainRead? upper "prototype" = some value) (engine : Engine) :
    (∃ above, state.FitsAsBase engine (.object upper) above) ∨
      ∃ fault, baseInstancePrototype (.object upper) engine state = .failed (.fault fault) state := by
  have read : get upper "prototype" engine state = .done value state := getFor_plain reads
  cases value with
  | object above => exact .inl ⟨some above, .function kind read⟩
  | null => exact .inl ⟨none, .function kind read⟩
  | _ => exact .inr ⟨.invalidPrototype (state.heap.text _), bind_of_done read⟩

/-- Either a link is refused before any effect, or an object is linked to a base that fits. -/
theorem linkClass_refused_or_fits (plain : state.heap.PlainPrototypes derived base) (engine : Engine) :
    (∃ fault, linkClass derived base engine state = .failed (.fault fault) state) ∨
      ∃ id above, derived = .object id ∧ state.FitsAsBase engine base above := by
  by_cases admissible : state.heap.isCallable base = true ∨ base = .null
  · have checked : checkBase base engine state = .done () state := checkBase_apply admissible
    cases derived with
    | object id =>
        cases base with
        | null => exact .inr ⟨id, none, rfl, .null⟩
        | object upper =>
            have callable := admissible.resolve_right nofun
            obtain ⟨value, reads⟩ := plain.read upper rfl callable
            obtain ⟨_, kind⟩ := Heap.kind_of_isCallable callable
            rcases fits_or_refused kind reads engine with ⟨above, fits⟩ | ⟨fault, refused⟩
            · exact .inr ⟨id, above, rfl, fits⟩
            · exact .inl ⟨fault, (bind_of_done checked).trans (bind_of_failed refused)⟩
        | _ => rcases admissible with callable | same <;> contradiction
    | _ => exact .inl ⟨_, bind_of_done checked⟩
  · obtain ⟨uncallable, present⟩ := not_or.mp admissible
    exact .inl ⟨_, linkClass_invalidBase derived (Bool.eq_false_of_not_eq_true uncallable) present⟩

/-- A link that fails leaves everything as it was, up to a prototype object that nothing uses. Otherwise it is
the way of the host to the link of the class that fails, after the class was given the prototype object. -/
theorem linkClass_failed (sound : state.heap.Sound law) (there : Within law state.heap.size derived)
    (plain : state.heap.PlainPrototypes derived base)
    (failed : linkClass derived base engine state = .failed failure after) :
    (state.heap.Extends after.heap ∧ after = { state with heap := after.heap }) ∨
      ∃ id upper above, derived = .object id ∧ base = .object upper ∧ upper.index < state.heap.size ∧
        setPrototypeOf derived base engine (state.halfway id above) = .failed failure after := by
  rcases linkClass_refused_or_fits plain engine with ⟨fault, refused⟩ | ⟨id, above, rfl, fits⟩
  · rw [refused] at failed
    cases failed
    exact .inl ⟨.refl _, rfl⟩
  · let made := state.making (.linkedPrototype id above)
    have grown : state.heap.Extends made.heap := .allocate ..
    have keeps := grown.keeps "prototype"
    have resolved : made.heap.resolve id = state.heap.resolve id := keeps.resolve_eq sound there
    have unset (setter : Value) :
        made.heap.assignment (made.heap.resolve id) "prototype" ≠ some (.setter setter) := by
      rw [resolved, keeps.assignment_eq sound (sound.within_resolve there)]
      exact plain.replaced id setter rfl
    rw [linkClass_eq fits] at failed
    -- Only an assignment that took place is followed by the second change.
    rcases set_without_setter unset (.object state.heap.next) engine with endless | untaken | taken
    · rw [bind_of_exhausted endless] at failed
      cases failed
    · rw [bind_of_done untaken] at failed
      obtain ⟨_, same⟩ := Outcome.failed.inj failed
      rw [← same]
      exact .inl ⟨grown, rfl⟩
    · rw [bind_of_done taken, resolved] at failed
      cases fits with
      | null => cases failed
      | @function upper _ _ kind _ =>
          have present := Heap.index_lt_of_kind kind nofun
          refine .inr ⟨id, upper, above, rfl, rfl, present, ?_⟩
          rcases failed_of_bind failed with first | ⟨_, _, _, later⟩
          · exact first
          · cases later

end Run

/-! ## What a refused link leaves behind -/

/-- What the strategy of a realm finds to write the link of an object is the function of the host, if it finds
anything. -/
structure State.WritesByHost (state : State) (id : ObjectId) : Prop where
  standard : ∀ function, state.writerStrategy = .standard →
    state.heap.objectFunction? "setPrototypeOf" = some function →
      state.heap.builtin? function = some (.method, .objectSetPrototypeOf)
  legacy : ∀ setter, state.writerStrategy = .legacy →
    state.heap.assignment (state.heap.resolve id) "__proto__" = some (.setter setter) →
      state.heap.builtin? setter = some (.method, .linkSetter)

/-- The host writes the link in any heap that keeps the keys on its way. -/
theorem State.WritesByHost.of_keeps {law : Law} {state : State} {id : ObjectId} {heap : Heap}
    (hosted : state.WritesByHost id) (sound : state.heap.Sound law)
    (object : state.heap.Keeps "Object" heap) (writer : state.heap.Keeps "setPrototypeOf" heap)
    (present : id.index < state.heap.size) (accessor : state.heap.Keeps "__proto__" heap) :
    WritesByHost { state with heap } id := by
  have strategy_eq := writerStrategy_of_keeps sound object writer
  constructor
  · intro function strategy held
    rw [strategy_eq] at strategy
    rw [object.objectFunction?_eq writer sound] at held
    exact Heap.builtin?_of_kind_eq object.kind_eq (hosted.standard function strategy held)
  · intro setter strategy held
    rw [strategy_eq] at strategy
    rw [accessor.resolve_eq sound present,
      accessor.assignment_eq sound (sound.within_resolve present)] at held
    exact Heap.builtin?_of_kind_eq object.kind_eq (hosted.legacy setter strategy held)

namespace Run

variable {state after : State} {id : ObjectId} {prototype : Option ObjectId} {failure : Failure}

/-- Functions of the host do not run on an engine without depth. -/
theorem call_idle {function : Value} {found : FunctionKind × Builtin}
    (held : state.heap.builtin? function = some found) (this : Value) (arguments : List Value) :
    call function this arguments (Engine.ofDepth 0) state = .exhausted := by
  obtain ⟨callee, callable, called, _⟩ := Heap.function?_of_builtin? held
  rw [call_of_function? called]
  rfl

theorem setPrototypeOf_idle (writes : state.WritesLinks id) :
    setPrototypeOf (.object id) (.ofObject? prototype) (Engine.ofDepth 0) state = .exhausted := by
  cases writes with
  | standard strategy held found =>
      rw [setPrototypeOf_standard strategy, held]
      rw [← state.knowingWriter_heap] at found
      exact call_idle found _ _
  | legacy strategy held found =>
      rw [setPrototypeOf_legacy id strategy]
      rw [← state.knowingWriter_heap] at held found
      refine bind_of_exhausted ?_
      rw [set_of_assignment held]
      exact bind_of_exhausted (call_idle found _ _)

/-- Where a function of the host writes the link, a failure is its `TypeError` and has no effect. -/
theorem setPrototypeOf_refused (writes : state.WritesLinks id) {depth : Nat}
    (failed : setPrototypeOf (.object id) (.ofObject? prototype) (Engine.ofDepth depth) state =
      .failed failure after) :
    after = state.knowingWriter ∧ (∃ fault, failure = .fault fault ∧ fault.kind = .typeError) ∧
      state.heap.admitsLink (state.heap.resolve id) prototype = false := by
  cases depth with
  | zero =>
      rw [setPrototypeOf_idle writes] at failed
      cases failed
  | succ depth =>
      rw [setPrototypeOf_relinks id prototype writes depth, State.relink] at failed
      split at failed
      · cases failed
      · next refuses =>
        cases failed
        exact ⟨rfl, ⟨_, rfl, PrototypeStrategy.refusal_kind _⟩, Bool.eq_false_of_not_eq_true refuses⟩

/-- Where only the host writes links, the portable way fails with a `TypeError` and without effect. It fails
because the link is not admitted, or because there is nothing to call. -/
theorem setPrototypeOf_failed (hosted : state.WritesByHost id) {depth : Nat}
    (failed : setPrototypeOf (.object id) (.ofObject? prototype) (Engine.ofDepth depth) state =
      .failed failure after) :
    after = state.knowingWriter ∧ (∃ fault, failure = .fault fault ∧ fault.kind = .typeError) ∧
      (state.heap.admitsLink (state.heap.resolve id) prototype = false ∨
        state.writerStrategy = .standard ∧ state.heap.objectFunction? "setPrototypeOf" = none) := by
  have refused (writes : state.WritesLinks id) := setPrototypeOf_refused writes failed
  cases strategy : state.writerStrategy with
  | standard =>
      cases held : state.heap.objectFunction? "setPrototypeOf" with
      | none =>
          rw [setPrototypeOf_standard strategy, held] at failed
          cases failed
          exact ⟨rfl, ⟨_, rfl, rfl⟩, .inr ⟨rfl, rfl⟩⟩
      | some function =>
          obtain ⟨left, kind, cause⟩ := refused (.standard strategy held (hosted.standard _ strategy held))
          exact ⟨left, kind, .inl cause⟩
  | legacy =>
      by_cases met : ∃ setter,
          state.heap.assignment (state.heap.resolve id) "__proto__" = some (.setter setter)
      · obtain ⟨setter, held⟩ := met
        obtain ⟨left, kind, cause⟩ := refused (.legacy strategy held (hosted.legacy _ strategy held))
        exact ⟨left, kind, .inl cause⟩
      · -- Without the accessor the assignment leaves a property behind, or nothing, and does not fail.
        have unset := not_exists.mp met
        rw [← state.knowingWriter_heap] at unset
        rw [setPrototypeOf_legacy id strategy] at failed
        rcases failed_of_bind failed with first | ⟨_, _, _, later⟩
        · rcases set_without_setter unset (.ofObject? prototype) (Engine.ofDepth depth) with
            ended | ended | ended <;>
          · rw [ended] at first
            cases first
        · cases later

end Run

namespace Heap

variable {law : Law} {heap : Heap} {derived holder upper : ObjectId} {above : Option ObjectId}

/-- A new prototype object takes no part in the question whether a link is admitted. -/
theorem admitsLink_reprototyped (sound : heap.Sound law) (present : holder.index < heap.size)
    (upper_present : upper.index < heap.size) :
    (heap.reprototyped derived holder above).admitsLink holder (some upper) =
      heap.admitsLink holder (some upper) := by
  have keeps : heap.Keeps "__proto__" (heap.reprototyped derived holder above) :=
    keeps_reprototyped present (by decide)
  have same : ((heap.reprototyped derived holder above).object holder).extensible =
      (heap.object holder).extensible := by
    rw [object_reprototyped_self present]
    rfl
  simp only [admitsLink, keeps.prototype_eq holder present, same, Option.any_some,
    keeps.linksTo_eq sound upper_present]

end Heap

namespace State

variable {law : Law} {state : State} {id this upper : ObjectId} {above : Option ObjectId}

section Present

variable (sound : state.heap.Sound law) (present : id.index < state.heap.size)
include sound present

theorem keeps_halfway {key : PropertyKey} (other : key ≠ "prototype") :
    state.heap.Keeps key (state.halfway id above).heap :=
  Heap.keeps_reprototyped (sound.within_resolve present) other

/-- Nothing that was there inherits from the new prototype object, so that the guard lets none of it pass. -/
theorem not_letsPass_halfway (there : this.index < state.heap.size) :
    ¬ (state.halfway id above).heap.LetsPass id this := by
  intro passes
  obtain ⟨callable, prototype, kind, reads, inherits⟩ := Heap.letsPass_iff.mp passes
  have keeps : state.heap.Keeps "__proto__" (state.halfway id above).heap :=
    keeps_halfway sound present (by decide)
  rw [keeps.kind_eq id present] at kind
  -- A proxy is no function and has no guard, so that the class holds the new prototype object itself.
  have itself : state.heap.resolve id = id :=
    Heap.resolve_of_ordinary (Heap.proxy?_of_function kind)
  have self : (state.halfway id above).heap.object id =
      (state.heap.object id).setValue "prototype" (.object state.heap.next) := by
    rw [halfway, itself]
    exact Heap.object_reprototyped_self present
  obtain ⟨property, held, slot, _⟩ :=
    (state.heap.object id).property?_setValue_self "prototype" (.object state.heap.next)
  have ordinary : ((state.halfway id above).heap.object id).proxy? = none := by
    rw [keeps.proxy?_eq present]
    exact Heap.proxy?_of_function kind
  rw [Heap.plainRead?_own ordinary (self ▸ held) slot] at reads
  cases reads
  rw [keeps.inherits_eq sound there] at inherits
  exact Nat.lt_irrefl _ (sound.index_lt_of_inherits inherits)

end Present

/-- A class was left halfway: it has the new prototype object, with the link that it had. -/
structure LeftHalfway (before : State) (id upper : ObjectId) (above : Option ObjectId) (after : State) :
    Prop where
  class_eq : after.heap.object (before.heap.resolve id) =
    (before.heap.object (before.heap.resolve id)).setValue "prototype" (.object before.heap.next)
  created : after.heap.object before.heap.next = .linkedPrototype id above
  others_eq : before.heap.ExtendsBut (before.heap.resolve id) after.heap
  link_eq : after.heap.prototypeOf id = before.heap.prototypeOf id
  /-- Nothing that was there is an instance of the class. -/
  outside : ∀ this, this.index < before.heap.size → ¬ after.heap.LetsPass id this
  /-- Apart from the heap, it may be known now how links are written. -/
  rest : ∃ writer, after =
    { before with heap := after.heap, caches := { before.caches with writer } }
  /-- The link had to be refused from the start, or the function to write it is gone. -/
  cause : before.heap.Refuses (before.heap.resolve id) (some upper) ∨
    before.writerStrategy = .standard ∧ before.heap.objectFunction? "setPrototypeOf" = none

/-- How a link of a class fails, and what it leaves. -/
inductive FailedLink (before : State) (engine : Engine) (derived base : Value) (failure : Failure)
    (after : State) : Prop
  /-- Before the first change. There may be a prototype object that nothing uses. -/
  | unchanged (kept : before.heap.Extends after.heap) (rest : after = { before with heap := after.heap })
      (passing : ∀ constructor this, before.heap.LetsPass constructor this →
        after.heap.LetsPass constructor this)
  /-- Between the changes, on the way to the link of the class. Scripts may run there, but the functions of
  the host change nothing. -/
  | halfway {id upper : ObjectId} {above : Option ObjectId} (class_eq : derived = .object id)
      (base_eq : base = .object upper)
      (writer_failed : Run.setPrototypeOf derived base engine (before.halfway id above) =
        .failed failure after)
      (left : before.WritesByHost id → before.LeftHalfway id upper above after ∧
        ∃ fault, failure = .fault fault ∧ fault.kind = .typeError)

/-- Where the host writes links, a link that it refuses leaves the class halfway. -/
theorem leftHalfway_of_failed {before after : State} (sound : before.heap.Sound law)
    (present : id.index < before.heap.size) (upper_present : upper.index < before.heap.size)
    (hosted : before.WritesByHost id) {depth : Nat} {failure : Failure}
    (failed : Run.setPrototypeOf (.object id) (.object upper) (Engine.ofDepth depth)
      (before.halfway id above) = .failed failure after) :
    before.LeftHalfway id upper above after ∧
      ∃ fault, failure = .fault fault ∧ fault.kind = .typeError := by
  have holder := sound.within_resolve present
  have keeps (key : PropertyKey) (other : key ≠ "prototype") :
      before.heap.Keeps key (before.halfway id above).heap := keeps_halfway sound present other
  have object := keeps "Object" (by decide)
  have writer := keeps "setPrototypeOf" (by decide)
  have accessor := keeps "__proto__" (by decide)
  have still : (before.halfway id above).WritesByHost id :=
    hosted.of_keeps sound object writer present accessor
  obtain ⟨rfl, kind, cause⟩ := @Run.setPrototypeOf_failed _ _ _ (some upper) _ still _ failed
  refine ⟨⟨?_, ?_, ?_, ?_, ?_, ⟨_, rfl⟩, ?_⟩, kind⟩
  · exact Heap.object_reprototyped_self holder
  · exact Heap.object_reprototyped_next holder
  · exact Heap.extendsBut_reprototyped
  · exact accessor.prototypeOf_eq sound present
  · exact fun this there => not_letsPass_halfway sound present there
  · rcases cause with refused | ⟨strategy, missing⟩
    · rw [accessor.resolve_eq sound present] at refused
      have refuses := (Heap.admitsLink_reprototyped sound holder upper_present).symm.trans refused
      exact .inl ((Heap.admitsLink_eq_false_iff sound.acyclic sound.bare).mp refuses)
    · have strategy_eq := writerStrategy_of_keeps sound object writer
      exact .inr ⟨strategy_eq.symm.trans strategy,
        (object.objectFunction?_eq writer sound).symm.trans missing⟩

end State

/-- In every state of a session, a link of a class that fails leaves everything as it was, and the guards let
pass what they let pass, unless it is the portable way to the link of the class that fails. The class then has
its new prototype object already; where the functions of the host fail, this is all that has changed. -/
theorem failed_links_leave_class (profile : Profile) (marked : List Helper) {law : Law}
    {before state : State} (reached : (Session.prepared profile marked).Reaches law before)
    (during : before.Becomes law state) {derived base : Value}
    (there : Within law state.heap.size derived) (plain : state.heap.PlainPrototypes derived base)
    (depth : Nat) {failure : Failure} {after : State}
    (failed : Run.linkClass derived base (Engine.ofDepth depth) state = .failed failure after) :
    state.FailedLink (Engine.ofDepth depth) derived base failure after := by
  have sound := (Session.sound_of_reaches reached during).heap
  rcases Run.linkClass_failed sound there plain failed with
    ⟨kept, rest⟩ | ⟨id, upper, above, rfl, rfl, upper_present, writer_failed⟩
  · exact .unchanged kept rest fun constructor this passes => passes.extends sound kept
  · exact .halfway rfl rfl writer_failed fun hosted =>
      State.leftHalfway_of_failed sound there upper_present hosted writer_failed

/-! ## A link that closes a cycle -/

/-- Steps that make two functions, link the second to the first, and construct the first. -/
def lineageSteps : List Script.Step :=
  [.makeFunction { name := "A", kind := .normal } [] [] { result := some "A" },
    .makeFunction { name := "B", kind := .normal } [] [] { result := some "B" },
    .perform (.onClass .link) [.named "B", .named "A"] {},
    .perform (.onFunction .construct) [.named "A"] {}]

def lineageStart : State := { Session.prepared Preset.modern.profile [] with scopes := #[{}] }

/-- The state after these steps. -/
def lineageState : State := (Session.runSteps ⟨0⟩ lineageSteps lineageStart ∅).2

/-- The first function, the second one, and the instance of the first. -/
def lineageUpper : ObjectId := lineageStart.heap.next
def lineageLower : ObjectId := ⟨lineageStart.heap.size + 2⟩
def lineageInstance : ObjectId := ⟨lineageStart.heap.size + 5⟩

theorem lineageState_reached (law : Law) :
    (Session.prepared Preset.modern.profile []).Reaches law lineageState := by
  have lawful : Script.LawfulSteps law lineageStart.heap.size lineageSteps := by simp [lineageSteps]
  exact Session.prepared_reaches Preset.modern.profile [] lawful

theorem lineageState_made :
    lineageState.heap.isCallable (.object lineageUpper) = true ∧
      (lineageState.heap.object lineageUpper).property? "prototype" =
        some { slot := .data (.object ⟨lineageStart.heap.size + 1⟩), enumerable := false,
               configurable := false } ∧
      lineageState.heap.plainRead? lineageLower "prototype" =
        some (.object ⟨lineageStart.heap.size + 4⟩) ∧
      lineageState.heap.inherits lineageInstance ⟨lineageStart.heap.size + 1⟩ = some true := by
  decide +kernel

/-- The link is refused when the first function already holds the prototype object that was made for it. -/
theorem lineageState_link_failed :
    (Run.linkClass (.object lineageUpper) (.object lineageLower) (Engine.ofDepth 1)
      lineageState).failed?.any (fun (_, after) =>
        (after.heap.object lineageUpper).property? "prototype" ≠
            (lineageState.heap.object lineageUpper).property? "prototype" ∧
          after.heap.plainRead? lineageUpper "prototype" = some (.object lineageState.heap.next) ∧
          after.heap.inherits lineageInstance lineageState.heap.next = some false) = true := by
  decide +kernel

/-- The prototypes of both functions are values. -/
theorem lineageState_plain :
    lineageState.heap.PlainPrototypes (.object lineageUpper) (.object lineageLower) := by
  obtain ⟨callable, held, reads, _⟩ := lineageState_made
  obtain ⟨_, kind⟩ := Heap.kind_of_isCallable callable
  have ordinary := Heap.proxy?_of_function kind
  have holds : lineageState.heap.Holds lineageUpper "prototype" _ := ⟨_, held, rfl, rfl⟩
  constructor
  · rintro id ⟨⟩ _
    exact ⟨_, reads⟩
  · rintro id setter ⟨⟩ met
    rw [Heap.resolve_of_ordinary ordinary, holds.assignment_eq ordinary] at met
    cases met

/-- The first function cannot be linked to the second, which is below it. -/
theorem cyclic_class_link_fails :
    let derived : Value := .object lineageUpper
    let base : Value := .object lineageLower
    (Session.prepared Preset.modern.profile []).Reaches .host lineageState ∧
      lineageState.Becomes .host lineageState ∧ Within .host lineageState.heap.size derived ∧
      lineageState.heap.PlainPrototypes derived base ∧
      ∃ failure after,
        Run.linkClass derived base (Engine.ofDepth 1) lineageState = .failed failure after ∧
          lineageState.FailedLink (Engine.ofDepth 1) derived base failure after := by
  intro derived base
  have reached := lineageState_reached .host
  have unchanged : lineageState.Becomes .host lineageState := .refl
  obtain ⟨_, held, _⟩ := lineageState_made
  have present : Within .host lineageState.heap.size derived := Heap.index_lt_of_property held
  obtain ⟨⟨failure, after⟩, failed, _⟩ := (Option.any_eq_true _ _).mp lineageState_link_failed
  have failed := Outcome.failed_of_failed? failed
  exact ⟨reached, unchanged, present, lineageState_plain, failure, after, failed,
    failed_links_leave_class _ _ reached unchanged present lineageState_plain 1 failed⟩

/-- This link takes its prototype object from the first function, and the instance no longer passes its
guard. -/
theorem cyclic_class_link_loses_instance :
    (Session.prepared Preset.modern.profile []).Reaches .host lineageState ∧
      lineageState.heap.PlainPrototypes (.object lineageUpper) (.object lineageLower) ∧
      lineageState.heap.LetsPass lineageUpper lineageInstance ∧
      ∃ failure after,
        Run.linkClass (.object lineageUpper) (.object lineageLower) (Engine.ofDepth 1) lineageState =
          .failed failure after ∧
        (after.heap.object lineageUpper).property? "prototype" ≠
          (lineageState.heap.object lineageUpper).property? "prototype" ∧
        ¬ after.heap.LetsPass lineageUpper lineageInstance := by
  obtain ⟨callable, held, _, inherits⟩ := lineageState_made
  obtain ⟨callable, kind⟩ := Heap.kind_of_isCallable callable
  have reads := Heap.plainRead?_own (Heap.proxy?_of_function kind) held rfl
  have passes : lineageState.heap.LetsPass lineageUpper lineageInstance :=
    Heap.letsPass_iff.mpr ⟨callable, _, kind, reads, inherits⟩
  obtain ⟨⟨failure, after⟩, failed, facts⟩ := (Option.any_eq_true _ _).mp lineageState_link_failed
  obtain ⟨differs, replaced, apart⟩ := of_decide_eq_true facts
  refine ⟨lineageState_reached .host, lineageState_plain, passes, failure, after,
    Outcome.failed_of_failed? failed, differs, fun still => ?_⟩
  obtain ⟨_, prototype, _, found, instances⟩ := Heap.letsPass_iff.mp still
  rw [replaced] at found
  cases found
  rw [apart] at instances
  cases instances

end ClassLowering
