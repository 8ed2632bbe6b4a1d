import ClassLowering.Proofs.Run.Making

/-!
# Writing prototype links

A new object may be linked to any old one, since no link of an old object leads to it. All functions of
the host that write links come down to one change, with answers and refusals of their own.
-/

namespace ClassLowering

open Relation

namespace Heap

variable {older heap : Heap} {id start top : ObjectId} {key : PropertyKey}

/-- An object is not met on links that lead past it to an object without a link. -/
theorem linksTo_apart (key : PropertyKey)
    (clears : ReflTransGen (fun current next => heap.Passes key current next ∧ current ≠ id) start top)
    (differs : top ≠ id) (ordinary : (heap.object top).proxy? = none)
    (unlinked : (heap.object top).prototype = none) : heap.linksTo start id = false := by
  have inside : heap.Inside (heap.linkStride id) :=
    fun _ _ moved => index_lt_of_prototype (linkStride_moves moved).1
  have moves (current next : ObjectId) (step : heap.Passes key current next ∧ current ≠ id) :
      Moves (heap.linkStride id) current next := by
    have target := target?_of_ordinary step.1.ordinary
    rw [Moves, linkStride, if_neg step.2]
    dsimp only
    rw [target]
    exact moves_follow_iff.mpr step.1.links
  have finished : heap.linkStride id top = .finish false := by
    have target := target?_of_ordinary ordinary
    rw [linkStride, if_neg differs]
    dsimp only
    rw [target, unlinked]
    rfl
  rw [linksTo, walk_of_reaches inside (clears.lift _ moves) (walk_of_finish finished)]
  rfl

/-- A new object is not met on the links of an old one. -/
theorem linksTo_new (grown : older.Extends heap) (new : older.size ≤ id.index)
    (clears : older.Clears key start top) (present : top.index < older.size)
    (ordinary : (older.object top).proxy? = none) (unlinked : (older.object top).prototype = none) :
    heap.linksTo start id = false := by
  have differs (current : ObjectId) (there : current.index < older.size) : current ≠ id := by
    rintro rfl
    exact Nat.lt_irrefl _ (Nat.lt_of_lt_of_le there new)
  have top_eq := grown.object_eq top present
  refine linksTo_apart key ?_ (differs top present) (top_eq ▸ ordinary) (top_eq ▸ unlinked)
  refine clears.along fun current next passes => ?_
  have there := index_lt_of_prototype passes.links
  exact ⟨passes.congr (grown.object_eq current there), differs current there⟩

/-- An extensible object may be linked to one from which it is not met. -/
theorem admitsLink_of_apart (extensible : (heap.object id).extensible = true)
    (apart : heap.linksTo start id = false) : heap.admitsLink id (some start) = true := by
  rw [admitsLink, extensible, Option.any_some, apart]
  simp

theorem linkStride_finishes {current : ObjectId}
    (finished : heap.linkStride id current = .finish true) : current = id := by
  unfold linkStride at finished
  split at finished
  · next same => exact same
  · dsimp only at finished
    split at finished
    · cases finished
    · unfold Stride.follow at finished
      split at finished <;> cases finished

/-- What is met on stored links stands above where they start. -/
theorem above_of_linksTo (met : heap.linksTo start id = true) : heap.Above start id := by
  unfold linksTo at met
  cases walked : heap.walk (heap.linkStride id) start with
  | none =>
      rw [walked] at met
      cases met
  | some answer =>
      rw [walked] at met
      cases met
      obtain ⟨last, reaches, finished⟩ := walkFor_finishes walked
      have climbs := ReflTransGen.mono (fun _ _ moved => (linkStride_moves moved).1) _ _ reaches
      exact linkStride_finishes finished ▸ climbs

/-- Behind what stands behind proxies, there is nothing more. -/
theorem resolve_resolve (heap : Heap) (id : ObjectId) :
    heap.resolve (heap.resolve id) = heap.resolve id := by
  cases walked : heap.walk heap.targetStride id with
  | none =>
      have same : heap.resolve id = id := by rw [resolve, walked, Option.getD_none]
      rw [same, same]
  | some answer =>
      have resolved : heap.resolve id = answer := by rw [resolve, walked, Option.getD_some]
      obtain ⟨last, _, finished⟩ := walkFor_finishes walked
      unfold targetStride at finished
      cases linked : (heap.object last).target? with
      | some target =>
          rw [linked] at finished
          cases finished
      | none =>
          rw [linked] at finished
          cases finished
          rw [resolved]
          exact resolve_of_ordinary (Option.map_eq_none_iff.mp linked)

end Heap

/-! ## Writers of prototype links -/

/-- How a run ends that points the prototype link of an object elsewhere: with an answer where the link is
admitted, and otherwise as the run reports a refusal. A proxy passes the change on to its target. -/
def State.relink {α : Type} (state : State) (id : ObjectId) (prototype : Option ObjectId) (answer : α)
    (refused : Outcome α) : Outcome α :=
  if state.heap.admitsLink (state.heap.resolve id) prototype then
    .done answer { state with heap := state.heap.setLink (state.heap.resolve id) prototype }
  else refused

namespace State

variable {α : Type} {state : State} {id : ObjectId} {prototype : Option ObjectId} {answer : α}
  {refused : Outcome α}

theorem relink_admitted (state : State) (ordinary : (state.heap.object id).proxy? = none)
    (admits : state.heap.admitsLink id prototype = true) :
    state.relink id prototype answer refused =
      .done answer { state with heap := state.heap.setLink id prototype } := by
  rw [relink, Heap.resolve_of_ordinary ordinary]
  exact if_pos admits

theorem relink_refused (state : State) (ordinary : (state.heap.object id).proxy? = none)
    (refuses : state.heap.admitsLink id prototype = false) :
    state.relink id prototype answer refused = refused := by
  rw [relink, Heap.resolve_of_ordinary ordinary]
  exact if_neg (ne_true_of_eq_false refuses)

theorem relink_resolve (state : State) (id : ObjectId) (prototype : Option ObjectId) (answer : α)
    (refused : Outcome α) :
    state.relink (state.heap.resolve id) prototype answer refused =
      state.relink id prototype answer refused := by
  rw [relink, relink, Heap.resolve_resolve]

/-- How prototype links are written: as it was found out before, and otherwise as the globals speak for. -/
def writerStrategy (state : State) : PrototypeStrategy :=
  state.caches.writer.getD state.heap.prototypeStrategy

/-- The state once it is known how prototype links are written. -/
def knowingWriter (state : State) : State :=
  state.knowing { state.caches with writer := some state.writerStrategy }

@[simp] theorem knowingWriter_heap (state : State) : state.knowingWriter.heap = state.heap := rfl

/-- The strategy of a realm comes to the function of the host that writes the link of an object. -/
inductive WritesLinks (state : State) (id : ObjectId) : Prop
  | standard {function : Value} (strategy : state.writerStrategy = .standard)
      (held : state.heap.objectFunction? "setPrototypeOf" = some function)
      (found : state.heap.builtin? function = some (.method, .objectSetPrototypeOf))
  | legacy {setter : Value} (strategy : state.writerStrategy = .legacy)
      (held : state.heap.assignment (state.heap.resolve id) "__proto__" = some (.setter setter))
      (found : state.heap.builtin? setter = some (.method, .linkSetter))

end State

/-- The facility of a host by which a strategy writes links is there. -/
def PrototypeStrategy.OfferedBy (strategy : PrototypeStrategy) (profile : Profile) : Prop :=
  match strategy with
  | .standard => profile.objectSetPrototypeOf = true
  | .legacy => profile.legacyProtoAccessor = true

/-- The fault with which a strategy refuses a link. -/
def PrototypeStrategy.refusal : PrototypeStrategy → Fault
  | .standard => .setPrototypeRefused
  | .legacy => .linkAccessorRefused

theorem PrototypeStrategy.refusal_kind (strategy : PrototypeStrategy) :
    strategy.refusal.kind = .typeError := by
  cases strategy <;> rfl

namespace Builtin

/-- Objects and `null` are the links that there are. -/
theorem prototypeArgument_apply (prototype : Option ObjectId) (engine : Engine) (state : State) :
    prototypeArgument (.ofObject? prototype) engine state = .done prototype state := by
  cases prototype <;> rfl

end Builtin

namespace Run

variable {α β : Type} {engine : Engine} {state : State} {id : ObjectId} {prototype : Option ObjectId}

/-- What follows a change of a link, where it does not change anything itself. -/
theorem bind_relink {first : Run β} {rest : β → Run α} {answer : β} {last : α} {failure : Failure}
    (ran : first engine state = state.relink id prototype answer (.failed failure state))
    (goesOn : ∀ after, rest answer engine after = .done last after) :
    (first >>= rest) engine state = state.relink id prototype last (.failed failure state) := by
  unfold State.relink at ran ⊢
  split at ran
  · next admits =>
    rw [if_pos admits]
    exact (bind_of_done ran).trans (goesOn _)
  · next refuses =>
    rw [if_neg refuses]
    exact bind_of_failed ran

/-- What a change of a link leads to. -/
theorem setPrototype_eq (id : ObjectId) (prototype : Option ObjectId) (engine : Engine)
    (state : State) :
    setPrototype id prototype engine state =
      state.relink id prototype true (.done false state) := by
  rw [setPrototype, ask_bind, ask_bind, State.relink]
  cases state.heap.admitsLink (state.heap.resolve id) prototype <;> rfl

theorem setPrototype_apply (ordinary : (state.heap.object id).proxy? = none)
    (prototype : Option ObjectId) :
    setPrototype id prototype engine state =
      if state.heap.admitsLink id prototype then
        .done true { state with heap := state.heap.setLink id prototype }
      else .done false state := by
  rw [setPrototype_eq, State.relink, Heap.resolve_of_ordinary ordinary]

/-- A run that is told whether a link was admitted. -/
theorem setPrototype_bind {rest : Bool → Run α} {answer : α} {refused : Outcome α}
    (written : ∀ after, rest true engine after = .done answer after)
    (refuses : rest false engine state = refused) :
    (setPrototype id prototype >>= rest) engine state = state.relink id prototype answer refused := by
  rw [bind_apply, setPrototype_eq, State.relink, State.relink]
  cases state.heap.admitsLink (state.heap.resolve id) prototype with
  | true => exact written _
  | false => exact refuses

section Called

variable {depth : Nat} {function this : Value} (id : ObjectId) (prototype : Option ObjectId)

/-- The function of `Object` that writes prototype links. -/
theorem call_objectSetPrototypeOf
    (found : state.heap.builtin? function = some (.method, .objectSetPrototypeOf)) :
    call function this [.object id, .ofObject? prototype] (Engine.ofDepth (depth + 1)) state =
      state.relink id prototype (.object id) (.failed (.fault .setPrototypeRefused) state) := by
  obtain ⟨callee, callable, _, called⟩ := call_builtin found depth
  rw [called]
  refine (bind_of_done (Builtin.prototypeArgument_apply prototype ..)).trans ?_
  exact setPrototype_bind (fun _ => rfl) rfl

/-- The function of `Reflect` that writes prototype links. -/
theorem call_reflectSetPrototypeOf
    (found : state.heap.builtin? function = some (.method, .reflectSetPrototypeOf)) :
    call function this [.object id, .ofObject? prototype] (Engine.ofDepth (depth + 1)) state =
      state.relink id prototype (.boolean true) (.done (.boolean false) state) := by
  obtain ⟨callee, callable, _, called⟩ := call_builtin found depth
  rw [called]
  refine (bind_of_done (Builtin.prototypeArgument_apply prototype ..)).trans ?_
  exact setPrototype_bind (fun _ => rfl) rfl

/-- The setter of `__proto__`. -/
theorem call_linkSetter (found : state.heap.builtin? function = some (.method, .linkSetter)) :
    call function (.object id) [.ofObject? prototype] (Engine.ofDepth (depth + 1)) state =
      state.relink id prototype .undefined (.failed (.fault .linkAccessorRefused) state) := by
  obtain ⟨callee, callable, _, called⟩ := call_builtin found depth
  rw [called]
  have written : (Builtin.runLinkSetter.write { callee, callable, this := .object id, arguments :=
        [.ofObject? prototype] } prototype) (Engine.ofDepth depth) state =
      state.relink id prototype .undefined (.failed (.fault .linkAccessorRefused) state) :=
    setPrototype_bind (fun _ => rfl) rfl
  cases prototype <;> exact written

/-- An assignment to `__proto__` that comes to the setter. -/
theorem set_proto_eq {setter : Value}
    (held : state.heap.assignment (state.heap.resolve id) "__proto__" = some (.setter setter))
    (found : state.heap.builtin? setter = some (.method, .linkSetter)) (depth : Nat) :
    set id "__proto__" (.ofObject? prototype) (Engine.ofDepth (depth + 1)) state =
      state.relink id prototype true (.failed (.fault .linkAccessorRefused) state) := by
  have called : call setter (.object (state.heap.resolve id)) [.ofObject? prototype]
      (Engine.ofDepth (depth + 1)) state =
        state.relink id prototype .undefined (.failed (.fault .linkAccessorRefused) state) := by
    rw [call_linkSetter _ prototype found, State.relink_resolve]
  rw [set_of_assignment held]
  exact bind_relink called fun _ => rfl

theorem writerStrategy_eq (engine : Engine) (state : State) :
    writerStrategy engine state = .done state.writerStrategy state.knowingWriter := rfl

/-- By the standard strategy, the portable way to write a link calls what `Object` has for it. -/
theorem setPrototypeOf_standard (strategy : state.writerStrategy = .standard) (value link : Value)
    (engine : Engine) :
    setPrototypeOf value link engine state =
      call ((state.heap.objectFunction? "setPrototypeOf").getD .undefined) state.heap.globalObject
        [value, link] engine state.knowingWriter := by
  unfold setPrototypeOf
  rw [bind_of_done (writerStrategy_eq _ state), strategy]
  rfl

/-- By the legacy strategy, it assigns the link and answers with the object. -/
theorem setPrototypeOf_legacy (strategy : state.writerStrategy = .legacy) (link : Value)
    (engine : Engine) :
    setPrototypeOf (.object id) link engine state =
      (set id "__proto__" link >>= fun _ => pure (.object id)) engine state.knowingWriter := by
  rw [setPrototypeOf, bind_of_done (writerStrategy_eq _ state), strategy]
  rfl

/-- The portable way to write a link: the answer is the object, and a refusal is that of the strategy. -/
theorem setPrototypeOf_relinks (writes : state.WritesLinks id) (depth : Nat) :
    setPrototypeOf (.object id) (.ofObject? prototype) (Engine.ofDepth (depth + 1)) state =
      state.knowingWriter.relink id prototype (.object id)
        (.failed (.fault state.writerStrategy.refusal) state.knowingWriter) := by
  cases writes with
  | standard strategy held found =>
      rw [setPrototypeOf_standard strategy, strategy, held]
      exact call_objectSetPrototypeOf id prototype found
  | legacy strategy held found =>
      rw [setPrototypeOf_legacy id strategy, strategy]
      rw [← state.knowingWriter_heap] at held found
      exact bind_relink (set_proto_eq id prototype held found depth) fun _ => rfl

end Called

end Run

/-! ## Links in untouched realms -/

section Untouched

variable {profile : Profile} {heap : Heap} {state : State} {id : ObjectId}

/-- On a host with the accessor, an assignment to `__proto__` on `Object.prototype` comes to the setter. -/
theorem Realm.Untouched.assignment_linkSetter (untouched : Realm.Untouched profile heap)
    (legacy : profile.legacyProtoAccessor = true) :
    ∃ setter, heap.assignment Intrinsic.objectPrototype.id "__proto__" = some (.setter setter) ∧
      heap.builtin? setter = some (.method, .linkSetter) := by
  obtain ⟨⟨_, _, _, _⟩, getter, setter, held, slot, _, put⟩ :=
    untouched.showsLinks.linkAccessor_held legacy
  cases slot
  refine ⟨setter, Heap.walk_of_finish ?_, put⟩
  simp only [Heap.assignmentStride, Heap.target?_of_ordinary untouched.objectPrototype_ordinary, held]

/-- What is known about the writer of links is right. -/
theorem State.Untouched.writerStrategy_eq (untouched : state.Untouched profile) :
    state.writerStrategy = profile.prototypeStrategy := by
  unfold writerStrategy
  cases held : state.caches.writer with
  | none => exact untouched.heap.showsLinks.prototypeStrategy_eq
  | some strategy => exact untouched.caches.writer strategy held

/-- A host that links prototypes has the facility for the strategy that it speaks for. -/
theorem State.Untouched.writer_offered (untouched : state.Untouched profile)
    (writable : profile.objectSetPrototypeOf = true ∨ profile.legacyProtoAccessor = true) :
    state.writerStrategy.OfferedBy profile := by
  rw [untouched.writerStrategy_eq, Profile.prototypeStrategy]
  cases standard : profile.objectSetPrototypeOf with
  | true => exact standard
  | false =>
      rw [standard] at writable
      exact writable.resolve_left Bool.noConfusion

/-- Where a host has the facility for its strategy, this comes to the function of the host, as long as
`__proto__` is looked up on `Object.prototype`. -/
theorem Realm.Untouched.writesLinks (untouched : Realm.Untouched profile state.heap)
    (offered : state.writerStrategy.OfferedBy profile)
    (climbs : ∀ found, state.heap.assignment Intrinsic.objectPrototype.id "__proto__" = some found →
      state.heap.assignment (state.heap.resolve id) "__proto__" = some found) :
    state.WritesLinks id := by
  cases strategy : state.writerStrategy with
  | standard =>
      have facility : profile.objectSetPrototypeOf = true := by rwa [strategy] at offered
      have writer := untouched.offers.setPrototypeOf
      rw [if_pos facility] at writer
      obtain ⟨function, held, found⟩ := Realm.objectFunction?_of_offered writer
      exact .standard strategy held found
  | legacy =>
      have facility : profile.legacyProtoAccessor = true := by rwa [strategy] at offered
      obtain ⟨setter, held, found⟩ := untouched.assignment_linkSetter facility
      exact .legacy strategy (climbs _ held) found

end Untouched

end ClassLowering
