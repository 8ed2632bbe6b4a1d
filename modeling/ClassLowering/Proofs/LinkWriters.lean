import ClassLowering.Proofs.OrdinarySet
import ClassLowering.Proofs.PrototypeLinks

/-!
# Writers of prototype links

A script points the prototype link of an object elsewhere by a function of `Object` or of `Reflect`, by an
assignment to `__proto__`, or the way that lowered classes take on every host. Each of them is one change of
the link with an answer and a refusal of its own, so that they take and refuse the same links.
-/

namespace ClassLowering

open Relation

/-! ## The writers -/

/-- Calls a function of a global object, as scripts do. -/
def Run.callGlobal (name : String) (method : PropertyKey) (arguments : List Value) : Run Value := do
  let object ← get Intrinsic.global.id name
  let function ← getOf object method
  call function object arguments

/-- The ways in which a script writes the prototype link of an object. -/
inductive LinkWriter where
  /-- `Object.setPrototypeOf`. -/
  | objectFunction
  /-- `Reflect.setPrototypeOf`. -/
  | reflectFunction
  /-- An assignment to `__proto__`. -/
  | assignment
  /-- The portable way. -/
  | portable
  deriving DecidableEq, Repr

namespace LinkWriter

/-- Writes the link of an object. An assignment answers whether it took place. -/
def run (writer : LinkWriter) (id : ObjectId) (prototype : Option ObjectId) : Run Value :=
  let operands := [.object id, .ofObject? prototype]
  match writer with
  | .objectFunction => Run.callGlobal "Object" "setPrototypeOf" operands
  | .reflectFunction => Run.callGlobal "Reflect" "setPrototypeOf" operands
  | .assignment => Value.boolean <$> Run.set id "__proto__" (.ofObject? prototype)
  | .portable => Run.setPrototypeOf (.object id) (.ofObject? prototype)

/-- The facility of a host on which a writer rests. That of the portable one depends on its strategy. -/
def Offered (writer : LinkWriter) (profile : Profile) (strategy : PrototypeStrategy) : Prop :=
  match writer with
  | .objectFunction => profile.objectSetPrototypeOf = true
  | .reflectFunction => profile.reflect ≠ .absent
  | .assignment => profile.legacyProtoAccessor = true
  | .portable => strategy.OfferedBy profile

/-- What a writer answers once the link is written. -/
def answer (writer : LinkWriter) (id : ObjectId) : Value :=
  match writer with
  | .objectFunction | .portable => .object id
  | .reflectFunction | .assignment => .boolean true

/-- What is found out about the host on the way: the portable writer remembers its strategy. -/
def knowing (writer : LinkWriter) (state : State) : State :=
  match writer with
  | .portable => state.knowingWriter
  | _ => state

/-- How a writer ends that finds its link refused. -/
def refused (writer : LinkWriter) (state : State) : Outcome Value :=
  match writer with
  | .objectFunction => .failed (.fault .setPrototypeRefused) state
  | .reflectFunction => .done (.boolean false) state
  | .assignment => .failed (.fault .linkAccessorRefused) state
  | .portable => .failed (.fault state.writerStrategy.refusal) state

variable {profile : Profile} {state : State} {id : ObjectId} {prototype : Option ObjectId}
  {writer : LinkWriter}

@[simp] theorem knowing_heap (writer : LinkWriter) (state : State) :
    (writer.knowing state).heap = state.heap := by
  cases writer <;> rfl

/-- The function of `Reflect` answers that a link is refused; the other writers fail with a `TypeError`. -/
theorem refused_eq (writer : LinkWriter) (state : State) :
    (writer = .reflectFunction → writer.refused state = .done (.boolean false) state) ∧
      (writer ≠ .reflectFunction → ∃ fault, fault.kind = .typeError ∧
        writer.refused state = .failed (.fault fault) state) := by
  cases writer with
  | objectFunction => exact ⟨nofun, fun _ => ⟨_, rfl, rfl⟩⟩
  | reflectFunction => exact ⟨fun _ => rfl, fun differs => absurd rfl differs⟩
  | assignment => exact ⟨nofun, fun _ => ⟨_, rfl, rfl⟩⟩
  | portable => exact ⟨nofun, fun _ => ⟨_, PrototypeStrategy.refusal_kind _, rfl⟩⟩

end LinkWriter

/-! ## What the writers come down to -/

namespace Heap

variable {heap : Heap} {key : PropertyKey} {id top : ObjectId} {found : Assignment}

theorem assignment_of_passesOn (climbs : ReflTransGen (heap.PassesOn key) id top)
    (ended : heap.assignment top key = some found) : heap.assignment id key = some found := by
  induction climbs using ReflTransGen.head_induction_on with
  | refl => exact ended
  | head passes _ ih => exact passes.assignment_eq ih

theorem Passes.passesOn {next : ObjectId} (passes : heap.Passes key id next) :
    heap.PassesOn key id next :=
  ⟨(onward_iff_links (target?_of_ordinary passes.ordinary)).mpr passes.links, fun _ => passes.missing⟩

theorem index_lt_of_passesOn (climbs : ReflTransGen (heap.PassesOn key) id top)
    (present : top.index < heap.size) : id.index < heap.size := by
  rcases ReflTransGen.cases_head climbs with rfl | ⟨_, passes, _⟩
  · exact present
  · exact index_lt_of_onward passes.1

end Heap

namespace Run

variable {engine : Engine} {state : State} {name : String} {method : PropertyKey}
  {found : FunctionKind × Builtin}

/-- A function of the host that is found on a global object is what runs. -/
theorem callGlobal_apply
    (offered : (state.heap.functionOf? name method).bind state.heap.builtin? = some found)
    (arguments : List Value) :
    ∃ function this, state.heap.builtin? function = some found ∧
      callGlobal name method arguments engine state = call function this arguments engine state := by
  obtain ⟨function, read, builtin⟩ := Option.bind_eq_some_iff.mp offered
  unfold Heap.functionOf? Heap.readFrom? at read
  split at read
  · next object global =>
    have got : get Intrinsic.global.id name engine state = .done (.object object) state :=
      getFor_plain global
    have chosen : getOf (.object object) method engine state = .done function state :=
      getFor_plain read
    refine ⟨function, .object object, builtin, ?_⟩
    rw [callGlobal, bind_of_done got, bind_of_done chosen]
  · cases read

end Run

namespace LinkWriter

variable {profile : Profile} {state : State} {id : ObjectId} {writer : LinkWriter}

/-- Every writer is one change of the link, with an answer and a refusal of its own. -/
theorem run_eq (untouched : Realm.Untouched profile state.heap)
    (ordinary : (state.heap.object id).proxy? = none)
    (climbs : ReflTransGen (state.heap.PassesOn "__proto__") id Intrinsic.objectPrototype.id)
    (offered : writer.Offered profile state.writerStrategy) (prototype : Option ObjectId)
    (depth : Nat) :
    writer.run id prototype (Engine.ofDepth (depth + 1)) state =
      (writer.knowing state).relink id prototype (writer.answer id)
        (writer.refused (writer.knowing state)) := by
  have offers := untouched.offers
  have climbs (found : Assignment)
      (ended : state.heap.assignment Intrinsic.objectPrototype.id "__proto__" = some found) :
      state.heap.assignment (state.heap.resolve id) "__proto__" = some found := by
    rw [Heap.resolve_of_ordinary ordinary]
    exact Heap.assignment_of_passesOn climbs ended
  cases writer with
  | objectFunction =>
      obtain ⟨_, _, found, called⟩ := Run.callGlobal_apply (offers.objectWriter offered) _
      exact called.trans (Run.call_objectSetPrototypeOf id prototype found)
  | reflectFunction =>
      obtain ⟨_, _, found, called⟩ := Run.callGlobal_apply (offers.reflectWriter offered) _
      exact called.trans (Run.call_reflectSetPrototypeOf id prototype found)
  | assignment =>
      obtain ⟨_, held, found⟩ := untouched.assignment_linkSetter offered
      exact Run.bind_relink (Run.set_proto_eq id prototype (climbs _ held) found depth) fun _ => rfl
  | portable =>
      exact Run.setPrototypeOf_relinks id prototype (untouched.writesLinks offered climbs) depth

end LinkWriter

/-! ## The writers agree -/

/-- What becomes of a link, whichever writer of the host is asked for it. A link that is admitted is all that
changes, and no property named `__proto__` is left behind; one that is refused changes nothing. -/
structure State.LinksAlike (state : State) (profile : Profile) (engine : Engine) (id : ObjectId)
    (prototype : Option ObjectId) : Prop where
  admitted : ¬ state.heap.Refuses id prototype → ∃ heap, state.heap.Relinked id prototype heap ∧
    (heap.object id).property? "__proto__" = (state.heap.object id).property? "__proto__" ∧
    ∀ writer : LinkWriter, writer.Offered profile state.writerStrategy →
      writer.run id prototype engine state =
        .done (writer.answer id) { writer.knowing state with heap }
  refused : state.heap.Refuses id prototype →
    ∀ writer : LinkWriter, writer.Offered profile state.writerStrategy →
      (writer = .reflectFunction →
        writer.run id prototype engine state = .done (.boolean false) (writer.knowing state)) ∧
      (writer ≠ .reflectFunction → ∃ fault, fault.kind = .typeError ∧
        writer.run id prototype engine state = .failed (.fault fault) (writer.knowing state))

/-- In every state of a session whose realm is untouched, all writers that the host offers agree on every link
of every object that is no proxy and that looks up `__proto__` on `Object.prototype`. What they know of the
host apart, they leave the same state. -/
theorem link_writers_agree (profile : Profile) (marked : List Helper) {law : Law}
    {before state : State} (reached : (Session.prepared profile marked).Reaches law before)
    (during : before.Becomes law state) (untouched : Realm.Untouched profile state.heap)
    {id : ObjectId} (ordinary : (state.heap.object id).proxy? = none)
    (climbs : ReflTransGen (state.heap.PassesOn "__proto__") id Intrinsic.objectPrototype.id)
    (prototype : Option ObjectId) (depth : Nat) :
    state.LinksAlike profile (Engine.ofDepth (depth + 1)) id prototype := by
  have sound := (Session.sound_of_reaches reached during).heap
  have present := Heap.index_lt_of_passesOn climbs (sound.intrinsic .objectPrototype)
  have refuses_iff : state.heap.admitsLink id prototype = false ↔ state.heap.Refuses id prototype :=
    Heap.admitsLink_eq_false_iff sound.acyclic sound.bare
  have run_eq (writer : LinkWriter) (offered : writer.Offered profile state.writerStrategy) :=
    LinkWriter.run_eq untouched ordinary climbs offered prototype depth
  constructor
  · intro granted
    have admits : state.heap.admitsLink id prototype = true :=
      Bool.not_eq_false _ ▸ mt refuses_iff.mp granted
    have relinked : state.heap.Relinked id prototype (state.heap.setLink id prototype) :=
      Heap.setLink_relinked present
    refine ⟨_, relinked, by rw [relinked.object_eq]; rfl, fun writer offered => ?_⟩
    rw [← writer.knowing_heap state] at ordinary admits
    rw [run_eq writer offered, State.relink_admitted _ ordinary admits, writer.knowing_heap]
  · intro refuses writer offered
    have admits := refuses_iff.mpr refuses
    rw [← writer.knowing_heap state] at ordinary admits
    rw [run_eq writer offered, State.relink_refused _ ordinary admits]
    exact writer.refused_eq _

/-- On a modern host, all four writers refuse to link `Function.prototype` to itself. -/
theorem functionPrototype_cycle_refused :
    let profile := Preset.modern.profile
    let state := Session.prepared profile []
    let id := Intrinsic.functionPrototype.id
    state.Reaches .host state ∧ state.Becomes .host state ∧ Realm.Untouched profile state.heap ∧
      (state.heap.object id).proxy? = none ∧
      ReflTransGen (state.heap.PassesOn "__proto__") id Intrinsic.objectPrototype.id ∧
      ∀ writer : LinkWriter,
        (writer = .reflectFunction → writer.run id (some id) (Engine.ofDepth 1) state =
          .done (.boolean false) (writer.knowing state)) ∧
        (writer ≠ .reflectFunction → ∃ fault, fault.kind = .typeError ∧
          writer.run id (some id) (Engine.ofDepth 1) state =
            .failed (.fault fault) (writer.knowing state)) := by
  intro profile state id
  have reached : state.Reaches .host state := .refl
  have unchanged : state.Becomes .host state := .refl
  have untouched : Realm.Untouched profile state.heap := Realm.untouched_heap profile
  have passes := untouched.offers.functionPrototype_passes
  have climbs : ReflTransGen (state.heap.PassesOn "__proto__") id Intrinsic.objectPrototype.id :=
    .single passes.passesOn
  have differs : (state.heap.object id).prototype ≠ some id := by
    rw [untouched.offers.functionPrototype]
    decide
  have alike := link_writers_agree profile [] reached unchanged untouched passes.ordinary climbs
    (some id) 0
  have offered (writer : LinkWriter) : writer.Offered profile state.writerStrategy := by
    have strategy : state.writerStrategy = .standard := untouched.showsLinks.prototypeStrategy_eq
    rw [strategy]
    cases writer with
    | reflectFunction => exact nofun
    | _ => exact rfl
  exact ⟨reached, unchanged, untouched, passes.ordinary, climbs, fun writer =>
    alike.refused ⟨differs, .inr ⟨id, rfl, .refl⟩⟩ writer (offered writer)⟩

end ClassLowering
