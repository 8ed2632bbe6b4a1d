import ClassLowering.Proofs.Composition.Basic
import ClassLowering.Proofs.Members.Admission
import ClassLowering.Proofs.Property.Creation
import ClassLowering.Proofs.Soundness.Session

/-!
# The order of own keys

Definitions, assignments, raw writes and installations are the calls that make and change own properties. Each
of them writes known keys in a known order, except that a setter may write whatever it likes. After any
number of them the keys of an object are listed with canonical numerals first, and all others in the order
in which they were first written.
-/

namespace ClassLowering

open Bounded

/-- The calls that make and change own properties. -/
inductive PropertyCall where
  | define (id : ObjectId) (key : PropertyKey) (descriptor : Descriptor)
  | set (id : ObjectId) (key : PropertyKey) (value : Value)
  /-- A raw write of a value. -/
  | setValue (id : ObjectId) (key : PropertyKey) (value : Value)
  /-- A raw definition of a data property. -/
  | setData (id : ObjectId) (key : PropertyKey) (value : Value)
      (writable enumerable configurable : Bool)
  | install (id : ObjectId) (members : List Member)

namespace PropertyCall

/-- What a call does. -/
def run : PropertyCall → Run Unit
  | define id key descriptor => Run.define id key descriptor
  | set id key value => Run.set id key value >>= fun _ => pure ()
  | setValue id key value => Run.change (·.setValue id key value)
  | setData id key value writable enumerable configurable =>
      Run.change
        (·.setProperty id key { slot := .data value, writable, enumerable, configurable })
  | install id members => Run.install id members

/-- The objects that a call names are there. -/
def Inside (size : Nat) : PropertyCall → Prop
  | define id _ descriptor => Within .host size id ∧ Within .host size descriptor
  | set id _ value => Within .host size id ∧ Within .host size value
  | setValue id _ value => Within .host size id ∧ Within .host size value
  | setData id _ value _ _ _ => Within .host size id ∧ Within .host size value
  | install id members => Within .host size id ∧ Within .host size members

/-- What a call writes, and the state in which it leaves the realm. -/
inductive Writes (state : State) : PropertyCall → List KeyWrite → State → Prop
  | defined {id : ObjectId} {key : PropertyKey} {descriptor : Descriptor} {property : Property}
      (allowed : (state.heap.object id).defined key descriptor = .ok property) :
      Writes state (.define id key descriptor) [(id, key)]
        { state with heap := state.heap.setProperty id key property }
  | refused {id : ObjectId} {key : PropertyKey} {descriptor : Descriptor} {fault : Fault}
      (refused : (state.heap.object id).defined key descriptor = .error fault) :
      Writes state (.define id key descriptor) [] state
  /-- An assignment is one to the object behind all proxies. -/
  | assigned {id : ObjectId} {key : PropertyKey} {value : Value}
      (found : state.heap.assignment (state.heap.resolve id) key = some .write)
      (accepted : (state.heap.object (state.heap.resolve id)).accepts key = true) :
      Writes state (.set id key value) [(state.heap.resolve id, key)]
        { state with heap := state.heap.setValue (state.heap.resolve id) key value }
  | readOnly {id : ObjectId} {key : PropertyKey} {value : Value}
      (found : state.heap.assignment (state.heap.resolve id) key = some .refused) :
      Writes state (.set id key value) [] state
  | closed {id : ObjectId} {key : PropertyKey} {value : Value}
      (found : state.heap.assignment (state.heap.resolve id) key = some .write)
      (withheld : (state.heap.object (state.heap.resolve id)).accepts key = false) :
      Writes state (.set id key value) [] state
  | setter {id : ObjectId} {key : PropertyKey} {value setter : Value} {writes : List KeyWrite}
      {after : State}
      (found : state.heap.assignment (state.heap.resolve id) key = some (.setter setter))
      (history : state.History writes after) : Writes state (.set id key value) writes after
  | value {id : ObjectId} {key : PropertyKey} {value : Value} :
      Writes state (.setValue id key value) [(id, key)]
        { state with heap := state.heap.setValue id key value }
  | data {id : ObjectId} {key : PropertyKey} {value : Value} {writable enumerable configurable : Bool} :
      Writes state (.setData id key value writable enumerable configurable) [(id, key)]
        { state with
          heap := state.heap.setProperty id key
            { slot := .data value, writable, enumerable, configurable } }
  | installed {id : ObjectId} {members : List Member}
      (admitted : ∀ member ∈ members, (state.heap.object id).Admits member.key) :
      Writes state (.install id members) (members.map fun member => (id, member.key))
        (state.withMembers id members)
  | stopped {id : ObjectId} {members first : List Member} {offending : Member}
      (stops : (state.heap.object id).StopsAt members first offending) :
      Writes state (.install id members) (first.map fun member => (id, member.key))
        (state.withMembers id first)

variable {state after : State} {call : PropertyCall} {writes : List KeyWrite} {depth : Nat}

theorem run_setValue (state : State) (id : ObjectId) (key : PropertyKey) (value : Value) (engine : Engine) :
    (setValue id key value).run engine state =
      .done () { state with heap := state.heap.setValue id key value } := rfl

theorem run_setData (state : State) (id : ObjectId) (key : PropertyKey) (value : Value)
    (writable enumerable configurable : Bool) (engine : Engine) :
    (setData id key value writable enumerable configurable).run engine state =
      .done () { state with
        heap := state.heap.setProperty id key
          { slot := .data value, writable, enumerable, configurable } } := rfl

theorem run_sound (sound : state.Sound .host) (inside : call.Inside state.heap.size) :
    Run.SoundAt .host (Engine.ofDepth depth) state call.run := by
  cases call with
  | define id key descriptor => exact Run.define_sound sound inside.1 inside.2
  | set id key value =>
      refine Run.sound_bind (Run.set_sound (Engine.ofDepth_sound .host depth) sound inside.1 inside.2)
        fun _ next leads _ => Run.sound_pure leads.sound trivial
  | setValue id key value =>
      have changed : state.heap.Change .host (state.heap.setValue id key value) :=
        .overwriteValue rfl inside.1 inside.2
      exact Run.sound_of_change sound (fun _ => rfl) (.heap changed) trivial
  | setData id key value writable enumerable configurable =>
      have changed : state.heap.Change .host (state.heap.setProperty id key
          { slot := .data value, writable, enumerable, configurable }) :=
        .overwrite rfl inside.1 inside.2
      exact Run.sound_of_change sound (fun _ => rfl) (.heap changed) trivial
  | install id members => exact Run.install_sound sound inside.1 inside.2

theorem history_withMembers {id : ObjectId} (present : id.index < state.heap.size)
    (members : List Member) :
    state.History (members.map fun member => (id, member.key)) (state.withMembers id members) := by
  induction members generalizing state with
  | nil =>
      rw [State.withMembers_nil]
      exact .refl
  | cons member rest ih =>
      have first : state.Writes (state.withMembers id [member]) [(id, member.key)] :=
        .written present (Heap.modify_congr present rfl)
      have there : id.index < (state.withMembers id [member]).heap.size := by
        rwa [State.size_withMembers]
      have others := ih there
      rw [← State.withMembers_append] at others
      exact (State.History.single first).trans others

/-- What a call writes is what is written while it runs. -/
theorem Writes.history (written : call.Writes state writes after) (inside : call.Inside state.heap.size)
    (sound : state.Sound .host) : state.History writes after := by
  cases written with
  | defined _ | data => exact .single (.written inside.1 rfl)
  | refused _ | readOnly _ | closed _ _ => exact .refl
  | assigned _ _ =>
      have there := sound.heap.within_resolve inside.1
      exact .single (.written there (Heap.setValue_eq there _ _))
  | setter _ history => exact history
  | value => exact .single (.written inside.1 (Heap.setValue_eq inside.1 _ _))
  | installed _ | stopped _ => exact history_withMembers inside.1 _

theorem exists_writes_set {id : ObjectId} {key : PropertyKey} {value : Value}
    (leads : state.Leads .host after)
    (left : ((set id key value).run (Engine.ofDepth depth) state).Leaves after) :
    ∃ writes, (set id key value).Writes state writes after := by
  cases found : state.heap.assignment (state.heap.resolve id) key with
  | none =>
      have endless : Run.set id key value (Engine.ofDepth depth) state = .exhausted := by
        rw [Run.set_eq, Run.ask_bind, Run.bind_apply, Run.follow, found]
      rw [run, Run.bind_of_exhausted endless] at left
      cases left
  | some assignment =>
      have ended : Run.set id key value (Engine.ofDepth depth) state = _ :=
        Run.set_of_assignment found (Engine.ofDepth depth)
      cases assignment with
      | refused =>
          rw [run, Run.bind_of_done ended] at left
          cases left
          exact ⟨_, .readOnly found⟩
      | setter setter =>
          obtain ⟨writes, history⟩ := State.exists_history leads.changes rfl
          exact ⟨writes, .setter found history⟩
      | write =>
          rw [Run.assign, Run.ask_bind] at ended
          cases accepted : (state.heap.object (state.heap.resolve id)).accepts key with
          | true =>
              rw [if_pos accepted] at ended
              rw [run, Run.bind_of_done ended] at left
              cases left
              exact ⟨_, .assigned found accepted⟩
          | false =>
              rw [if_neg (Bool.eq_false_iff.mp accepted)] at ended
              rw [run, Run.bind_of_done ended] at left
              cases left
              exact ⟨_, .closed found accepted⟩

/-- A call that leaves the realm in a state wrote something, if only nothing, on the way there. -/
theorem exists_writes (sound : state.Sound .host) (inside : call.Inside state.heap.size)
    (left : (call.run (Engine.ofDepth depth) state).Leaves after) :
    ∃ writes, call.Writes state writes after := by
  have leads := (run_sound sound inside).all.of_leaves left
  cases call with
  | define id key descriptor =>
      cases asked : (state.heap.object id).defined key descriptor with
      | ok property =>
          rw [run, Run.define_apply asked] at left
          cases left
          exact ⟨_, .defined asked⟩
      | error fault =>
          rw [run, Run.define_refused asked] at left
          cases left
          exact ⟨_, .refused asked⟩
  | set id key value =>
      exact exists_writes_set leads left
  | setValue id key value =>
      cases left
      exact ⟨_, .value⟩
  | setData id key value writable enumerable configurable =>
      cases left
      exact ⟨_, .data⟩
  | install id members =>
      rcases Object.admits_all_or_stopsAt (state.heap.object id) members with
        admitted | ⟨first, offending, stops⟩
      · rw [run, Run.install_admitted inside.1 admitted] at left
        cases left
        exact ⟨_, .installed admitted⟩
      · rw [run, (Run.install_stops inside.1 stops _).2] at left
        cases left
        exact ⟨_, .stopped stops⟩

end PropertyCall

namespace State

/-- Calls one after another, each at some depth. A call that fails is over as well. -/
inductive Performs : State → List PropertyCall → State → Prop
  | nil {state : State} : Performs state [] state
  | cons {call : PropertyCall} {calls : List PropertyCall} {state middle after : State} (depth : Nat)
      (inside : call.Inside state.heap.size)
      (left : (call.run (Engine.ofDepth depth) state).Leaves middle)
      (later : Performs middle calls after) : Performs state (call :: calls) after

/-- What calls write, one after another. -/
inductive Logs : State → List PropertyCall → List KeyWrite → State → Prop
  | nil {state : State} : Logs state [] [] state
  | cons {call : PropertyCall} {calls : List PropertyCall} {writes more : List KeyWrite}
      {state middle after : State} (written : call.Writes state writes middle)
      (later : Logs middle calls more after) : Logs state (call :: calls) (writes ++ more) after

variable {state middle after : State} {call : PropertyCall} {calls : List PropertyCall}

/-- A call that ends at once, and calls after it. -/
theorem Performs.done (inside : call.Inside state.heap.size)
    (ran : call.run (Engine.ofDepth 0) state = .done () middle) (later : middle.Performs calls after) :
    state.Performs (call :: calls) after := .cons 0 inside (Outcome.leaves_of_done ran) later

/-- Calls write something, and this is all that is written while they run. -/
theorem Performs.exists_logs (performed : state.Performs calls after) (sound : state.Sound .host) :
    ∃ writes, state.Logs calls writes after ∧ state.History writes after := by
  induction performed with
  | nil => exact ⟨[], .nil, .refl⟩
  | cons _ inside left _ ih =>
      obtain ⟨writes, written⟩ := PropertyCall.exists_writes sound inside left
      obtain ⟨more, logs, history⟩ := ih ((PropertyCall.run_sound sound inside).all.of_leaves left).sound
      exact ⟨_, .cons written logs, (written.history inside sound).trans history⟩

end State

/-- After any calls that make and change own properties, in every state of a session, the own keys of an object
are listed each once: canonical numerals by their value, then the other strings and the symbols as they were
created, behind the keys that the object had. Calls that write no new key to it leave the list as it is. -/
theorem own_keys_listed_by_creation (profile : Profile) (marked : List Helper)
    {before state after : State} (reached : (Session.prepared profile marked).Reaches .host before)
    (during : before.Becomes .host state) {calls : List PropertyCall}
    (performed : state.Performs calls after) :
    ∃ writes, state.Logs calls writes after ∧ ∀ id : ObjectId, id.index < state.heap.size →
      let keys := (state.heap.object id).properties.keys
      PropertyKey.Arranged (KeyWrite.created keys id writes)
          (after.heap.object id).properties.orderedKeys ∧
        ((∀ key ∈ KeyWrite.on id writes, key ∈ keys) →
          (after.heap.object id).properties.orderedKeys =
            (state.heap.object id).properties.orderedKeys) := by
  obtain ⟨writes, logs, history⟩ := performed.exists_logs (Session.sound_of_reaches reached during)
  refine ⟨writes, logs, fun id present => ?_⟩
  have keys_eq := history.keys_eq present
  constructor
  · rw [← keys_eq]
    exact PropertyKey.inOrder_arranged (Table.keys_nodup _)
  · intro known
    rw [Table.orderedKeys, keys_eq, KeyWrite.created_of_known known, Table.orderedKeys]

/-- A step that makes an object. -/
def objectSteps : List Script.Step := [.perform (.create .object) [] {}]

/-- The key that comes first is reassigned, and converted to an accessor in the end. It keeps its place behind the
canonical numerals. -/
theorem numerals_listed_first :
    let start := { Session.prepared Preset.modern.profile [] with scopes := #[{}] }
    let state := (Session.runSteps ⟨0⟩ objectSteps start ∅).2
    let id := start.heap.next
    let calls : List PropertyCall :=
      [.setValue id "b" .null, .setData id "01" .null false false false, .setValue id "10" .null,
        .setValue id "2" .null, .set id "b" (.boolean true),
        .define id "b" { get := some .undefined, set := some .undefined }]
    (Session.prepared Preset.modern.profile []).Reaches .host state ∧ state.Becomes .host state ∧
      ∃ after, state.Performs calls after ∧
        (after.heap.object id).properties.orderedKeys = ["2", "10", "b", "01"].map .string ∧
        ∃ writes, state.Logs calls writes after ∧ PropertyKey.Arranged (KeyWrite.created [] id writes)
          (["2", "10", "b", "01"].map .string) := by
  intro start state id calls
  have lawful : Script.LawfulSteps .host start.heap.size objectSteps := by simp [objectSteps]
  have reached := Session.prepared_reaches Preset.modern.profile [] lawful
  have unchanged : state.Becomes .host state := .refl
  have present : id.index < state.heap.size := by decide +kernel
  let first := state.heap.setValue id "b" .null
  let second := first.setProperty id "01"
    { slot := .data .null, writable := false, enumerable := false, configurable := false }
  let third := second.setValue id "10" .null
  let fourth := third.setValue id "2" .null
  let fifth := fourth.setValue id "b" (.boolean true)
  let last := fifth.setProperty id "b" { slot := .accessor none none }
  have ordinary : (fourth.object id).proxy? = none := by decide +kernel
  have extensible : (fourth.object id).extensible = true := by decide +kernel
  have held : (fourth.object id).property? "b" = some { slot := .data .null } := by decide +kernel
  have allowed : (fifth.object id).defined "b" { get := some .undefined, set := some .undefined } =
      .ok { slot := .accessor none none } := by decide +kernel
  have there : ∀ heap ∈ [first, second, third, fourth, fifth], id.index < heap.size := by
    decide +kernel
  have keys : (last.object id).properties.keys = ["b", "01", "10", "2"].map .string := by
    decide +kernel
  have empty : (state.heap.object id).properties.keys = [] := by decide +kernel
  have performed : state.Performs calls { state with heap := last } := by
    simp only [List.forall_mem_cons] at there
    obtain ⟨present₁, present₂, present₃, present₄, present₅, _⟩ := there
    clear_value state id
    have taken := Heap.Holds.assignment_eq ⟨_, held, rfl, rfl⟩ ordinary
    have assigned := @Run.set_write (Engine.ofDepth 0) { state with heap := fourth } _ _ ordinary taken
      extensible (.boolean true)
    have converted := @Run.define_apply (Engine.ofDepth 0) { state with heap := fifth } _ _ _ _ allowed
    refine .done ⟨present, trivial⟩ (PropertyCall.run_setValue ..) ?_
    refine .done ⟨present₁, trivial⟩ (PropertyCall.run_setData ..) ?_
    refine .done ⟨present₂, trivial⟩ (PropertyCall.run_setValue ..) ?_
    refine .done ⟨present₃, trivial⟩ (PropertyCall.run_setValue ..) ?_
    refine .done ⟨present₄, trivial⟩ (Run.bind_of_done assigned) ?_
    exact .done ⟨present₅, by simp [Within]⟩ converted .nil
  have listed : (last.object id).properties.orderedKeys = ["2", "10", "b", "01"].map .string := by
    have places : (["b", "01", "10", "2"].map PropertyKey.string).filterMap PropertyKey.arrayIndex? =
        [10, 2] := by decide +kernel
    have ascending : ([10, 2].mergeSort fun first second : Nat => first ≤ second) = [2, 10] := by
      simp [List.mergeSort]
    rw [Table.orderedKeys, keys, PropertyKey.inOrder, places, ascending]
    decide +kernel
  obtain ⟨writes, logs, each⟩ := own_keys_listed_by_creation _ _ reached unchanged performed
  obtain ⟨arranged, _⟩ := each id present
  rw [listed, empty] at arranged
  exact ⟨reached, unchanged, _, performed, listed, writes, logs, arranged⟩

end ClassLowering
