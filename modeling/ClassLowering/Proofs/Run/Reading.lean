import ClassLowering.Proofs.Composition.Class
import ClassLowering.Proofs.Composition.Depth

/-!
# Runs that read

A run that only reads leaves the realm as it is, except where a read comes to a getter or to a proxy: there a
script runs. What such a run changes is therefore what these scripts change, and an object that none of
them touches stays as it was.
-/

namespace ClassLowering

open Relation

/-- A read runs a script: a getter that it finds, or the handler of a proxy. -/
inductive State.ReadsScript (engine : Engine) (state after : State) : Prop
  | getter {id : ObjectId} {key : PropertyKey} {getter receiver : Value}
      (found : state.heap.lookup id key = some (.accessor (some getter)))
      (ran : (Run.call getter receiver [] engine state).Leaves after)
  | proxy {id proxy : ObjectId} {key : PropertyKey} {receiver : Value}
      (found : state.heap.lookup id key = some (.proxy proxy))
      (ran : (Run.getThrough proxy key receiver engine state).Leaves after)

/-- Reads run any number of scripts, and nothing else happens. -/
def State.ReadsTo (engine : Engine) (state after : State) : Prop :=
  ReflTransGen (ReadsScript engine) state after

/-- An object is as it was. -/
def State.Keeps (target : ObjectId) (state after : State) : Prop :=
  after.heap.object target = state.heap.object target

instance {target : ObjectId} : IsTrans State (State.Keeps target) :=
  ⟨fun _ _ _ first second => Eq.trans second first⟩

/-- Whatever is called or read through an engine leaves an object as it is. -/
structure Engine.Spares (engine : Engine) (target : ObjectId) : Prop where
  invoke : ∀ frame state, (Run.invoke frame engine state).All (State.Keeps target state)
  read : ∀ id key receiver state, (Run.read id key receiver engine state).All (State.Keeps target state)

namespace Run

variable {α β : Type} {engine careful : Engine} {state : State} {target id : ObjectId}
  {key : PropertyKey} {value : Value} {run : Run α}

/-- No script that a run calls touches an object: an engine that gives up on scripts that do is enough for
the run. -/
def Spares (run : Run α) (engine : Engine) (state : State) (target : ObjectId) : Prop :=
  ∃ careful : Engine, careful.Below engine ∧ careful.Spares target ∧ run careful state ≠ .exhausted

/-- A run that is put together from reads, and from parts that leave the state as it is. -/
inductive Reads : {α : Type} → Run α → Prop
  | still {α : Type} {run : Run α} (blind : run.Direct)
      (same : ∀ engine state, (run engine state).All (state = ·)) : Reads run
  | getFor (id : ObjectId) (key : PropertyKey) (receiver : Value) : Reads (getFor id key receiver)
  | bind {α β : Type} {first : Run α} {rest : α → Run β} (before : Reads first)
      (after : ∀ result, Reads (rest result)) : Reads (first >>= rest)

/-! ## What a run that reads does -/

theorem Reads.composed {guarded : Bool} (reads : Reads run) : Composed guarded run := by
  induction reads with
  | still blind same =>
      refine composed_silent blind (fun engine state => ?_) fun engine state => ?_
      · exact (same engine state).mono fun _ => congrArg State.heap ∘ Eq.symm
      · exact (same engine state).mono fun _ equal => equal ▸ .refl state
  | getFor _ _ receiver => exact getFor_composed receiver
  | bind _ _ before after => exact .bind before after

/-- What every single read respects, a run that reads respects. -/
theorem Reads.all {related : State → State → Prop} [IsTrans State related] (reads : Reads run)
    (refl : ∀ state, related state state)
    (single : ∀ id key receiver state, (Run.getFor id key receiver engine state).All (related state))
    (state : State) : (run engine state).All (related state) := by
  induction reads generalizing state with
  | still _ same => exact (same engine state).mono fun _ equal => equal ▸ refl state
  | getFor id key receiver => exact single id key receiver state
  | bind _ _ before after => exact all_bind (before state) fun result middle _ _ => after result middle

/-- A read leaves the state as it is, calls the getter that it finds, or goes through the proxy it comes to. -/
theorem getFor_all {holds : State → Prop} {receiver : Value} (still : holds state)
    (called : ∀ getter, state.heap.lookup id key = some (.accessor (some getter)) →
      (call getter receiver [] engine state).All holds)
    (through : ∀ proxy, state.heap.lookup id key = some (.proxy proxy) →
      (getThrough proxy key receiver engine state).All holds) :
    (getFor id key receiver engine state).All holds := by
  cases ended : state.heap.lookup id key with
  | none =>
      rw [getFor_eq, bind_apply, follow, ended]
      trivial
  | some found =>
      rw [getFor_of_lookup ended]
      cases found with
      | missing | data value => exact still
      | accessor getter =>
          cases getter with
          | none => exact still
          | some getter => exact called getter ended
      | proxy proxy => exact through proxy ended

/-- All that a run that reads changes is what getters and proxies change. -/
theorem Reads.readsTo (reads : Reads run) (engine : Engine) (state : State) :
    (run engine state).All (state.ReadsTo engine) := by
  refine reads.all (fun _ => ReflTransGen.refl) (fun id key receiver state => ?_) state
  refine getFor_all .refl (fun getter found => ?_) fun proxy found => ?_
  · exact Outcome.all_of_leaves fun after ran => .single (.getter found ran)
  · exact Outcome.all_of_leaves fun after ran => .single (.proxy found ran)

theorem call_spares (careful : engine.Spares target) (function this : Value) (arguments : List Value)
    (state : State) : (call function this arguments engine state).All (State.Keeps target state) := by
  rw [call, ask_bind]
  cases state.heap.function? function with
  | none => exact rfl
  | some pair => exact careful.invoke _ state

theorem getThrough_spares (careful : engine.Spares target) (proxy : ObjectId) (key : PropertyKey)
    (receiver : Value) (state : State) :
    (getThrough proxy key receiver engine state).All (State.Keeps target state) := by
  rw [getThrough, ask_bind]
  cases (state.heap.object proxy).proxy? with
  | none => exact rfl
  | some pair =>
      obtain ⟨_, handler⟩ := pair
      refine all_bind (careful.read _ _ _ state) fun trap middle _ _ => ?_
      split
      · exact careful.read _ _ _ middle
      · exact call_spares careful _ _ _ middle

theorem getFor_spares (careful : engine.Spares target) (id : ObjectId) (key : PropertyKey)
    (receiver : Value) (state : State) :
    (getFor id key receiver engine state).All (State.Keeps target state) :=
  getFor_all rfl (fun getter _ => call_spares careful getter receiver [] state)
    fun proxy _ => getThrough_spares careful proxy key receiver state

/-- A run that reads and calls no script that touches an object ends, and leaves the object as it was. -/
theorem Reads.kept (reads : Reads run) (spares : run.Spares engine state target) :
    run engine state ≠ .exhausted ∧ (run engine state).All (State.Keeps target state) := by
  obtain ⟨careful, below, sparing, ended⟩ := spares
  have same (state : State) : State.Keeps target state state := rfl
  rw [reads.composed.settled below state ended]
  exact ⟨ended, reads.all same (getFor_spares sparing) state⟩

/-- A run that calls no script at all touches no object. -/
theorem spares_of_scriptless {depth : Nat} (ended : run (Engine.ofDepth 0) state ≠ .exhausted) :
    run.Spares (Engine.ofDepth depth) state target :=
  ⟨Engine.ofDepth 0, Engine.ofDepth_below (Nat.zero_le depth),
    ⟨fun _ _ => trivial, fun _ _ _ _ => trivial⟩, ended⟩

/-! ## Parts of the machine that read -/

theorem reads_pure (result : α) : Reads (pure result : Run α) :=
  .still (direct_pure result) fun _ _ => rfl

theorem reads_raise (fault : Fault) : Reads (raise fault : Run α) :=
  .still ⟨fun _ _ _ => rfl, fun _ _ _ => rfl⟩ fun _ _ => rfl

theorem reads_ask (question : Heap → α) : Reads (ask question) :=
  .still ⟨fun _ _ _ => rfl, fun _ _ _ => rfl⟩ fun _ _ => rfl

theorem reads_follow (walk : Heap → Option α) : Reads (follow walk) := by
  refine .still (direct_follow walk) fun engine state => ?_
  unfold follow
  cases walk state.heap with
  | some answer => exact rfl
  | none => trivial

/-- A complaint about a value. -/
theorem reads_complaint (value : Value) (fault : String → Fault) :
    Reads (textOf value >>= fun text => raise (fault text) : Run α) :=
  .bind (reads_ask _) fun _ => reads_raise _

theorem reads_mapM {items : List α} {body : α → Run β} (each : ∀ item, Reads (body item)) :
    Reads (items.mapM body) := by
  induction items with
  | nil => exact reads_pure []
  | cons item rest ih =>
      rw [List.mapM_cons]
      exact .bind (each item) fun _ => .bind ih fun _ => reads_pure _

theorem get_reads : Reads (get id key) := .getFor id key _

theorem getOf_reads : Reads (getOf value key) := by
  unfold getOf
  cases value with
  | undefined | null => exact reads_complaint _ _
  | _ => exact .getFor _ _ _

theorem field?_reads (name : String) : Reads (field? id name) := by
  refine .bind (reads_follow _) fun present => ?_
  split
  · exact .bind get_reads fun _ => reads_pure _
  · exact reads_pure _

theorem checkAccessor_reads (accessor : Option Value) : Reads (checkAccessor accessor) := by
  unfold checkAccessor
  split
  · refine .bind (reads_ask _) fun callable => ?_
    split
    · exact reads_pure _
    · exact reads_raise _
  · exact reads_pure _

theorem descriptorOf_reads : Reads (descriptorOf id) := by
  unfold descriptorOf
  refine .bind (field?_reads _) fun _ => ?_
  refine .bind (field?_reads _) fun _ => ?_
  refine .bind (field?_reads _) fun _ => ?_
  refine .bind (field?_reads _) fun _ => ?_
  refine .bind (field?_reads _) fun get => ?_
  refine .bind (field?_reads _) fun set => ?_
  refine .bind (checkAccessor_reads get) fun _ => ?_
  refine .bind (checkAccessor_reads set) fun _ => ?_
  split
  · exact reads_raise _
  · exact reads_pure _

theorem descriptorEntry_reads : Reads (descriptorEntry id key) := by
  refine .bind (reads_ask _) fun isEnumerable => ?_
  split
  · refine .bind get_reads fun record => ?_
    split
    · exact .bind descriptorOf_reads fun _ => reads_pure _
    · exact reads_raise _
  · exact reads_pure _

theorem elementsOf_reads : Reads (elementsOf value) := by
  unfold elementsOf
  cases value with
  | object id =>
      refine .bind getOf_reads fun length => ?_
      split
      · exact reads_raise _
      · exact reads_mapM fun _ => getOf_reads
  | _ => exact reads_complaint _ _

theorem memberOf_reads : Reads (memberOf id) := by
  refine .bind get_reads fun keyValue => .bind (reads_ask _) fun key => ?_
  refine .bind (field?_reads _) fun value => .bind (field?_reads _) fun getter => ?_
  refine .bind (field?_reads _) fun setter => .bind get_reads fun enumerable => ?_
  split
  · exact reads_raise _
  · exact reads_pure _

theorem membersOf_reads : Reads (membersOf value) := by
  unfold membersOf
  split
  · exact reads_pure _
  · refine .bind elementsOf_reads fun elements => reads_mapM fun entry => ?_
    cases entry with
    | object record => exact memberOf_reads
    | _ => exact reads_complaint _ _

end Run

end ClassLowering
