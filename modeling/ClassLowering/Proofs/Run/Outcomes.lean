import ClassLowering.Engine
import ClassLowering.Proofs.Heap.Walk

/-!
# Runs with known outcomes

An outcome leaves the realm in a state, unless it is none. A run goes on after a part of which the outcome is
known. Reads that run no script and calls of functions of the host are told by the heap alone.
-/

namespace ClassLowering

namespace Outcome

variable {α : Type}

/-- The state in which an outcome leaves the realm, if any, satisfies a condition. -/
def All (holds : State → Prop) : Outcome α → Prop
  | .done _ after | .failed _ after => holds after
  | .exhausted => True

/-- An outcome leaves the realm in a state: the run ended or failed there. -/
def Leaves (outcome : Outcome α) (last : State) : Prop :=
  match outcome with
  | .done _ after | .failed _ after => after = last
  | .exhausted => False

theorem Leaves.unique {outcome : Outcome α} {last other : State} (leaves : outcome.Leaves last)
    (leavesOther : outcome.Leaves other) : last = other := by
  cases outcome with
  | done _ _ | failed _ _ => exact leaves.symm.trans leavesOther
  | exhausted => exact leaves.elim

theorem leaves_of_done {outcome : Outcome α} {result : α} {last : State}
    (ended : outcome = .done result last) : outcome.Leaves last := ended ▸ rfl

theorem leaves_of_failed {outcome : Outcome α} {failure : Failure} {last : State}
    (ended : outcome = .failed failure last) : outcome.Leaves last := ended ▸ rfl

/-- The state in which an outcome leaves the realm. -/
def final? (outcome : Outcome α) : Option State :=
  match outcome with
  | .done _ after | .failed _ after => some after
  | .exhausted => none

theorem leaves_of_final? {outcome : Outcome α} {last : State} (left : outcome.final? = some last) :
    outcome.Leaves last := by
  cases outcome with
  | done _ _ | failed _ _ => exact Option.some.inj left
  | exhausted => cases left

/-- The result of an outcome that ended, with the state. -/
def done? (outcome : Outcome α) : Option (α × State) :=
  match outcome with
  | .done result after => some (result, after)
  | .failed _ _ | .exhausted => none

theorem done_of_done? {outcome : Outcome α} {result : α} {last : State}
    (ended : outcome.done? = some (result, last)) : outcome = .done result last := by
  cases outcome with
  | done _ _ =>
      cases ended
      rfl
  | failed _ _ | exhausted => cases ended

theorem done_of_result {outcome : Outcome α} {result : α}
    (ended : outcome.done?.map Prod.fst = some result) : ∃ last, outcome = .done result last := by
  obtain ⟨⟨_, last⟩, ran, rfl⟩ := Option.map_eq_some_iff.mp ended
  exact ⟨last, done_of_done? ran⟩

/-- The failure of an outcome, with the state. -/
def failed? (outcome : Outcome α) : Option (Failure × State) :=
  match outcome with
  | .failed failure after => some (failure, after)
  | .done _ _ | .exhausted => none

theorem failed_of_failed? {outcome : Outcome α} {failure : Failure} {last : State}
    (ended : outcome.failed? = some (failure, last)) : outcome = .failed failure last := by
  cases outcome with
  | failed _ _ =>
      cases ended
      rfl
  | done _ _ | exhausted => cases ended

theorem All.of_leaves {holds : State → Prop} {outcome : Outcome α} {last : State}
    (all : outcome.All holds) (leaves : outcome.Leaves last) : holds last := by
  cases outcome with
  | done result after | failed failure after => exact leaves ▸ all
  | exhausted => exact leaves.elim

theorem all_of_leaves {holds : State → Prop} {outcome : Outcome α}
    (left : ∀ last, outcome.Leaves last → holds last) : outcome.All holds := by
  cases outcome with
  | done _ after | failed _ after => exact left after rfl
  | exhausted => trivial

theorem All.mono {holds others : State → Prop} {outcome : Outcome α} (all : outcome.All holds)
    (implied : ∀ last, holds last → others last) : outcome.All others :=
  all_of_leaves fun last left => implied last (all.of_leaves left)

end Outcome

/-- What a read gives, unless it runs a script. -/
def Lookup.plain? : Lookup → Option Value
  | .missing | .accessor none => some .undefined
  | .data value => some value
  | .accessor (some _) | .proxy .. => none

/-- What a read finds in a property. -/
def Property.found (property : Property) : Lookup :=
  match property.slot with
  | .data value => .data value
  | .accessor getter _ => .accessor getter

namespace Heap

/-- The value that a read of a key gives without running a script. -/
def plainRead? (heap : Heap) (id : ObjectId) (key : PropertyKey) : Option Value :=
  (heap.lookup id key).bind Lookup.plain?

/-- The function of the host behind a value, and how it can be used. -/
def builtin? (heap : Heap) (value : Value) : Option (FunctionKind × Builtin) :=
  match heap.function? value with
  | some (_, { kind, code := .builtin builtin, .. }) => some (kind, builtin)
  | _ => none

variable {heap : Heap} {value : Value} {kind : FunctionKind} {builtin : Builtin} {id : ObjectId}
  {key : PropertyKey}

theorem lookupStride_own (ordinary : (heap.object id).proxy? = none) {property : Property}
    (held : (heap.object id).property? key = some property) :
    heap.lookupStride key id = .finish property.found := by
  obtain ⟨slot, _, _, _⟩ := property
  cases slot <;> simp only [lookupStride, ordinary, held, Property.found]

theorem lookupStride_missing (ordinary : (heap.object id).proxy? = none)
    (missing : (heap.object id).property? key = none) (unlinked : (heap.object id).prototype = none) :
    heap.lookupStride key id = .finish .missing := by
  simp only [lookupStride, ordinary, missing, unlinked, Stride.follow]

/-- A read of an own property. -/
theorem lookup_own (ordinary : (heap.object id).proxy? = none) {property : Property}
    (held : (heap.object id).property? key = some property) :
    heap.lookup id key = some property.found :=
  walk_of_finish (lookupStride_own ordinary held)

/-- A read of an own value. -/
theorem plainRead?_own (ordinary : (heap.object id).proxy? = none) {property : Property}
    (held : (heap.object id).property? key = some property) (same : property.slot = .data value) :
    heap.plainRead? id key = some value := by
  rw [Heap.plainRead?, lookup_own ordinary held, Property.found, same]
  rfl

theorem kind_of_function? {callable : Callable} (found : heap.function? value = some (id, callable)) :
    value = .object id ∧ (heap.object id).kind = .function callable := by
  unfold function? at found
  split at found
  · obtain ⟨_, held, same⟩ := Option.map_eq_some_iff.mp found
    cases same
    unfold Object.callable? at held
    split at held
    · next function =>
      cases held
      exact ⟨rfl, function⟩
    · cases held
  · cases found

theorem kind_of_isCallable (called : heap.isCallable (.object id) = true) :
    ∃ callable, (heap.object id).kind = .function callable := by
  obtain ⟨⟨_, callable⟩, found⟩ := Option.isSome_iff_exists.mp called
  obtain ⟨same, kind⟩ := kind_of_function? found
  cases same
  exact ⟨callable, kind⟩

theorem function?_of_builtin? (found : heap.builtin? value = some (kind, builtin)) :
    ∃ id callable, heap.function? value = some (id, callable) ∧ value = .object id ∧
      callable.kind = kind ∧ callable.code = .builtin builtin := by
  unfold builtin? at found
  split at found
  · next called =>
    cases found
    exact ⟨_, _, called, (kind_of_function? called).1, rfl, rfl⟩
  · cases found

theorem kind_of_builtin? (found : heap.builtin? (.object id) = some (kind, builtin)) :
    ∃ callable, (heap.object id).kind = .function callable ∧ callable.kind = kind ∧
      callable.code = .builtin builtin := by
  obtain ⟨_, callable, called, same, kind_eq, code⟩ := function?_of_builtin? found
  cases same
  exact ⟨callable, (kind_of_function? called).2, kind_eq, code⟩

end Heap

namespace Run

variable {α β : Type} {engine : Engine} {state : State}

/-- After a run of which the outcome is known, the rest goes on. -/
theorem bind_of_done {first : Run β} {rest : β → Run α} {result : β} {next : State}
    (ran : first engine state = .done result next) :
    (first >>= rest) engine state = rest result engine next := by
  rw [bind_apply, ran]

/-- Nothing follows a run that fails. -/
theorem bind_of_failed {first : Run β} {rest : β → Run α} {failure : Failure} {next : State}
    (ran : first engine state = .failed failure next) :
    (first >>= rest) engine state = .failed failure next := by
  rw [bind_apply, ran]

theorem bind_of_exhausted {first : Run β} {rest : β → Run α}
    (ran : first engine state = .exhausted) : (first >>= rest) engine state = .exhausted := by
  rw [bind_apply, ran]

theorem attempt_of_done {run : Run α} {result : α} {next : State}
    (ran : run engine state = .done result next) :
    attempt run engine state = .done (.ok result) next := by
  rw [attempt, ran]

/-- What fails is caught. -/
theorem attempt_of_failed {run : Run α} {failure : Failure} {next : State}
    (ran : run engine state = .failed failure next) :
    attempt run engine state = .done (.error failure) next := by
  rw [attempt, ran]

/-- A run whose result is known had a result before it went on. -/
theorem done_of_bind {first : Run β} {rest : β → Run α} {after : State} {result : α}
    (ran : (first >>= rest) engine state = .done result after) :
    ∃ early middle, first engine state = .done early middle ∧
      rest early engine middle = .done result after := by
  rw [bind_apply] at ran
  cases began : first engine state with
  | done early middle =>
      rw [began] at ran
      exact ⟨early, middle, rfl, ran⟩
  | failed failure middle =>
      rw [began] at ran
      cases ran
  | exhausted =>
      rw [began] at ran
      cases ran

/-- A run that fails does so in its first part, or in what follows a result of this. -/
theorem failed_of_bind {first : Run β} {rest : β → Run α} {after : State} {failure : Failure}
    (ran : (first >>= rest) engine state = .failed failure after) :
    first engine state = .failed failure after ∨
      ∃ early middle, first engine state = .done early middle ∧
        rest early engine middle = .failed failure after := by
  rw [bind_apply] at ran
  cases began : first engine state with
  | done early middle =>
      rw [began] at ran
      exact .inr ⟨early, middle, rfl, ran⟩
  | failed other middle =>
      rw [began] at ran
      cases ran
      exact .inl rfl
  | exhausted =>
      rw [began] at ran
      cases ran

theorem ask_bind (question : Heap → β) (rest : β → Run α) :
    (ask question >>= rest) engine state = rest (question state.heap) engine state := rfl

theorem walk_of_follow {walk : Heap → Option α} {answer : α} {after : State}
    (ran : follow walk engine state = .done answer after) : walk state.heap = some answer := by
  rw [follow] at ran
  cases walked : walk state.heap with
  | none =>
      rw [walked] at ran
      cases ran
  | some found =>
      rw [walked] at ran
      cases ran
      rfl

/-- What is built is all that changes. -/
theorem build_apply {build : Build α} {result : α} {larger : Heap}
    (made : build state.heap = (result, larger)) :
    Run.build build engine state = .done result { state with heap := larger } := by
  rw [Run.build, made]

/-! ## What is found, and what is made of it -/

/-- What a read makes of what it finds. -/
def answer (key : PropertyKey) (receiver : Value) (found : Lookup) : Run Value := do
  match found with
  | .missing | .accessor none => return .undefined
  | .data value => return value
  | .accessor (some getter) => call getter receiver []
  | .proxy proxy => getThrough proxy key receiver

/-- What an assignment makes of what it finds. -/
def assign (receiver : ObjectId) (key : PropertyKey) (value : Value) (found : Assignment) :
    Run Bool := do
  match found with
  | .refused => return false
  | .setter function =>
      let _ ← call function (.object receiver) [value]
      return true
  | .write =>
      if ← ask fun heap => (heap.object receiver).accepts key then
        change (·.setValue receiver key value)
        return true
      else return false

theorem getFor_eq (id : ObjectId) (key : PropertyKey) (receiver : Value) :
    getFor id key receiver = follow (·.lookup id key) >>= answer key receiver := rfl

theorem set_eq (id : ObjectId) (key : PropertyKey) (value : Value) :
    set id key value = ask (·.resolve id) >>= fun receiver =>
      follow (·.assignment receiver key) >>= assign receiver key value := rfl

theorem getFor_of_lookup {id : ObjectId} {key : PropertyKey} {receiver : Value} {found : Lookup}
    (ended : state.heap.lookup id key = some found) (engine : Engine) :
    getFor id key receiver engine state = answer key receiver found engine state := by
  have followed : follow (·.lookup id key) engine state = .done found state := by rw [follow, ended]
  rw [getFor_eq, bind_of_done followed]

/-- A read through a proxy asks the handler for a trap first. -/
theorem getFor_of_proxy {id target handler : ObjectId} {key : PropertyKey} {receiver : Value}
    (proxied : (state.heap.object id).proxy? = some (target, handler)) (engine : Engine) :
    getFor id key receiver engine state =
      (read handler "get" (.object handler) >>= fun trap =>
        if trap.isNullish then read target key receiver
        else call trap (.object handler) [.object target, key.toValue, receiver]) engine state := by
  have found : state.heap.lookup id key = some (.proxy id) :=
    Heap.walk_of_finish (by simp only [Heap.lookupStride, proxied])
  rw [getFor_of_lookup found, answer, getThrough, ask_bind, proxied]

theorem set_of_assignment {id : ObjectId} {key : PropertyKey} {value : Value} {found : Assignment}
    (ended : state.heap.assignment (state.heap.resolve id) key = some found) (engine : Engine) :
    set id key value engine state =
      assign (state.heap.resolve id) key value found engine state := by
  have followed : follow (·.assignment (state.heap.resolve id) key) engine state =
      .done found state := by rw [follow, ended]
  rw [set_eq, ask_bind, bind_of_done followed]

/-- The function behind a value is what runs when the value is called. -/
theorem call_of_function? {function : Value} {callee : ObjectId} {callable : Callable}
    (found : state.heap.function? function = some (callee, callable)) (this : Value)
    (arguments : List Value) (engine : Engine) :
    call function this arguments engine state =
      invoke { callee, callable, this, arguments } engine state := by
  rw [call, ask_bind, found]

/-- A plain read leaves the state alone. -/
theorem getFor_plain {id : ObjectId} {key : PropertyKey} {receiver value : Value}
    (found : state.heap.plainRead? id key = some value) :
    getFor id key receiver engine state = .done value state := by
  obtain ⟨lookup, ended, plain⟩ := Option.bind_eq_some_iff.mp found
  unfold getFor
  rw [bind_apply, follow, ended]
  cases lookup with
  | missing =>
      cases plain
      rfl
  | data value =>
      cases plain
      rfl
  | accessor getter =>
      cases getter with
      | none =>
          cases plain
          rfl
      | some getter => cases plain
  | proxy id => cases plain

/-- An engine that runs nothing gets values from plain reads only. -/
theorem plainRead?_of_getFor {id : ObjectId} {key : PropertyKey} {receiver value : Value}
    {after : State} (ran : getFor id key receiver (Engine.ofDepth 0) state = .done value after) :
    state.heap.plainRead? id key = some value := by
  cases ended : state.heap.lookup id key with
  | none =>
      rw [getFor_eq, bind_apply, follow, ended] at ran
      cases ran
  | some found =>
      rw [getFor_of_lookup ended] at ran
      rw [Heap.plainRead?, ended]
      cases found with
      | missing | data value =>
          cases ran
          rfl
      | accessor getter =>
          cases getter with
          | none =>
              cases ran
              rfl
          | some getter =>
              rw [answer, call, ask_bind] at ran
              cases called : state.heap.function? getter <;>
                · rw [called] at ran
                  cases ran
      | proxy proxy =>
          rw [answer, getThrough, ask_bind] at ran
          cases linked : (state.heap.object proxy).proxy? <;>
            · rw [linked] at ran
              cases ran

/-- Where an assignment comes to no setter, it writes the value, or it tells that it did not. -/
theorem set_without_setter {id : ObjectId} {key : PropertyKey}
    (unset : ∀ setter, state.heap.assignment (state.heap.resolve id) key ≠ some (.setter setter))
    (value : Value) (engine : Engine) :
    set id key value engine state = .exhausted ∨ set id key value engine state = .done false state ∨
      set id key value engine state =
        .done true { state with heap := state.heap.setValue (state.heap.resolve id) key value } := by
  cases ended : state.heap.assignment (state.heap.resolve id) key with
  | none =>
      rw [set_eq, ask_bind, bind_apply, follow, ended]
      exact .inl rfl
  | some found =>
      rw [set_of_assignment ended]
      cases found with
      | refused => exact .inr (.inl rfl)
      | setter setter => exact absurd ended (unset setter)
      | write =>
          rw [assign, ask_bind]
          split
          · exact .inr (.inr rfl)
          · exact .inr (.inl rfl)

/-- A function of the host runs on the engine below. -/
theorem call_builtin {function : Value} {kind : FunctionKind} {builtin : Builtin}
    (found : state.heap.builtin? function = some (kind, builtin)) (depth : Nat) :
    ∃ callee callable, function = .object callee ∧ ∀ this arguments,
      call function this arguments (Engine.ofDepth (depth + 1)) state =
        builtin.run { callee, callable, this, arguments } (Engine.ofDepth depth) state := by
  obtain ⟨callee, callable, called, same, _, code⟩ := Heap.function?_of_builtin? found
  refine ⟨callee, callable, same, fun this arguments => ?_⟩
  unfold call
  rw [bind_apply, ask, called]
  change Frame.run _ _ _ = _
  rw [Frame.run, code]

end Run

end ClassLowering
