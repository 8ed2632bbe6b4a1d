import ClassLowering.Run.State

/-!
# Runs

A run turns a state into an outcome. It ends with a result, fails, or is exhausted: it went through
more nested calls than the engine allows, or along a chain of objects that never ends. The effects of
a run that fails stay.

A run reaches the code of functions, and the reads that proxies hand on, through an engine. Proofs can
take any engine for the rest of the machine; `Engine.ofDepth` in `Engine.lean` ties the knot.
-/

namespace ClassLowering

/-- How a run ends. -/
inductive Outcome (α : Type) where
  | done (result : α) (state : State)
  | failed (failure : Failure) (state : State)
  | exhausted

/-- What a run needs of the machine around it: running the code of a frame, reading a key of an object
on behalf of a receiver, and how many rounds a search may take that runs scripts between them. -/
structure Engine where
  depth : Nat
  invoke : Frame → State → Outcome Value
  read : ObjectId → PropertyKey → Value → State → Outcome Value

/-- A computation on the state of a realm. -/
def Run (α : Type) := Engine → State → Outcome α

namespace Run

variable {α β : Type}

/-- The run that only gives a result. -/
@[inline] protected def pure (result : α) : Run α := fun _ state => .done result state

/-- One run after another. -/
@[inline] protected def bind (first : Run α) (rest : α → Run β) : Run β := fun engine state =>
  match first engine state with
  | .done result state => rest result engine state
  | .failed failure state => .failed failure state
  | .exhausted => .exhausted

@[always_inline] instance : Monad Run where
  pure := Run.pure
  bind := Run.bind

theorem bind_apply (first : Run α) (rest : α → Run β) (engine : Engine) (state : State) :
    (first >>= rest) engine state =
      match first engine state with
      | .done result state => rest result engine state
      | .failed failure state => .failed failure state
      | .exhausted => .exhausted := rfl

theorem map_id_eq (run : Run α) : id <$> run = run := by
  funext engine state
  change (match run engine state with
    | .done result state => Outcome.done result state
    | .failed failure state => .failed failure state
    | .exhausted => .exhausted) = run engine state
  cases run engine state <;> rfl

theorem bind_assoc_eq {γ : Type} (first : Run α) (second : α → Run β) (third : β → Run γ) :
    first >>= second >>= third = first >>= fun result => second result >>= third := by
  funext engine state
  simp only [bind_apply]
  cases first engine state <;> rfl

instance : LawfulMonad Run :=
  LawfulMonad.mk' Run map_id_eq (fun _ _ => rfl) bind_assoc_eq

/-- Fails. -/
def fail (failure : Failure) : Run α := fun _ state => .failed failure state

/-- Fails with a fault. -/
def raise (fault : Fault) : Run α := fail (.fault fault)

/-- Never ends. -/
def endless : Run α := fun _ _ => .exhausted

/-- The state. -/
def state : Run State := fun _ state => .done state state

/-- The heap. -/
def heap : Run Heap := fun _ state => .done state.heap state

/-- The heap's answer to a question. -/
@[inline] def ask {α : Type} (question : Heap → α) : Run α := fun _ state =>
  .done (question state.heap) state

/-- Changes the state. -/
@[inline] def modify (change : State → State) : Run Unit := fun _ state => .done () (change state)

/-- Changes the heap. -/
@[inline] def change (update : Heap → Heap) : Run Unit := fun _ state =>
  let { heap, caches, symbolCount, scopes, journal } := state
  .done () { heap := update heap, caches, symbolCount, scopes, journal }

/-- Builds on the heap. -/
@[inline] def build (build : Build α) : Run α := fun _ state =>
  let { heap, caches, symbolCount, scopes, journal } := state
  let (result, heap) := build heap
  .done result { heap, caches, symbolCount, scopes, journal }

/-- A walk through the heap as a run: it never ends if the walk does not. -/
def follow (walk : Heap → Option α) : Run α := fun _ state =>
  match walk state.heap with
  | some answer => .done answer state
  | none => .exhausted

/-- The result of a run, or how it failed. -/
def attempt (run : Run α) : Run (Except Failure α) := fun engine state =>
  match run engine state with
  | .done result state => .done (.ok result) state
  | .failed failure state => .done (.error failure) state
  | .exhausted => .exhausted

/-- Runs the code of a frame. -/
def invoke (frame : Frame) : Run Value := fun engine state => engine.invoke frame state

/-- How many rounds a search may take. -/
def depth : Run Nat := fun engine state => .done engine.depth state

/-- Reads a key one level of nesting further down. -/
def read (id : ObjectId) (key : PropertyKey) (receiver : Value) : Run Value :=
  fun engine state => engine.read id key receiver state

end Run

end ClassLowering
