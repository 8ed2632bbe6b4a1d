import ClassLowering.Proofs.Composition.Relations
import ClassLowering.Proofs.Construction.Levels

/-!
# Levels below a constructor of any kind

Whatever the constructor at the top of some levels does, it is called once in a construction, on a blank
instance. Where it fails the construction fails. An object that it returns takes the place of the
instance at every level further down: each level writes on it and returns it.
-/

namespace ClassLowering

open Script

/-! ## What becomes of a returned object -/

/-- What levels make of an object that a constructor returned. Their entries are written on the object that
stands behind it, in order, and all else stays as it was, variables aside. -/
structure State.Receives (given : State) (result : ObjectId) (entries : List (PropertyKey × Value))
    (after : State) : Prop where
  state_eq : ∃ scopes : Array Scope, scopes.size = given.scopes.size ∧
    after =
      { given with heap := given.heap.written (given.heap.resolve result) entries, scopes }
  /-- The last one written under a key is what the object has there. -/
  carries : ∀ key value, entries.reverse.lookup key = some value →
    (after.heap.object (given.heap.resolve result)).HasValue key value
  links : ∀ id, (after.heap.object id).prototype = (given.heap.object id).prototype
  others : ∀ id, id ≠ given.heap.resolve result → after.heap.object id = given.heap.object id

section Receives

variable {given middle after : State} {result : ObjectId} {entries later : List (PropertyKey × Value)}

/-- An object receives what it takes. -/
theorem State.receives_of_takes (takes : given.heap.TakesEach result entries) {scopes : Array Scope}
    (size_eq : scopes.size = given.scopes.size) :
    given.Receives result entries
      { given with heap := given.heap.written (given.heap.resolve result) entries, scopes } where
  state_eq := ⟨scopes, size_eq, rfl⟩
  carries key value last := by
    rw [takes.object_written]
    exact Object.hasValue_written _ last
  links id := by
    by_cases same : id = given.heap.resolve result
    · rw [same, takes.object_written, Object.prototype_written]
    · rw [Heap.object_written_ne same]
  others id differs := Heap.object_written_ne differs

namespace State.Receives

theorem refl (given : State) (result : ObjectId) : given.Receives result [] given := by
  have takes : given.heap.TakesEach result [] := trivial
  exact receives_of_takes takes rfl

/-- What takes the entries of two levels takes those of the second one after those of the first. -/
theorem takes (receives : given.Receives result entries middle)
    (taking : given.heap.TakesEach result (entries ++ later)) :
    middle.heap.TakesEach result later := by
  obtain ⟨_, _, rfl⟩ := receives.state_eq
  exact (Heap.takesEach_append.mp taking).2

theorem trans (first : given.Receives result entries middle)
    (second : middle.Receives result later after)
    (taking : given.heap.TakesEach result (entries ++ later)) :
    given.Receives result (entries ++ later) after := by
  obtain ⟨scopes, size_eq, rfl⟩ := first.state_eq
  obtain ⟨others, later_eq, rfl⟩ := second.state_eq
  have resolved := (Heap.takesEach_append.mp taking).1.resolve_written
  have whole := receives_of_takes taking (later_eq.trans size_eq)
  rw [Heap.written_append] at whole
  dsimp only
  rwa [resolved]

end State.Receives

theorem State.receives_concluding (takes : given.heap.TakesEach result entries) (scope : ScopeId) :
    given.Receives result entries (given.concluding scope result entries) :=
  receives_of_takes takes (by simp [State.assign])

end Receives

/-! ## Runs that go on from a call -/

/-- A run goes on from the call of a function: it fails where the call fails, and it returns an object that
the call returns, after some entries were written on it. -/
structure Run.GoesOn (run : Run Value) (state : State) (frame : Frame) (before : State)
    (entries : List (PropertyKey × Value)) (levels : Nat) : Prop where
  failed : ∀ depth failure given,
    frame.run (Engine.ofDepth depth) before = .failed failure given →
    run (Engine.ofDepth (depth + levels)) state = .failed failure given
  returned : ∀ depth result given,
    frame.run (Engine.ofDepth depth) before = .done (.object result) given →
    given.heap.TakesEach result entries →
    ∃ after, run (Engine.ofDepth (depth + levels)) state = .done (.object result) after ∧
      given.Receives result entries after

theorem Run.GoesOn.trans {run : Run Value} {state middle before : State} {outer inner : Frame}
    {entries later : List (PropertyKey × Value)} {levels more : Nat}
    (second : outer.run.GoesOn middle inner before entries levels)
    (first : run.GoesOn state outer middle later more) :
    run.GoesOn state inner before (entries ++ later) (levels + more) where
  failed depth failure given ran := by
    rw [← Nat.add_assoc]
    exact first.failed _ failure given (second.failed depth failure given ran)
  returned depth result given ran takes := by
    obtain ⟨middle, gave, receives⟩ :=
      second.returned depth result given ran (Heap.takesEach_append.mp takes).1
    obtain ⟨after, ended, last⟩ := first.returned _ result middle gave (receives.takes takes)
    rw [← Nat.add_assoc]
    exact ⟨after, ended, receives.trans last takes⟩

/-! ## One level -/

variable {profile : Profile} {root : Root} {classes above : List MadeClass} {state : State}
variable {target made : MadeClass} {arguments : List Value} {this : ObjectId} {callable : Callable}

section Level

variable (links : profile.Links) (founded : Founded profile root classes state)
  (first : classes.head? = some target) (few : arguments.length ≤ maxArguments)
  (level : made :: above <:+ classes) (derives : root.stepFor above = LoweredClass.superStep)
  (kind : (state.heap.object (root.parentFor above)).kind = .function callable)
  (normal : callable.kind = .normal) (fresh : Fresh profile (root.aboveFor classes) state this)
include links founded first few level derives kind normal fresh

/-- The step of a derived class for its instance passes on what the constructor above it gives. -/
theorem superStep_enters {scope : ScopeId} (scope_eq : state.scope scope = { parent := some made.scope })
    (newTarget : Option ObjectId) :
    ∃ before inner target, Entered profile (root.aboveFor classes) [] state this before inner ∧
      ∀ depth outcome, outcome.PassesOn →
        (Frame.constructing (root.parentFor above) callable inner arguments target).run
          (Engine.ofDepth depth) before = outcome →
        (∀ failure given, outcome = .failed failure given →
          runStep (made.context (root.stepFor above) this arguments newTarget scope)
            (root.stepFor above) (Engine.ofDepth (depth + 3)) state = .failed failure given) ∧
        (∀ result given, outcome = .done (.object result) given →
          runStep (made.context (root.stepFor above) this arguments newTarget scope)
            (root.stepFor above) (Engine.ofDepth (depth + 3)) state =
              .done (.next (.value (.object result))) (given.assign scope "_this" (.object result))) := by
  rw [derives]
  cases founded.lineage.of_suffix level with
  | cons stands calls _ =>
      obtain ⟨before, inner, target, entered, passes_on⟩ := Run.superCall_enters links founded first
        (level.subset List.mem_cons_self) stands.passes.links kind normal few fresh
      refine ⟨before, inner, target, entered, fun depth outcome passes ran => ?_⟩
      have called := passes_on depth outcome passes ran
      obtain ⟨caller, operands, calling⟩ := (calls derives).evaluated scope_eq
        LoweredClass.superStep this arguments newTarget (depth + 2)
      constructor
      · rintro failure given rfl
        refine runStep_perform_failed rfl ?_
        rw [operands]
        exact Run.bind_of_failed (calling.trans called)
      · rintro result given rfl
        refine runStep_perform ?_
        rw [operands]
        exact Run.bind_of_done (calling.trans called)

/-- The body of a derived class goes on from the constructor above it. -/
theorem body_enters (newTarget : Option ObjectId) :
    ∃ before inner target,
      Entered profile (root.aboveFor classes) (made.outline.notes arguments) state this before inner ∧
      (made.frame (root.stepFor above) this arguments newTarget).run.GoesOn state
        (.constructing (root.parentFor above) callable inner arguments target) before
        (made.outline.entries arguments) 3 := by
  let scope : ScopeId := ⟨state.scopes.size⟩
  let logged := (state.opening (some made.scope)).noting (made.outline.notes arguments)
  have evolved : state.Evolves profile state.heap.next (made.outline.notes arguments) logged :=
    .beginning ..
  have begun : Entered profile (root.aboveFor classes) (made.outline.notes arguments) state this logged
      this := ⟨evolved, ⟨fresh.outside, fresh.blank⟩, .inl rfl⟩
  have scope_eq : logged.scope scope = { parent := some made.scope } := State.scope_push_self state _
  have passes := founded.lineage.letsPass fresh (level.subset List.mem_cons_self)
  obtain ⟨before, inner, target, entered, gives⟩ := superStep_enters links (begun.founded founded) first
    few level derives kind normal begun.fresh scope_eq newTarget
  refine ⟨before, inner, target, begun.trans entered, fun depth failure given ran => ?_,
    fun depth result given ran takes => ?_⟩
  · exact body_fails passes ((gives depth (.failed failure given) trivial ran).1 _ _ rfl)
  · -- The scope of the body is there until the body ends.
    have there : state.scopes.size < given.scopes.size := by
      have opened : state.scopes.size < logged.scopes.size := by
        simp [logged, State.noting, State.opening]
      exact Nat.lt_of_lt_of_le opened
        (Nat.le_trans entered.evolved.scopes_le (Frame.keepsScopes_of_done ran))
    have gave := (gives depth (.done (.object result) given) trivial ran).2 _ _ rfl
    exact ⟨_, body_ends passes gave there takes, State.receives_concluding takes scope⟩

end Level

/-! ## All levels -/

section Levels

variable {constructor prototype : ObjectId} (links : profile.Links)
  (founded : Founded profile (.host constructor prototype) classes state)
  (first : classes.head? = some target) (few : arguments.length ≤ maxArguments)
  (kind : (state.heap.object constructor).kind = .function callable) (normal : callable.kind = .normal)
include links founded first few kind normal

/-- By induction from the constructor downwards, every level goes on from it. -/
theorem levels_enter (level : made :: above <:+ classes)
    (fresh : Fresh profile ((Root.host constructor prototype).aboveFor classes) state this)
    (newTarget : Option ObjectId) :
    ∃ before inner target,
      Entered profile ((Root.host constructor prototype).aboveFor classes)
        (MadeClass.notesOf (made :: above) arguments) state this before inner ∧
      (made.frame ((Root.host constructor prototype).stepFor above) this arguments newTarget).run.GoesOn
        state (.constructing constructor callable inner arguments target) before
        (MadeClass.entriesOf (made :: above) arguments) (3 * (above.length + 1)) := by
  induction above generalizing made state this newTarget with
  | nil =>
      rw [MadeClass.notesOf_cons, MadeClass.entriesOf_cons]
      exact body_enters links founded first few level rfl kind normal fresh newTarget
  | cons base rest ih =>
      have shorter : base :: rest <:+ classes := (List.suffix_cons made _).trans level
      obtain ⟨middle, between, inside, entered, goes⟩ := body_enters links founded first few level rfl
        (founded.lineage.of_suffix shorter).kind rfl fresh newTarget
      have grown := entered.evolved.heap.of_new (Nat.le_refl _)
      have kept := grown.object_eq constructor (Heap.index_lt_of_kind kind nofun)
      obtain ⟨before, inner, last, further, goes_on⟩ :=
        ih (entered.founded founded) (kept ▸ kind) shorter entered.fresh inside
      rw [MadeClass.notesOf_cons, MadeClass.entriesOf_cons]
      exact ⟨before, inner, last, entered.trans further, goes_on.trans goes⟩

omit links few kind normal in
/-- The construction of the most derived class goes on from its own constructor. -/
theorem Run.construct_goesOn (arguments : List Value) :
    (construct (.object target.constructor) arguments).GoesOn state
      (target.frame ((Root.host constructor prototype).stepFor classes.tail) state.heap.next arguments
        (some target.constructor))
      (state.making (.inheriting (some target.prototype))) [] 1 := by
  obtain ⟨above, rfl⟩ : ∃ above, classes = target :: above := List.head?_eq_some_iff.mp first
  obtain ⟨_, _, _, stands⟩ := founded.lineage.stands List.mem_cons_self
  have kind := founded.lineage.kind
  have constructed (depth : Nat) {outcome : Outcome Value} (passes : outcome.PassesOn)
      (ran : (target.frame ((Root.host constructor prototype).stepFor above) state.heap.next arguments
        (some target.constructor)).run (Engine.ofDepth depth)
          (state.making (.inheriting (some target.prototype))) = outcome) :
      construct (.object target.constructor) arguments (Engine.ofDepth (depth + 1)) state = outcome := by
    rw [construct_apply ⟨kind, nofun⟩,
      runConstructor_eq rfl (Heap.proxy?_of_function kind) stands.instances]
    exact resultOr_passesOn state.heap.next passes ran
  exact ⟨fun depth failure given ran => constructed depth trivial ran,
    fun depth result given ran _ => ⟨given, constructed depth trivial ran, .refl given result⟩⟩

/-- So it goes on from the constructor at the top, which is called on a new instance. -/
theorem Run.construct_enters :
    ∃ before inner newTarget,
      Entered profile target.prototype (MadeClass.notesOf classes arguments) state state.heap.next before
        inner ∧
      (construct (.object target.constructor) arguments).GoesOn state
        (.constructing constructor callable inner arguments newTarget) before
        (MadeClass.entriesOf classes arguments) (3 * classes.length + 1) := by
  have constructs := Run.construct_goesOn founded first arguments
  obtain ⟨above, rfl⟩ : ∃ above, classes = target :: above := List.head?_eq_some_iff.mp first
  have made : Entered profile target.prototype [] state state.heap.next
      (state.making (.inheriting (some target.prototype))) state.heap.next :=
    .of_making founded.untouched (.refl state) state.heap.next target.prototype
  have grown := made.evolved.heap.of_new (Nat.le_refl _)
  have kept := grown.object_eq constructor (Heap.index_lt_of_kind kind nofun)
  obtain ⟨before, inner, newTarget, entered, goes⟩ := levels_enter links (made.founded founded) first few
    (kept ▸ kind) normal (List.suffix_refl _) made.fresh (some target.constructor)
  have whole := made.trans entered
  have goes_on := goes.trans constructs
  rw [List.append_nil] at whole goes_on
  exact ⟨before, inner, newTarget, whole, goes_on⟩

end Levels

end ClassLowering
