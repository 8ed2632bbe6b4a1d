import ClassLowering.Proofs.Construction.Body

/-!
# Construction through the levels of a lineage

By induction from the base downwards, the constructor of every class of a lineage initializes a blank
instance of the most derived class. What a class writes comes after what the classes above it wrote.
-/

namespace ClassLowering

open Script

/-- What classes write for the arguments of a construction, from the base downwards. -/
def MadeClass.entriesOf (classes : List MadeClass) (arguments : List Value) :
    List (PropertyKey × Value) :=
  classes.reverse.flatMap fun made => made.outline.entries arguments

/-- What classes log for the arguments of a construction. The base is the last to log. -/
def MadeClass.notesOf (classes : List MadeClass) (arguments : List Value) : List JournalEntry :=
  classes.reverse.flatMap fun made => made.outline.notes arguments

namespace MadeClass

variable {made : MadeClass} {above : List MadeClass} {arguments : List Value}

theorem entriesOf_cons :
    entriesOf (made :: above) arguments =
      entriesOf above arguments ++ made.outline.entries arguments := by
  simp [entriesOf]

theorem notesOf_cons :
    notesOf (made :: above) arguments =
      notesOf above arguments ++ made.outline.notes arguments := by
  simp [notesOf]

end MadeClass

variable {profile : Profile} {root : Root} {classes above : List MadeClass} {state : State}
variable {target made base : MadeClass} {seed : Object} {arguments : List Value}

theorem State.Lineage.kind (lineage : state.Lineage root (made :: above)) :
    (state.heap.object made.constructor).kind =
      .function (made.outline.callable (root.stepFor above) made.scope) := by
  cases lineage with
  | cons stands => exact stands.kind

/-- A class that derives from nothing takes `this` for its instance. -/
theorem gives_plain (made : MadeClass) (engine : Engine) :
    Gives profile root classes (.inheriting (some (root.aboveFor classes))) made
      LoweredClass.plainStep arguments [] [] engine := by
  intro state this newTarget scope ready fresh scope_eq
  exact ⟨this, state, runStep_perform rfl, .refl state, .inl rfl, fresh.blank⟩

/-- Inside the body of its constructor, a class runs its super caller on `this` and the arguments. -/
theorem State.CallsSuper.evaluated (calls : state.CallsSuper made) {scope : ScopeId}
    (scope_eq : state.scope scope = { parent := some made.scope }) (instanceStep : Step)
    (this : ObjectId) (arguments : List Value) (newTarget : Option ObjectId) (depth : Nat) :
    ∃ caller,
      Operand.evaluateAll (made.context instanceStep this arguments newTarget scope) state
          [.named "_super", .this, .spread] = caller :: .object this :: arguments ∧
        Run.call caller (.object this) arguments (Engine.ofDepth (depth + 1)) state =
          Run.superCall (.object made.constructor) (.object this) arguments (Engine.ofDepth depth)
            state := by
  obtain ⟨caller, callable, binds, kind, code, captured⟩ := calls
  refine ⟨.object caller, ?_, ?_⟩
  · have read : state.readVariable scope "_super" = .object caller :=
      State.readVariable_of_outer (by rw [scope_eq]; rfl) (by rw [scope_eq]) binds
    rw [← read, Operand.evaluateAll, List.flatMap_cons, List.flatMap_cons, List.flatMap_cons,
      List.flatMap_nil, List.append_nil]
    rfl
  · rw [Run.call_function kind, Frame.run, code]
    dsimp only [Builtin.run, Frame.captured]
    rw [captured]
    rfl

/-- A derived class takes what its super caller returns. -/
theorem gives_super (links : profile.Links) (level : made :: above <:+ classes)
    (derives : root.stepFor above = LoweredClass.superStep) {notes : List JournalEntry}
    {entries : List (PropertyKey × Value)} {depth : Nat}
    (runs : RunsBase profile root classes seed (root.parentFor above) arguments notes entries
      (depth + 1)) :
    Gives profile root classes seed made (root.stepFor above) arguments notes entries
      (Engine.ofDepth (depth + 2)) := by
  intro state this newTarget scope ready fresh scope_eq
  rw [derives]
  cases ready.lineage.of_suffix level with
  | cons stands calls lineage =>
      obtain ⟨caller, operands, called⟩ := (calls derives).evaluated scope_eq
        LoweredClass.superStep this arguments newTarget (depth + 1)
      obtain ⟨result, after, ran, initialized⟩ := Run.superCall_apply links ready fresh
        (level.subset List.mem_cons_self) stands.passes.links runs
      refine ⟨result, after, ?_, initialized⟩
      refine runStep_perform ?_
      rw [operands]
      exact Run.bind_of_done (called.trans ran)

/-- A class of a lineage is run as a base by what its constructor makes of blank instances. -/
theorem runsBase_of_level (links : profile.Links) (first : classes.head? = some target)
    (level : base :: above <:+ classes) {notes : List JournalEntry}
    {entries : List (PropertyKey × Value)} {depth : Nat}
    (initializes : Initializes profile root classes seed base (root.stepFor above) arguments notes
      entries depth)
    (few : arguments.length ≤ maxArguments) :
    RunsBase profile root classes seed base.constructor arguments notes entries (depth + 2) := by
  intro state this ready fresh
  have kind := (ready.lineage.of_suffix level).kind
  obtain ⟨before, inner, newTarget, entered, passes⟩ :=
    Run.runBase_enters links ready.founded first kind rfl few fresh
  have readied := ready.evolves entered.evolved (State.inert_of_new ready.untouched (Nat.le_refl _))
  obtain ⟨result, after, ran, initialized⟩ := initializes before inner newTarget readied entered.fresh
  have whole := initialized.of_entered entered
  rw [List.append_nil] at whole
  exact ⟨result, after, passes depth _ trivial ran, whole⟩

/-- The constructors of all classes of a lineage initialize blank instances of its most derived class,
if that of the first one does and calls may be nested deep enough. -/
theorem levels_initialize (links : profile.Links) (first : classes.head? = some target)
    (seeds : seed.Instance (root.aboveFor classes)) (few : arguments.length ≤ maxArguments)
    {floor : Nat}
    (rooted : ∀ made, [made] <:+ classes → ∀ deep, floor ≤ deep →
      Gives profile root classes seed made (root.stepFor []) arguments [] [] (Engine.ofDepth deep))
    (level : made :: above <:+ classes) {depth : Nat} (deep : floor + 3 * above.length ≤ depth) :
    Initializes profile root classes seed made (root.stepFor above) arguments
      (MadeClass.notesOf (made :: above) arguments) (MadeClass.entriesOf (made :: above) arguments)
      depth := by
  induction above generalizing made depth with
  | nil =>
      intro state this newTarget ready fresh
      rw [MadeClass.notesOf_cons, MadeClass.entriesOf_cons]
      exact body_initializes seeds (level.subset List.mem_cons_self) (rooted made level depth deep)
        ready fresh
  | cons base rest ih =>
      obtain ⟨shallow, rfl⟩ : ∃ shallow, depth = shallow + 3 :=
        Nat.exists_eq_add_of_le' (by rw [List.length_cons] at deep; omega)
      have enough : floor + 3 * rest.length ≤ shallow := by
        rw [List.length_cons] at deep
        omega
      have shorter : base :: rest <:+ classes := (List.suffix_cons made _).trans level
      have runs := runsBase_of_level links first shorter (ih shorter enough) few
      intro state this newTarget ready fresh
      rw [MadeClass.notesOf_cons, MadeClass.entriesOf_cons]
      exact body_initializes seeds (level.subset List.mem_cons_self)
        (gives_super links level rfl runs) ready fresh

/-- The most derived class of a lineage is constructed: a new object is initialized. -/
theorem Run.construct_lineage (links : profile.Links) (ready : Ready profile root classes state)
    (first : classes.head? = some target) (seeds : seed.Instance (root.aboveFor classes))
    (few : arguments.length ≤ maxArguments) {floor : Nat}
    (rooted : ∀ made, [made] <:+ classes → ∀ deep, floor ≤ deep →
      Gives profile root classes seed made (root.stepFor []) arguments [] [] (Engine.ofDepth deep))
    {depth : Nat} (deep : floor + 3 * classes.length ≤ depth + 2) :
    ∃ result after,
      construct (.object target.constructor) arguments (Engine.ofDepth depth) state =
          .done (.object result) after ∧
        Initialized profile seed (MadeClass.notesOf classes arguments)
          (MadeClass.entriesOf classes arguments) state state.heap.next result after := by
  obtain ⟨above, rfl⟩ : ∃ above, classes = target :: above := List.head?_eq_some_iff.mp first
  rw [List.length_cons] at deep
  obtain ⟨shallow, rfl⟩ : ∃ shallow, depth = shallow + 1 :=
    Nat.exists_eq_succ_of_ne_zero (by omega)
  have enough : floor + 3 * above.length ≤ shallow := by omega
  obtain ⟨_, _, _, stands⟩ := ready.lineage.stands List.mem_cons_self
  have readied := ready.adds (.making state (.inheriting (some target.prototype)))
  obtain ⟨result, after, ran, initialized⟩ := levels_initialize links first seeds few rooted
    (List.suffix_refl _) enough _ _ (some target.constructor) readied (.making ready)
  have whole := initialized.of_entered
    (.of_making ready.untouched (.refl state) state.heap.next target.prototype)
  rw [List.append_nil] at whole
  refine ⟨result, after, ?_, whole⟩
  have constructs : state.heap.Constructs target.constructor
    (target.outline.callable (root.stepFor above) target.scope) := ⟨ready.lineage.kind, nofun⟩
  rw [construct_apply constructs]
  exact runConstructor_apply rfl (Heap.proxy?_of_function stands.kind) stands.instances ran

/-! ## More arguments than a call may have -/

section Overlong

variable (links : profile.Links) (native : profile.constructsNatively = true)
variable (many : maxArguments < arguments.length)
include links native many

/-- The list of the arguments for a base is refused. -/
theorem Run.runBase_overlong (ready : Ready profile root classes state)
    (first : classes.head? = some target) {this : ObjectId}
    (fresh : Fresh profile (root.aboveFor classes) state this) {base : ObjectId}
    (constructs : ∃ callable, state.heap.Constructs base callable) (depth : Nat) :
    ∃ after,
      runBase (.object base) (.object this) arguments (Engine.ofDepth (depth + 2)) state =
        .failed (.fault .tooManyArguments) after := by
  obtain ⟨asked, added, answered⟩ := hasNativeConstruct_apply ready.untouched depth
  obtain ⟨reflect, function, list, listed, more, builtin, made, called⟩ :=
    constructBase_calls links (ready.adds added).founded first (fresh.adds added) native
      (.object base) arguments
  have whole := added.trans more
  obtain ⟨_, _, _, _, stands⟩ := first_stands (ready.adds whole).lineage first
  have targets : listed.heap.isConstructor (.object target.constructor) = true :=
    Heap.Constructs.isConstructor ⟨stands.kind, nofun⟩
  obtain ⟨code, constructs⟩ := constructs
  have base_eq := whole.heap.object_eq base (Heap.index_lt_of_kind constructs.kind nofun)
  have bases : listed.heap.isConstructor (.object base) = true :=
    Heap.Constructs.isConstructor ⟨base_eq ▸ constructs.kind, constructs.constructs⟩
  obtain ⟨callee, callable, _, ran⟩ := call_builtin builtin (depth + 1)
  refine ⟨listed, ?_⟩
  rw [runBase, bind_of_done answered, native]
  refine (called (depth + 1)).trans ((ran _ _).trans ?_)
  have refused (engine : Engine) :
      Builtin.constructOperands
          { callee
            callable
            this := .object reflect
            arguments := [.object base, .object list, .object target.constructor] } engine listed =
        .failed (.fault .tooManyArguments) listed :=
    Builtin.constructOperands_overlong bases targets made many
  by_cases genuine : profile.reflect = .native
  · rw [genuine]
    exact bind_of_failed (refused _)
  · rw [Realm.reflectConstructor_of_imitated genuine]
    exact bind_of_failed (refused _)

/-- The super call of a class fails with its base. -/
theorem runStep_super_overlong (ready : Ready profile root (target :: above) state) {this : ObjectId}
    (fresh : Fresh profile (root.aboveFor (target :: above)) state this)
    (derives : root.stepFor above = LoweredClass.superStep) {scope : ScopeId}
    (scope_eq : state.scope scope = { parent := some target.scope }) (newTarget : Option ObjectId)
    (depth : Nat) :
    ∃ after,
      runStep (target.context (root.stepFor above) this arguments newTarget scope)
          (root.stepFor above) (Engine.ofDepth (depth + 3)) state =
        .failed (.fault .tooManyArguments) after := by
  rw [derives]
  cases ready.lineage with
  | cons stands calls lineage =>
      obtain ⟨caller, operands, called⟩ := (calls derives).evaluated scope_eq
        LoweredClass.superStep this arguments newTarget (depth + 2)
      have base := lineage.base (ready.rests.on _) ready.untouched.heap derives
      have known : state.Adds profile (state.knowingLinks profile) := .knowingLinks state
      obtain ⟨after, failed⟩ := Run.runBase_overlong links native many (ready.adds known)
        (List.head?_cons ..) (fresh.adds known) base.constructs depth
      refine ⟨after, runStep_perform_failed rfl ?_⟩
      rw [operands]
      refine Run.bind_of_failed (called.trans ?_)
      rw [Run.superCall_runs links ready.founded List.mem_cons_self stands.passes.links]
      exact Run.bind_of_failed failed

/-- Where construction is found to be native, no class that derives from another one is constructed with
more arguments than a call may have. -/
theorem Run.construct_overlong (ready : Ready profile root (target :: above) state)
    (derives : root.stepFor above = LoweredClass.superStep) (depth : Nat) :
    ∃ after,
      construct (.object target.constructor) arguments (Engine.ofDepth (depth + 4)) state =
        .failed (.fault .tooManyArguments) after := by
  let created := state.making (.inheriting (some target.prototype))
  let begun := (created.opening (some target.scope)).noting (target.outline.notes arguments)
  have created_ready := ready.adds (.making state (.inheriting (some target.prototype)))
  have fresh : Fresh profile (root.aboveFor (target :: above)) created state.heap.next :=
    .making ready
  have evolved : created.Evolves profile state.heap.next (target.outline.notes arguments) begun :=
    .beginning ..
  have refreshed : Fresh profile (root.aboveFor (target :: above)) begun state.heap.next :=
    ⟨fresh.outside, fresh.blank⟩
  -- The super call is the first step of the body that does anything.
  obtain ⟨after, failed⟩ := runStep_super_overlong links native many
    (created_ready.evolves evolved fresh.inert) refreshed derives (State.scope_push_self created _)
    (some target.constructor) depth
  have ran := body_fails (created_ready.lineage.letsPass fresh List.mem_cons_self) failed
  have constructs : state.heap.Constructs target.constructor
    (target.outline.callable (root.stepFor above) target.scope) := ⟨ready.lineage.kind, nofun⟩
  obtain ⟨_, _, _, stands⟩ := ready.lineage.stands List.mem_cons_self
  have ordinary := Heap.proxy?_of_function constructs.kind
  refine ⟨after, ?_⟩
  rw [construct_apply constructs, runConstructor_eq rfl ordinary stands.instances]
  exact bind_of_failed ran

end Overlong

end ClassLowering
