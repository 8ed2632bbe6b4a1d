import ClassLowering.Proofs.Composition.Depth
import ClassLowering.Proofs.Construction.Detection
import ClassLowering.Proofs.Construction.Lineage

/-!
# Super calls in a lineage

On a host that constructs natively a super call makes a new instance for the most derived class, and on
any other it passes its own instance on. Either way the base constructor runs on a blank instance of the
most derived class, so that the result is what the base constructor makes of one.
-/

namespace ClassLowering

/-- A state in which the super calls of a lineage find their way: its realm is untouched, and the lineage
stands on its root. -/
structure Founded (profile : Profile) (root : Root) (classes : List MadeClass) (state : State) : Prop where
  untouched : state.Untouched profile
  rests : root.RestsOn profile state.heap
  lineage : state.Lineage root classes

/-- A state in which a lineage can be constructed: its realm is untouched, and what the constructors write
meets neither a setter nor a read-only property above the lineage. -/
structure Ready (profile : Profile) (root : Root) (classes : List MadeClass) (state : State) : Prop where
  untouched : state.Untouched profile
  rests : root.Rests profile
  lineage : state.Lineage root classes
  allows : ∀ made ∈ classes, made.outline.WritesFreelyFrom state.heap (root.aboveFor [])

/-- What a constructor makes of a blank instance: the instance or a new object, that starts like a seed and
has some properties written. -/
structure Initialized (profile : Profile) (seed : Object) (notes : List JournalEntry)
    (entries : List (PropertyKey × Value)) (before : State) (this result : ObjectId)
    (after : State) : Prop where
  evolved : before.Evolves profile this notes after
  place : result = this ∨ before.heap.size ≤ result.index
  object_eq : after.heap.object result = seed.written entries

/-- A blank instance that a constructor may run on. -/
structure Fresh (profile : Profile) (prototype : ObjectId) (state : State) (this : ObjectId) : Prop where
  outside : (Realm.heap profile).size ≤ this.index
  blank : state.heap.Blank this prototype

variable {profile : Profile} {root : Root} {classes : List MadeClass} {state after : State}
variable {touched this prototype : ObjectId} {seed : Object} {notes : List JournalEntry}

/-! ## Assignments in untouched realms -/

/-- Assignments meet the same in heaps that agree on the objects of the realm. -/
theorem Realm.Untouched.assignment_eq {heap larger : Heap} (untouched : Realm.Untouched profile heap)
    (size_le : heap.size ≤ larger.size)
    (same : ∀ id, id.index < (Realm.heap profile).size → larger.object id = heap.object id)
    {id : ObjectId} (present : id.index < (Realm.heap profile).size) {key : PropertyKey}
    {found : Assignment} (ended : heap.assignment id key = some found) :
    larger.assignment id key = some found := by
  have strides (id : ObjectId) (present : id.index < (Realm.heap profile).size) :
      heap.assignmentStride key id = larger.assignmentStride key id := by
    rw [Heap.assignmentStride, Heap.assignmentStride, same id present]
  have closed (id next : ObjectId) (present : id.index < (Realm.heap profile).size)
      (moved : Heap.Moves (heap.assignmentStride key) id next) :
      next.index < (Realm.heap profile).size := by
    rcases Heap.assignmentStride_moves moved with target | linked
    · rw [Object.target?, untouched.proxy?_eq present] at target
      exact (heap_sound profile).within_target target
    · rw [Heap.Links, untouched.prototype_eq id present] at linked
      exact (heap_sound profile).within_prototype linked
  have longer := Heap.walkFor_mono (Nat.succ_le_succ size_le) ended
  rwa [Heap.walkFor_congr strides closed present] at longer

/-- Keys that `Object.prototype` does not have are written freely. -/
theorem LoweredClass.writesFreely_of_missing {outline : LoweredClass} {heap : Heap}
    (untouched : Realm.Untouched profile heap)
    (missing : ∀ entry ∈ outline.writes,
      (heap.object Intrinsic.objectPrototype.id).property? entry.1 = none) :
    outline.WritesFreely heap := by
  intro entry listed
  have target := Heap.target?_of_ordinary untouched.objectPrototype_ordinary
  refine Heap.walk_of_finish ?_
  simp only [Heap.assignmentStride, target, missing entry listed, untouched.offers.objectPrototype,
    Stride.follow]

theorem LoweredClass.WritesFreelyFrom.evolves {outline : LoweredClass}
    (allowed : outline.WritesFreelyFrom state.heap prototype) (untouched : state.Untouched profile)
    (present : prototype.index < (Realm.heap profile).size)
    (evolved : state.Evolves profile touched notes after)
    (outside : (Realm.heap profile).size ≤ touched.index) :
    outline.WritesFreelyFrom after.heap prototype := by
  intro entry listed
  refine untouched.heap.assignment_eq evolved.heap.size_le (fun id there => ?_) present
    (allowed entry listed)
  have differs : id ≠ touched := by
    rintro rfl
    exact Nat.lt_irrefl _ (Nat.lt_of_lt_of_le there outside)
  exact evolved.heap.object_eq id differs (Nat.lt_of_lt_of_le there untouched.heap.size_le)

/-! ## What stays ready and fresh -/

theorem Ready.evolves (ready : Ready profile root classes state)
    (evolved : state.Evolves profile touched notes after) (inert : state.Inert profile touched) :
    Ready profile root classes after where
  untouched := ready.untouched.evolves evolved inert.outside
  rests := ready.rests
  lineage := ready.lineage.evolves evolved inert
  allows made member :=
    (ready.allows made member).evolves ready.untouched ready.rests.index_lt evolved inert.outside

/-- What is added to a state leaves it ready. -/
theorem Ready.adds (ready : Ready profile root classes state) (added : state.Adds profile after) :
    Ready profile root classes after :=
  ready.evolves (added.evolves state.heap.next)
    (State.inert_of_new ready.untouched (Nat.le_refl _))

theorem Fresh.index_lt (fresh : Fresh profile prototype state this) :
    this.index < state.heap.size :=
  Heap.index_lt_of_prototype (fresh.blank.passes "__proto__").links

theorem Fresh.inert (fresh : Fresh profile prototype state this) : state.Inert profile this :=
  State.inert_of_blank fresh.outside fresh.blank

theorem Fresh.adds (fresh : Fresh profile prototype state this) (added : state.Adds profile after) :
    Fresh profile prototype after this :=
  ⟨fresh.outside, (added.heap.object_eq this fresh.index_lt).trans fresh.blank⟩

theorem Fresh.making (ready : Ready profile root classes state) :
    Fresh profile prototype (state.making (.inheriting (some prototype))) state.heap.next :=
  ⟨ready.untouched.heap.size_le, Heap.object_allocate_next ..⟩

/-! ## Where super calls find their way -/

theorem Ready.founded (ready : Ready profile root classes state) :
    Founded profile root classes state :=
  ⟨ready.untouched, ready.rests.on _, ready.lineage⟩

/-- Nothing gets lost where only new objects are touched. -/
theorem Founded.evolves (founded : Founded profile root classes state)
    (evolved : state.Evolves profile touched notes after) (new : state.heap.size ≤ touched.index) :
    Founded profile root classes after :=
  ⟨founded.untouched.evolves evolved (Nat.le_trans founded.untouched.heap.size_le new),
    founded.rests.extends (evolved.heap.of_new new),
    founded.lineage.evolves evolved (State.inert_of_new founded.untouched new)⟩

theorem Founded.adds (founded : Founded profile root classes state)
    (added : state.Adds profile after) : Founded profile root classes after :=
  founded.evolves (added.evolves state.heap.next) (Nat.le_refl _)

/-- Other classes can derive from the most derived one. -/
theorem Founded.staysBase (founded : Founded profile root classes state)
    (derives : root.stepFor classes = LoweredClass.superStep) :
    state.heap.StaysBase profile (root.parentFor classes) (root.aboveFor classes) := by
  intro larger grown untouched
  have evolved : state.Evolves profile state.heap.next [] { state with heap := larger } :=
    .of_heap (grown.but _)
  have still := founded.evolves evolved (Nat.le_refl _)
  exact still.lineage.base still.rests untouched derives

/-- `__proto__` of a blank instance is looked up on `Object.prototype`. -/
theorem Fresh.clears (fresh : Fresh profile (root.aboveFor classes) state this)
    (founded : Founded profile root classes state) :
    state.heap.Clears "__proto__" this Intrinsic.objectPrototype.id :=
  .head (fresh.blank.passes _) ((founded.lineage.above_clears (by decide)).trans
    (founded.rests.above_clears founded.untouched.heap))

/-- The call of a constructor on an instance. -/
@[reducible] def Frame.constructing (callee : ObjectId) (callable : Callable) (this : ObjectId)
    (arguments : List Value) (newTarget : Option ObjectId) : Frame :=
  { callee, callable, this := .object this, arguments, newTarget }

/-- Where a body begins: on a blank instance, the given one or a new one, in a state that has everything
as it was. -/
structure Entered (profile : Profile) (prototype : ObjectId) (notes : List JournalEntry) (state : State)
    (this : ObjectId) (before : State) (inner : ObjectId) : Prop where
  evolved : state.Evolves profile state.heap.next notes before
  fresh : Fresh profile prototype before inner
  place : inner = this ∨ state.heap.size ≤ inner.index

namespace Entered

variable {before middle : State} {inner between : ObjectId} {later : List JournalEntry}

theorem of_adds (added : state.Adds profile after) (fresh : Fresh profile prototype state this) :
    Entered profile prototype [] state this after this :=
  ⟨added.evolves _, fresh.adds added, .inl rfl⟩

/-- A new instance is blank. -/
theorem of_making (untouched : state.Untouched profile) (added : state.Adds profile after)
    (this prototype : ObjectId) :
    Entered profile prototype [] state this (after.making (.inheriting (some prototype)))
      after.heap.next where
  evolved := (added.trans (.making after _)).evolves _
  fresh := ⟨Nat.le_trans untouched.heap.size_le added.heap.size_le, Heap.object_allocate_next ..⟩
  place := .inr added.heap.size_le

theorem trans (first : Entered profile prototype notes state this middle between)
    (second : Entered profile prototype later middle between before inner) :
    Entered profile prototype (later ++ notes) state this before inner where
  evolved := first.evolved.trans_place second.evolved (.inr first.evolved.heap.size_le)
  fresh := second.fresh
  place := by
    rcases second.place with rfl | new
    · exact first.place
    · exact .inr (Nat.le_trans first.evolved.heap.size_le new)

theorem founded (entered : Entered profile prototype notes state this before inner)
    (founded : Founded profile root classes state) : Founded profile root classes before :=
  founded.evolves entered.evolved (Nat.le_refl _)

end Entered

/-! ## What is made of blank instances -/

/-- Running a constructor on any blank instance of the most derived class initializes it. -/
def Initializes (profile : Profile) (root : Root) (classes : List MadeClass) (seed : Object)
    (made : MadeClass) (instanceStep : Script.Step) (arguments : List Value)
    (notes : List JournalEntry) (entries : List (PropertyKey × Value)) (depth : Nat) : Prop :=
  ∀ state this newTarget, Ready profile root classes state →
    Fresh profile (root.aboveFor classes) state this →
    ∃ result after,
      (made.frame instanceStep this arguments newTarget).run (Engine.ofDepth depth) state =
          .done (.object result) after ∧
        Initialized profile seed notes entries state this result after

/-- Running a base for any blank instance of the most derived class gives an initialized object. -/
def RunsBase (profile : Profile) (root : Root) (classes : List MadeClass) (seed : Object)
    (base : ObjectId) (arguments : List Value) (notes : List JournalEntry)
    (entries : List (PropertyKey × Value)) (depth : Nat) : Prop :=
  ∀ state this, Ready profile root classes state →
    Fresh profile (root.aboveFor classes) state this →
    ∃ result after,
      Run.runBase (.object base) (.object this) arguments (Engine.ofDepth depth) state =
          .done (.object result) after ∧
        Initialized profile seed notes entries state this result after

/-- What a body makes of its instance is made from the state before the body began. -/
theorem Initialized.of_entered {entries : List (PropertyKey × Value)} {before : State}
    {inner result : ObjectId} {earlier : List JournalEntry}
    (made : Initialized profile seed notes entries before inner result after)
    (entered : Entered profile prototype earlier state this before inner) :
    Initialized profile seed (notes ++ earlier) entries state this result after where
  evolved := (entered.evolved.any (Nat.le_refl _) this).trans_place made.evolved entered.place
  place := by
    rcases made.place with rfl | new
    · exact entered.place
    · exact .inr (Nat.le_trans entered.evolved.heap.size_le new)
  object_eq := made.object_eq

/-! ## What is passed on -/

/-- An outcome that is passed on from a base to the class below it: an object, or a failure. -/
def Outcome.PassesOn : Outcome Value → Prop
  | .done (.object _) _ | .failed _ _ => True
  | .done _ _ | .exhausted => False

theorem Outcome.PassesOn.ne_exhausted {outcome : Outcome Value} (passes : outcome.PassesOn) :
    outcome ≠ .exhausted := by
  rintro rfl
  exact passes

/-- A run begins the body of a base on a blank instance of the most derived class, two calls deep, and passes on
what the body leads to. -/
def EntersBase (profile : Profile) (root : Root) (classes : List MadeClass) (base : ObjectId)
    (callable : Callable) (arguments : List Value) (state : State) (this : ObjectId) (run : Run Value) :
    Prop :=
  ∃ before inner newTarget, Entered profile (root.aboveFor classes) [] state this before inner ∧
    ∀ depth outcome, outcome.PassesOn →
      (Frame.constructing base callable inner arguments newTarget).run (Engine.ofDepth depth) before =
        outcome →
      run (Engine.ofDepth (depth + 2)) state = outcome

/-! ## Super calls -/

namespace Run

variable {target made : MadeClass} {base : ObjectId} {callable : Callable} {arguments : List Value}
variable {entries : List (PropertyKey × Value)} {outcome : Outcome Value} {engine : Engine}

theorem resultOr_passesOn {run : Run Value} (created : ObjectId) (passes : outcome.PassesOn)
    (ran : run engine state = outcome) :
    (do return resultOr created (← run)) engine state = outcome := by
  cases outcome with
  | done result after =>
      rw [bind_of_done ran]
      cases result with
      | object id => rfl
      | _ => exact passes.elim
  | failed failure after => exact bind_of_failed ran
  | exhausted => exact passes.elim

/-- What a call leads to does not depend on how deep further calls may be nested. -/
theorem frame_deeper {frame : Frame} {depth more : Nat} (passes : outcome.PassesOn)
    (le : depth ≤ more) (ran : frame.run (Engine.ofDepth depth) state = outcome) :
    frame.run (Engine.ofDepth more) state = outcome := by
  subst ran
  exact (Frame.run_composed Bool.noConfusion).settled (Engine.ofDepth_below le) state
    passes.ne_exhausted

/-- Whether the host constructs natively is found out at any sufficient depth. -/
theorem hasNativeConstruct_answers (untouched : state.Untouched profile) :
    ∃ after, state.Adds profile after ∧ ∀ depth,
      hasNativeConstruct (Engine.ofDepth (depth + 2)) state =
        .done profile.constructsNatively after := by
  obtain ⟨after, added, answered⟩ := hasNativeConstruct_apply untouched 0
  refine ⟨after, added, fun depth => ?_⟩
  have composed : Composed false hasNativeConstruct := hasNativeConstruct_composed
  have settled := composed.settled (Engine.ofDepth_below (Nat.le_add_left 2 depth)) state
    (by rw [answered]; exact nofun)
  exact settled.trans answered

/-- The most derived class of a lineage stands below what its instances link to. -/
theorem first_stands (lineage : state.Lineage root classes) (first : classes.head? = some target) :
    target.prototype = root.aboveFor classes ∧
      ∃ step parent above, state.Stands target step parent above := by
  obtain ⟨above, rfl⟩ := List.head?_eq_some_iff.mp first
  exact ⟨rfl, lineage.stands List.mem_cons_self⟩

variable (links : profile.Links) (founded : Founded profile root classes state)
  (first : classes.head? = some target)

section Instance

variable (fresh : Fresh profile (root.aboveFor classes) state this)
include links founded first fresh

/-- The instance under construction shows the most derived class. -/
theorem constructorOfInstance_apply (depth : Nat) :
    constructorOfInstance (.object this) (Engine.ofDepth (depth + 1)) state =
      .done (.object target.constructor) (state.knowingLinks profile) := by
  obtain ⟨same, _, _, _, stands⟩ := first_stands founded.lineage first
  have told : state.ShowsLink profile this := ⟨founded.untouched.showsLinks, fresh.clears founded⟩
  rw [constructorOfInstance_eq links told, State.storedLink, fresh.blank, ← same]
  exact getFor_plain (stands.back.plainRead? stands.ordinary)

/-- Where construction is found to be native, a base is constructed by a call of `Reflect.construct` for
the most derived class. -/
theorem constructBase_calls (native : profile.constructsNatively = true) (base : Value)
    (arguments : List Value) :
    ∃ reflect function list listed, state.Adds profile listed ∧
      listed.heap.builtin? (.object function) =
        some (.method, Realm.reflectConstructor profile.reflect) ∧
      listed.heap.object list = Build.listObject arguments ∧ ∀ depth,
      constructBase base (.object this) arguments (Engine.ofDepth (depth + 1)) state =
        call (.object function) (.object reflect) [base, .object list, .object target.constructor]
          (Engine.ofDepth (depth + 1)) listed := by
  have present : profile.reflect ≠ .absent := by
    intro absent
    rw [Profile.constructsNatively, absent] at native
    cases native
  obtain ⟨reflect, function, found⟩ := Realm.reflect_found present
  let known := state.knowingLinks profile
  let listed := known.making (Build.listObject arguments)
  have added : state.Adds profile listed :=
    (State.Adds.knowingLinks state).trans (.making known _)
  refine ⟨reflect, function, known.heap.next, listed, added,
    (found listed.heap (founded.adds added).untouched.heap).builtin, Heap.object_allocate_next ..,
    fun depth => ?_⟩
  have shown := constructorOfInstance_apply links founded first fresh depth
  have reflectFound := found known.heap founded.untouched.heap
  have construct : getOf (.object reflect) "construct" (Engine.ofDepth (depth + 1)) known = _ :=
    getFor_plain reflectFound.construct
  have built : build (.list arguments) (Engine.ofDepth (depth + 1)) known =
    .done known.heap.next listed := rfl
  rw [constructBase, bind_of_done shown, bind_of_done (getGlobal_apply reflectFound.global),
    bind_of_done construct, bind_of_done built]

end Instance

section Base

variable (kind : (state.heap.object base).kind = .function callable)
  (normal : callable.kind = .normal) (few : arguments.length ≤ maxArguments)
include founded first kind normal few

/-- Both ways of constructing for a new target begin the body of the base on a new instance. -/
theorem reflectConstruct_enters {function list : ObjectId}
    (builtin : state.heap.builtin? (.object function) =
      some (.method, Realm.reflectConstructor profile.reflect))
    (listed : state.heap.object list = Build.listObject arguments) (this : ObjectId)
    (receiver : Value) :
    EntersBase profile root classes base callable arguments state this
      (call (.object function) receiver [.object base, .object list, .object target.constructor]) := by
  obtain ⟨same, step, _, _, stands⟩ := first_stands founded.lineage first
  have constructs : state.heap.Constructs base callable := ⟨kind, by rw [normal]; exact nofun⟩
  have targets : state.heap.Constructs target.constructor
    (target.outline.callable step target.scope) := ⟨stands.kind, nofun⟩
  have made : state.Adds profile (state.making (.inheriting (some target.prototype))) := .making ..
  have entered : Entered profile (root.aboveFor classes) [] state this
      (state.making (.inheriting (some target.prototype))) state.heap.next :=
    same ▸ .of_making founded.untouched (.refl state) this target.prototype
  by_cases native : profile.reflect = .native
  · refine ⟨_, _, some target.constructor, entered, fun depth outcome passes ran => ?_⟩
    obtain ⟨_, _, _, called⟩ := call_builtin builtin (depth + 1)
    rw [called, native]
    refine (Builtin.runReflectConstruct_apply constructs targets listed few).trans ?_
    rw [runConstructor_eq normal (Heap.proxy?_of_function stands.kind) stands.instances]
    exact resultOr_passesOn state.heap.next passes ran
  · refine ⟨_, _, none, entered, fun depth outcome passes ran => ?_⟩
    obtain ⟨_, _, _, called⟩ := call_builtin builtin (depth + 1)
    rw [called, Realm.reflectConstructor_of_imitated native]
    refine (Builtin.runReflectConstructPolyfill_apply constructs targets listed few
      stands.instances).trans ?_
    have base_eq := made.heap.object_eq base (Heap.index_lt_of_kind kind nofun)
    refine resultOr_passesOn state.heap.next passes ?_
    exact (call_function (base_eq ▸ kind) (.object state.heap.next) arguments depth).trans ran

variable (fresh : Fresh profile (root.aboveFor classes) state this)
include links fresh

/-- On every host the body of a base begins where the base is run. -/
theorem runBase_enters :
    EntersBase profile root classes base callable arguments state this
      (runBase (.object base) (.object this) arguments) := by
  obtain ⟨known, added, found⟩ := hasNativeConstruct_answers founded.untouched
  have begun := Entered.of_adds added fresh
  have founded := founded.adds added
  replace kind := (added.heap.object_eq base (Heap.index_lt_of_kind kind nofun)) ▸ kind
  cases native : profile.constructsNatively with
  | true =>
      obtain ⟨reflect, function, list, listed, more, builtin, made, called⟩ :=
        constructBase_calls links founded first begun.fresh native (.object base) arguments
      have packed := Entered.of_adds more begun.fresh
      obtain ⟨before, inner, newTarget, entered, passes_on⟩ := reflectConstruct_enters
        (founded.adds more) first ((more.heap.object_eq base (Heap.index_lt_of_kind kind nofun)) ▸ kind)
        normal few builtin made this (.object reflect)
      refine ⟨before, inner, newTarget, (begun.trans packed).trans entered,
        fun depth outcome passes ran => ?_⟩
      rw [runBase, bind_of_done (found depth), native]
      exact (called (depth + 1)).trans (passes_on depth outcome passes ran)
  | false =>
      refine ⟨known, this, none, begun, fun depth outcome passes ran => ?_⟩
      rw [runBase, bind_of_done (found depth), native]
      exact (call_function kind _ _ _).trans (frame_deeper passes (Nat.le_succ depth) ran)

end Base

/-- A super call finds the base above the constructor of its class, and runs it. -/
theorem superCall_runs (links : profile.Links) (founded : Founded profile root classes state)
    (member : made ∈ classes) (linked : state.heap.Links made.constructor base) (this : ObjectId)
    (arguments : List Value) (depth : Nat) :
    superCall (.object made.constructor) (.object this) arguments (Engine.ofDepth (depth + 1)) state =
      (do return resultOr this (← runBase (.object base) (.object this) arguments))
        (Engine.ofDepth (depth + 1)) (state.knowingLinks profile) := by
  have clears := founded.lineage.constructor_clears
    (founded.rests.parent_clears founded.untouched.heap) member
  have told : state.ShowsLink profile made.constructor := ⟨founded.untouched.showsLinks, clears⟩
  have link : state.storedLink made.constructor = .object base := by
    rw [State.storedLink, linked]
    rfl
  rw [superCall_eq links told, link]

/-- The body of the base begins in a super call as well. -/
theorem superCall_enters (links : profile.Links) (founded : Founded profile root classes state)
    (first : classes.head? = some target) (member : made ∈ classes)
    (linked : state.heap.Links made.constructor base)
    (kind : (state.heap.object base).kind = .function callable) (normal : callable.kind = .normal)
    (few : arguments.length ≤ maxArguments)
    (fresh : Fresh profile (root.aboveFor classes) state this) :
    EntersBase profile root classes base callable arguments state this
      (superCall (.object made.constructor) (.object this) arguments) := by
  have added : state.Adds profile (state.knowingLinks profile) := .knowingLinks state
  have begun := Entered.of_adds added fresh
  obtain ⟨before, inner, newTarget, entered, passes_on⟩ :=
    runBase_enters links (founded.adds added) first kind normal few begun.fresh
  refine ⟨before, inner, newTarget, begun.trans entered, fun depth outcome passes ran => ?_⟩
  rw [superCall_runs links founded member linked]
  exact resultOr_passesOn this passes (passes_on depth outcome passes ran)

/-- A super call gives what the base gives. -/
theorem superCall_apply (links : profile.Links) (ready : Ready profile root classes state)
    (fresh : Fresh profile (root.aboveFor classes) state this) (member : made ∈ classes)
    (linked : state.heap.Links made.constructor base) {depth : Nat}
    (runs : RunsBase profile root classes seed base arguments notes entries (depth + 1)) :
    ∃ result after,
      superCall (.object made.constructor) (.object this) arguments
          (Engine.ofDepth (depth + 1)) state = .done (.object result) after ∧
        Initialized profile seed notes entries state this result after := by
  have added : state.Adds profile (state.knowingLinks profile) := .knowingLinks state
  obtain ⟨result, after, ran, initialized⟩ := runs _ this (ready.adds added) (fresh.adds added)
  refine ⟨result, after, ?_, ?_⟩
  · rw [superCall_runs links ready.founded member linked]
    exact bind_of_done ran
  · have whole := initialized.of_entered (.of_adds added fresh)
    rwa [List.append_nil] at whole

end Run

end ClassLowering
