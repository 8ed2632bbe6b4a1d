import ClassLowering.Proofs.Members.Admission
import ClassLowering.Proofs.Members.Reading
import ClassLowering.Proofs.Soundness.Session

/-!
# Creating classes

`_createClass` reads both lists of members to their end before it installs the first of them. A list that
cannot be read leaves the class as it was, but for what the getters of the lists themselves do. What was read
is installed in order, on the prototype object and then on the constructor, up to the first member that is
refused.
-/

namespace ClassLowering

open Bounded

/-! ## Runs that only read -/

/-- Between two states a run only read: all that changed is what getters and proxies changed, and an object
that none of the scripts touches is as it was. -/
structure Run.OnlyReads {α : Type} (run : Run α) (engine : Engine) (state after : State) : Prop where
  scripts : state.ReadsTo engine after
  spared : ∀ target, run.Spares engine state target → after.heap.object target = state.heap.object target

theorem Run.Reads.onlyReads {α : Type} {run : Run α} {engine : Engine} {state after : State}
    (reads : Reads run) (left : (run engine state).Leaves after) : run.OnlyReads engine state after :=
  ⟨(reads.readsTo engine state).of_leaves left, fun _ spares => (reads.kept spares).2.of_leaves left⟩

theorem Builtin.readMembers_reads (frame : Frame) : Run.Reads (Builtin.readMembers frame) :=
  .bind Run.membersOf_reads fun _ => .bind Run.membersOf_reads fun _ => Run.reads_pure _

/-! ## Installing what was read -/

namespace Run

variable {law : Law} {engine : Engine} {state : State} {constructor : Value} {members statics : List Member}

/-- How the creation of a class ends, from the state in which its members are read. -/
inductive CreatesClass (engine : Engine) (members statics : List Member) (state : State) :
    Value → Outcome Value → Prop
  | primitive {constructor : Value} (noObject : ∀ id, constructor ≠ .object id) :
      CreatesClass engine members statics state constructor
        (.failed (.fault (.notAConstructor (state.heap.text constructor))) state)
  | unread {id : ObjectId} {failure : Failure} {after : State}
      (failed : get id "prototype" engine state = .failed failure after) :
      CreatesClass engine members statics state (.object id) (.failed failure after)
  | bare {id : ObjectId} {value : Value} {after : State}
      (read : get id "prototype" engine state = .done value after)
      (noObject : ∀ prototype, value ≠ .object prototype) :
      CreatesClass engine members statics state (.object id) (.failed (.fault .noPrototypeObject) after)
  | memberRefused {id prototype : ObjectId} {found : State} {first : List Member} {offending : Member}
      (read : get id "prototype" engine state = .done (.object prototype) found)
      (stops : (found.heap.object prototype).StopsAt members first offending) :
      CreatesClass engine members statics state (.object id)
        (.failed (.fault ((found.heap.object prototype).refusal offending.key))
          (found.withMembers prototype first))
  | staticRefused {id prototype : ObjectId} {found installed : State} {first : List Member}
      {offending : Member} (read : get id "prototype" engine state = .done (.object prototype) found)
      (admits : ∀ member ∈ members, (found.heap.object prototype).Admits member.key)
      (filled : installed = found.withMembers prototype members)
      (stops : (installed.heap.object id).StopsAt statics first offending) :
      CreatesClass engine members statics state (.object id)
        (.failed (.fault ((installed.heap.object id).refusal offending.key)) (installed.withMembers id first))
  | created {id prototype : ObjectId} {found installed : State}
      (read : get id "prototype" engine state = .done (.object prototype) found)
      (admits : ∀ member ∈ members, (found.heap.object prototype).Admits member.key)
      (filled : installed = found.withMembers prototype members)
      (admitsStatics : ∀ member ∈ statics, (installed.heap.object id).Admits member.key) :
      CreatesClass engine members statics state (.object id)
        (.done (.object id) (installed.withMembers id statics))

/-- Members go to the prototype object and statics to the constructor, each up to the first that is refused. -/
theorem createClass_creates (machine : engine.Sound law) (sound : state.Sound law)
    (within : Within law state.heap.size constructor)
    (ended : createClass constructor members statics engine state ≠ .exhausted) :
    CreatesClass engine members statics state constructor
      (createClass constructor members statics engine state) := by
  unfold createClass at ended ⊢
  split
  · next id =>
    have reading : SoundAt law engine state (get id "prototype") := get_sound machine sound within
    cases read : get id "prototype" engine state with
    | exhausted => exact absurd (bind_of_exhausted read) ended
    | failed failure after =>
        rw [bind_of_failed read]
        exact .unread read
    | done value found =>
        have leads := reading.leads read
        rw [bind_of_done read]
        split
        · next prototype =>
          have there : prototype.index < found.heap.size := reading.within read
          have present : id.index < found.heap.size := leads.keeps within
          rcases (found.heap.object prototype).admits_all_or_stopsAt members with
            admits | ⟨first, offending, stops⟩
          · have installed := install_admitted there admits engine
            have still : id.index < (found.withMembers prototype members).heap.size := by
              rwa [State.size_withMembers]
            rw [bind_of_done installed]
            rcases ((found.withMembers prototype members).heap.object id).admits_all_or_stopsAt statics with
              admitsStatics | ⟨first, offending, stops⟩
            · rw [bind_of_done (install_admitted still admitsStatics engine)]
              exact .created read admits rfl admitsStatics
            · rw [bind_of_failed (install_stops still stops engine).2]
              exact .staticRefused read admits rfl stops
          · rw [bind_of_failed (install_stops there stops engine).2]
            exact .memberRefused read stops
        · next noObject => exact .bare read noObject
  · next noObject => exact .primitive noObject

end Run

/-! ## The helper -/

theorem Frame.ReadsMembers.leads {law : Law} {frame : Frame} {engine : Engine} {state after : State}
    {members statics : List Member} (read : frame.ReadsMembers engine state members statics after)
    (machine : engine.Sound law) (sound : state.Sound law) (within : Within law state.heap.size frame) :
    state.Leads law after := by
  obtain ⟨first, second⟩ := read
  have early := (Run.membersOf_sound machine sound (within_argument within 1)).leads
    (Run.membersOf_eq_done_iff.mpr first)
  have late := (Run.membersOf_sound machine early.sound (early.keeps (within_argument within 2))).leads
    (Run.membersOf_eq_done_iff.mpr second)
  exact early.trans late

/-- A call of `_createClass` comes in two phases. What it reads decides how it goes on: if something cannot be
read, the call fails like the reading, and nothing is installed; otherwise the class is created from all that
was read. -/
structure Frame.ReadsThenInstalls (frame : Frame) (engine : Engine) (state : State) : Prop where
  decided : Builtin.runCreateClass frame engine state ≠ .exhausted →
    (∃ failure after, frame.MissesMembers engine state failure after) ∨
      ∃ members statics after, frame.ReadsMembers engine state members statics after
  missing : ∀ failure after, frame.MissesMembers engine state failure after →
    Builtin.runCreateClass frame engine state = .failed failure after ∧
      (Builtin.readMembers frame).OnlyReads engine state after
  reading : ∀ members statics middle, frame.ReadsMembers engine state members statics middle →
    (Builtin.readMembers frame).OnlyReads engine state middle ∧
      Builtin.runCreateClass frame engine state =
        Run.createClass (frame.argument 0) members statics engine middle ∧
      (Builtin.runCreateClass frame engine state ≠ .exhausted →
        Run.CreatesClass engine members statics middle (frame.argument 0)
          (Builtin.runCreateClass frame engine state))

/-- In every state of a session, `_createClass` reads everything before it installs anything, whatever the
constructor and the two lists are. -/
theorem members_read_before_installed (profile : Profile) (marked : List Helper) {law : Law}
    {before state : State} (reached : (Session.prepared profile marked).Reaches law before)
    (during : before.Becomes law state) {frame : Frame} (within : Within law state.heap.size frame)
    (depth : Nat) : frame.ReadsThenInstalls (Engine.ofDepth depth) state := by
  have sound := Session.sound_of_reaches reached during
  have machine := Engine.ofDepth_sound law depth
  have run_eq := Builtin.runCreateClass_eq frame
  have reads := Builtin.readMembers_reads frame
  refine ⟨fun ended => ?_, fun failure after misses => ?_, fun members statics middle read => ?_⟩
  · cases ran : Builtin.readMembers frame (Engine.ofDepth depth) state with
    | done read after => exact .inr ⟨_, _, _, Frame.readMembers_eq_done_iff.mp ran⟩
    | failed failure after => exact .inl ⟨_, _, Frame.readMembers_eq_failed_iff.mp ran⟩
    | exhausted =>
        rw [run_eq] at ended
        exact absurd (Run.bind_of_exhausted ran) ended
  · have failed := Frame.readMembers_eq_failed_iff.mpr misses
    refine ⟨?_, reads.onlyReads (failed ▸ rfl)⟩
    rw [run_eq]
    exact Run.bind_of_failed failed
  · have done := Frame.readMembers_eq_done_iff.mpr read
    have created : Builtin.runCreateClass frame (Engine.ofDepth depth) state =
        Run.createClass (frame.argument 0) members statics (Engine.ofDepth depth) middle := by
      rw [run_eq]
      exact Run.bind_of_done done
    have leads := read.leads machine sound within
    refine ⟨reads.onlyReads (done ▸ rfl), created, fun ended => ?_⟩
    rw [created] at ended ⊢
    exact Run.createClass_creates machine leads.sound (leads.keeps (Frame.within_argument within 0)) ended

/-- Steps that make a function and two lists of one record each. The second record is mixed. -/
def recordSteps : List Script.Step :=
  let set (record field : String) (value : Script.Operand) : Script.Step :=
    .perform (.onProperty .set) [.named record, .value (.string field), value] {}
  [.makeFunction { name := "Target", kind := .normal } [] [] {},
    .perform (.create .object) [] { result := some "member" },
    set "member" "key" (.value (.string "m")),
    set "member" "value" (.value .null),
    .perform (.create .array) [.named "member"] {},
    .perform (.create .object) [] { result := some "static" },
    set "static" "key" (.value (.string "s")),
    set "static" "value" (.value .null),
    set "static" "get" (.value .null),
    .perform (.create .array) [.named "static"] {}]

/-- A call of `_createClass`. -/
def Frame.creatingClass (arguments : List Value) : Frame :=
  { callee := Intrinsic.global.id
    callable := { name := "_createClass", kind := .method, code := .builtin (.helper .createClass) }
    arguments }

/-- A mixed record among the statics keeps the member before it from being installed. -/
theorem mixed_static_installs_nothing :
    let start := { Session.prepared Preset.modern.profile [] with scopes := #[{}] }
    let state := (Session.runSteps ⟨0⟩ recordSteps start ∅).2
    let target := start.heap.next
    let prototype : ObjectId := ⟨start.heap.size + 1⟩
    let frame := Frame.creatingClass
      [.object target, .object ⟨start.heap.size + 3⟩, .object ⟨start.heap.size + 5⟩]
    (Session.prepared Preset.modern.profile []).Reaches .host state ∧ state.Becomes .host state ∧
      Within .host state.heap.size frame ∧
      ∃ after, frame.MissesMembers (Engine.ofDepth 1) state (.fault (.mixedMember "s")) after ∧
        Builtin.runCreateClass frame (Engine.ofDepth 1) state = .failed (.fault (.mixedMember "s")) after ∧
        after.heap.object target = state.heap.object target ∧
        after.heap.object prototype = state.heap.object prototype := by
  intro start state target prototype frame
  have lawful : Script.LawfulSteps .host start.heap.size recordSteps := by simp [recordSteps]
  have reached := Session.prepared_reaches Preset.modern.profile [] lawful
  have unchanged : state.Becomes .host state := .refl
  have size_eq : state.heap.size = start.heap.size + 6 := by decide +kernel
  have there {index : Nat} (below : index < start.heap.size + 6) :
      Within .host state.heap.size (Value.object ⟨index⟩) := by
    rw [size_eq]
    exact below
  have sound := Session.sound_of_reaches reached unchanged
  have within : Within .host state.heap.size frame :=
    ⟨sound.heap.intrinsic .global, ⟨trivial, within_nil⟩, trivial,
      within_cons.mpr ⟨there (by omega), within_cons.mpr ⟨there (by omega),
        within_cons.mpr ⟨there (by omega), within_nil⟩⟩⟩, trivial⟩
  have complained : (Builtin.readMembers frame (Engine.ofDepth 0) state).failed?.map Prod.fst =
      some (.fault (.mixedMember "s")) := by decide +kernel
  obtain ⟨⟨_, after⟩, ran, rfl⟩ := Option.map_eq_some_iff.mp complained
  have failed := Outcome.failed_of_failed? ran
  have scriptless : Builtin.readMembers frame (Engine.ofDepth 0) state ≠ .exhausted := by
    intro exhausted
    rw [failed] at exhausted
    cases exhausted
  have settled := (Builtin.readMembers_reads frame).composed.settled
    (Engine.ofDepth_below (Nat.zero_le 1)) state scriptless
  have misses := Frame.readMembers_eq_failed_iff.mp (settled.trans failed)
  obtain ⟨_, missing, _⟩ := members_read_before_installed _ [] reached unchanged within 1
  obtain ⟨refused, _, spared⟩ := missing _ _ misses
  exact ⟨reached, unchanged, within, after, misses, refused,
    spared _ (Run.spares_of_scriptless scriptless), spared _ (Run.spares_of_scriptless scriptless)⟩

end ClassLowering
