import ClassLowering.Proofs.Composition.Depth
import ClassLowering.Proofs.Composition.Guarded

/-!
# Runs that hand over functions

`Object.defineProperty` and its relatives test the accessors that a record names; `_createClass` installs
what it reads. The checking engine gives up where `_createClass` reads an accessor that cannot be called.
Where it does not give up it is the ordinary engine, and it keeps heaps guarded.
-/

namespace ClassLowering

namespace Heap

/-- Whether an accessor function is missing, or can be called. -/
def calls (heap : Heap) (accessor : Option Value) : Bool := accessor.all heap.isCallable

/-- Whether the accessor functions that a descriptor names can be called. -/
def grants (heap : Heap) (descriptor : Descriptor) : Bool :=
  heap.calls (Value.defined? descriptor.get) && heap.calls (Value.defined? descriptor.set)

theorem calls_iff {heap : Heap} {accessor : Option Value} :
    heap.calls accessor = true ↔ heap.Calls accessor := by
  cases accessor <;> simp [calls, Calls]

theorem grants_iff {heap : Heap} {descriptor : Descriptor} :
    heap.grants descriptor = true ↔ heap.Grants descriptor := by
  rw [grants, Grants, Bool.and_eq_true, calls_iff, calls_iff]

end Heap

/-! ## Reading members -/

namespace Builtin

open Run

/-- The members that `_createClass` reads from its two lists, those of the constructor last. -/
def readMembers (frame : Frame) : Run (List Member × List Member) := do
  let members ← membersOf (frame.argument 1)
  let statics ← membersOf (frame.argument 2)
  return (members, statics)

theorem runCreateClass_eq (frame : Frame) :
    runCreateClass frame = readMembers frame >>= fun read =>
      createClass (frame.argument 0) read.1 read.2 := by
  rw [runCreateClass, readMembers]
  simp only [bind_assoc, pure_bind]

end Builtin

/-- The accessors of the members that a call of `_createClass` reads can be called, as far as they were
read. -/
def Frame.readsFunctions (frame : Frame) (engine : Engine) (state : State) : Bool :=
  match Builtin.readMembers frame engine state with
  | .done (members, statics) after =>
      (members ++ statics).all fun member => after.heap.grants member.descriptor
  | _ => true

/-- The engine that gives up where `_createClass` reads an accessor that cannot be called. -/
def Engine.checking : Nat → Engine
  | 0 => .ofDepth 0
  | depth + 1 =>
      { depth := depth + 1
        invoke := fun frame state =>
          if frame.callable.code.readsMembers && !frame.readsFunctions (checking depth) state then
            .exhausted
          else frame.run (checking depth) state
        read := fun id key receiver state => Run.getFor id key receiver (checking depth) state }

/-- Where it does not give up, the checking engine is the ordinary one. -/
theorem Engine.checking_below (depth : Nat) :
    (Engine.checking depth).Below (Engine.ofDepth depth) := by
  induction depth with
  | zero => exact Engine.ofDepth_below (Nat.le_refl 0)
  | succ depth ih =>
      refine ⟨Nat.le_refl _, fun frame state ended => ?_,
        fun _ _ receiver => (Run.getFor_composed receiver).settled ih⟩
      simp only [Run.invoke, checking] at ended ⊢
      split at ended
      · exact absurd rfl ended
      · next passes =>
        rw [if_neg passes]
        exact (Frame.run_composed Bool.noConfusion).settled ih state ended

/-! ## Checked runs keep heaps guarded -/

namespace Run

variable {engine : Engine} {state : State} {id : ObjectId} {members statics : List Member}

theorem install_tends (sound : state.heap.Guarded)
    (grants : ∀ member ∈ members, state.heap.Grants member.descriptor) :
    (install id members engine state).All state.Tends := by
  induction members generalizing state with
  | nil => exact Heap.Tends.refl sound
  | cons member rest ih =>
      refine all_bind (define_tends sound (grants member (.head _))) fun _ middle _ tends => ?_
      exact ih tends.guarded fun other listed => (grants other (.tail _ listed)).mono tends.keeps

/-- Members whose accessors can be called are installed on a guarded heap. -/
theorem createClass_tends {constructor : Value} (machine : engine.Calm) (sound : state.heap.Guarded)
    (grants : ∀ member ∈ members ++ statics, state.heap.Grants member.descriptor) :
    (createClass constructor members statics engine state).All state.Tends := by
  unfold createClass
  cases constructor with
  | object id =>
      refine all_bind (get_composed.calm machine state sound) fun above middle _ tends => ?_
      have still : ∀ member ∈ members ++ statics, middle.heap.Grants member.descriptor :=
        fun member listed => (grants member listed).mono tends.keeps
      split
      · refine all_bind (install_tends tends.guarded fun member listed =>
          still member (List.mem_append_left _ listed)) fun _ last _ later => ?_
        refine all_bind (install_tends later.guarded fun member listed =>
          (still member (List.mem_append_right _ listed)).mono later.keeps) fun _ end_ _ ended => ?_
        exact Heap.Tends.refl ended.guarded
      · exact Heap.Tends.refl tends.guarded
  | _ => exact Composed.calm (composed_complaint _ _) machine state sound

theorem readMembers_composed {guarded : Bool} (frame : Frame) :
    Composed guarded (Builtin.readMembers frame) :=
  .bind membersOf_composed fun _ => .bind membersOf_composed fun _ => composed_pure _

/-- A call of `_createClass` that reads functions keeps heaps guarded. -/
theorem runCreateClass_tends {frame : Frame} (machine : engine.Calm) (sound : state.heap.Guarded)
    (reads : frame.readsFunctions engine state = true) :
    (Builtin.runCreateClass frame engine state).All state.Tends := by
  rw [Builtin.runCreateClass_eq]
  refine all_bind ((readMembers_composed frame).calm machine state sound) fun read middle ran tends => ?_
  refine createClass_tends machine tends.guarded fun member listed => ?_
  obtain ⟨members, statics⟩ := read
  unfold Frame.readsFunctions at reads
  rw [ran] at reads
  exact Heap.grants_iff.mp (List.all_eq_true.mp reads member listed)

end Run

/-- The code of `_createClass` is the only one that reads members. -/
theorem Frame.run_of_readsMembers {frame : Frame} (reads : frame.callable.code.readsMembers = true) :
    frame.run = Builtin.runCreateClass frame := by
  unfold run
  unfold Code.readsMembers at reads
  split at reads
  · next same =>
    rw [same]
    rfl
  · cases reads

/-- The checking engine keeps heaps guarded. -/
theorem Engine.checking_calm (depth : Nat) : (Engine.checking depth).Calm := by
  induction depth with
  | zero => exact ⟨fun _ _ _ _ => trivial, fun _ _ _ _ _ => trivial⟩
  | succ depth ih =>
      refine ⟨fun frame tested state sound => ?_,
        fun _ _ receiver => (Run.getFor_composed receiver).calm ih⟩
      simp only [Run.invoke, checking]
      split
      · trivial
      · next passes =>
        cases reads : frame.callable.code.readsMembers with
        | true =>
            rw [Frame.run_of_readsMembers reads]
            refine Run.runCreateClass_tends ih sound ?_
            simpa [reads] using passes
        | false => exact (Frame.run_composed fun _ => ⟨tested, reads⟩).calm ih state sound

end ClassLowering
