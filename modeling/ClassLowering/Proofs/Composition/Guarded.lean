import ClassLowering.Proofs.Composition.Basic

/-!
# Guarded compositions

A guarded composition keeps heaps guarded, on every engine that does so for the calls and reads that go
through it.
-/

namespace ClassLowering.Run

variable {α β : Type}

theorem Calm.bind {first : Run α} {rest : α → Run β} {engine : Engine} (before : first.Calm engine)
    (after : ∀ result, (rest result).Calm engine) : (first >>= rest).Calm engine :=
  fun state sound => all_bind (before state sound) fun result middle _ tends =>
    after result middle tends.guarded

theorem Calm.attempt {run : Run α} {engine : Engine} (inner : run.Calm engine) :
    (attempt run).Calm engine := fun state sound => all_attempt (inner state sound)

theorem hasNativeConstruct_calm {engine : Engine} (detecting : detectNativeConstruct.Calm engine) :
    hasNativeConstruct.Calm engine := by
  intro state sound
  have kept (found : Bool) : (keepNativeConstruct found).Calm engine :=
    calm_of_silent fun state => rfl
  cases known : state.caches.nativeConstruct with
  | some answer =>
      rw [hasNativeConstruct_known known]
      exact Heap.Tends.refl sound
  | none =>
      rw [hasNativeConstruct_unknown known]
      exact detecting.attempt.bind (fun _ => kept _) state sound

/-- A definition keeps a heap guarded if the accessor functions that it names can be called. -/
theorem define_tends {id : ObjectId} {key : PropertyKey} {descriptor : Descriptor} {engine : Engine}
    {state : State} (sound : state.heap.Guarded) (grants : state.heap.Grants descriptor) :
    (define id key descriptor engine state).All state.Tends := by
  simp only [define, bind_apply, ask]
  cases permitted : (state.heap.object id).defined key descriptor with
  | ok property => exact sound.setProperty (Heap.fits_defined (sound.accessors id) grants permitted)
  | error fault => exact Heap.Tends.refl sound

theorem defineEach_tends {target : ObjectId} {definitions : List (PropertyKey × Descriptor)}
    {engine : Engine} {state : State} (sound : state.heap.Guarded)
    (grants : ∀ entry ∈ definitions, state.heap.Grants entry.2) :
    (defineEach target definitions engine state).All state.Tends := by
  induction definitions generalizing state with
  | nil => exact Heap.Tends.refl sound
  | cons entry rest ih =>
      refine all_bind (define_tends sound (grants entry (.head _))) fun _ middle _ tends => ?_
      exact ih tends.guarded fun other member => (grants other (.tail _ member)).mono tends.keeps

theorem tested_of_function? {heap : Heap} (sound : heap.Guarded) {value : Value} {id : ObjectId}
    {callable : Callable} (found : heap.function? value = some (id, callable)) :
    callable.code.Tested := by
  unfold Heap.function? at found
  split at found
  · next other =>
    obtain ⟨code, held, same⟩ := Option.map_eq_some_iff.mp found
    cases same
    exact sound.code _ _ held
  · cases found

/-- On an engine that keeps heaps guarded, so does every guarded composition. -/
theorem Composed.calm {run : Run α} (composed : Composed true run) {engine : Engine}
    (machine : engine.Calm) : run.Calm engine := by
  generalize asked : true = guarded at composed
  induction composed with
  | direct _ calm => exact calm asked.symm engine
  | bind _ _ before after => exact before.bind after
  | attempt _ inner => exact inner.attempt
  | view _ _ after => exact fun state sound => after state state sound
  | search _ _ after => exact after engine.depth
  | @function _ value rest _ _ missing found =>
      intro state sound
      rw [bind_apply, ask]
      cases called : state.heap.function? value with
      | none => exact missing state sound
      | some pair =>
          obtain ⟨id, callable⟩ := pair
          exact found id callable (fun _ => tested_of_function? sound called) state sound
  | @invoke frame tested => exact machine.invoke frame (tested asked.symm)
  | read id key receiver => exact machine.read id key receiver
  | lookupStrategy => exact calm_of_silent fun _ => rfl
  | writerStrategy => exact calm_of_silent fun _ => rfl
  | hasNativeConstruct _ detecting => exact hasNativeConstruct_calm detecting
  | definitions target _ grants before =>
      intro state sound
      refine all_bind (before state sound) fun result middle ran tends => ?_
      exact defineEach_tends tends.guarded (grants asked.symm engine state result middle machine sound ran)

end ClassLowering.Run
