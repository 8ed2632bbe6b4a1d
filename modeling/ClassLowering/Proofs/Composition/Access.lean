import ClassLowering.Proofs.Composition.Guarded
import ClassLowering.Proofs.Run.InTurn

/-!
# Composed calls and property access

Calls, reads, assignments, definitions and links, construction, and the records and lists of scripts.
-/

namespace ClassLowering.Run

variable {α : Type} {guarded : Bool} {id : ObjectId} {key : PropertyKey} {value : Value}

/-! ## Calls and reads -/

theorem call_composed (function this : Value) (arguments : List Value) :
    Composed guarded (call function this arguments) :=
  .function (composed_complaint _ _) fun _ _ tested => .invoke tested

theorem getThrough_composed (receiver : Value) : Composed guarded (getThrough id key receiver) := by
  unfold getThrough
  refine .bind (composed_ask _) fun link => ?_
  split
  · refine .bind (.read _ _ _) fun trap => ?_
    split
    · exact .read _ _ _
    · exact call_composed _ _ _
  · exact composed_raise _

theorem getFor_composed (receiver : Value) : Composed guarded (getFor id key receiver) := by
  unfold getFor
  refine .bind (composed_follow _) fun found => ?_
  split
  · exact composed_pure _
  · exact composed_pure _
  · exact composed_pure _
  · exact call_composed _ _ _
  · exact getThrough_composed _

theorem get_composed : Composed guarded (get id key) := getFor_composed _

theorem getOf_composed : Composed guarded (getOf value key) := by
  unfold getOf
  cases value with
  | undefined => exact composed_complaint _ _
  | null => exact composed_complaint _ _
  | _ => exact getFor_composed _

theorem has_composed : Composed guarded (has id key) := composed_follow _

/-! ## Assignments, definitions and links -/

theorem set_composed : Composed guarded (set id key value) := by
  unfold set
  refine .bind (composed_ask _) fun receiver => ?_
  refine .bind (composed_follow _) fun found => ?_
  cases found with
  | refused => exact composed_pure _
  | setter function => exact .bind (call_composed _ _ _) fun _ => composed_pure _
  | write =>
      refine .bind (composed_ask _) fun accepted => ?_
      split
      · exact .bind (composed_change fun _ _ sound => sound.setValue value) fun _ => composed_pure _
      · exact composed_pure _

/-- A definition that names no accessor functions. -/
theorem define_composed {descriptor : Descriptor}
    (isData : guarded = true → descriptor.get = none ∧ descriptor.set = none) :
    Composed guarded (define id key descriptor) :=
  .direct (direct_define id key descriptor)
    (fun asked _ _ sound => define_tends sound (Heap.grants_of_data (isData asked).1 (isData asked).2))
    (define_opens id key descriptor)

theorem setPrototype_composed {prototype : Option ObjectId} :
    Composed guarded (setPrototype id prototype) := by
  unfold setPrototype
  refine .bind (composed_ask _) fun holder => .bind (composed_ask _) fun admitted => ?_
  split
  · exact .bind (composed_change fun _ _ sound => sound.setLink prototype) fun _ => composed_pure _
  · exact composed_pure _

/-! ## Tests -/

theorem instanceOf_composed {function : Value} : Composed guarded (instanceOf value function) := by
  refine .function (composed_raise _) fun constructor _ _ => ?_
  cases value with
  | object id =>
      refine .bind get_composed fun prototype => ?_
      split
      · exact composed_follow _
      · exact composed_complaint _ _
  | _ => exact composed_pure _

theorem prototypeOfValue_composed : Composed guarded (prototypeOfValue value) := by
  unfold prototypeOfValue
  cases value with
  | object id => exact .bind (composed_ask _) fun _ => composed_pure _
  | undefined => exact composed_raise _
  | null => exact composed_raise _
  | _ => exact composed_pure _

/-! ## Construction -/

theorem instancePrototype_composed {fallback : ObjectId} :
    Composed guarded (instancePrototype id fallback) := by
  unfold instancePrototype
  refine .bind get_composed fun prototype => ?_
  split
  · exact composed_pure _
  · exact composed_pure _

theorem createFromConstructor_composed {fallback : ObjectId} :
    Composed guarded (createFromConstructor id fallback) :=
  .bind instancePrototype_composed fun _ => composed_build fun _ => Build.guards_object _

/-- After the function behind a constructor was found, its code is tested. -/
theorem constructorOf_bind_composed {rest : ObjectId × Callable → Run α}
    (after : ∀ id callable, (guarded = true → callable.code.Tested) →
      Composed guarded (rest (id, callable))) : Composed guarded (constructorOf value >>= rest) := by
  unfold constructorOf
  rw [bind_assoc]
  have refused : Composed guarded
      ((textOf value >>= fun text => raise (.notAConstructor text)) >>= rest) := by
    have ended : (textOf value >>= fun text => raise (.notAConstructor text)) >>= rest =
        textOf value >>= fun text => raise (.notAConstructor text) := rfl
    rw [ended]
    exact composed_complaint _ _
  refine .function ?_ fun id callable tested => ?_
  · exact refused
  · dsimp only
    split
    · exact refused
    · exact after id callable tested

theorem targetOf_composed {newTarget : Option Value} : Composed guarded (targetOf id newTarget) := by
  unfold targetOf
  cases newTarget with
  | none => exact composed_pure _
  | some value => exact constructorOf_bind_composed fun _ _ _ => composed_pure _

theorem runConstructor_composed {callable : Callable} (tested : guarded = true → callable.code.Tested)
    (arguments : List Value) (target : ObjectId) :
    Composed guarded (runConstructor id callable arguments target) := by
  unfold runConstructor
  split
  · exact .invoke tested
  · exact .bind createFromConstructor_composed fun _ =>
      .bind (.invoke tested) fun _ => composed_pure _

theorem constructFor_composed (arguments : List Value) (newTarget : Option Value) :
    Composed guarded (constructFor value arguments newTarget) :=
  constructorOf_bind_composed fun _ _ tested =>
    .bind targetOf_composed fun target => runConstructor_composed tested arguments target

/-! ## Records -/

theorem field?_composed (name : String) : Composed guarded (field? id name) := by
  unfold field?
  refine .bind has_composed fun present => ?_
  split
  · exact .bind get_composed fun _ => composed_pure _
  · exact composed_pure _

theorem checkAccessor_composed (accessor : Option Value) :
    Composed guarded (checkAccessor accessor) := by
  unfold checkAccessor
  split
  · refine .bind (composed_ask _) fun callable => ?_
    split
    · exact composed_pure _
    · exact composed_raise _
  · exact composed_pure _

theorem descriptorOf_composed : Composed guarded (descriptorOf id) := by
  unfold descriptorOf
  refine .bind (field?_composed _) fun _ => ?_
  refine .bind (field?_composed _) fun _ => ?_
  refine .bind (field?_composed _) fun _ => ?_
  refine .bind (field?_composed _) fun _ => ?_
  refine .bind (field?_composed _) fun get => ?_
  refine .bind (field?_composed _) fun set => ?_
  refine .bind (checkAccessor_composed get) fun _ => ?_
  refine .bind (checkAccessor_composed set) fun _ => ?_
  split
  · exact composed_raise _
  · exact composed_pure _

theorem descriptorEntry_composed : Composed guarded (descriptorEntry id key) := by
  unfold descriptorEntry
  refine .bind (composed_ask _) fun isEnumerable => ?_
  split
  · refine .bind get_composed fun record => ?_
    split
    · exact .bind descriptorOf_composed fun _ => composed_pure _
    · exact composed_raise _
  · exact composed_pure _

/-! ## Definitions that are read -/

theorem checkAccessor_apply {accessor : Option Value} {engine : Engine} {state : State}
    (calls : state.heap.Calls (Value.defined? accessor)) :
    checkAccessor accessor engine state = .done () state := by
  unfold checkAccessor
  cases named : Value.defined? accessor with
  | none => rfl
  | some function =>
      refine (ask_bind _ _).trans ?_
      rw [if_pos (calls function named)]
      rfl

theorem checkAccessor_refused {accessor : Option Value} {engine : Engine} {state : State}
    (refused : ¬state.heap.Calls (Value.defined? accessor)) :
    checkAccessor accessor engine state = .failed (.fault .accessorNotCallable) state := by
  unfold checkAccessor
  cases named : Value.defined? accessor with
  | none =>
      rw [named] at refused
      exact absurd Heap.calls_none refused
  | some function =>
      have uncallable : ¬state.heap.isCallable function = true := fun callable => refused <| by
        rw [named]
        rintro _ ⟨⟩
        exact callable
      refine (ask_bind _ _).trans ?_
      rw [if_neg uncallable]
      rfl

theorem checkAccessor_done {accessor : Option Value} {engine : Engine} {state after : State}
    (ran : checkAccessor accessor engine state = .done () after) :
    after = state ∧ state.heap.Calls (Value.defined? accessor) := by
  by_cases calls : state.heap.Calls (Value.defined? accessor)
  · rw [checkAccessor_apply calls] at ran
    cases ran
    exact ⟨rfl, calls⟩
  · rw [checkAccessor_refused calls] at ran
    cases ran

/-- The accessor functions of a descriptor that was read can be called: they are tested last. -/
theorem descriptorOf_grants {engine : Engine} {state after : State} {descriptor : Descriptor}
    (ran : descriptorOf id engine state = .done descriptor after) : after.heap.Grants descriptor := by
  unfold descriptorOf at ran
  obtain ⟨_, _, _, ran⟩ := done_of_bind ran
  obtain ⟨_, _, _, ran⟩ := done_of_bind ran
  obtain ⟨_, _, _, ran⟩ := done_of_bind ran
  obtain ⟨_, _, _, ran⟩ := done_of_bind ran
  obtain ⟨getter, _, _, ran⟩ := done_of_bind ran
  obtain ⟨setter, _, _, ran⟩ := done_of_bind ran
  obtain ⟨_, _, getterTested, remaining⟩ := done_of_bind ran
  obtain ⟨_, _, setterTested, ended⟩ := done_of_bind remaining
  obtain ⟨rfl, getterCalls⟩ := checkAccessor_done getterTested
  obtain ⟨rfl, setterCalls⟩ := checkAccessor_done setterTested
  split at ended
  · cases ended
  · cases ended
    exact ⟨getterCalls, setterCalls⟩

theorem descriptorEntry_grants {engine : Engine} {state after : State}
    {entry : PropertyKey × Descriptor}
    (ran : descriptorEntry id key engine state = .done (some entry) after) :
    after.heap.Grants entry.2 := by
  unfold descriptorEntry at ran
  rw [ask_bind] at ran
  split at ran
  · obtain ⟨record, middle, _, ran⟩ := done_of_bind ran
    split at ran
    · obtain ⟨descriptor, _, read, ran⟩ := done_of_bind ran
      cases ran
      exact descriptorOf_grants read
    · cases ran
  · cases ran

/-- What the earlier records of an object granted is still granted after the later ones were read. -/
theorem descriptorEntries_grant {engine : Engine} (machine : engine.Calm) {keys : List PropertyKey}
    {state after : State} {entries : List (Option (PropertyKey × Descriptor))}
    (sound : state.heap.Guarded)
    (ran : keys.mapM (descriptorEntry id) engine state = .done entries after) :
    ∀ entry ∈ entries.filterMap (fun entry => entry), after.heap.Grants entry.2 := by
  have turns := mapM_eq_done_iff.mp ran
  clear ran
  induction turns with
  | nil => exact fun entry member => nomatch member
  | @cons key rest state middle after head others read later ih =>
      have headCalm : (descriptorEntry id key).Calm engine := descriptorEntry_composed.calm machine
      have restCalm : (rest.mapM (descriptorEntry id)).Calm engine :=
        (composed_mapM fun _ => descriptorEntry_composed).calm machine
      have first := headCalm state sound
      rw [read] at first
      have second := restCalm middle first.guarded
      rw [mapM_eq_done_iff.mpr later] at second
      intro entry member
      cases head with
      | none => exact ih first.guarded entry member
      | some found =>
          rcases List.mem_cons.mp member with rfl | listed
          · exact (descriptorEntry_grants read).mono second.keeps
          · exact ih first.guarded entry listed

theorem defineEach_singleton (descriptor : Descriptor) :
    defineEach id [(key, descriptor)] = define id key descriptor := by
  change (define id key descriptor >>= fun _ => pure ()) = _
  exact bind_pure_unit

/-- A definition with the descriptor that a record gives. -/
theorem defineRead_composed {record : ObjectId} :
    Composed guarded (descriptorOf record >>= fun descriptor => define id key descriptor) := by
  have same : (descriptorOf record >>= fun descriptor => define id key descriptor) =
      descriptorOf record >>= fun descriptor => defineEach id [(key, descriptor)] := by
    simp only [defineEach_singleton]
  rw [same]
  refine .definitions id descriptorOf_composed fun _ _ _ _ _ _ _ ran entry member => ?_
  cases List.mem_singleton.mp member
  exact descriptorOf_grants ran

theorem defineAll_composed {properties : ObjectId} : Composed guarded (defineAll id properties) := by
  unfold defineAll
  refine .bind (composed_ask _) fun keys => ?_
  exact .definitions id (composed_mapM fun _ => descriptorEntry_composed)
    fun _ _ _ _ _ machine sound ran => descriptorEntries_grant machine sound ran

/-! ## Lists -/

theorem elementsOf_composed : Composed guarded (elementsOf value) := by
  unfold elementsOf
  cases value with
  | object id =>
      refine .bind getOf_composed fun length => ?_
      split
      · exact composed_raise _
      · exact composed_mapM fun _ => getOf_composed
  | _ => exact composed_complaint _ _

end ClassLowering.Run
