import ClassLowering.Proofs.Property.Creation
import ClassLowering.Proofs.Run.Constructing
import ClassLowering.Proofs.Run.Describing
import ClassLowering.Proofs.Run.InTurn
import ClassLowering.Proofs.Run.Linking
import ClassLowering.Proofs.Soundness.Session

/-!
# Objects of records

`Object.create` and its relatives define what an object of records describes, in two phases: all records are
read, and only then is anything defined. Neither scripts nor hosts remove a property, so that the keys listed at
the start stay own keys while getters run, and the records are those of the own enumerable keys.
-/

namespace ClassLowering

open Bounded

/-! ## The keys of an object of records -/

namespace Object

variable {object : Object} {key : PropertyKey}

/-- An object of records shows a key: its own property is enumerable. -/
def Shows (object : Object) (key : PropertyKey) : Prop :=
  ∃ property, object.property? key = some property ∧ property.enumerable = true

/-- An object of records does not show a key: its own property is hidden. -/
def Conceals (object : Object) (key : PropertyKey) : Prop :=
  ∃ property, object.property? key = some property ∧ property.enumerable = false

/-- An own key counts as enumerable exactly if its property is. -/
theorem latest?_of_own (own : key ∈ object.properties.keys) :
    ∃ property, object.property? key = some property ∧
      (object.latest? key).all (·.enumerable) = property.enumerable := by
  cases held : object.property? key with
  | some property =>
      refine ⟨property, rfl, ?_⟩
      rw [latest?, held, Option.some_or, Option.all_some]
  | none => exact absurd own (Table.get?_eq_none_iff.mp held)

theorem shows_of_latest? (own : key ∈ object.properties.keys)
    (enumerable : (object.latest? key).all (·.enumerable) = true) : object.Shows key := by
  obtain ⟨property, held, counts⟩ := latest?_of_own own
  exact ⟨property, held, counts ▸ enumerable⟩

theorem conceals_of_latest? (own : key ∈ object.properties.keys)
    (hidden : ¬(object.latest? key).all (·.enumerable) = true) : object.Conceals key := by
  obtain ⟨property, held, counts⟩ := latest?_of_own own
  exact ⟨property, held, counts ▸ Bool.eq_false_of_not_eq_true hidden⟩

end Object

/-- Without the removal of properties, own keys stay. -/
theorem State.Leads.keeps_key {law : Law} {state after : State} {id : ObjectId} {key : PropertyKey}
    (leads : state.Leads law after) (keeps : law.removes = false) (present : id.index < state.heap.size)
    (own : key ∈ (state.heap.object id).properties.keys) :
    key ∈ (after.heap.object id).properties.keys := by
  obtain ⟨writes, history⟩ := State.exists_history leads.changes keeps
  rw [history.keys_eq present]
  exact KeyWrite.mem_created.mpr (.inl own)

/-! ## Reading the records -/

namespace Run

variable {law : Law} {engine : Engine} {properties target : ObjectId} {state middle after : State}
  {key : PropertyKey} {keys : List PropertyKey} {failure : Failure}

/-- Keys of an object of records are gone through in order, and the records of those that it shows when their
turn comes give definitions. -/
inductive EntriesRead (engine : Engine) (properties : ObjectId) :
    List PropertyKey → State → List (PropertyKey × Descriptor) → State → Prop
  | nil {state : State} : EntriesRead engine properties [] state [] state
  | concealed {key : PropertyKey} {keys : List PropertyKey} {state after : State}
      {definitions : List (PropertyKey × Descriptor)}
      (conceals : (state.heap.object properties).Conceals key)
      (rest : EntriesRead engine properties keys state definitions after) :
      EntriesRead engine properties (key :: keys) state definitions after
  | shown {key : PropertyKey} {keys : List PropertyKey} {state found converted after : State}
      {record : ObjectId} {descriptor : Descriptor} {definitions : List (PropertyKey × Descriptor)}
      (shows : (state.heap.object properties).Shows key)
      (got : get properties key engine state = .done (.object record) found)
      (read : RecordRead engine found record descriptor converted)
      (rest : EntriesRead engine properties keys converted definitions after) :
      EntriesRead engine properties (key :: keys) state ((key, descriptor) :: definitions) after

/-- The entry of a key gives no definition: its getter fails, it is no object, or it does not convert. -/
inductive EntryUnread (engine : Engine) (properties : ObjectId) (key : PropertyKey) (state : State) :
    Failure → State → Prop
  | thrown {failure : Failure} {after : State}
      (failed : get properties key engine state = .failed failure after) :
      EntryUnread engine properties key state failure after
  | primitive {value : Value} {after : State} (got : get properties key engine state = .done value after)
      (noObject : ∀ record, value ≠ .object record) :
      EntryUnread engine properties key state (.fault (.propertyDescriptionNotObject (some key.text))) after
  | unread {record : ObjectId} {failure : Failure} {found after : State}
      (got : get properties key engine state = .done (.object record) found)
      (unread : RecordUnread engine found record failure after) :
      EntryUnread engine properties key state failure after

/-- The first entry that gives no definition ends the reading. -/
inductive EntriesUnread (engine : Engine) (properties : ObjectId) (keys : List PropertyKey)
    (state : State) : Failure → State → Prop
  | stopped {early late : List PropertyKey} {key : PropertyKey} {middle after : State} {failure : Failure}
      {definitions : List (PropertyKey × Descriptor)} (split : keys = early ++ key :: late)
      (read : EntriesRead engine properties early state definitions middle)
      (shows : (middle.heap.object properties).Shows key)
      (unread : EntryUnread engine properties key middle failure after) :
      EntriesUnread engine properties keys state failure after

/-- What becomes of the entry of a key when its turn comes. -/
theorem descriptorEntry_done (own : key ∈ (state.heap.object properties).properties.keys)
    {entry : Option (PropertyKey × Descriptor)}
    (ran : descriptorEntry properties key engine state = .done entry after) :
    (entry = none ∧ after = state ∧ (state.heap.object properties).Conceals key) ∨
      ∃ record descriptor found, entry = some (key, descriptor) ∧
        (state.heap.object properties).Shows key ∧
        get properties key engine state = .done (.object record) found ∧
        RecordRead engine found record descriptor after := by
  rw [descriptorEntry, ask_bind] at ran
  split at ran
  · next enumerable =>
    obtain ⟨value, found, got, ran⟩ := done_of_bind ran
    split at ran
    · next record =>
      obtain ⟨descriptor, converted, read, ended⟩ := done_of_bind ran
      cases ended
      exact .inr ⟨record, descriptor, found, rfl, Object.shows_of_latest? own enumerable, got,
        descriptorOf_eq_done_iff.mp read⟩
    · cases ran
  · next hidden =>
    cases ran
    exact .inl ⟨rfl, rfl, Object.conceals_of_latest? own hidden⟩

theorem descriptorEntry_failed (own : key ∈ (state.heap.object properties).properties.keys)
    (ran : descriptorEntry properties key engine state = .failed failure after) :
    (state.heap.object properties).Shows key ∧ EntryUnread engine properties key state failure after := by
  rw [descriptorEntry, ask_bind] at ran
  split at ran
  · next enumerable =>
    refine ⟨Object.shows_of_latest? own enumerable, ?_⟩
    rcases failed_of_bind ran with failed | ⟨value, found, got, ran⟩
    · exact .thrown failed
    · split at ran
      · next record =>
        rcases failed_of_bind ran with failed | ⟨descriptor, converted, read, ended⟩
        · exact .unread got (descriptorOf_eq_failed_iff.mp failed)
        · cases ended
      · next noObject =>
        cases ran
        exact .primitive got noObject
  · cases ran

/-- The definitions that an object of records gives. -/
def readEntries (properties : ObjectId) : Run (List (PropertyKey × Descriptor)) := do
  let keys ← ask fun heap => (heap.object properties).properties.orderedKeys
  let entries ← keys.mapM (descriptorEntry properties)
  return entries.filterMap id

theorem defineAll_eq (target properties : ObjectId) :
    defineAll target properties = readEntries properties >>= defineEach target := by
  rw [defineAll, readEntries]
  simp only [bind_assoc, pure_bind]

theorem readEntries_reads : Reads (readEntries properties) :=
  .bind (reads_ask _) fun _ => .bind (reads_mapM fun _ => descriptorEntry_reads) fun _ => reads_pure _

section Sessions

variable (keeps : law.removes = false) (machine : engine.Sound law) (sound : state.Sound law)
  (present : properties.index < state.heap.size)
include keeps machine sound present

theorem entriesRead_of_inTurn {entries : List (Option (PropertyKey × Descriptor))}
    (own : ∀ key ∈ keys, key ∈ (state.heap.object properties).properties.keys)
    (turns : InTurn (descriptorEntry properties) engine keys state entries after) :
    EntriesRead engine properties keys state (entries.filterMap id) after ∧ state.Leads law after := by
  induction turns with
  | nil => exact ⟨.nil, .refl sound⟩
  | @cons key keys state middle after entry entries ran _ ih =>
      have leads := (descriptorEntry_sound machine sound present).leads ran
      have there : properties.index < middle.heap.size := Nat.lt_of_lt_of_le present leads.size_le
      obtain ⟨rest, later⟩ := ih leads.sound there fun other listed =>
        leads.keeps_key keeps present (own other (.tail _ listed))
      refine ⟨?_, leads.trans later⟩
      rcases descriptorEntry_done (own key (.head _)) ran with
        ⟨rfl, rfl, conceals⟩ | ⟨record, descriptor, found, rfl, shows, got, read⟩
      · exact .concealed conceals rest
      · exact .shown shows got read rest

/-- The keys are those that the object has at the start, each of which is read or not when its turn comes. -/
theorem readEntries_done {definitions : List (PropertyKey × Descriptor)}
    (ran : readEntries properties engine state = .done definitions after) :
    EntriesRead engine properties (state.heap.object properties).properties.orderedKeys state definitions
      after ∧ state.Leads law after := by
  rw [readEntries, ask_bind] at ran
  obtain ⟨entries, last, listed, ended⟩ := done_of_bind ran
  cases ended
  exact entriesRead_of_inTurn keeps machine sound present (fun _ => Table.mem_orderedKeys.mp)
    (mapM_eq_done_iff.mp listed)

theorem readEntries_failed (ran : readEntries properties engine state = .failed failure after) :
    EntriesUnread engine properties (state.heap.object properties).properties.orderedKeys state failure
      after := by
  rw [readEntries, ask_bind] at ran
  rcases failed_of_bind ran with failed | ⟨_, _, _, ended⟩
  · obtain ⟨early, key, late, entries, middle, split, turns, failed⟩ :=
      failsInTurn_iff.mp (mapM_eq_failed_iff.mp failed)
    have own (other : PropertyKey) (listed : other ∈ early ++ key :: late) :
        other ∈ (state.heap.object properties).properties.keys := Table.mem_orderedKeys.mp (split ▸ listed)
    obtain ⟨read, leads⟩ := entriesRead_of_inTurn keeps machine sound present
      (fun other listed => own other (List.mem_append_left _ listed)) turns
    have still : key ∈ (middle.heap.object properties).properties.keys :=
      leads.keeps_key keeps present (own key (List.mem_append_right _ (.head _)))
    obtain ⟨shows, unread⟩ := descriptorEntry_failed still failed
    exact .stopped split read shows unread
  · cases ended

end Sessions

/-! ## Applying the definitions -/

end Run

/-- Definitions are applied to an object in order. -/
inductive Object.DefinesTo : Object → List (PropertyKey × Descriptor) → Object → Prop
  | nil {object : Object} : DefinesTo object [] object
  | cons {object last : Object} {key : PropertyKey} {descriptor : Descriptor} {property : Property}
      {definitions : List (PropertyKey × Descriptor)} (allowed : object.defined key descriptor = .ok property)
      (rest : DefinesTo (object.setProperty key property) definitions last) :
      DefinesTo object ((key, descriptor) :: definitions) last

/-- The state with another object at the place of one. -/
def State.replacing (state : State) (id : ObjectId) (object : Object) : State :=
  { state with heap := state.heap.modify id fun _ => object }

theorem State.replacing_self {state : State} {id : ObjectId} (present : id.index < state.heap.size) :
    state.replacing id (state.heap.object id) = state := by
  have heap_eq : state.heap.modify id (fun _ => state.heap.object id) =
      state.heap.modify id (fun object => object) := Heap.modify_congr present rfl
  rw [replacing, heap_eq, Heap.modify_self]

namespace Run

variable {engine : Engine} {target : ObjectId} {state : State} {definitions : List (PropertyKey × Descriptor)}

theorem defineEach_cons (key : PropertyKey) (descriptor : Descriptor)
    (rest : List (PropertyKey × Descriptor)) :
    defineEach target ((key, descriptor) :: rest) =
      define target key descriptor >>= fun _ => defineEach target rest :=
  List.forM_cons

/-- Definitions in order change nothing but their target, and the first that is refused ends them. -/
theorem defineEach_cases (present : target.index < state.heap.size) :
    (∃ last, (state.heap.object target).DefinesTo definitions last ∧
      defineEach target definitions engine state = .done () (state.replacing target last)) ∨
    ∃ early key descriptor late last fault, definitions = early ++ (key, descriptor) :: late ∧
      (state.heap.object target).DefinesTo early last ∧ last.defined key descriptor = .error fault ∧
      defineEach target definitions engine state = .failed (.fault fault) (state.replacing target last) := by
  induction definitions generalizing state with
  | nil => exact .inl ⟨_, .nil, congrArg (Outcome.done ()) (State.replacing_self present).symm⟩
  | cons definition rest ih =>
      obtain ⟨key, descriptor⟩ := definition
      rw [defineEach_cons]
      cases asked : (state.heap.object target).defined key descriptor with
      | error fault =>
          refine .inr ⟨[], key, descriptor, rest, _, fault, rfl, .nil, asked, ?_⟩
          rw [State.replacing_self present]
          exact bind_of_failed (define_refused asked)
      | ok property =>
          let next : State := { state with heap := state.heap.setProperty target key property }
          have there : target.index < next.heap.size := by rwa [Heap.size_setProperty]
          have object_eq : next.heap.object target = (state.heap.object target).setProperty key property :=
            Heap.object_setProperty_self present property
          have replacing_eq (last : Object) : next.replacing target last = state.replacing target last :=
            congrArg (fun heap => { state with heap }) (Heap.modify_modify ..)
          rw [bind_of_done (define_apply asked)]
          have others := ih there
          simp only [object_eq, replacing_eq] at others
          rcases others with ⟨last, defines, ran⟩ |
            ⟨early, other, another, late, last, fault, split, defines, refused, ran⟩
          · exact .inl ⟨last, .cons asked defines, ran⟩
          · exact .inr ⟨(key, descriptor) :: early, other, another, late, last, fault,
              congrArg (_ :: ·) split, .cons asked defines, refused, ran⟩

end Run

/-! ## Both phases -/

namespace Run

variable {α : Type} {law : Law} {engine : Engine} {target properties : ObjectId} {state : State} {result : α}

/-- How it ends to apply an object of records to a target: with a reading that fails and the target as it was,
with the first definition that is refused behind those that are applied, or with all of them applied. The
reading leaves the target as it was, and only the last end has a result. -/
inductive AppliesMap (engine : Engine) (target properties : ObjectId) (state : State) (result : α) :
    Outcome α → Prop
  | unread {failure : Failure} {after : State}
      (unread : EntriesUnread engine properties (state.heap.object properties).properties.orderedKeys
        state failure after)
      (kept : after.heap.object target = state.heap.object target) :
      AppliesMap engine target properties state result (.failed failure after)
  | refused {early late : List (PropertyKey × Descriptor)} {key : PropertyKey} {descriptor : Descriptor}
      {read : State} {last : Object} {fault : Fault}
      (entries : EntriesRead engine properties (state.heap.object properties).properties.orderedKeys
        state (early ++ (key, descriptor) :: late) read)
      (kept : read.heap.object target = state.heap.object target)
      (defines : (state.heap.object target).DefinesTo early last)
      (refuses : last.defined key descriptor = .error fault) :
      AppliesMap engine target properties state result (.failed (.fault fault) (read.replacing target last))
  | applied {definitions : List (PropertyKey × Descriptor)} {read : State} {last : Object}
      (entries : EntriesRead engine properties (state.heap.object properties).properties.orderedKeys
        state definitions read)
      (kept : read.heap.object target = state.heap.object target)
      (defines : (state.heap.object target).DefinesTo definitions last) :
      AppliesMap engine target properties state result (.done result (read.replacing target last))

theorem defineAll_appliesMap (removes : law.removes = false) (machine : engine.Sound law)
    (sound : state.Sound law) (present : target.index < state.heap.size) (there : properties.index < state.heap.size)
    (spares : (readEntries properties).Spares engine state target) :
    AppliesMap engine target properties state () (defineAll target properties engine state) := by
  obtain ⟨ended, keeps⟩ := readEntries_reads.kept spares
  rw [defineAll_eq]
  cases ran : readEntries properties engine state with
  | exhausted => exact absurd ran ended
  | failed failure after =>
      rw [ran] at keeps
      rw [bind_of_failed ran]
      exact .unread (readEntries_failed removes machine sound there ran) keeps
  | done definitions read =>
      rw [ran] at keeps
      have kept : read.heap.object target = state.heap.object target := keeps
      obtain ⟨entries, leads⟩ := readEntries_done removes machine sound there ran
      have still : target.index < read.heap.size := Nat.lt_of_lt_of_le present leads.size_le
      rw [bind_of_done ran]
      rcases @defineEach_cases engine target read definitions still with
        ⟨last, defines, defined⟩ |
          ⟨early, key, descriptor, late, last, fault, rfl, defines, refuses, defined⟩
      · rw [defined]
        exact .applied entries kept (kept ▸ defines)
      · rw [defined]
        exact .refused entries kept (kept ▸ defines) refuses

/-- A result in place of none. -/
theorem AppliesMap.bind {run : Run Unit} {start : State}
    (applies : AppliesMap engine target properties state () (run engine start)) (result : α) :
    AppliesMap engine target properties state result ((run >>= fun _ => pure result) engine start) := by
  cases ran : run engine start with
  | exhausted =>
      rw [ran] at applies
      cases applies
  | failed failure after =>
      rw [ran] at applies
      rw [bind_of_failed ran]
      cases applies with
      | unread unread kept => exact .unread unread kept
      | refused entries kept defines refuses => exact .refused entries kept defines refuses
  | done _ after =>
      rw [ran] at applies
      rw [bind_of_done ran]
      cases applies with
      | applied entries kept defines => exact .applied entries kept defines

end Run

/-- In every state of a session without removals, what an object of records describes is defined in two phases
on every target that no script touches while the records are read, and so it is on the object that
`Object.create` makes. The records are those under the own enumerable keys, each looked at when its turn
comes. -/
theorem property_maps_applied_in_two_phases (profile : Profile) (marked : List Helper) {law : Law}
    (keeps : law.removes = false) {before state : State}
    (reached : (Session.prepared profile marked).Reaches law before)
    (during : before.Becomes law state) (depth : Nat) :
    (∀ target properties : ObjectId, target.index < state.heap.size → properties.index < state.heap.size →
      (Run.readEntries properties).Spares (Engine.ofDepth depth) state target →
      Run.AppliesMap (Engine.ofDepth depth) target properties state ()
        (Run.defineAll target properties (Engine.ofDepth depth) state)) ∧
    ∀ (frame : Frame) (prototype : Option ObjectId) (properties : ObjectId),
      Within law state.heap.size frame → frame.argument 0 = .ofObject? prototype →
      frame.argument 1 = .object properties →
      let created := state.heap.next
      let made := state.making (.inheriting prototype)
      (Run.readEntries properties).Spares (Engine.ofDepth depth) made created →
      Run.AppliesMap (Engine.ofDepth depth) created properties made (.object created)
        (Builtin.runCreate frame (Engine.ofDepth depth) state) := by
  have sound := Session.sound_of_reaches reached during
  have machine := Engine.ofDepth_sound law depth
  refine ⟨fun target properties present there spares =>
    Run.defineAll_appliesMap keeps machine sound present there spares, ?_⟩
  intro frame prototype properties within linked given created made spares
  have above : Within law state.heap.size prototype := by
    have argument := Frame.within_argument within 0
    rw [linked] at argument
    cases prototype with
    | none => trivial
    | some id => exact argument
  have records : Within law state.heap.size (Value.object properties) :=
    given ▸ Frame.within_argument within 1
  have built : Run.build (Build.object prototype) (Engine.ofDepth depth) state = .done created made := rfl
  have leads := (Run.sound_build sound (Build.object_grows above)).leads built
  have run_eq : Builtin.runCreate frame (Engine.ofDepth depth) state =
      (Run.defineAll created properties >>= fun _ => pure (Value.object created)) (Engine.ofDepth depth)
        made := by
    rw [Builtin.runCreate, linked, given]
    exact (Run.bind_of_done (Builtin.prototypeArgument_apply prototype ..)).trans (Run.bind_of_done built)
  rw [run_eq]
  have present : created.index < made.heap.size := Heap.next_index_lt ..
  exact (Run.defineAll_appliesMap keeps machine leads.sound present (leads.keeps records) spares).bind _

/-- A step that assigns to a property of a variable. -/
def Script.Step.assigning (object field : String) (value : Script.Operand) : Script.Step :=
  .perform (.onProperty .set) [.named object, .value (.string field), value] {}

/-- Steps that make a target with a fixed property, and an object of two records and a hidden value. -/
def fixedTargetSteps : List Script.Step :=
  [.perform (.create .object) [] { result := some "target" },
    .perform (.onProperty (.define { value := some (.value .null) }))
      [.named "target", .value (.string "fixed")] {},
    .perform (.create .object) [] { result := some "record" },
    .assigning "record" "value" (.value (.boolean true)),
    .perform (.create .object) [] { result := some "properties" },
    .assigning "properties" "free" (.named "record"),
    .perform (.onProperty (.define { value := some (.value .null) }))
      [.named "properties", .value (.string "hidden")] {},
    .assigning "properties" "fixed" (.named "record")]

/-- The definition behind the hidden entry is refused, and the one before it is applied. -/
theorem second_definition_refused :
    let start := { Session.prepared Preset.modern.profile [] with scopes := #[{}] }
    let state := (Session.runSteps ⟨0⟩ fixedTargetSteps start ∅).2
    let target := start.heap.next
    let properties : ObjectId := ⟨start.heap.size + 2⟩
    (Session.prepared Preset.modern.profile []).Reaches .host state ∧ state.Becomes .host state ∧
      ∃ failure after,
        Run.AppliesMap (Engine.ofDepth 1) target properties state () (.failed failure after) ∧
        Run.defineAll target properties (Engine.ofDepth 1) state = .failed failure after ∧
        (after.heap.object target).properties.keys = ["fixed", "free"].map .string := by
  intro start state target properties
  have lawful : Script.LawfulSteps .host start.heap.size fixedTargetSteps := by
    simp [fixedTargetSteps, Script.Step.assigning]
  have reached := Session.prepared_reaches Preset.modern.profile [] lawful
  have unchanged : state.Becomes .host state := .refl
  have size_eq : state.heap.size = start.heap.size + 3 := by decide +kernel
  have scriptless : (Run.readEntries properties (Engine.ofDepth 0) state).done?.isSome = true := by
    decide +kernel
  have refused : (Run.defineAll target properties (Engine.ofDepth 1) state).failed?.any (fun ended =>
      (ended.2.heap.object target).properties.keys = ["fixed", "free"].map .string) = true := by
    decide +kernel
  obtain ⟨⟨failure, after⟩, ran, listed⟩ := (Option.any_eq_true _ _).mp refused
  have failed := Outcome.failed_of_failed? ran
  have ended : Run.readEntries properties (Engine.ofDepth 0) state ≠ .exhausted := by
    intro exhausted
    rw [exhausted] at scriptless
    cases scriptless
  have present : target.index < state.heap.size := by
    rw [size_eq]
    exact Nat.lt_add_of_pos_right (by decide)
  have there : properties.index < state.heap.size := by
    rw [size_eq]
    exact Nat.add_lt_add_left (by decide) _
  obtain ⟨every, _⟩ := property_maps_applied_in_two_phases _ [] rfl reached unchanged 1
  have applies := every target properties present there (Run.spares_of_scriptless ended)
  exact ⟨reached, unchanged, failure, after, failed ▸ applies, failed, of_decide_eq_true listed⟩

end ClassLowering
