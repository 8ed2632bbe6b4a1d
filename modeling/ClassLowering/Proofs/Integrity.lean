import ClassLowering.Proofs.Soundness.Midway
import ClassLowering.Proofs.Soundness.Session

/-!
# Integrity levels

An object that takes no new properties, a property that is not configurable, and a value that is not
writable stay so, whatever scripts do: `Object.Hardens` is the order in which objects may develop. Each
change that asks first keeps to it, and so does every session without raw operations. An operation owes it to
what a getter makes of an object in the middle of that operation as well.
-/

namespace ClassLowering

open Bounded Relation

/-- What a property that is not configurable may become: it keeps its kind, an accessor keeps its
functions, and a read-only value stays the same value. -/
structure Property.Hardens (before after : Property) : Prop where
  configurable : after.configurable = false
  enumerable : after.enumerable = before.enumerable
  accessor : ∀ getter setter, before.slot = .accessor getter setter →
    after.slot = .accessor getter setter
  data : ∀ value, before.slot = .data value → ∃ later, after.slot = .data later ∧
    (before.writable = false → after.writable = false ∧ value.same later = true)

/-- How an object may develop. -/
structure Object.Hardens (before after : Object) : Prop where
  closed : before.extensible = false → after.extensible = false ∧
    after.prototype = before.prototype ∧ ∀ key, after.hasOwn key = true → before.hasOwn key = true
  fixed : ∀ key property, before.property? key = some property → property.configurable = false →
    ∃ later, after.property? key = some later ∧ property.Hardens later

namespace Property

variable {before middle after property : Property} {descriptor : Descriptor}

theorem Hardens.refl (fixed : property.configurable = false) : property.Hardens property where
  configurable := fixed
  enumerable := rfl
  accessor _ _ held := held
  data value held := ⟨value, held, fun readOnly => ⟨readOnly, Value.same_iff.mpr rfl⟩⟩

theorem Hardens.trans (first : before.Hardens middle) (second : middle.Hardens after) :
    before.Hardens after where
  configurable := second.configurable
  enumerable := second.enumerable.trans first.enumerable
  accessor getter setter held := second.accessor getter setter (first.accessor getter setter held)
  data value held := by
    obtain ⟨next, heldNext, keeps⟩ := first.data value held
    obtain ⟨last, heldLast, keepsNext⟩ := second.data next heldNext
    refine ⟨last, heldLast, fun readOnly => ?_⟩
    obtain ⟨stillReadOnly, same⟩ := keeps readOnly
    obtain ⟨readOnlyLast, sameLast⟩ := keepsNext stillReadOnly
    rw [Value.same_iff] at same sameLast ⊢
    exact ⟨readOnlyLast, same.trans sameLast⟩

theorem withValue_hardens (fixed : property.configurable = false) {current value : Value}
    (held : property.slot = .data current) (writable : property.writable = true) :
    property.Hardens (property.withValue value) where
  configurable := fixed
  enumerable := rfl
  accessor getter setter other := by
    rw [held] at other
    cases other
  data _ _ := ⟨value, rfl, fun readOnly => by rw [writable] at readOnly; cases readOnly⟩

/-- An accessor function that a definition may name is the one in place. -/
theorem keepsAccessor_eq {named current : Option Value} (tidy : current ≠ some .undefined)
    (keeps : keepsAccessor named current = true) :
    (if named.isSome then Value.defined? named else current) = current := by
  unfold keepsAccessor at keeps
  cases named with
  | none => rfl
  | some function =>
      rw [Value.same_iff] at keeps
      simp only [Option.isSome_some, if_true]
      unfold Value.defined? at keeps ⊢
      cases current with
      | none => cases function <;> simp_all
      | some value => cases function <;> simp_all

theorem redefine_hardens {law : Law} {size : Nat} (within : Within law size property)
    (fixed : property.configurable = false) (allowed : property.allows descriptor = true) :
    property.Hardens (property.redefine descriptor) := by
  simp only [allows, fixed, Bool.false_or, Bool.and_eq_true] at allowed
  obtain ⟨⟨notConfigurable, sameEnumerable⟩, keeps⟩ := allowed
  unfold keepsSlot at keeps
  constructor
  · cases asked : descriptor.configurable with
    | none => simp [redefine, asked, fixed]
    | some configurable => simp_all [redefine]
  · cases asked : descriptor.enumerable with
    | none => simp [redefine, asked]
    | some enumerable => simp_all [redefine]
  · intro getter setter held
    replace within : Within law size property.slot := within
    rw [held] at within keeps
    simp only [Bool.and_eq_true, Bool.not_eq_true'] at keeps
    obtain ⟨⟨notData, keepsGetter⟩, keepsSetter⟩ := keeps
    simp only [redefine, redefineSlot, held, notData, Bool.false_eq_true, if_false]
    rw [keepsAccessor_eq within.1.2 keepsGetter, keepsAccessor_eq within.2.2 keepsSetter]
  · intro value held
    rw [held] at keeps
    simp only [Bool.and_eq_true, Bool.not_eq_true', Bool.or_eq_true] at keeps
    obtain ⟨notAccessor, keepsValue⟩ := keeps
    refine ⟨descriptor.value.getD value, ?_, fun readOnly => ?_⟩
    · simp only [redefine, redefineSlot, held, notAccessor, Bool.false_eq_true, if_false]
    · rw [readOnly] at keepsValue
      obtain ⟨notWritable, sameValue⟩ := keepsValue.resolve_left Bool.false_ne_true
      constructor
      · cases asked : descriptor.writable with
        | none => simp [redefine, writableBefore, held, asked, notAccessor, readOnly]
        | some writable => simp_all [redefine]
      · cases asked : descriptor.value with
        | none => exact Value.same_iff.mpr rfl
        | some named =>
            rw [asked] at sameValue
            exact Value.same_iff.mpr (Value.same_iff.mp sameValue).symm

end Property

namespace Object

variable {before middle after object : Object} {key : PropertyKey}

theorem Hardens.refl (object : Object) : object.Hardens object where
  closed closed := ⟨closed, rfl, fun _ owned => owned⟩
  fixed _ property found fixed := ⟨property, found, .refl fixed⟩

theorem Hardens.trans (first : before.Hardens middle) (second : middle.Hardens after) :
    before.Hardens after where
  closed closed := by
    obtain ⟨closedNext, linkNext, ownsNext⟩ := first.closed closed
    obtain ⟨closedLast, linkLast, ownsLast⟩ := second.closed closedNext
    exact ⟨closedLast, linkLast.trans linkNext, fun key owned => ownsNext key (ownsLast key owned)⟩
  fixed key property found fixed := by
    obtain ⟨next, foundNext, hardens⟩ := first.fixed key property found fixed
    obtain ⟨last, foundLast, further⟩ := second.fixed key next foundNext hardens.configurable
    exact ⟨last, foundLast, hardens.trans further⟩

/-- An identity that was never given out reads as an object that may become any. -/
theorem default_hardens (after : Object) : Object.Hardens {} after where
  closed closed := by cases closed
  fixed key property found := by
    rw [property?, Table.get?_empty] at found
    cases found

/-- A property is written where there was one, or where there may be one. -/
theorem setProperty_hardens {property : Property} (accepted : object.accepts key = true)
    (hardens : ∀ current, object.property? key = some current → current.configurable = false →
      current.Hardens property) : object.Hardens (object.setProperty key property) where
  closed closed := by
    refine ⟨closed, rfl, fun other owned => ?_⟩
    rw [hasOwn_eq_isSome, property?_setProperty] at owned
    split at owned
    · next same =>
      rw [same]
      rw [accepts, closed, Bool.false_or] at accepted
      exact accepted
    · rw [hasOwn_eq_isSome]
      exact owned
  fixed other current found fixed := by
    rw [property?_setProperty]
    split
    · next same =>
      rw [same] at found
      exact ⟨property, rfl, hardens current found fixed⟩
    · exact ⟨current, found, .refl fixed⟩

theorem accepts_of_property? {property : Property} (found : object.property? key = some property) :
    object.accepts key = true := by
  rw [accepts, hasOwn_eq_isSome, found]
  simp

theorem defined_hardens {law : Law} {size : Nat} (within : Within law size object)
    {descriptor : Descriptor} {property : Property}
    (permitted : object.defined key descriptor = .ok property) :
    object.Hardens (object.setProperty key property) := by
  unfold defined at permitted
  split at permitted
  · next missing =>
    split at permitted
    · next extensible =>
      refine setProperty_hardens (by rw [accepts, extensible]; rfl) fun current found => ?_
      rw [missing] at found
      cases found
    · cases permitted
  · next current found =>
    split at permitted
    · next allowed =>
      cases permitted
      refine setProperty_hardens (accepts_of_property? found) fun other again fixed => ?_
      rw [found] at again
      cases again
      have held := within.1 key
      rw [found] at held
      exact Property.redefine_hardens held fixed allowed
    · cases permitted

theorem setValue_hardens {value : Value} (accepted : object.accepts key = true)
    (writable : ∀ current, object.property? key = some current →
      (∃ held, current.slot = .data held) ∧ current.writable = true) :
    object.Hardens (object.setValue key value) := by
  refine setProperty_hardens accepted fun current found fixed => ?_
  obtain ⟨⟨held, slot_eq⟩, written⟩ := writable current found
  have latest : object.latest? key = some current := by rw [latest?, found, Option.some_or]
  rw [latest]
  exact Property.withValue_hardens fixed slot_eq written

end Object

namespace Heap

variable {heap after : Heap} {id : ObjectId}

/-- An assignment that may be written finds no own property but writable data. -/
theorem writable_of_assignment {key : PropertyKey} (ordinary : (heap.object id).proxy? = none)
    (found : heap.assignment id key = some .write) {current : Property}
    (held : (heap.object id).property? key = some current) :
    (∃ value, current.slot = .data value) ∧ current.writable = true := by
  unfold assignment walk at found
  rw [walkFor, assignmentStride, target?_of_ordinary ordinary, held] at found
  obtain ⟨slot, writable, _, _⟩ := current
  cases slot with
  | data value =>
      cases writable with
      | true => exact ⟨⟨value, rfl⟩, rfl⟩
      | false => cases found
  | accessor getter setter => cases setter <;> cases found

/-- Only what keeps to the order of integrity happens to an object. -/
theorem modify_hardens {change : Object → Object} (present : id.index < heap.size)
    (hardens : (heap.object id).Hardens (change (heap.object id))) (other : ObjectId) :
    (heap.object other).Hardens ((heap.modify id change).object other) := by
  rw [object_modify heap id other change present]
  split
  · next same =>
    rw [same]
    exact hardens
  · exact .refl _

/-- Every change that asks first lets objects only harden. -/
theorem Change.hardens (changed : heap.Change .script after) (sound : heap.Sound .script)
    (id : ObjectId) : (heap.object id).Hardens (after.object id) := by
  cases changed with
  | grow grown =>
      rcases Nat.lt_or_ge id.index heap.size with old | new
      · rw [grown.object_eq id old]
        exact .refl _
      · rw [object_of_size_le new]
        exact Object.default_hardens _
  | @define target key descriptor property present permitted within =>
      exact modify_hardens present (Object.defined_hardens (sound.within target) permitted) id
  | write present ordinary found accepted within =>
      exact modify_hardens present (Object.setValue_hardens accepted fun _ held =>
        writable_of_assignment ordinary found held) id
  | @link target prototype present ordinary admitted within =>
      refine modify_hardens present ⟨fun closed => ⟨closed, ?_, fun _ owned => owned⟩,
        fun key property found fixed => ⟨property, found, .refl fixed⟩⟩ id
      rw [admitsLink, closed, Bool.false_and, Bool.or_false, decide_eq_true_eq] at admitted
      exact admitted.symm
  | close present =>
      exact modify_hardens present ⟨fun _ => ⟨rfl, rfl, fun _ owned => owned⟩,
        fun key property found fixed => ⟨property, found, .refl fixed⟩⟩ id
  | overwrite unasked => cases unasked
  | overwriteValue unasked => cases unasked
  | remove unasked => cases unasked

end Heap

namespace State

variable {before middle after : State}

/-- Every object only hardens from a state to another one. -/
def HardensTo (before after : State) : Prop :=
  ∀ id, (before.heap.object id).Hardens (after.heap.object id)

theorem HardensTo.refl (state : State) : state.HardensTo state := fun _ => .refl _

theorem HardensTo.trans (first : before.HardensTo middle) (second : middle.HardensTo after) :
    before.HardensTo after := fun id => (first id).trans (second id)

theorem Change.hardens (changed : before.Change .script after) (sound : before.Sound .script) :
    before.HardensTo after := by
  cases changed with
  | heap changed => exact changed.hardens sound.heap
  | _ => exact .refl before

theorem hardens_of_changes (changes : ReflTransGen (Change .script) before after)
    (sound : before.Sound .script) : before.HardensTo after := by
  induction changes with
  | refl => exact .refl before
  | tail reached changed ih => exact ih.trans (changed.hardens (sound_of_changes reached sound))

theorem Leads.hardensTo (leads : before.Leads .script after) (sound : before.Sound .script) :
    before.HardensTo after := hardens_of_changes leads.changes sound

end State

/-- Objects only harden in a run: from its beginning to its end, and also up to each state that it passes through
on the way, and from there on. These states are among those that the beginning can become. -/
def Run.HardensOnly {α : Type} (run : Run α) (depth : Nat) (state : State) : Prop :=
  ∀ after, (run (Engine.ofDepth depth) state).Leaves after →
    state.HardensTo after ∧ ∀ middle, run.PassesThrough depth state middle →
      state.Becomes .script middle ∧ state.HardensTo middle ∧ middle.HardensTo after

/-- From a state on, objects only harden, whatever becomes of it and whatever runs, at any depth of calls. -/
structure State.KeepsIntegrity (state : State) : Prop where
  becomes : ∀ after, state.Becomes .script after → state.HardensTo after
  session : ∀ after, state.Reaches .script after → state.HardensTo after
  step : ∀ (depth : Nat) (context : Script.Context) (step : Script.Step),
    Within .script state.heap.size context → Within .script state.heap.size step →
      (Script.runStep context step).HardensOnly depth state
  operation : ∀ (depth : Nat) (context : Script.Context) (operation : Script.Operation)
    (values : List Value), Within .script state.heap.size context →
      Within .script state.heap.size operation → Within .script state.heap.size values →
        (operation.perform context values).HardensOnly depth state
  call : ∀ (depth : Nat) (frame : Frame), Within .script state.heap.size frame → state.heap.Backs frame →
    frame.run.HardensOnly depth state
  read : ∀ (depth : Nat) (id : ObjectId) (key : PropertyKey) (receiver : Value),
    Within .script state.heap.size receiver → (Run.getFor id key receiver).HardensOnly depth state

theorem Run.SoundAt.hardensOnly {α : Type} [Bounded α] {run : Run α} {depth : Nat} {state : State}
    (ran : Run.SoundAt .script (Engine.ofDepth depth) state run) (sound : state.Sound .script) :
    run.HardensOnly depth state := by
  intro after leaves
  refine ⟨(ran.all.of_leaves leaves).hardensTo sound, fun middle passes => ?_⟩
  obtain ⟨there, onwards⟩ := ran.leads_of_passes passes leaves
  exact ⟨there.changes, there.hardensTo sound, onwards.hardensTo there.sound⟩

theorem State.Sound.keepsIntegrity {state : State} (sound : state.Sound .script) :
    state.KeepsIntegrity where
  becomes _ changes := State.hardens_of_changes changes sound
  session _ reached := (reached.leads sound).hardensTo sound
  step depth _ step inside lawful :=
    (Script.runStep_sound (Engine.ofDepth_sound _ depth) sound inside step lawful).hardensOnly sound
  operation depth _ _ _ inside lawful given :=
    (Script.operation_sound (Engine.ofDepth_sound _ depth) sound given inside lawful).hardensOnly sound
  call depth _ given backed :=
    (Frame.run_sound (Engine.ofDepth_sound _ depth) sound given backed).hardensOnly sound
  read depth _ _ _ on := (Run.getFor_sound (Engine.ofDepth_sound _ depth) sound on).hardensOnly sound

/-- In every session without raw operations, between its steps and in the middle of them, every object only
hardens from there on. -/
theorem integrity_levels_permanent (profile : Profile) (marked : List Helper) {before middle : State}
    (reached : (Session.prepared profile marked).Reaches .script before)
    (during : before.Becomes .script middle) : middle.KeepsIntegrity :=
  (Session.sound_of_reaches reached during).keepsIntegrity

/-- Steps that make an object, and an object of records for it, the getter of which closes the former. -/
def closingSteps : List Script.Step :=
  [.perform (.create .object) [] { result := some "target" },
    .perform (.create .object) [] { result := some "record" },
    .perform (.create .object) [] { result := some "properties" },
    .makeFunction { name := "getter", kind := .method }
      [.perform (.onProperty .preventExtensions) [.captured 0] {}, .leave [.captured 1] {}]
      [.named "target", .named "record"] { result := some "getter" },
    .perform (.onProperty (.define { get := some (.named "getter"), enumerable := some true }))
      [.named "properties", .value (.string "x")] {}]

/-- An object that is closed while the properties that it shall get are read does not get them. -/
theorem closed_object_hardens :
    let start := { Session.prepared Preset.modern.profile [] with scopes := #[{}] }
    let before := (Session.runSteps ⟨0⟩ closingSteps start ∅).2
    let target := start.heap.next
    let properties : ObjectId := ⟨start.heap.size + 2⟩
    let defining := Script.Operation.perform (.onProperty .defineAll) { scope := ⟨0⟩ }
      [.object target, .object properties]
    (Session.prepared Preset.modern.profile []).Reaches .script before ∧ before.Becomes .script before ∧
      (before.heap.object target).extensible = true ∧
      ∃ middle after, defining.PassesThrough 1 before middle ∧
        (defining (Engine.ofDepth 1) before).Leaves after ∧
        (middle.heap.object target).extensible = false ∧
        (middle.heap.object target).Hardens (after.heap.object target) ∧
        (after.heap.object target).hasOwn "x" = false := by
  intro start before target properties defining
  have lawful : Script.LawfulSteps .script start.heap.size closingSteps := by simp [closingSteps]
  have reached := Session.prepared_reaches Preset.modern.profile [] lawful
  have unchanged : before.Becomes .script before := .refl
  have sound := Session.sound_of_reaches reached unchanged
  have size_eq : before.heap.size = start.heap.size + 4 := by decide +kernel
  have taking : (before.heap.object target).extensible = true := by decide +kernel
  have closes : (Run.get properties "x" (Engine.ofDepth 1) before).done?.any (fun ended =>
      !(ended.2.heap.object target).extensible) = true := by decide +kernel
  have refused : (defining (Engine.ofDepth 1) before).failed?.any (fun ended =>
      !(ended.2.heap.object target).hasOwn "x") = true := by decide +kernel
  obtain ⟨⟨_, middle⟩, ran, closed⟩ := (Option.any_eq_true _ _).mp closes
  obtain ⟨⟨_, after⟩, ended, missing⟩ := (Option.any_eq_true _ _).mp refused
  rw [Bool.not_eq_true'] at closed missing
  have leaves := Outcome.leaves_of_failed (Outcome.failed_of_failed? ended)
  have present : target.index < before.heap.size := by
    rw [size_eq]
    exact Nat.lt_add_of_pos_right (by decide)
  have there : properties.index < before.heap.size := by
    rw [size_eq]
    exact Nat.add_lt_add_left (by decide) _
  have passes : defining.PassesThrough 1 before middle := by
    have held : before.heap.lookup properties "x" =
        some (.accessor (some (.object ⟨start.heap.size + 3⟩))) := by decide +kernel
    have callable : (before.heap.function? (.object ⟨start.heap.size + 3⟩)).isSome = true := by decide +kernel
    have listed : (before.heap.object properties).properties.orderedKeys = [.string "x"] := by decide +kernel
    have shown : ((before.heap.object properties).latest? "x").all (·.enumerable) = true := by decide +kernel
    obtain ⟨⟨callee, code⟩, found⟩ := Option.isSome_iff_exists.mp callable
    have reading : (Run.get properties "x").PassesThrough 1 before middle :=
      Run.getFor_passesThrough sound there held found
        (Outcome.leaves_of_done (Outcome.done_of_done? ran))
    have entry : (Run.descriptorEntry properties "x").PassesThrough 1 before middle := by
      rw [Run.PassesThrough, Run.descriptorEntry, Run.ask_bind, if_pos shown]
      exact reading.bind
    have entries : (Run.defineAll target properties).PassesThrough 1 before middle := by
      rw [Run.PassesThrough, Run.defineAll, Run.ask_bind, listed, List.mapM_cons]
      exact entry.bind.bind
    exact entries.bind
  have inside : Within .script before.heap.size ({ scope := ⟨0⟩ } : Script.Context) := trivial
  have lawfulOperation : Within .script before.heap.size (Script.Operation.onProperty .defineAll) := by simp
  have given : Within .script before.heap.size [Value.object target, .object properties] :=
    within_cons.mpr ⟨present, within_cons.mpr ⟨there, within_nil⟩⟩
  obtain ⟨_, through⟩ := (integrity_levels_permanent _ _ reached unchanged).operation 1 _ _ _ inside
    lawfulOperation given after leaves
  obtain ⟨_, _, onwards⟩ := through middle passes
  exact ⟨reached, unchanged, taking, middle, after, passes, leaves, closed, onwards target, missing⟩

end ClassLowering
