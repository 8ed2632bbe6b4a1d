import ClassLowering.Proofs.Construction.Declaration

/-!
# Classes on the boxed booleans

Where native construction was found, `Boolean` is constructed by `Reflect.construct` for the most derived
class. If that is native, every chain of classes on `Boolean` constructs boxed booleans, whatever the
classes write on them. The search trusts an imitation that stands next to proxies, and this one gives
instances that no function of `Boolean.prototype` accepts.
-/

namespace ClassLowering

variable {profile : Profile} {heap : Heap} {state : State} {boolean prototype : ObjectId}
variable {valueOf : Value} {classes : List MadeClass} {root : Root} {target : MadeClass}
variable {arguments : List Value} {truth : Bool}

/-- What is constructed for `Boolean` takes every assignment, boxed or not. -/
theorem Profile.instance_constructedBoolean (profile : Profile) (arguments : List Value)
    (prototype : ObjectId) : (profile.constructedBoolean arguments prototype).Instance prototype := by
  rw [constructedBoolean]
  split
  · exact Object.instance_of_bare rfl rfl rfl rfl rfl
  · exact Object.instance_inheriting prototype

namespace Realm

/-- Classes can derive from `Boolean`. -/
theorem BooleanFound.base (found : BooleanFound heap boolean prototype valueOf)
    (untouched : Untouched profile heap) : heap.Base boolean prototype := by
  obtain ⟨callable, function, kind, _⟩ := Heap.kind_of_builtin? found.builtin
  have constructs : heap.Constructs boolean callable := ⟨function, by rw [kind]; exact nofun⟩
  exact ⟨⟨callable, constructs⟩, found.instances,
    .head found.passes (.single untouched.offers.functionPrototype_passes),
    .single found.prototype_passes⟩

theorem BooleanFound.booleanValueOf?_eq (found : BooleanFound heap boolean prototype valueOf) :
    heap.booleanValueOf? = some valueOf := by
  have above : heap.readFrom? (some (.object boolean)) "prototype" = some (.object prototype) :=
    found.instances
  rw [Heap.booleanValueOf?, found.global, above]
  exact found.inherited

/-- The function of untouched realms that asks boxed booleans for their values. -/
theorem boolean_found_at (untouched : Untouched profile heap)
    (global : heap.global? "Boolean" = some (.object boolean))
    (instances : heap.plainRead? boolean "prototype" = some (.object prototype)) :
    ∃ valueOf, ∀ heap, Untouched profile heap → BooleanFound heap boolean prototype valueOf := by
  obtain ⟨_, _, valueOf, found⟩ := boolean_found profile
  have here := found heap untouched
  cases here.global.symm.trans global
  cases here.instances.symm.trans instances
  exact ⟨valueOf, found⟩

end Realm

namespace Run

variable (found : ∀ heap, Realm.Untouched profile heap → Realm.BooleanFound heap boolean prototype valueOf)
include found

/-- As a base, `Boolean` gives what `Reflect.construct` makes of it for the most derived class. -/
theorem runsBase_boolean (links : profile.Links) (first : classes.head? = some target)
    (native : profile.constructsNatively = true) (few : arguments.length ≤ maxArguments)
    (depth : Nat) :
    RunsBase profile root classes (profile.constructedBoolean arguments (root.aboveFor classes))
      boolean arguments [] [] (depth + 2) := by
  intro state this ready fresh
  obtain ⟨asked, added, answered⟩ := hasNativeConstruct_apply ready.untouched depth
  obtain ⟨reflect, function, list, listed, more, builtin, made, called⟩ :=
    constructBase_calls links (ready.adds added).founded first (fresh.adds added) native
      (.object boolean) arguments
  have whole := added.trans more
  have kept := ready.adds whole
  obtain ⟨same, step, _, _, stands⟩ := first_stands kept.lineage first
  have constructs : listed.heap.Constructs target.constructor
    (target.outline.callable step target.scope) := ⟨stands.kind, nofun⟩
  have ran := call_reflectConstruct builtin kept.untouched found constructs stands.instances made few
    (.object reflect) depth
  rw [same] at ran
  let object := profile.constructedBoolean arguments (root.aboveFor classes)
  refine ⟨listed.heap.next, listed.making object, ?_, ?_, .inr whole.heap.size_le, ?_⟩
  · rw [runBase, bind_of_done answered, native]
    exact (called (depth + 1)).trans ran
  · exact (whole.trans (.making listed object)).evolves this
  · exact Heap.object_allocate_next listed.heap object

/-- A chain of classes on `Boolean` writes on what is constructed for `Boolean`. -/
theorem construct_below_boolean (links : profile.Links)
    (ready : Ready profile (.host boolean prototype) classes state)
    (first : classes.head? = some target) (native : profile.constructsNatively = true)
    (few : arguments.length ≤ maxArguments) {depth : Nat}
    (deep : 3 + 3 * classes.length ≤ depth + 2) :
    ∃ result after,
      construct (.object target.constructor) arguments (Engine.ofDepth depth) state =
          .done (.object result) after ∧
        (after.heap.object result).kind =
          (profile.constructedBoolean arguments target.prototype).kind ∧
        after.Untouched profile := by
  obtain ⟨same, _⟩ := first_stands ready.lineage first
  let root : Root := .host boolean prototype
  let seed := profile.constructedBoolean arguments (root.aboveFor classes)
  have seeds : seed.Instance (root.aboveFor classes) := profile.instance_constructedBoolean ..
  -- The lowest class takes what its super caller makes of `Boolean`.
  have rooted (lowest : MadeClass) (suffix : [lowest] <:+ classes) (level : Nat) (le : 3 ≤ level) :
      Gives profile root classes seed lowest (root.stepFor []) arguments [] []
        (Engine.ofDepth level) := by
    obtain ⟨shallow, rfl⟩ := Nat.exists_eq_add_of_le' le
    exact gives_super links suffix rfl (runsBase_boolean found links first native few shallow)
  obtain ⟨result, after, ran, made⟩ := construct_lineage links ready first seeds few rooted deep
  refine ⟨result, after, ran, ?_, ready.untouched.evolves made.evolved ready.untouched.heap.size_le⟩
  rw [made.object_eq, Object.kind_written, same]

/-- A boxed boolean gives its value. -/
theorem call_valueOf_boxed (untouched : state.Untouched profile) {id : ObjectId}
    (boxed : (state.heap.object id).kind = .boolean truth) (depth : Nat) :
    call valueOf (.object id) [] (Engine.ofDepth (depth + 1)) state =
      .done (.boolean truth) state := by
  obtain ⟨_, _, _, called⟩ := call_builtin (found _ untouched.heap).asks depth
  rw [called]
  exact bind_of_done (truthOf_boxed boxed "valueOf")

/-- An object of no kind has no value to give. -/
theorem call_valueOf_unboxed (untouched : state.Untouched profile) {id : ObjectId}
    (ordinary : (state.heap.object id).kind = .ordinary) (depth : Nat) :
    call valueOf (.object id) [] (Engine.ofDepth (depth + 1)) state =
      .failed (.fault (.notABoolean "valueOf")) state := by
  obtain ⟨_, _, _, called⟩ := call_builtin (found _ untouched.heap).asks depth
  rw [called]
  exact bind_of_failed (truthOf_unboxed ordinary "valueOf")

end Run

/-- Where the answer is yes and no imitation stands next to proxies, `Reflect.construct` is native. -/
theorem Profile.native_of_answered (untouched : state.Untouched profile)
    (genuine : profile.reflect = .polyfill → profile.proxy = false) {level : Nat} {asked : State}
    (answered : Run.hasNativeConstruct (Engine.ofDepth (level + 2)) state = .done true asked) :
    profile.reflect = .native ∧ profile.constructsNatively = true := by
  obtain ⟨_, _, same⟩ := Run.hasNativeConstruct_apply untouched level
  have native : profile.constructsNatively = true :=
    (Outcome.done.inj (same.symm.trans answered)).1
  refine ⟨?_, native⟩
  unfold Profile.constructsNatively at native
  cases support : profile.reflect with
  | native => rfl
  | polyfill =>
      rw [support] at native
      exact absurd native (by simp [genuine support])
  | absent | sham =>
      rw [support] at native
      cases native

/-- Classes that are declared on `Boolean` can be constructed. -/
theorem LoweredClass.declareOnto_boolean (links : profile.Links) (untouched : state.Untouched profile)
    (global : state.heap.global? "Boolean" = some (.object boolean))
    (instances : state.heap.plainRead? boolean "prototype" = some (.object prototype))
    {outlines : List LoweredClass} (declares : outlines ≠ [])
    (free : ∀ outline ∈ outlines, outline.WritesFreelyFrom state.heap prototype) (depth : Nat) :
    ∃ valueOf classes target declared,
      (∀ heap, Realm.Untouched profile heap →
        Realm.BooleanFound heap boolean prototype valueOf) ∧
      classes.map MadeClass.outline = outlines.reverse ∧ classes.length = outlines.length ∧
      classes.head? = some target ∧
      declareOnto [.object boolean] outlines (Engine.ofDepth (depth + 1)) state =
        .done (classes.map (fun made => .object made.constructor) ++ [.object boolean]) declared ∧
      Ready profile (.host boolean prototype) classes declared := by
  obtain ⟨valueOf, found⟩ := Realm.boolean_found_at untouched.heap global instances
  have rests : (Root.host boolean prototype).Rests profile := by
    intro heap untouched
    exact (found heap untouched).base untouched
  obtain ⟨classes, target, declared, same, length_eq, first, ran, ready⟩ :=
    declareOnto_ready links rests untouched declares free depth
  exact ⟨valueOf, classes, target, declared, found, same, length_eq, first, ran, ready⟩

/-- What the construction of a class on `Boolean` leads to: a boxed boolean, of which
`Boolean.prototype.valueOf` gives the value. -/
structure Boxes (truth : Bool) (result : ObjectId) (after : State) : Prop where
  boxed : (after.heap.object result).boolean? = some truth
  told : ∃ valueOf, after.heap.booleanValueOf? = some valueOf ∧ ∀ depth,
    Run.call valueOf (.object result) [] (Engine.ofDepth (depth + 1)) after =
      .done (.boolean truth) after

/-- If the host is found to construct natively, and what it offers is not an imitation next to proxies,
then every chain of classes that is declared on `Boolean` constructs boxed booleans: for all arguments
that a call may have, the result has the truth value of the first one. -/
theorem boolean_subclasses_boxed (profile : Profile) (links : profile.Links)
    (untouched : state.Untouched profile) {level : Nat} {asked : State}
    (answered : Run.hasNativeConstruct (Engine.ofDepth (level + 2)) state = .done true asked)
    (genuine : profile.reflect = .polyfill → profile.proxy = false)
    (global : state.heap.global? "Boolean" = some (.object boolean))
    (instances : state.heap.plainRead? boolean "prototype" = some (.object prototype))
    (outlines : List LoweredClass) (declares : outlines ≠ [])
    (free : ∀ outline ∈ outlines, outline.WritesFreelyFrom state.heap prototype) (depth : Nat)
    (deep : 3 + 3 * outlines.length ≤ depth + 2) :
    ∃ (classes : List MadeClass) (target : MadeClass) (declared : State),
      classes.map MadeClass.outline = outlines.reverse ∧ classes.head? = some target ∧
      LoweredClass.declareOnto [.object boolean] outlines (Engine.ofDepth depth) state =
        .done (classes.map (fun made => .object made.constructor) ++ [.object boolean]) declared ∧
      ∀ arguments : List Value, arguments.length ≤ maxArguments →
        ∃ result after,
          Run.construct (.object target.constructor) arguments (Engine.ofDepth depth) declared =
            .done (.object result) after ∧
          Boxes (arguments[0]?.getD Value.undefined).isTruthy result after := by
  have counts := List.length_pos_iff.mpr declares
  obtain ⟨shallow, rfl⟩ : ∃ shallow, depth = shallow + 1 :=
    Nat.exists_eq_succ_of_ne_zero (by omega)
  obtain ⟨native, trusted⟩ := Profile.native_of_answered untouched genuine answered
  obtain ⟨valueOf, classes, target, declared, found, same, length_eq, first, ran, ready⟩ :=
    LoweredClass.declareOnto_boolean links untouched global instances declares free shallow
  refine ⟨classes, target, declared, same, first, ran, ?_⟩
  intro arguments few
  obtain ⟨result, after, constructed, kind, kept⟩ :=
    Run.construct_below_boolean found links ready first trusted few (length_eq ▸ deep)
  have boxed : (after.heap.object result).kind =
      .boolean (arguments[0]?.getD Value.undefined).isTruthy := by
    rw [kind, Profile.constructedBoolean, if_pos native]
    rfl
  refine ⟨result, after, constructed, ?_, valueOf, (found _ kept.heap).booleanValueOf?_eq,
    Run.call_valueOf_boxed found kept boxed⟩
  rw [Object.boolean?, boxed]

/-- Two classes on `Boolean`, of which the second one writes. -/
def switchOutlines : List LoweredClass :=
  [{ name := "Flag" }, { name := "Switch", writes := [("settings", .argumentCount)] }]

/-- On a modern host a switch that is constructed with a text is a boxed `true`. -/
theorem switch_boxed :
    let profile := Preset.modern.profile
    let state := (Session.start profile).state
    profile.Links ∧ state.Untouched profile ∧
      state.heap.global? "Boolean" = some (.object ⟨26⟩) ∧
      state.heap.plainRead? ⟨26⟩ "prototype" = some (.object Intrinsic.booleanPrototype.id) ∧
      (∀ outline ∈ switchOutlines,
        outline.WritesFreelyFrom state.heap Intrinsic.booleanPrototype.id) ∧
      (∃ asked, Run.hasNativeConstruct (Engine.ofDepth 2) state = .done true asked) ∧
      ∃ (target : MadeClass) (declared : State) (result : ObjectId) (after : State),
        Run.construct (.object target.constructor) [.string "on"] (Engine.ofDepth 7) declared =
          .done (.object result) after ∧
        Boxes true result after := by
  intro profile state
  have links : profile.Links := ⟨fun _ => rfl, .inl rfl⟩
  have untouched : state.Untouched profile := Session.start_untouched profile
  obtain ⟨global, instances, passes, missing⟩ :
      state.heap.global? "Boolean" = some (.object ⟨26⟩) ∧
        state.heap.plainRead? ⟨26⟩ "prototype" = some (.object Intrinsic.booleanPrototype.id) ∧
        state.heap.Passes "settings" Intrinsic.booleanPrototype.id Intrinsic.objectPrototype.id ∧
        (state.heap.object Intrinsic.objectPrototype.id).property? "settings" = none := by
    decide +kernel
  have allowed : state.heap.assignment Intrinsic.booleanPrototype.id "settings" = some .write := by
    have written : LoweredClass.WritesFreely { writes := [("settings", .argumentCount)], name := "" }
        state.heap :=
      LoweredClass.writesFreely_of_missing untouched.heap (by simpa using missing)
    exact Heap.Clears.assignment_eq (.single passes) (written _ List.mem_cons_self)
  have free : ∀ outline ∈ switchOutlines,
      outline.WritesFreelyFrom state.heap Intrinsic.booleanPrototype.id := by
    simpa [switchOutlines, LoweredClass.WritesFreelyFrom] using allowed
  obtain ⟨asked, _, answered⟩ := Run.hasNativeConstruct_apply untouched 0
  obtain ⟨_, target, declared, _, _, _, boxes⟩ := boolean_subclasses_boxed profile links untouched
    answered nofun global instances switchOutlines (List.cons_ne_nil _ _) free 7 (by decide)
  obtain ⟨result, after, constructed, boxed⟩ := boxes [.string "on"] (by decide)
  exact ⟨links, untouched, global, instances, free, ⟨asked, answered⟩, target, declared, result,
    after, constructed, boxed⟩

/-- An imitation next to proxies is trusted all the same: whatever classes are declared on `Boolean`, what
they construct is not boxed, and has no value to give. -/
theorem imitated_boolean_unboxed (links : profile.Links) (untouched : state.Untouched profile)
    (imitated : profile.reflect = .polyfill) (proxies : profile.proxy = true)
    (global : state.heap.global? "Boolean" = some (.object boolean))
    (instances : state.heap.plainRead? boolean "prototype" = some (.object prototype))
    {outlines : List LoweredClass} (declares : outlines ≠ [])
    (free : ∀ outline ∈ outlines, outline.WritesFreelyFrom state.heap prototype) {depth : Nat}
    (deep : 3 + 3 * outlines.length ≤ depth + 3) :
    ∃ (classes : List MadeClass) (target : MadeClass) (declared : State),
      classes.map MadeClass.outline = outlines.reverse ∧ classes.head? = some target ∧
      LoweredClass.declareOnto [.object boolean] outlines (Engine.ofDepth (depth + 1)) state =
        .done (classes.map (fun made => .object made.constructor) ++ [.object boolean]) declared ∧
      ∀ arguments : List Value, arguments.length ≤ maxArguments →
        ∃ result after valueOf,
          Run.construct (.object target.constructor) arguments (Engine.ofDepth (depth + 1)) declared =
            .done (.object result) after ∧
          (after.heap.object result).boolean? = none ∧
          after.heap.booleanValueOf? = some valueOf ∧
          ∀ level, Run.call valueOf (.object result) [] (Engine.ofDepth (level + 1)) after =
            .failed (.fault (.notABoolean "valueOf")) after := by
  have trusted : profile.constructsNatively = true := by
    rw [Profile.constructsNatively, imitated]
    exact proxies
  obtain ⟨valueOf, classes, target, declared, found, same, length_eq, first, ran, ready⟩ :=
    LoweredClass.declareOnto_boolean links untouched global instances declares free depth
  refine ⟨classes, target, declared, same, first, ran, ?_⟩
  intro arguments few
  obtain ⟨result, after, constructed, kind, kept⟩ :=
    Run.construct_below_boolean found links ready first trusted few (length_eq ▸ deep)
  have foreign : profile.reflect ≠ .native := by
    rw [imitated]
    decide
  have ordinary : (after.heap.object result).kind = .ordinary := by
    rw [kind, Profile.constructedBoolean, if_neg foreign]
    rfl
  refine ⟨result, after, valueOf, constructed, ?_, (found _ kept.heap).booleanValueOf?_eq,
    Run.call_valueOf_unboxed found kept ordinary⟩
  rw [Object.boolean?, ordinary]

/-- A class on `Boolean` is constructed without a box where an imitation stands next to proxies, and not
at all with more arguments than a call may have. -/
theorem flag_not_boxed :
    let imitated : Profile := { Preset.modern.profile with reflect := .polyfill }
    let genuine : Profile := Preset.modern.profile
    let outlines : List LoweredClass := [{ name := "Flag" }]
    let overlong : List Value := List.replicate (maxArguments + 1) (.boolean true)
    imitated.Links ∧ (Session.start imitated).state.Untouched imitated ∧
      genuine.Links ∧ (Session.start genuine).state.Untouched genuine ∧
      (∃ asked boolean target declared result after valueOf,
        Run.hasNativeConstruct (Engine.ofDepth 2) (Session.start imitated).state = .done true asked ∧
        (Session.start imitated).state.heap.global? "Boolean" = some (.object boolean) ∧
        LoweredClass.declareOnto [.object boolean] outlines (Engine.ofDepth 4)
            (Session.start imitated).state = .done [.object target, .object boolean] declared ∧
        Run.construct (.object target) [.boolean true] (Engine.ofDepth 4) declared =
          .done (.object result) after ∧
        (after.heap.object result).boolean? = none ∧
        after.heap.booleanValueOf? = some valueOf ∧
        Run.call valueOf (.object result) [] (Engine.ofDepth 4) after =
          .failed (.fault (.notABoolean "valueOf")) after) ∧
      ∃ asked boolean target declared after,
        Run.hasNativeConstruct (Engine.ofDepth 2) (Session.start genuine).state = .done true asked ∧
        (Session.start genuine).state.heap.global? "Boolean" = some (.object boolean) ∧
        LoweredClass.declareOnto [.object boolean] outlines (Engine.ofDepth 4)
            (Session.start genuine).state = .done [.object target, .object boolean] declared ∧
        Run.construct (.object target) overlong (Engine.ofDepth 4) declared =
          .failed (.fault .tooManyArguments) after := by
  intro imitated genuine outlines overlong
  have imitated_links : imitated.Links := ⟨fun _ => rfl, .inl rfl⟩
  have genuine_links : genuine.Links := ⟨fun _ => rfl, .inl rfl⟩
  have declares : outlines ≠ [] := List.cons_ne_nil _ _
  have free (state : State) (prototype : ObjectId) :
      ∀ outline ∈ outlines, outline.WritesFreelyFrom state.heap prototype := by
    simp [outlines, LoweredClass.WritesFreelyFrom]
  have single {classes : List MadeClass} {target : MadeClass}
      (same : classes.map MadeClass.outline = outlines.reverse)
      (first : classes.head? = some target) : classes = [target] := by
    obtain ⟨above, rfl⟩ := List.head?_eq_some_iff.mp first
    have rest : above.map MadeClass.outline = [] := (List.cons.inj same).2
    rw [List.map_eq_nil_iff.mp rest]
  refine ⟨imitated_links, Session.start_untouched imitated, genuine_links,
    Session.start_untouched genuine, ?_, ?_⟩
  · have untouched := Session.start_untouched imitated
    obtain ⟨asked, _, answered⟩ := Run.hasNativeConstruct_apply untouched 0
    obtain ⟨boolean, prototype, _, found⟩ := Realm.boolean_found imitated
    have fresh := found _ untouched.heap
    obtain ⟨classes, target, declared, same, first, ran, unboxed⟩ :=
      imitated_boolean_unboxed imitated_links untouched rfl rfl fresh.global fresh.instances declares
        (free _ prototype) (show 3 + 3 * outlines.length ≤ 3 + 3 from Nat.le_refl _)
    cases single same first
    obtain ⟨result, after, valueOf, constructed, bare, asks, refused⟩ :=
      unboxed [.boolean true] (by decide)
    exact ⟨asked, boolean, target.constructor, declared, result, after, valueOf, answered,
      fresh.global, ran, constructed, bare, asks, refused 3⟩
  · have untouched := Session.start_untouched genuine
    obtain ⟨asked, _, answered⟩ := Run.hasNativeConstruct_apply untouched 0
    obtain ⟨boolean, prototype, _, found⟩ := Realm.boolean_found genuine
    have fresh := found _ untouched.heap
    obtain ⟨_, classes, target, declared, _, same, _, first, ran, ready⟩ :=
      LoweredClass.declareOnto_boolean genuine_links untouched fresh.global fresh.instances declares
        (free _ prototype) 3
    cases single same first
    have length_eq : overlong.length = maxArguments + 1 := List.length_replicate
    obtain ⟨after, refused⟩ := Run.construct_overlong genuine_links rfl
      (by rw [length_eq]; exact Nat.lt_succ_self _) ready rfl 0
    exact ⟨asked, boolean, target.constructor, declared, after, answered, fresh.global, ran, refused⟩

end ClassLowering
