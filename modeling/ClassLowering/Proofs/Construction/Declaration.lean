import ClassLowering.Proofs.Construction.Levels
import ClassLowering.Proofs.Construction.Linking
import ClassLowering.Proofs.Construction.Written

/-!
# Declarations of classes

A declaration makes objects and a scope, and leaves everything else alone. A lowered class goes below the
lineage of its base; a class with any constructor is one that other classes can derive from.
-/

namespace ClassLowering

open Script

namespace State

variable {state : State} {outline : LoweredClass} {instanceStep : Step} {scope : ScopeId}
variable {id prototype parent above : ObjectId}

/-- A class that is linked stands in a lineage. -/
theorem stands_of_linked
    (linked : state.heap.LinkedClass (outline.callable instanceStep scope) id prototype parent above) :
    state.Stands { outline, constructor := id, prototype, scope } instanceStep parent above :=
  have passes : state.heap.Passes "__proto__" prototype above := linked.prototype_passes (by decide)
  ⟨linked.kind, linked.instances, linked.passes, passes.ordinary, linked.back,
    fun _ other => linked.missing other, passes.links⟩

end State

/-- In an untouched realm other classes can derive from one that is linked to a root. -/
theorem Heap.LinkedClass.rests {profile : Profile} {root : Root} {heap : Heap} {callable : Callable}
    {id prototype : ObjectId}
    (linked : heap.LinkedClass callable id prototype (root.parentFor []) (root.aboveFor []))
    (normal : callable.kind = .normal) (rests : root.RestsOn profile heap) :
    (Root.host id prototype).RestsOn profile heap := by
  intro larger grown untouched
  have kept := linked.extends grown
  have stays := rests.extends grown
  exact ⟨⟨callable, kept.kind, by rw [normal]; exact nofun⟩,
    kept.instances.plainRead? (Heap.proxy?_of_function kept.kind),
    .head kept.passes (stays.parent_clears untouched),
    .head (kept.prototype_passes (by decide)) (stays.above_clears untouched)⟩

/-! ## Classes with any constructor -/

namespace WrittenClass

variable {profile : Profile} {state after : State} {written : WrittenClass} {engine : Engine}

/-- The constructor of a class is made, and assigned in the scope of the declaration. -/
theorem makeStep_apply (profile : Profile) (state : State) (written : WrittenClass) (engine : Engine)
    {scope : ScopeId} (new : scope = ⟨state.scopes.size⟩) :
    ∃ after,
      runStep { scope } written.makeStep engine (state.opening none) =
          .done (.next (.value (.object state.heap.next))) after ∧
        state.Evolves profile state.heap.next [] after ∧
        after.Binds scope "_class" (.object state.heap.next) ∧
        after.heap.MadeFunction (written.callable scope) state.heap.next ⟨state.heap.size + 1⟩ := by
  have normal : (written.callable scope).kind = .normal := rfl
  obtain ⟨heap, built, grown, made⟩ := Build.function_makes state.heap normal written.length
  have opened : state.Evolves profile state.heap.next [] (state.opening none) := .opening state none
  have evolved : state.Evolves profile state.heap.next [] { state.opening none with heap } :=
    opened.trans (.of_heap (grown.but _))
  have there : scope.index < (state.opening none).scopes.size := by
    simp [new, State.opening]
  refine ⟨_, runStep_makeFunction built, ?_, ?_, made⟩
  · exact evolved.assign (Nat.le_of_eq (congrArg ScopeId.index new).symm) _ _
  · exact State.binds_assign there

/-- The result of a declaration that runs through is the class in its scope. -/
theorem declare_of_ran {base : Option Value} {constructor : Value}
    (ran : runSteps { scope := ⟨state.scopes.size⟩ } (written.declaration base) engine
      (state.opening none) = .done none after)
    (binds : after.Binds ⟨state.scopes.size⟩ "_class" constructor) :
    written.declare base engine state = .done constructor after := by
  have opened : Run.openScope none engine state =
      .done ⟨state.scopes.size⟩ (state.opening none) := rfl
  rw [declare, Run.bind_of_done opened, Run.bind_of_done ran, ← State.readVariable_of_binds binds]
  rfl

/-- A class that derives from nothing is linked to the functions of the realm. -/
theorem declare_first (profile : Profile) (state : State) (written : WrittenClass) (engine : Engine) :
    ∃ id prototype scope after,
      written.declare none engine state = .done (.object id) after ∧
      state.Evolves profile state.heap.next [] after ∧
      after.heap.LinkedClass (written.callable scope) id prototype Intrinsic.functionPrototype.id
        Intrinsic.objectPrototype.id := by
  obtain ⟨after, ran, evolved, binds, made⟩ := makeStep_apply profile state written engine rfl
  refine ⟨state.heap.next, _, ⟨state.scopes.size⟩, after, declare_of_ran ?_ binds, evolved, made.linked⟩
  rw [declaration, runSteps_cons ran]
  rfl

/-- A class is linked by a step of its declaration. -/
theorem runStep_link {scope : ScopeId} {id base : ObjectId}
    (binds : state.Binds scope "_class" (.object id))
    (linked : Run.linkClass (.object id) (.object base) engine state = .done () after) :
    runStep { scope } (.perform (.onClass .link) [.named "_class", .value (.object base)] {}) engine
      state = .done (.next (.value .undefined)) after := by
  refine runStep_perform ?_
  have operands : Operand.evaluateAll { scope } state [.named "_class", .value (.object base)] =
      [.object id, .object base] := by
    rw [← State.readVariable_of_binds binds]
    rfl
  rw [operands]
  exact Run.bind_of_done linked

/-- The super caller of a class is made by a step of its declaration. -/
theorem runStep_superCaller {scope : ScopeId} {id : ObjectId}
    (binds : state.Binds scope "_class" (.object id)) :
    runStep { scope }
        (.perform (.onClass .superCaller) [.named "_class"] { result := some "_super" }) engine
        state =
      .done (.next (.value (.object state.heap.next)))
        ((state.withSuperCaller id).assign scope "_super" (.object state.heap.next)) := by
  refine runStep_perform ?_
  have operands : Operand.evaluateAll { scope } state [.named "_class"] = [.object id] := by
    rw [← State.readVariable_of_binds binds]
    rfl
  rw [operands]
  exact Run.bind_of_done (Run.makeSuperCaller_apply id engine state)

/-- A class that is declared on a base is linked to it, and its super caller is a variable of its scope. -/
theorem declare_derived (links : profile.Links) (untouched : state.Untouched profile)
    {base above : ObjectId} (stays : state.heap.StaysBase profile base above) (written : WrittenClass)
    (depth : Nat) :
    ∃ id prototype scope caller after,
      written.declare (some (.object base)) (Engine.ofDepth (depth + 1)) state =
        .done (.object id) after ∧
      state.Evolves profile state.heap.next [] after ∧
      after.heap.LinkedClass (written.callable scope) id prototype base above ∧
      after.Binds scope "_super" (.object caller) ∧
      (after.heap.object caller).kind = .function (Run.superCaller id) := by
  let scope : ScopeId := ⟨state.scopes.size⟩
  let id := state.heap.next
  have new : state.heap.size ≤ id.index := Nat.le_refl _
  obtain ⟨first, makes, evolved, binds, function⟩ :=
    makeStep_apply profile state written (Engine.ofDepth (depth + 1)) rfl
  -- The class is linked to its base.
  have kept := untouched.evolves evolved (Nat.le_trans untouched.heap.size_le new)
  have grown := evolved.heap.of_new new
  have clears := (stays state.heap (.refl _) untouched.heap).clears
  obtain ⟨⟨_, constructs⟩, instances, _, _⟩ := stays first.heap grown kept.heap
  obtain ⟨second, ran, changed, linked⟩ := Run.linkClass_apply kept links grown new untouched.heap
    clears function constructs.kind instances depth
  have joins := runStep_link binds ran
  replace binds := binds.congr (changed.scope_eq scope binds.index_lt)
  -- It gets a super caller.
  let called := second.withSuperCaller id
  let after := called.assign scope "_super" (.object second.heap.next)
  have added : second.Adds profile called := .withSuperCaller second id
  have whole : state.Evolves profile id [] after :=
    (evolved.trans (changed.trans (added.evolves id))).assign (Nat.le_refl _) _ _
  refine ⟨id, first.heap.next, scope, second.heap.next, after, ?_, whole, linked.extends added.heap,
    State.binds_assign binds.index_lt, Run.kind_superCaller id second⟩
  refine declare_of_ran ?_ (State.Binds.assign_ne binds (by decide) _)
  rw [declaration, runSteps_cons makes, runSteps_cons joins,
    runSteps_cons (runStep_superCaller binds)]
  rfl

/-- A class is declared on a root. -/
theorem declare_root {root : Root} (links : profile.Links) (untouched : state.Untouched profile)
    (rests : root.RestsOn profile state.heap) (written : WrittenClass) (depth : Nat) :
    ∃ id prototype scope after,
      written.declare (root.constructors []).head? (Engine.ofDepth (depth + 1)) state =
        .done (.object id) after ∧
      state.Evolves profile state.heap.next [] after ∧
      after.heap.LinkedClass (written.callable scope) id prototype (root.parentFor [])
        (root.aboveFor []) := by
  cases root with
  | plain => exact declare_first profile state written (Engine.ofDepth (depth + 1))
  | host base above =>
      obtain ⟨id, prototype, scope, _, after, declared, evolved, linked, _⟩ :=
        declare_derived links untouched rests written depth
      exact ⟨id, prototype, scope, after, declared, evolved, linked⟩

/-- Other classes can derive from the last of some classes that are declared in order. -/
theorem declareBelow_apply {root : Root} (links : profile.Links) (untouched : state.Untouched profile)
    (rests : root.RestsOn profile state.heap) (lower : List WrittenClass) (level : WrittenClass)
    (depth : Nat) :
    ∃ id prototype scope after,
      declareBelow (root.constructors []).head? (lower ++ [level]) (Engine.ofDepth (depth + 1)) state =
        .done (some (.object id)) after ∧
      state.Evolves profile state.heap.next [] after ∧
      (after.heap.object id).kind = .function (level.callable scope) ∧
      after.heap.Holds id "prototype" (.object prototype) ∧
      Founded profile (.host id prototype) [] after := by
  have outside := untouched.heap.size_le
  induction lower generalizing root state with
  | nil =>
      obtain ⟨id, prototype, scope, after, declared, evolved, linked⟩ :=
        declare_root links untouched rests level depth
      have kept := rests.extends (evolved.heap.of_new (Nat.le_refl _))
      exact ⟨id, prototype, scope, after, Run.bind_of_done declared, evolved, linked.kind,
        linked.instances, untouched.evolves evolved outside, linked.rests rfl kept, .nil⟩
  | cons written others ih =>
      obtain ⟨id, prototype, scope, middle, declared, evolved, linked⟩ :=
        declare_root links untouched rests written depth
      have kept := rests.extends (evolved.heap.of_new (Nat.le_refl _))
      have realmed := untouched.evolves evolved outside
      obtain ⟨last, above, inside, after, ran, later, found⟩ :=
        ih realmed (linked.rests rfl kept) realmed.heap.size_le
      exact ⟨last, above, inside, after, (Run.bind_of_done declared).trans ran,
        evolved.trans_place later (.inr evolved.heap.size_le), found⟩

end WrittenClass

/-! ## Lowered classes -/

namespace LoweredClass

variable {profile : Profile} {state : State} {root : Root} {classes : List MadeClass}

/-- A class that derives from nothing is a lineage of its own. -/
theorem declare_base (profile : Profile) (state : State) (outline : LoweredClass) (engine : Engine) :
    ∃ made after, made.outline = outline ∧
      outline.declare none engine state = .done (.object made.constructor) after ∧
      state.Evolves profile state.heap.next [] after ∧ after.Lineage .plain [made] := by
  obtain ⟨id, prototype, scope, after, declared, evolved, linked⟩ :=
    WrittenClass.declare_first profile state (outline.written plainStep) engine
  refine ⟨⟨outline, id, prototype, scope⟩, after, rfl, ?_, evolved,
    .cons (State.stands_of_linked linked) nofun .nil⟩
  rw [declare_none]
  exact declared

/-- A class that is declared on a base goes below the lineage of the base. -/
theorem declare_derived (links : profile.Links) (founded : Founded profile root classes state)
    (derives : root.stepFor classes = superStep) (outline : LoweredClass) (depth : Nat) :
    ∃ made after, made.outline = outline ∧
      outline.declare (some (.object (root.parentFor classes))) (Engine.ofDepth (depth + 1)) state =
        .done (.object made.constructor) after ∧
      state.Evolves profile state.heap.next [] after ∧ after.Lineage root (made :: classes) := by
  obtain ⟨id, prototype, scope, caller, after, declared, evolved, linked, binds, kind⟩ :=
    WrittenClass.declare_derived links founded.untouched (founded.staysBase derives)
      (outline.written superStep) depth
  have stands := State.stands_of_linked linked
  refine ⟨⟨outline, id, prototype, scope⟩, after, rfl, ?_, evolved, .cons (derives ▸ stands) ?_ ?_⟩
  · rw [declare_some]
    exact declared
  · exact fun _ => ⟨caller, Run.superCaller id, binds, kind, rfl, rfl⟩
  · exact founded.lineage.evolves evolved (State.inert_of_new founded.untouched (Nat.le_refl _))

/-- A class is declared below the classes that are there, or on the root. -/
theorem declare_apply (links : profile.Links) (founded : Founded profile root classes state)
    (outline : LoweredClass) (depth : Nat) :
    ∃ made after, made.outline = outline ∧
      outline.declare (root.constructors classes).head? (Engine.ofDepth (depth + 1)) state =
        .done (.object made.constructor) after ∧
      state.Evolves profile state.heap.next [] after ∧ Founded profile root (made :: classes) after := by
  have declares : ∃ made after, made.outline = outline ∧
      outline.declare (root.constructors classes).head? (Engine.ofDepth (depth + 1)) state =
        .done (.object made.constructor) after ∧
      state.Evolves profile state.heap.next [] after ∧ after.Lineage root (made :: classes) := by
    cases classes with
    | nil =>
        cases root with
        | plain => exact declare_base profile state outline (Engine.ofDepth (depth + 1))
        | host constructor prototype => exact declare_derived links founded rfl outline depth
    | cons base above => exact declare_derived links founded rfl outline depth
  obtain ⟨made, after, same, declared, evolved, lineage⟩ := declares
  have still := founded.evolves evolved (Nat.le_refl _)
  exact ⟨made, after, same, declared, evolved, still.untouched, still.rests, lineage⟩

/-- Classes that are declared in order are a lineage, the last one first. -/
theorem declareOnto_apply (links : profile.Links) (depth : Nat) (outlines : List LoweredClass)
    (founded : Founded profile root classes state) :
    ∃ made after, made.map MadeClass.outline = outlines.reverse ∧
      declareOnto (root.constructors classes) outlines (Engine.ofDepth (depth + 1)) state =
        .done (root.constructors (made ++ classes)) after ∧
      state.Evolves profile state.heap.next [] after ∧ Founded profile root (made ++ classes) after := by
  induction outlines generalizing state classes with
  | nil => exact ⟨[], state, rfl, rfl, .refl state, founded⟩
  | cons outline rest ih =>
      obtain ⟨one, middle, same, declared, evolved, extended⟩ :=
        declare_apply links founded outline depth
      obtain ⟨made, after, outlines_eq, went, later, ends⟩ := ih extended
      refine ⟨made ++ [one], after, ?_, ?_, ?_, ?_⟩
      · rw [List.map_append, outlines_eq, List.reverse_cons, List.map_singleton, same]
      · rw [declareOnto, Run.bind_of_done declared, List.append_assoc]
        exact went
      · exact evolved.trans_place later (.inr evolved.heap.size_le)
      · rw [List.append_assoc]
        exact ends

/-- The classes that are declared in order on a root. -/
theorem declareOnto_root (links : profile.Links) {outlines : List LoweredClass}
    (declares : outlines ≠ []) (founded : Founded profile root [] state) (depth : Nat) :
    ∃ classes target declared,
      classes.map MadeClass.outline = outlines.reverse ∧ classes.length = outlines.length ∧
      classes.head? = some target ∧
      declareOnto (root.constructors []) outlines (Engine.ofDepth (depth + 1)) state =
        .done (root.constructors classes) declared ∧
      state.Evolves profile state.heap.next [] declared ∧ Founded profile root classes declared := by
  obtain ⟨classes, declared, same, ran, evolved, stands⟩ := declareOnto_apply links depth outlines founded
  rw [List.append_nil] at ran stands
  have length_eq : classes.length = outlines.length := by
    have lengths := congrArg List.length same
    rwa [List.length_map, List.length_reverse] at lengths
  have some : classes ≠ [] := by
    rintro rfl
    exact declares (List.eq_nil_of_length_eq_zero length_eq.symm)
  obtain ⟨target, first⟩ := Option.isSome_iff_exists.mp (List.isSome_head?.mpr some)
  exact ⟨classes, target, declared, same, length_eq, first, ran, evolved, stands⟩

/-- Classes that are declared in an untouched realm can be constructed. -/
theorem declareOnto_ready (links : profile.Links) (rests : root.Rests profile)
    (untouched : state.Untouched profile) {outlines : List LoweredClass} (declares : outlines ≠ [])
    (free : ∀ outline ∈ outlines, outline.WritesFreelyFrom state.heap (root.aboveFor []))
    (depth : Nat) :
    ∃ classes target declared,
      classes.map MadeClass.outline = outlines.reverse ∧ classes.length = outlines.length ∧
      classes.head? = some target ∧
      declareOnto (root.constructors []) outlines (Engine.ofDepth (depth + 1)) state =
        .done (root.constructors classes) declared ∧
      Ready profile root classes declared := by
  obtain ⟨classes, target, declared, same, length_eq, first, ran, evolved, founded⟩ :=
    declareOnto_root links declares ⟨untouched, rests.on _, .nil⟩ depth
  refine ⟨classes, target, declared, same, length_eq, first, ran, founded.untouched, rests,
    founded.lineage, fun made member => ?_⟩
  have listed : made.outline ∈ outlines := by
    rw [← List.mem_reverse, ← same]
    exact List.mem_map_of_mem member
  exact (free _ listed).evolves untouched rests.index_lt evolved untouched.heap.size_le

end LoweredClass

end ClassLowering
