import ClassLowering.Proofs.Construction.Declaration

/-!
# Construction does not depend on the host

Lowered classes that derive from each other are constructed alike on all hosts that link prototypes:
whether a super call constructs its base natively, by an imitation of that, or calls it, and whichever
way prototype links are reached.
-/

namespace ClassLowering

variable {profile : Profile} {classes : List MadeClass} {state declared after : State}
variable {target : MadeClass} {arguments : List Value} {result : ObjectId}

/-- What the construction of the most derived of some classes leads to. The properties of the instance
are what the classes write, from the base downwards, and every class that logs has logged the arguments
of the construction. -/
structure Constructed (classes : List MadeClass) (target : MadeClass) (arguments : List Value)
    (before after : State) (result : ObjectId) : Prop where
  chain : after.heap.chain result =
    some (result :: (classes.map MadeClass.prototype ++ [Intrinsic.objectPrototype.id]))
  prototypes : ∀ made ∈ classes,
    after.heap.Holds made.constructor "prototype" (.object made.prototype)
  instances : ∀ made ∈ classes, ∀ engine,
    Run.instanceOf (.object result) (.object made.constructor) engine after = .done true after
  properties : after.heap.object result =
    (Object.inheriting (some target.prototype)).written (MadeClass.entriesOf classes arguments)
  journal : after.journal = MadeClass.notesOf classes arguments ++ before.journal

/-- An instance that was initialized for the most derived class of a lineage is below all of it. -/
theorem Initialized.constructed (ready : Ready profile .plain classes state)
    (first : classes.head? = some target)
    (initialized : Initialized profile (.inheriting (some (Root.plain.aboveFor classes)))
      (MadeClass.notesOf classes arguments) (MadeClass.entriesOf classes arguments) state
      state.heap.next result after) :
    Constructed classes target arguments state after result := by
  obtain ⟨same, _⟩ := Run.first_stands ready.lineage first
  have readied := ready.evolves initialized.evolved
    (State.inert_of_new ready.untouched (Nat.le_refl _))
  have instanceMade : (after.heap.object result).Instance (Root.plain.aboveFor classes) := by
    rw [initialized.object_eq]
    exact (Object.instance_inheriting _).written _
  have ordinary := instanceMade.ordinary
  have top : after.heap.chain Intrinsic.objectPrototype.id = some [Intrinsic.objectPrototype.id] :=
    Heap.chain_of_unlinked readied.untouched.heap.objectPrototype_ordinary
      readied.untouched.heap.offers.objectPrototype
  refine ⟨?_, fun made member => ?_, fun made member engine => ?_, ?_, initialized.evolved.journal⟩
  · exact Heap.chain_of_links ordinary instanceMade.link (readied.lineage.chain_eq top)
  · obtain ⟨_, _, _, stands⟩ := readied.lineage.stands member
    exact stands.instances
  · obtain ⟨_, _, _, stands⟩ := readied.lineage.stands member
    exact Run.instanceOf_apply stands.kind stands.instances
      (readied.lineage.inherits_eq member ordinary instanceMade.link)
  · rw [same]
    exact initialized.object_eq

/-- On every host that links prototypes, classes that are declared in order, each one below the one before,
are constructed: for all arguments, the construction of the last one succeeds with an instance of all of
them, whose prototype chain consists of their prototype objects and `Object.prototype`, and every class
receives exactly the arguments. -/
theorem construction_host_independent (profile : Profile) (links : profile.Links)
    (untouched : state.Untouched profile) (outlines : List LoweredClass) (declares : outlines ≠ [])
    (free : ∀ outline ∈ outlines, outline.WritesFreely state.heap) (arguments : List Value)
    (few : arguments.length ≤ maxArguments) (depth : Nat)
    (deep : 3 * outlines.length ≤ depth + 2) :
    ∃ classes declared,
      classes.map MadeClass.outline = outlines.reverse ∧
      LoweredClass.declareOnto [] outlines (Engine.ofDepth depth) state =
        .done (classes.map fun made => .object made.constructor) declared ∧
      ∃ target result after,
        classes.head? = some target ∧
        Run.construct (.object target.constructor) arguments (Engine.ofDepth depth) declared =
          .done (.object result) after ∧
        Constructed classes target arguments declared after result := by
  have counts := List.length_pos_iff.mpr declares
  obtain ⟨shallow, rfl⟩ : ∃ shallow, depth = shallow + 1 :=
    Nat.exists_eq_succ_of_ne_zero (by omega)
  have rests : Root.plain.Rests profile := trivial
  obtain ⟨classes, target, declared, same, length_eq, first, ran, ready⟩ :=
    LoweredClass.declareOnto_ready links rests untouched declares free shallow
  obtain ⟨result, after, constructed, initialized⟩ := Run.construct_lineage links ready first
    (Object.instance_inheriting _) few (fun made _ deep _ => gives_plain made (Engine.ofDepth deep))
    (show 0 + 3 * classes.length ≤ shallow + 1 + 2 by omega)
  refine ⟨classes, declared, same, ?_, target, result, after, first, constructed,
    initialized.constructed ready first⟩
  simp only [Root.constructors_plain] at ran
  exact ran

/-- A base class and a class below it that both log and write an argument. -/
def pairOutlines : List LoweredClass :=
  [{ name := "Base", logs := true, writes := [("a", .argument 0)] },
    { name := "Derived"
      length := 2
      logs := true
      writes := [("b", .argument 1), ("a", .argumentCount)] }]

/-- The two classes are constructed where super calls construct their base natively. -/
theorem pair_constructed_natively :
    let profile := Preset.modern.profile
    let state := (Session.start profile).state
    let arguments : List Value := [.string "x", .null]
    profile.Links ∧ state.Untouched profile ∧
      (∀ outline ∈ pairOutlines, outline.WritesFreely state.heap) ∧
      arguments.length ≤ maxArguments ∧
      ∃ classes declared,
        classes.map MadeClass.outline = pairOutlines.reverse ∧
        LoweredClass.declareOnto [] pairOutlines (Engine.ofDepth 4) state =
          .done (classes.map fun made => .object made.constructor) declared ∧
        ∃ target result after,
          classes.head? = some target ∧
          Run.construct (.object target.constructor) arguments (Engine.ofDepth 4) declared =
            .done (.object result) after ∧
          Constructed classes target arguments declared after result := by
  intro profile state arguments
  have links : profile.Links := ⟨fun _ => rfl, .inl rfl⟩
  have untouched : state.Untouched profile := Session.start_untouched profile
  have few : arguments.length ≤ maxArguments := by decide
  have missing : ∀ outline ∈ pairOutlines, ∀ entry ∈ outline.writes,
      (state.heap.object Intrinsic.objectPrototype.id).property? entry.1 = none := by
    decide +kernel
  have free (outline : LoweredClass) (listed : outline ∈ pairOutlines) :
      outline.WritesFreely state.heap :=
    LoweredClass.writesFreely_of_missing untouched.heap (missing outline listed)
  exact ⟨links, untouched, free, few,
    construction_host_independent profile links untouched pairOutlines (List.cons_ne_nil _ _) free
      arguments few 4 (by decide)⟩

end ClassLowering
