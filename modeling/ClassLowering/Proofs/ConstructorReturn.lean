import ClassLowering.Proofs.Construction.Declaration
import ClassLowering.Proofs.Construction.Returning

/-!
# Objects that constructors return

A constructor may return an object in place of its instance. However many classes derive from it, and
whichever way the host runs a base, this object is what the construction of the most derived class returns.
The classes below write on it, the nearest one first, or on the object that stands behind it if it is a
proxy. They change nothing else.
-/

namespace ClassLowering

open Script

variable {profile : Profile} {classes : List MadeClass} {state declared before : State}
variable {constructor prototype this result : ObjectId} {callable : Callable} {target : MadeClass}
variable {arguments : List Value} {newTarget : Option ObjectId}

/-- Where a constructor is called in the construction of a class below it: on a blank instance of this
class, which its guard lets pass, in an untouched realm where everything is as it was declared. -/
structure Reached (profile : Profile) (constructor prototype : ObjectId) (notes : List JournalEntry)
    (declared before : State) (this : ObjectId) : Prop where
  entered : Entered profile prototype notes declared declared.heap.next before this
  untouched : before.Untouched profile
  passes : before.heap.LetsPass constructor this

/-- The guard of the constructor at the top lets the instances of all classes below it pass. -/
theorem Founded.letsPass (founded : Founded profile (.host constructor prototype) classes state)
    (kind : (state.heap.object constructor).kind = .function callable)
    (instances : state.heap.Holds constructor "prototype" (.object prototype))
    (fresh : Fresh profile ((Root.host constructor prototype).aboveFor classes) state this) :
    state.heap.LetsPass constructor this := by
  have passes := fresh.blank.passes "__proto__"
  have clears : state.heap.Clears "__proto__" _ prototype := founded.lineage.above_clears (by decide)
  exact Heap.letsPass kind instances (clears.inherits_eq passes.ordinary passes.links)

/-- The classes below a constructor go on from it. -/
theorem Run.construct_reaches (links : profile.Links)
    (founded : Founded profile (.host constructor prototype) classes declared)
    (first : classes.head? = some target)
    (kind : (declared.heap.object constructor).kind = .function callable)
    (normal : callable.kind = .normal)
    (instances : declared.heap.Holds constructor "prototype" (.object prototype))
    (few : arguments.length ≤ maxArguments) :
    ∃ before this newTarget,
      Reached profile constructor target.prototype (MadeClass.notesOf classes arguments) declared before
        this ∧
      (construct (.object target.constructor) arguments).GoesOn declared
        (.constructing constructor callable this arguments newTarget) before
        (MadeClass.entriesOf classes arguments) (3 * classes.length + 1) := by
  obtain ⟨before, this, newTarget, entered, goes_on⟩ :=
    construct_enters links founded first few kind normal
  obtain ⟨same, _⟩ := first_stands founded.lineage first
  have still := entered.founded founded
  have kept := (entered.evolved.heap.of_new (Nat.le_refl _)).object_eq constructor
    (Heap.index_lt_of_kind kind nofun)
  have passes := still.letsPass (kept ▸ kind) (instances.congr kept) (same ▸ entered.fresh)
  exact ⟨before, this, newTarget, ⟨entered, still.untouched, passes⟩, goes_on⟩

/-! ## Objects of a constructor's own -/

/-- The step of a class that makes an object of its own in place of its instance. -/
def LoweredClass.ownStep : Step := .perform (.create .object) [] { result := some "_this" }

/-- A constructor with this step returns the new object, which takes what this class and those below it
write if nothing on `Object.prototype` took it over or withheld it. -/
theorem LoweredClass.run_own {notes : List JournalEntry} (untouched : state.Untouched profile)
    (evolved : state.Evolves profile state.heap.next [] declared)
    (reached : Reached profile constructor prototype notes declared before this)
    (outline : LoweredClass) (upper : List LoweredClass)
    (free : ∀ written ∈ outline :: upper, written.WritesFreely state.heap) (scope : ScopeId)
    (engine : Engine) :
    ∃ made given : State,
      (Frame.constructing constructor ((outline.written ownStep).callable scope) this arguments
          newTarget).run engine before = .done (.object before.heap.next) given ∧
      made.heap.object before.heap.next = .inheriting (some Intrinsic.objectPrototype.id) ∧
      made.heap.TakesEach before.heap.next
        (outline.entries arguments ++ upper.flatMap (·.entries arguments)) ∧
      made.Receives before.heap.next (outline.entries arguments) given := by
  let inner : ScopeId := ⟨before.scopes.size⟩
  let logged := (before.opening (some scope)).noting (outline.notes arguments)
  let made := logged.making (.inheriting (some Intrinsic.objectPrototype.id))
  have made_eq : made.heap.object before.heap.next =
    .inheriting (some Intrinsic.objectPrototype.id) := Heap.object_allocate_next ..
  -- Nothing has happened to `Object.prototype` up to here.
  have entered := evolved.trans_place reached.entered.evolved (.inr evolved.heap.size_le)
  have making : logged.Adds profile made := .making ..
  have whole := (entered.trans (.beginning ..)).trans (making.evolves state.heap.next)
  have takes : made.heap.TakesEach before.heap.next
      (outline.entries arguments ++ upper.flatMap (·.entries arguments)) := by
    refine Heap.TakesAlways.each fun entry listed => ?_
    have spread : entry ∈ (outline :: upper).flatMap (·.entries arguments) := listed
    obtain ⟨written, member, held⟩ := List.mem_flatMap.mp spread
    obtain ⟨write, writes, rfl⟩ := List.mem_map.mp held
    have still : written.WritesFreelyFrom made.heap Intrinsic.objectPrototype.id :=
      WritesFreelyFrom.evolves (free written member) untouched
        ((Realm.heap_sound profile).intrinsic .objectPrototype) whole untouched.heap.size_le
    exact Heap.takesAlways_instance (made_eq ▸ Object.instance_inheriting _) (still write writes)
  have here := (Heap.takesEach_append.mp takes).1
  let own : MadeClass := ⟨outline, constructor, prototype, scope⟩
  have gave : runStep (own.context ownStep this arguments newTarget inner) ownStep engine logged =
      .done (.next (.value (.object before.heap.next)))
        (made.assign inner "_this" (.object before.heap.next)) := runStep_perform rfl
  have there : before.scopes.size < made.scopes.size := by
    simp [made, logged, State.noting, State.opening, State.making]
  have passes : before.heap.LetsPass own.constructor this := reached.passes
  have ran : (own.frame ownStep this arguments newTarget).run engine before = _ :=
    body_ends passes gave there here
  exact ⟨made, _, ran, made_eq, takes, State.receives_concluding here inner⟩

/-! ## Constructions below any constructor -/

/-- Classes with any constructors are declared, each below the one before, and then lowered classes below
the last of them. On all hosts that link prototypes, the construction of the lowest class calls the last one
of those constructors. Where this fails the construction fails; where it returns an object the construction
returns this object, on which the lowered classes have written in order, if it takes what they write. -/
theorem returned_object_prevails (profile : Profile) (links : profile.Links)
    (untouched : state.Untouched profile) (lower : List WrittenClass) (level : WrittenClass)
    (upper : List LoweredClass) (derives : upper ≠ []) (depth : Nat) :
    ∃ (constructor : ObjectId) (scope : ScopeId) (placed : State) (classes : List MadeClass)
        (target : MadeClass) (declared : State),
      WrittenClass.declareBelow none (lower ++ [level]) (Engine.ofDepth (depth + 1)) state =
        .done (some (.object constructor)) placed ∧
      LoweredClass.declareOnto [.object constructor] upper (Engine.ofDepth (depth + 1)) placed =
        .done (classes.map (fun made => .object made.constructor) ++ [.object constructor]) declared ∧
      state.Evolves profile state.heap.next [] declared ∧
      classes.map MadeClass.outline = upper.reverse ∧ classes.head? = some target ∧
      ∀ arguments : List Value, arguments.length ≤ maxArguments →
        ∃ before this newTarget,
          Reached profile constructor target.prototype (MadeClass.notesOf classes arguments) declared
            before this ∧
          (Run.construct (.object target.constructor) arguments).GoesOn declared
            (.constructing constructor (level.callable scope) this arguments newTarget) before
            (upper.flatMap (·.entries arguments)) (3 * upper.length + 1) := by
  have rests : Root.plain.RestsOn profile state.heap := trivial
  obtain ⟨constructor, prototype, scope, placed, ran, evolved, kind, instances, founded⟩ :=
    WrittenClass.declareBelow_apply links untouched rests lower level depth
  obtain ⟨classes, target, declared, same, length_eq, first, onto, later, stands⟩ :=
    LoweredClass.declareOnto_root links derives founded depth
  have kept := (later.heap.of_new (Nat.le_refl _)).object_eq constructor
    (Heap.index_lt_of_kind kind nofun)
  refine ⟨constructor, scope, placed, classes, target, declared, ran, onto,
    evolved.trans_place later (.inr evolved.heap.size_le), same, first, fun arguments few => ?_⟩
  have entries_eq : MadeClass.entriesOf classes arguments = upper.flatMap (·.entries arguments) := by
    have reversed : classes.reverse.map MadeClass.outline = upper := by
      rw [List.map_reverse, same, List.reverse_reverse]
    rw [← reversed, List.flatMap_map]
    rfl
  rw [← entries_eq, ← length_eq]
  exact Run.construct_reaches links stands first (kept ▸ kind) rfl (instances.congr kept) few

/-- A base whose constructor makes an object of its own. -/
def ownBase : LoweredClass := { name := "Base", writes := [("replaced", .literal (.boolean true))] }

/-- Two levels below it. -/
def levelOutlines : List LoweredClass :=
  [{ name := "Derived", writes := [("level", .literal (.string "derived")), ("count", .argumentCount)] },
    { name := "Most", writes := [("level", .literal (.string "most"))] }]

/-- Where super calls call the base, the object of this base comes back from the levels below it, with what
they wrote. -/
theorem own_object_returned_below :
    let profile := Preset.es5.profile
    let state := (Session.start profile).state
    profile.Links ∧ state.Untouched profile ∧ levelOutlines ≠ [] ∧
    ∃ (constructor : ObjectId) (placed : State) (classes : List MadeClass) (target : MadeClass)
        (declared : State) (result : ObjectId) (after : State),
      WrittenClass.declareBelow none [ownBase.written LoweredClass.ownStep] (Engine.ofDepth 1) state =
        .done (some (.object constructor)) placed ∧
      LoweredClass.declareOnto [.object constructor] levelOutlines (Engine.ofDepth 1) placed =
        .done (classes.map (fun made => .object made.constructor) ++ [.object constructor]) declared ∧
      classes.map MadeClass.outline = levelOutlines.reverse ∧ classes.head? = some target ∧
      Run.construct (.object target.constructor) [.null] (Engine.ofDepth 7) declared =
        .done (.object result) after ∧
      declared.heap.size ≤ result.index ∧
      (after.heap.object result).prototype = some Intrinsic.objectPrototype.id ∧
      (after.heap.object result).HasValue "replaced" (.boolean true) ∧
      (after.heap.object result).HasValue "level" (.string "most") ∧
      (after.heap.object result).HasValue "count" (.number (Number.ofNat 1)) := by
  intro profile state
  have links : profile.Links := ⟨fun asked => absurd asked (by decide), .inr rfl⟩
  have untouched : state.Untouched profile := Session.start_untouched profile
  have derives : levelOutlines ≠ [] := List.cons_ne_nil _ _
  have missing : ∀ outline ∈ ownBase :: levelOutlines, ∀ entry ∈ outline.writes,
      (state.heap.object Intrinsic.objectPrototype.id).property? entry.1 = none := by
    decide +kernel
  have free (outline : LoweredClass) (listed : outline ∈ ownBase :: levelOutlines) :
      outline.WritesFreely state.heap :=
    LoweredClass.writesFreely_of_missing untouched.heap (missing outline listed)
  obtain ⟨constructor, scope, placed, classes, target, declared, ran, onto, evolved, same, first,
    goes⟩ := returned_object_prevails profile links untouched [] (ownBase.written LoweredClass.ownStep)
      levelOutlines derives 0
  obtain ⟨before, this, newTarget, reached, goes_on⟩ := goes [.null] (by decide)
  -- The base returns its object, which takes what the levels write.
  obtain ⟨made, given, own, made_eq, takes, receives⟩ := LoweredClass.run_own untouched evolved reached
    ownBase levelOutlines free scope (Engine.ofDepth 0)
  obtain ⟨after, constructed, later⟩ := goes_on.returned 0 _ given own (receives.takes takes)
  have whole := receives.trans later takes
  have itself : made.heap.resolve before.heap.next = before.heap.next :=
    Heap.resolve_of_ordinary (by rw [made_eq]; rfl)
  have carries := whole.carries
  rw [itself] at carries
  refine ⟨links, untouched, derives, constructor, placed, classes, target, declared, before.heap.next,
    after, ran, onto, same, first, constructed, reached.entered.evolved.heap.size_le, ?_,
    carries "replaced" _ (by decide), carries "level" _ (by decide), carries "count" _ (by decide)⟩
  rw [whole.links, made_eq]
  rfl

/-- A base that returns a proxy, without traps, for an object of its own. -/
def proxyBase : WrittenClass where
  name := "Base"
  body :=
    [.perform (.create .object) [] { result := some "target" },
      .perform (.create .object) [] { result := some "handler" },
      .perform (.create (.globalProperty "Proxy")) [] { result := some "Proxy" },
      .perform (.onFunction .construct) [.named "Proxy", .named "target", .named "handler"]
        { result := some "proxy" },
      .leave [.named "proxy"] {}]

/-- A level below it. -/
def levelOutline : LoweredClass := { name := "Derived", writes := [("level", .literal (.boolean true))] }

/-- The base and the level are declared, and each of them is constructed. -/
def proxyRun : Run (Value × Value) := do
  let base ← proxyBase.declare none
  let derived ← levelOutline.declare (some base)
  return (← Run.construct base [], ← Run.construct derived [])

/-- The level writes on the target of the proxy. That is another object than what it returns, and the base
itself leaves it without properties. -/
theorem returned_proxy_hands_on :
    let profile := Preset.modern.profile
    let state := (Session.start profile).state
    profile.Links ∧ state.Untouched profile ∧
    ∃ alone bare proxy target after,
      proxyRun (Engine.ofDepth 5) state = .done (.object alone, .object proxy) after ∧
      (after.heap.object alone).target? = some bare ∧
      (after.heap.object bare).property? "level" = none ∧
      (after.heap.object proxy).extensible = true ∧ (after.heap.object proxy).target? = some target ∧
      target ≠ proxy ∧ (after.heap.object proxy).property? "level" = none ∧
      (after.heap.object target).HasValue "level" (.boolean true) := by
  intro profile state
  let first := state.heap.size
  let alone : ObjectId := ⟨first + 9⟩
  let proxy : ObjectId := ⟨first + 15⟩
  have ended : (proxyRun (Engine.ofDepth 5) state).done?.any
      (fun (results, after) =>
        results = (.object alone, .object proxy) ∧
          (after.heap.object alone).target? = some ⟨first + 7⟩ ∧
          (after.heap.object ⟨first + 7⟩).property? "level" = none ∧
          (after.heap.object proxy).extensible = true ∧
          (after.heap.object proxy).target? = some ⟨first + 13⟩ ∧
          (after.heap.object proxy).property? "level" = none ∧
          (after.heap.object ⟨first + 13⟩).property? "level" =
            some { slot := .data (.boolean true) }) = true := by
    decide +kernel
  obtain ⟨⟨results, after⟩, ran, facts⟩ := (Option.any_eq_true _ _).mp ended
  obtain ⟨rfl, bare, unwritten, extensible, target, missing, written⟩ := of_decide_eq_true facts
  have apart : (⟨first + 13⟩ : ObjectId) ≠ proxy := by simp [proxy]
  exact ⟨⟨fun _ => rfl, .inl rfl⟩, Session.start_untouched profile, alone, _, proxy, _, after,
    Outcome.done_of_done? ran, bare, unwritten, extensible, target, apart, missing, _, written, rfl⟩

end ClassLowering
