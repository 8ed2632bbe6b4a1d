import ClassLowering.Proofs.Soundness.Step
import ClassLowering.Session
import Mathlib.Tactic.IntervalCases

/-!
# Fresh realms are sound

The heap of every host profile is built from objects that link to older ones only.
-/

namespace ClassLowering

open Bounded

variable {law : Law} {heap : Heap} {id : ObjectId} {key : PropertyKey}

/-- A sound heap in which every prototype link leads to an older object. -/
structure Heap.Founded (law : Law) (heap : Heap) : Prop where
  sound : heap.Sound law
  descends : ∀ id next, heap.Links id next → next.index < id.index

theorem Heap.acyclic_of_descends (descends : ∀ id next, heap.Links id next → next.index < id.index) :
    heap.Acyclic :=
  fun _ cycle => Nat.lt_irrefl _ (index_lt_of_descends descends cycle)

namespace Build

variable {α β : Type} [Bounded α] [Bounded β]

/-- A build on a founded heap leaves a founded heap, and its result is there. -/
structure Founds (law : Law) (heap : Heap) (build : Build α) : Prop where
  founded : (build heap).2.Founded law
  size_le : heap.size ≤ (build heap).2.size
  within : Within law (build heap).2.size (build heap).1

theorem founds_pure (founded : heap.Founded law) {result : α} (within : Within law heap.size result) :
    Founds law heap (pure result : Build α) := ⟨founded, Nat.le_refl _, within⟩

theorem founds_bind_result {first : Build α} {rest : α → Build β} (before : Founds law heap first)
    (later : Founds law (first heap).2 (rest (first heap).1)) : Founds law heap (first >>= rest) :=
  ⟨later.founded, Nat.le_trans before.size_le later.size_le, later.within⟩

theorem founds_bind {first : Build α} {rest : α → Build β} (before : Founds law heap first)
    (after : ∀ result larger, larger.Founded law → heap.size ≤ larger.size →
      Within law larger.size result → Founds law larger (rest result)) :
    Founds law heap (first >>= rest) :=
  founds_bind_result before (after _ _ before.founded before.size_le before.within)

theorem founds_forM {γ : Type} {items : List γ} {body : γ → Build Unit} (founded : heap.Founded law)
    (each : ∀ item ∈ items, ∀ larger, larger.Founded law → heap.size ≤ larger.size →
      Founds law larger (body item)) : Founds law heap (items.forM body) := by
  induction items generalizing heap with
  | nil => exact founds_pure founded trivial
  | cons item rest ih =>
      refine founds_bind (each item (.head _) heap founded (Nat.le_refl _)) fun _ larger grown le _ => ?_
      exact ih grown fun other listed largest again further =>
        each other (.tail _ listed) largest again (Nat.le_trans le further)

theorem founds_of_grows (founded : heap.Founded law) {build : Build α}
    (grows : Grows law heap heap build) : Founds law heap build := by
  refine ⟨⟨grows.grown.sound founded.sound, fun id next linked => ?_⟩, grows.grown.size_le, grows.within⟩
  rcases Nat.lt_or_ge id.index heap.size with old | new
  · rw [Heap.Links, grows.grown.object_eq id old] at linked
    exact founded.descends id next linked
  · exact grows.grown.descends id next new linked

/-- Of the properties of an object, the law protects the prototype object of a constructor of errors. -/
theorem founds_setProperty (founded : heap.Founded law) (present : id.index < heap.size)
    {property : Property} (within : Within law heap.size property) (differs : key ≠ "prototype") :
    Founds law heap (setProperty id key property) := by
  have equipped (asked : law.writes = false) (makes : (heap.object id).kind.makesErrors = true) :
      ((heap.object id).setProperty key property).fixedPrototype?.isSome = true := by
    rw [Object.fixedPrototype?_setProperty differs]
    exact (founded.sound.within id).2.2.2.equipped asked makes
  refine ⟨⟨founded.sound.setProperty present within equipped, fun other next linked => ?_⟩,
    Nat.le_of_eq (Heap.size_modify ..).symm, trivial⟩
  change ((heap.modify id (·.setProperty key property)).object other).prototype = some next at linked
  rw [Heap.object_modify heap id other _ present] at linked
  split at linked
  · next same => exact founded.descends other next (same ▸ linked)
  · exact founded.descends other next linked

theorem founds_installMethod (founded : heap.Founded law) (present : id.index < heap.size)
    (name : String) (length : Nat) (builtin : Builtin) (differs : (name : PropertyKey) ≠ "prototype")
    (plain : builtin ≠ .errorConstructor) :
    Founds law heap (installMethod id name length builtin) := by
  unfold installMethod
  refine founds_bind (founds_of_grows founded (method_grows founded.sound name length builtin
    within_nil fun _ => plain)) fun method larger grown le there => ?_
  refine founds_bind (founds_setProperty grown (Nat.lt_of_lt_of_le present le) there differs)
    fun _ largest final further _ => ?_
  exact founds_pure final (there.mono further)

/-- The function object of a constructor of the host. -/
def constructorObject (name : String) (length : Nat) (builtin : Builtin) (prototype : ObjectId) : Object where
  prototype := some Intrinsic.functionPrototype.id
  kind := .function { name, kind := .builtinConstructor, code := .builtin builtin }
  properties :=
    ((Table.empty.insert "length"
        { slot := .data (.number (Number.ofNat length)), writable := false, enumerable := false }).insert
      "name" { slot := .data (.string name), writable := false, enumerable := false }).insert
      "prototype"
        { slot := .data (.object prototype), writable := false, enumerable := false, configurable := false }

/-- A constructor might as well be there with all its properties from the start. -/
theorem constructor_eq (name : String) (length : Nat) (builtin : Builtin) (prototype : ObjectId) :
    constructor name length builtin prototype = do
      let function ← allocate (constructorObject name length builtin prototype)
      setProperty prototype "constructor" (.hidden (.object function))
      return function := by
  funext heap
  change (heap.next, ((((heap.allocate _).2.setProperty heap.next _ _).setProperty heap.next _ _).setProperty
    heap.next _ _).setProperty prototype _ _) = _
  simp only [Heap.setProperty_allocate]
  rfl

/-- With its prototype object, a constructor keeps to every law. -/
theorem within_constructorObject (sound : heap.Sound law) (present : id.index < heap.size)
    (name : String) (length : Nat) (builtin : Builtin) :
    Within law heap.size (constructorObject name length builtin id) := by
  have table : Within law heap.size (constructorObject name length builtin id).properties := by
    unfold constructorObject
    refine Table.within_insert (Table.within_insert (Table.within_insert Table.within_empty ?_) ?_) ?_
    · trivial
    · trivial
    · exact present
  have equipped : (constructorObject name length builtin id).fixedPrototype? = some id := by
    rw [constructorObject, Object.fixedPrototype?, Object.property?, Table.get?_insert, if_pos rfl]
  refine ⟨table, sound.intrinsic .functionPrototype, ⟨trivial, within_nil⟩, fun _ => rfl, fun _ _ => ?_⟩
  rw [equipped]
  rfl

theorem founds_constructor (founded : heap.Founded law) (present : id.index < heap.size)
    (name : String) (length : Nat) (builtin : Builtin) :
    Founds law heap (constructor name length builtin id) := by
  rw [constructor_eq]
  refine founds_bind (founds_of_grows founded (allocate_grows
    (within_constructorObject founded.sound present name length builtin)
    fun proxied => absurd rfl proxied)) fun function first grown le there => ?_
  refine founds_bind (founds_setProperty grown (Nat.lt_of_lt_of_le present le) there (by decide))
    fun _ last final further _ => ?_
  exact founds_pure final (there.mono further)

theorem founds_defineGlobal (founded : heap.Founded law) (name : String) {value : Value}
    (within : Within law heap.size value) (differs : (name : PropertyKey) ≠ "prototype") :
    Founds law heap (defineGlobal name value) :=
  founds_setProperty founded (founded.sound.intrinsic .global) within differs

end Build

namespace Realm

open Build

theorem founds_whenever (founded : heap.Founded law) (offered : Bool) {build : Build Unit}
    (founds : Founds law heap build) : Founds law heap (whenever offered build) := by
  unfold whenever
  split
  · exact founds
  · exact founds_pure founded trivial

theorem founds_installMethods (founded : heap.Founded law) (present : id.index < heap.size)
    (methods : List (String × Nat × Builtin))
    (plain : ∀ method ∈ methods,
      (method.1 : PropertyKey) ≠ "prototype" ∧ method.2.2 ≠ .errorConstructor) :
    Founds law heap (installMethods id methods) := by
  refine founds_forM founded fun method listed larger grown le => ?_
  have differs := plain method listed
  exact founds_bind (founds_installMethod grown (Nat.lt_of_lt_of_le present le) _ _ _ differs.1 differs.2)
    fun _ _ final _ _ => founds_pure final trivial

theorem founds_installLinkAccessor (founded : heap.Founded law) :
    Founds law heap installLinkAccessor := by
  unfold installLinkAccessor
  refine founds_bind (founds_of_grows founded (method_grows founded.sound _ _ _ within_nil fun _ => nofun))
    fun getter first grown _ getterThere => ?_
  refine founds_bind (founds_of_grows grown (method_grows grown.sound _ _ _ within_nil fun _ => nofun))
    fun setter second final le setterThere => ?_
  refine founds_setProperty final (final.sound.intrinsic .objectPrototype) ?_ (by decide)
  exact ⟨⟨getterThere.mono le, nofun⟩, setterThere, nofun⟩

theorem founds_installObject (founded : heap.Founded law) (profile : Profile) :
    Founds law heap (installObject profile) := by
  unfold installObject
  refine founds_bind (founds_constructor founded (founded.sound.intrinsic .objectPrototype) _ _ _)
    fun constructor heap₁ founded₁ _ there => ?_
  refine founds_bind (founds_whenever founded₁ _ (founds_installMethods founded₁ there _ (by decide)))
    fun _ heap₂ founded₂ le₂ _ => ?_
  replace there := there.mono le₂
  refine founds_bind (founds_whenever founded₂ _ (founds_installMethods founded₂ there _ (by decide)))
    fun _ heap₃ founded₃ le₃ _ => ?_
  replace there := there.mono le₃
  refine founds_bind (founds_installMethods founded₃ there _ (by decide)) fun _ heap₄ founded₄ le₄ _ => ?_
  refine founds_bind (founds_installMethods founded₄ (founded₄.sound.intrinsic .objectPrototype) _
    (by decide))
    fun _ heap₅ founded₅ le₅ _ => ?_
  refine founds_bind (founds_whenever founded₅ _ (founds_installLinkAccessor founded₅))
    fun _ heap₆ founded₆ le₆ _ => ?_
  exact founds_defineGlobal founded₆ _ (there.mono (Nat.le_trans le₄ (Nat.le_trans le₅ le₆))) (by decide)

theorem founds_setLink (founded : heap.Founded law) (present : id.index < heap.size)
    (ordinary : (heap.object id).proxy? = none) {parent : Option ObjectId}
    (older : ∀ next, parent = some next → next.index < id.index) :
    Founds law heap (modify (·.setLink id parent)) := by
  have descends (other next : ObjectId) (linked : (heap.setLink id parent).Links other next) :
      next.index < other.index := by
    rw [Heap.links_setLink present] at linked
    split at linked
    · next same => exact same ▸ older next linked
    · exact founded.descends other next linked
  have within : Within law heap.size parent := by
    cases parent with
    | none => trivial
    | some next => exact Nat.lt_trans (older next rfl) present
  exact ⟨⟨founded.sound.setLink_of_acyclic present ordinary (Heap.acyclic_of_descends descends) within,
    descends⟩, Nat.le_of_eq (Heap.size_modify ..).symm, trivial⟩

theorem kind_setProperty (heap : Heap) (id other : ObjectId) (key : PropertyKey)
    (property : Property) :
    ((heap.setProperty id key property).object other).kind = (heap.object other).kind :=
  Heap.kind_modify heap id other fun _ => rfl

/-- A new constructor is a function that is younger than all that was there. -/
theorem constructor_ordinary (heap : Heap) (name : String) (length : Nat) (builtin : Builtin)
    (prototype : ObjectId) :
    ((Build.constructor name length builtin prototype heap).2.object heap.next).proxy? = none := by
  rw [constructor_eq]
  change (((heap.allocate _).2.setProperty _ _ _).object heap.next).proxy? = none
  rw [Object.proxy?, kind_setProperty, Heap.object_allocate_next]
  rfl

theorem founds_installErrorClass (founded : heap.Founded law) (errorClass : ErrorClass)
    {parent : Option ObjectId} (there : Within law heap.size parent) :
    Founds law heap (installErrorClass errorClass parent) := by
  unfold installErrorClass
  have prototype := founded.sound.intrinsic (.errorPrototype errorClass)
  have constructed := founds_constructor founded prototype errorClass.name 1 .errorConstructor
  refine founds_bind_result constructed ?_
  have ordinary := constructor_ordinary heap errorClass.name 1 .errorConstructor
    (Intrinsic.errorPrototype errorClass).id
  have older (next : ObjectId) (named : parent = some next) : next.index < heap.next.index := by
    rw [named] at there
    exact there
  refine founds_bind (founds_whenever constructed.founded _
    (founds_setLink constructed.founded constructed.within ordinary older))
    fun _ heap₁ founded₁ le₁ _ => ?_
  have constructorThere := constructed.within.mono le₁
  have prototypeThere := founded₁.sound.intrinsic (.errorPrototype errorClass)
  refine founds_bind (founds_setProperty founded₁ prototypeThere trivial (by decide))
    fun _ heap₂ founded₂ le₂ _ => ?_
  refine founds_bind (founds_setProperty founded₂ (prototypeThere.mono le₂) trivial (by decide))
    fun _ heap₃ founded₃ le₃ _ => ?_
  replace constructorThere := constructorThere.mono (Nat.le_trans le₂ le₃)
  refine founds_bind (founds_defineGlobal founded₃ _ constructorThere (by cases errorClass <;> decide))
    fun _ heap₄ founded₄ le₄ _ => ?_
  exact founds_pure founded₄ (constructorThere.mono le₄)

theorem founds_installErrors (founded : heap.Founded law) : Founds law heap installErrors := by
  unfold installErrors
  refine founds_bind (founds_installErrorClass founded .error trivial)
    fun parent heap₁ founded₁ _ there => ?_
  refine founds_bind (founds_installErrorClass founded₁ .typeError there)
    fun _ heap₂ founded₂ le₂ _ => ?_
  replace there := there.mono le₂
  refine founds_bind (founds_installErrorClass founded₂ .referenceError there)
    fun _ heap₃ founded₃ le₃ _ => ?_
  refine founds_bind (founds_installErrorClass founded₃ .rangeError (there.mono le₃))
    fun _ heap₄ founded₄ _ _ => ?_
  exact founds_pure founded₄ trivial

theorem founds_installBoolean (founded : heap.Founded law) : Founds law heap installBoolean := by
  unfold installBoolean
  refine founds_bind (founds_constructor founded (founded.sound.intrinsic .booleanPrototype) _ _ _)
    fun constructor heap₁ founded₁ _ there => ?_
  refine founds_bind (founds_installMethods founded₁ (founded₁.sound.intrinsic .booleanPrototype) _
    (by decide))
    fun _ heap₂ founded₂ le₂ _ => ?_
  exact founds_defineGlobal founded₂ _ (there.mono le₂) (by decide)

theorem founds_installReflect (founded : heap.Founded law) (support : ReflectSupport) :
    Founds law heap (installReflect support) := by
  refine founds_whenever founded _ ?_
  refine founds_bind (founds_of_grows founded (plainObject_grows founded.sound))
    fun reflect heap₁ founded₁ _ there => ?_
  refine founds_bind (founds_installMethod founded₁ there _ _ _ (by decide) (by cases support <;> nofun))
    fun construct heap₂ founded₂ le₂ constructThere => ?_
  refine founds_bind (founds_whenever founded₂ _
    (founds_setProperty founded₂ constructThere trivial (by decide))) fun _ heap₃ founded₃ le₃ _ => ?_
  replace there := there.mono (Nat.le_trans le₂ le₃)
  refine founds_bind (founds_installMethods founded₃ there _ (by decide)) fun _ heap₄ founded₄ le₄ _ => ?_
  exact founds_defineGlobal founded₄ _ (there.mono le₄) (by decide)

theorem founds_installProxy (founded : heap.Founded law) (offered : Bool) :
    Founds law heap (installProxy offered) := by
  refine founds_whenever founded _ ?_
  refine founds_bind (founds_of_grows founded (plainObject_grows founded.sound))
    fun prototype heap₁ founded₁ _ there => ?_
  refine founds_bind (founds_constructor founded₁ there _ _ _)
    fun constructor heap₂ founded₂ _ constructorThere => ?_
  exact founds_defineGlobal founded₂ _ constructorThere (by decide)

theorem founds_install (founded : heap.Founded law) (profile : Profile) :
    Founds law heap (install profile) := by
  unfold install
  refine founds_bind (founds_installMethods founded (founded.sound.intrinsic .functionPrototype) _
    (by decide))
    fun _ _ founded₁ _ _ => ?_
  refine founds_bind (founds_installObject founded₁ profile) fun _ _ founded₂ _ _ => ?_
  refine founds_bind (founds_installErrors founded₂) fun _ _ founded₃ _ _ => ?_
  refine founds_bind (founds_installBoolean founded₃) fun _ _ founded₄ _ _ => ?_
  refine founds_bind (founds_installReflect founded₄ _) fun _ _ founded₅ _ _ => ?_
  refine founds_bind (founds_installProxy founded₅ _) fun _ _ founded₆ _ _ => ?_
  exact founds_defineGlobal founded₆ _ (founded₆.sound.intrinsic .global) (by decide)

/-- An intrinsic object has no properties and is no proxy, and it links to an older one if to any. -/
theorem skeleton_object (id : ObjectId) :
    ∃ prototype kind, skeleton.object id = { prototype, kind } ∧
      (kind = .ordinary ∨ kind = .boolean false) ∧ ∀ next, prototype = some next → next.index < id.index := by
  by_cases present : id.index < skeleton.size
  · obtain ⟨index⟩ := id
    change index < 9 at present
    interval_cases index
    all_goals
      refine ⟨_, _, rfl, by simp, fun next linked => ?_⟩
      cases linked <;> decide
  · exact ⟨none, .ordinary, Heap.object_of_size_le (Nat.le_of_not_lt present), .inl rfl, nofun⟩

theorem founded_skeleton : skeleton.Founded law := by
  have descends (id next : ObjectId) (linked : skeleton.Links id next) : next.index < id.index := by
    obtain ⟨prototype, kind, object_eq, _, older⟩ := skeleton_object id
    rw [Heap.Links, object_eq] at linked
    exact older next linked
  have ordinary (id : ObjectId) : (skeleton.object id).proxy? = none := by
    obtain ⟨prototype, kind, object_eq, kinds, _⟩ := skeleton_object id
    rw [object_eq]
    rcases kinds with rfl | rfl <;> rfl
  refine ⟨⟨by decide, fun id => ?_, fun id proxied => absurd (ordinary id) proxied,
    fun id target linked => ?_, Heap.acyclic_of_descends descends⟩, descends⟩
  · obtain ⟨prototype, kind, object_eq, kinds, older⟩ := skeleton_object id
    rw [object_eq]
    refine within_object Table.within_empty ?_ ?_ ?_
    · cases linked : prototype with
      | none => trivial
      | some next =>
          have present : id.index < skeleton.size :=
            Heap.index_lt_of_prototype (by rw [object_eq, linked])
          exact Nat.lt_trans (older next linked) present
    · rcases kinds with rfl | rfl <;> trivial
    · rcases kinds with rfl | rfl <;> exact fun _ => rfl
  · rw [Heap.target?_of_ordinary (ordinary id)] at linked
    cases linked

theorem founds_heap (law : Law) (profile : Profile) : (Realm.heap profile).Founded law := by
  rw [heap]
  exact (founds_install founded_skeleton profile).founded

theorem founds_installHelpers (founded : heap.Founded law) (marked : List Helper) :
    Founds law heap (installHelpers marked) := by
  refine founds_forM founded fun helper _ larger grown _ => ?_
  refine founds_bind (founds_of_grows grown (method_grows grown.sound _ _ _ within_nil fun _ => nofun))
    fun function last final _ there => ?_
  exact founds_defineGlobal final _ there (by cases helper <;> decide)

end Realm

namespace Session

/-- A session starts in a sound state. -/
theorem start_sound (law : Law) (profile : Profile) : (start profile).state.Sound law := by
  refine ⟨(Realm.founds_heap law profile).sound, fun scope member => ?_⟩
  unfold start at member
  cases Array.not_mem_empty scope member

/-- The state of a fresh realm with the helpers that a program marks. -/
def prepared (profile : Profile) (marked : List Helper) : State :=
  { heap := (Build.installHelpers marked (Realm.heap profile)).2 }

theorem prepared_sound (law : Law) (profile : Profile) (marked : List Helper) :
    (prepared profile marked).Sound law := by
  refine ⟨(Realm.founds_installHelpers (Realm.founds_heap law profile) marked).founded.sound,
    fun scope member => ?_⟩
  unfold prepared at member
  cases Array.not_mem_empty scope member

end Session

end ClassLowering
