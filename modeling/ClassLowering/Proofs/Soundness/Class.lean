import ClassLowering.Builtin.Dispatch
import ClassLowering.Proofs.Soundness.Access

/-!
# Sound helpers of lowered classes

The portable prototype link, the members and the linking of classes, their constructors and their super
calls. What a realm finds out about its host is found once: the caches are only filled.
-/

namespace ClassLowering

open Bounded

namespace Heap

variable {law : Law} {heap : Heap}

theorem Sound.within_globalObject (sound : heap.Sound law) :
    Within law heap.size heap.globalObject :=
  within_getD (sound.within_storedValue _ _) trivial

theorem Sound.within_objectFunction? (sound : heap.Sound law) (name : String) :
    Within law heap.size (heap.objectFunction? name) := by
  unfold objectFunction?
  split
  · next id _ =>
    have within := sound.within_storedValue id name
    cases found : heap.storedValue id name with
    | none => trivial
    | some function =>
        rw [found] at within
        rw [Option.filter_some]
        split
        · exact within
        · trivial
  · trivial

end Heap

namespace Caches

theorem kept_refl {α : Type} (answer : Option α) : Kept answer answer := fun _ found => found

theorem kept_getD {α : Type} (answer : Option α) (found : α) : Kept answer (some (answer.getD found)) := by
  rintro _ rfl
  rfl

end Caches

namespace Run

variable {law : Law} {engine : Engine} {state : State} (machine : engine.Sound law)
  (sound : state.Sound law) {id : ObjectId} {key : PropertyKey} {value receiver this : Value}
  {arguments : List Value}

include machine sound

/-! ## The portable prototype link -/

omit machine in
theorem lookupStrategy_sound : SoundAt law engine state lookupStrategy :=
  sound_of_change sound (fun _ => rfl) (.caches ⟨Caches.kept_getD _ _, Caches.kept_refl _, Caches.kept_refl _⟩) trivial

omit machine in
theorem writerStrategy_sound : SoundAt law engine state writerStrategy :=
  sound_of_change sound (fun _ => rfl) (.caches ⟨Caches.kept_refl _, Caches.kept_getD _ _, Caches.kept_refl _⟩) trivial

theorem askedPrototypeOf_sound {this : Value} (called : Within law state.heap.size this)
    (there : Within law state.heap.size value) :
    SoundAt law engine state (askedPrototypeOf this value) := by
  unfold askedPrototypeOf
  refine sound_ask ?_
  split
  · exact call_sound machine sound called (within_cons.mpr ⟨there, within_nil⟩)
  · exact sound_pure sound trivial

theorem getPrototypeOf_sound (there : Within law state.heap.size value) :
    SoundAt law engine state (getPrototypeOf value) := by
  unfold getPrototypeOf
  refine sound_ask (sound_bind (lookupStrategy_sound sound) fun strategy next leads _ => ?_)
  have called := leads.keeps sound.heap.within_globalObject
  replace there := leads.keeps there
  cases strategy with
  | standard =>
      exact sound_ask (call_sound machine leads.sound called (within_cons.mpr ⟨there, within_nil⟩))
  | legacy =>
      refine sound_bind (getOf_sound machine leads.sound there) fun prototype last later found => ?_
      split
      · exact sound_pure later.sound found
      · exact askedPrototypeOf_sound machine later.sound (later.keeps called) (later.keeps there)

theorem setPrototypeOf_sound {prototype : Value} (there : Within law state.heap.size value)
    (given : Within law state.heap.size prototype) :
    SoundAt law engine state (setPrototypeOf value prototype) := by
  unfold setPrototypeOf
  refine sound_bind (writerStrategy_sound sound) fun strategy next leads _ => ?_
  replace there := leads.keeps there
  replace given := leads.keeps given
  cases strategy with
  | standard =>
      exact sound_ask (sound_ask (call_sound machine leads.sound leads.sound.heap.within_globalObject
        (within_cons.mpr ⟨there, within_cons.mpr ⟨given, within_nil⟩⟩)))
  | legacy =>
      cases value with
      | object id =>
          refine sound_bind (set_sound machine leads.sound there given) fun _ last later _ => ?_
          exact sound_pure later.sound (later.keeps there)
      | _ => exact sound_pure leads.sound there

/-! ## Constructors -/

theorem checkInstance_sound {constructor : Value} :
    SoundAt law engine state (checkInstance value constructor) := by
  unfold checkInstance
  refine sound_bind (instanceOf_sound machine sound) fun isInstance next leads _ => ?_
  split
  · exact sound_pure leads.sound trivial
  · exact sound_raise leads.sound _ trivial

omit machine in
theorem assertThis_sound (there : Within law state.heap.size this) :
    SoundAt law engine state (assertThis this) := by
  unfold assertThis
  split
  · exact sound_raise sound _ trivial
  · exact sound_pure sound there

omit machine in
theorem constructorReturn_sound {result : Value} (there : Within law state.heap.size this)
    (given : Within law state.heap.size result) :
    SoundAt law engine state (constructorReturn this result) := by
  unfold constructorReturn
  split
  · exact sound_pure sound given
  · exact assertThis_sound sound there

theorem readOwn_sound (on : Within law state.heap.size receiver) :
    SoundAt law engine state (readOwn id key receiver) := by
  unfold readOwn
  refine sound_ask ?_
  split
  · next held => exact sound_pure sound (sound.heap.within_property held)
  · exact call_sound machine sound on within_nil
  · exact sound_pure sound trivial

theorem ownerFor_sound (bound : Nat) (there : Within law state.heap.size value) :
    SoundAt law engine state (ownerFor key bound value) := by
  induction bound generalizing state value with
  | zero => exact sound_endless
  | succ bound ih =>
      unfold ownerFor
      cases value with
      | object id =>
          refine sound_ask ?_
          split
          · exact sound_pure sound there
          · refine sound_bind (getPrototypeOf_sound machine sound there)
              fun above next leads found => ?_
            exact ih leads.sound found
      | _ => exact sound_pure sound trivial

theorem superGet_sound {target : Value} (there : Within law state.heap.size target)
    (on : Within law state.heap.size receiver) :
    SoundAt law engine state (superGet target key receiver) := by
  unfold superGet
  refine sound_depth fun bound => ?_
  refine sound_bind (ownerFor_sound machine sound bound there) fun owner next leads _ => ?_
  split
  · exact readOwn_sound machine leads.sound (leads.keeps on)
  · exact sound_pure leads.sound trivial

/-! ## Members -/

theorem memberOf_sound (there : Within law state.heap.size id) :
    SoundAt law engine state (memberOf id) := by
  unfold memberOf
  refine sound_bind (get_sound machine sound there) fun keyValue first leads₁ _ => sound_ask ?_
  replace there := leads₁.keeps there
  refine sound_bind (field?_sound machine leads₁.sound there) fun value second leads₂ valueWithin => ?_
  replace there := leads₂.keeps there
  refine sound_bind (field?_sound machine leads₂.sound there) fun getter third leads₃ getWithin => ?_
  replace there := leads₃.keeps there
  refine sound_bind (field?_sound machine leads₃.sound there) fun setter fourth leads₄ setWithin => ?_
  replace there := leads₄.keeps there
  refine sound_bind (get_sound machine leads₄.sound there) fun enumerable last leads₅ _ => ?_
  split
  · exact sound_raise leads₅.sound _ trivial
  · have later := leads₄.trans leads₅
    exact sound_pure leads₅.sound
      ⟨(leads₃.trans later).keeps valueWithin, later.keeps getWithin, leads₅.keeps setWithin⟩

theorem membersOf_sound {list : Value} (there : Within law state.heap.size list) :
    SoundAt law engine state (membersOf list) := by
  unfold membersOf
  split
  · exact sound_pure sound within_nil
  · refine sound_bind (elementsOf_sound machine sound there) fun entries next leads within => ?_
    refine sound_mapM leads.sound fun entry member last later => ?_
    have found := later.keeps (within entry member)
    unfold memberOfEntry
    split
    · exact memberOf_sound machine later.sound found
    · exact sound_textOf fun _ => sound_raise later.sound _ trivial

omit machine in
theorem install_sound {members : List Member} (there : Within law state.heap.size id)
    (given : Within law state.heap.size members) : SoundAt law engine state (install id members) :=
  sound_forM sound fun member listed _ leads =>
    define_sound leads.sound (leads.keeps there) (leads.keeps (given member listed))

theorem createClass_sound {members statics : List Member} (there : Within law state.heap.size value)
    (given : Within law state.heap.size members) (others : Within law state.heap.size statics) :
    SoundAt law engine state (createClass value members statics) := by
  unfold createClass
  cases value with
  | object id =>
      refine sound_bind (get_sound machine sound there) fun prototype next leads found => ?_
      split
      · refine sound_bind (install_sound leads.sound found (leads.keeps given))
          fun _ last later _ => ?_
        have both := leads.trans later
        refine sound_bind (install_sound later.sound (both.keeps there) (both.keeps others))
          fun _ final ended _ => ?_
        exact sound_pure ended.sound ((both.trans ended).keeps there)
      · exact sound_raise leads.sound _ trivial
  | _ => exact sound_textOf fun _ => sound_raise sound _ trivial

theorem defineField_sound {target : Value} (there : Within law state.heap.size target)
    (given : Within law state.heap.size value) :
    SoundAt law engine state (defineField target key value) := by
  unfold defineField
  cases target with
  | object id =>
      refine sound_bind (has_sound sound) fun present next leads _ => ?_
      replace there := leads.keeps there
      replace given := leads.keeps given
      split
      · refine sound_bind (define_sound leads.sound there ⟨given, trivial, trivial⟩)
          fun _ last later _ => ?_
        exact sound_pure later.sound (later.keeps there)
      · refine sound_bind (set_sound machine leads.sound there given) fun _ last later _ => ?_
        exact sound_pure later.sound (later.keeps there)
  | _ => exact sound_textOf fun _ => sound_raise sound _ trivial

/-! ## Linking -/

theorem baseInstancePrototype_sound {base : Value} (there : Within law state.heap.size base) :
    SoundAt law engine state (baseInstancePrototype base) := by
  unfold baseInstancePrototype
  cases base with
  | object id =>
      refine sound_bind (get_sound machine sound there) fun prototype next leads found => ?_
      split
      · exact sound_pure leads.sound found
      · exact sound_pure leads.sound trivial
      · exact sound_textOf fun _ => sound_raise leads.sound _ trivial
  | _ => exact sound_pure sound trivial

omit machine in
theorem checkBase_sound {base : Value} : SoundAt law engine state (checkBase base) := by
  unfold checkBase
  refine sound_ask ?_
  split
  · exact sound_pure sound trivial
  · exact sound_raise sound _ trivial

theorem linkClass_sound {derived base : Value} (there : Within law state.heap.size derived)
    (given : Within law state.heap.size base) : SoundAt law engine state (linkClass derived base) := by
  unfold linkClass
  refine sound_bind (checkBase_sound sound) fun _ first leads₁ _ => ?_
  replace there := leads₁.keeps there
  replace given := leads₁.keeps given
  cases derived with
  | object id =>
      refine sound_bind (baseInstancePrototype_sound machine leads₁.sound given)
        fun above second leads₂ found => ?_
      refine sound_bind (sound_build leads₂.sound (Build.object_grows found))
        fun prototype third leads₃ fresh => ?_
      replace there := (leads₂.trans leads₃).keeps there
      refine sound_bind (define_sound leads₃.sound fresh ⟨there, trivial, trivial⟩)
        fun _ fourth leads₄ _ => ?_
      replace there := leads₄.keeps there
      refine sound_bind (set_sound machine leads₄.sound there (leads₄.keeps fresh))
        fun written fifth leads₅ _ => ?_
      replace given := (leads₂.trans (leads₃.trans (leads₄.trans leads₅))).keeps given
      split
      · split
        · refine sound_bind (setPrototypeOf_sound machine leads₅.sound (leads₅.keeps there) given)
            fun _ last leads₆ _ => ?_
          exact sound_pure leads₆.sound trivial
        · exact sound_pure leads₅.sound trivial
      · exact sound_raise leads₅.sound _ trivial
  | _ => exact sound_textOf fun _ => sound_raise leads₁.sound _ trivial

/-! ## Super calls -/

theorem getGlobal_sound (name : String) : SoundAt law engine state (getGlobal name) :=
  get_sound machine sound (sound.heap.intrinsic .global)

omit machine sound in
theorem within_idleFunction {size : Nat} : Within law size idleFunction := ⟨trivial, within_nil⟩

theorem tryReflectConstruct_sound {constructFunction : Value} (there : Within law state.heap.size id) :
    SoundAt law engine state (tryReflectConstruct id constructFunction) := by
  unfold tryReflectConstruct
  refine sound_bind (getGlobal_sound machine sound _) fun boolean first leads₁ booleanThere => ?_
  replace there := leads₁.keeps there
  refine sound_bind (sound_build leads₁.sound (Build.function_grows leads₁.sound.heap
    within_idleFunction 0 fun _ => rfl)) fun newTarget second leads₂ targetThere => ?_
  replace there := leads₂.keeps there
  replace booleanThere := leads₂.keeps booleanThere
  refine sound_bind (sound_build leads₂.sound (Build.list_grows leads₂.sound.heap within_nil))
    fun noArguments third leads₃ listThere => ?_
  replace there := leads₃.keeps there
  replace booleanThere := leads₃.keeps booleanThere
  refine sound_bind (call_sound machine leads₃.sound there (within_cons.mpr ⟨booleanThere,
    within_cons.mpr ⟨listThere, within_cons.mpr ⟨leads₃.keeps targetThere, within_nil⟩⟩⟩))
    fun boxed fourth leads₄ boxedThere => ?_
  replace booleanThere := leads₄.keeps booleanThere
  refine sound_bind (getOf_sound machine leads₄.sound booleanThere)
    fun prototype fifth leads₅ prototypeThere => ?_
  refine sound_bind (getOf_sound machine leads₅.sound prototypeThere) fun valueOf sixth leads₆ _ => ?_
  refine sound_bind (call_sound machine leads₆.sound ((leads₅.trans leads₆).keeps boxedThere)
    within_nil) fun _ last leads₇ _ => ?_
  exact sound_pure leads₇.sound trivial

theorem trustsConstruct_sound {reflect : ObjectId} (there : Within law state.heap.size reflect)
    (function : Value) : SoundAt law engine state (trustsConstruct reflect function) := by
  unfold trustsConstruct
  refine sound_bind (getGlobal_sound machine sound _) fun proxy next leads _ => sound_ask ?_
  split
  · exact sound_pure leads.sound trivial
  · refine sound_bind (tryReflectConstruct_sound machine leads.sound (leads.keeps there))
      fun _ last later _ => ?_
    exact sound_pure later.sound trivial

theorem respectsNewTarget_sound {reflect : ObjectId} (there : Within law state.heap.size reflect)
    {function : Value} (found : Within law state.heap.size function) :
    SoundAt law engine state (respectsNewTarget reflect function) := by
  unfold respectsNewTarget
  split
  · exact sound_pure sound trivial
  · refine sound_bind (getOf_sound machine sound found) fun sham next leads _ => ?_
    split
    · exact sound_pure leads.sound trivial
    · exact trustsConstruct_sound machine leads.sound (leads.keeps there) function

theorem detectNativeConstruct_sound : SoundAt law engine state detectNativeConstruct := by
  unfold detectNativeConstruct
  refine sound_bind (getGlobal_sound machine sound _) fun reflect first leads there => ?_
  split
  · refine sound_bind (get_sound machine leads.sound there) fun function second later found => ?_
    exact respectsNewTarget_sound machine later.sound (later.keeps there) found
  · exact sound_pure leads.sound trivial

omit machine in
theorem keepNativeConstruct_sound (found : Bool) :
    SoundAt law engine state (keepNativeConstruct found) :=
  sound_of_change sound (fun _ => rfl) (.caches ⟨Caches.kept_refl _, Caches.kept_refl _, Caches.kept_getD _ _⟩) trivial

theorem hasNativeConstruct_sound : SoundAt law engine state hasNativeConstruct := by
  unfold hasNativeConstruct
  refine sound_state ?_
  split
  · exact sound_pure sound trivial
  · refine sound_bind (sound_attempt (detectNativeConstruct_sound machine sound))
      fun detected next leads _ => ?_
    split
    · exact keepNativeConstruct_sound leads.sound _
    · exact keepNativeConstruct_sound leads.sound _

theorem constructorOfInstance_sound (there : Within law state.heap.size this) :
    SoundAt law engine state (constructorOfInstance this) := by
  unfold constructorOfInstance
  refine sound_bind (getPrototypeOf_sound machine sound there) fun prototype next leads found => ?_
  exact getOf_sound machine leads.sound found

theorem constructBase_sound {base : Value} (baseThere : Within law state.heap.size base)
    (there : Within law state.heap.size this) (given : Within law state.heap.size arguments) :
    SoundAt law engine state (constructBase base this arguments) := by
  unfold constructBase
  refine sound_bind (constructorOfInstance_sound machine sound there)
    fun newTarget first leads₁ targetThere => ?_
  refine sound_bind (getGlobal_sound machine leads₁.sound _)
    fun reflect second leads₂ reflectThere => ?_
  refine sound_bind (getOf_sound machine leads₂.sound reflectThere) fun function third leads₃ _ => ?_
  have before := leads₁.trans (leads₂.trans leads₃)
  refine sound_bind (sound_build leads₃.sound
    (Build.list_grows leads₃.sound.heap (before.keeps given))) fun list fourth leads₄ listThere => ?_
  have both := leads₃.trans leads₄
  exact call_sound machine leads₄.sound (both.keeps reflectThere)
    (within_cons.mpr ⟨(before.trans leads₄).keeps baseThere, within_cons.mpr ⟨listThere,
      within_cons.mpr ⟨(leads₂.trans both).keeps targetThere, within_nil⟩⟩⟩)

theorem runBase_sound {base : Value} (baseThere : Within law state.heap.size base)
    (there : Within law state.heap.size this) (given : Within law state.heap.size arguments) :
    SoundAt law engine state (runBase base this arguments) := by
  unfold runBase
  refine sound_bind (hasNativeConstruct_sound machine sound) fun isNative first leads _ => ?_
  replace baseThere := leads.keeps baseThere
  replace there := leads.keeps there
  replace given := leads.keeps given
  split
  · exact constructBase_sound machine leads.sound baseThere there given
  · exact call_sound machine leads.sound there given

theorem superCall_sound {derived : Value} (classThere : Within law state.heap.size derived)
    (there : Within law state.heap.size this) (given : Within law state.heap.size arguments) :
    SoundAt law engine state (superCall derived this arguments) := by
  unfold superCall
  refine sound_bind (getPrototypeOf_sound machine sound classThere) fun base next leads found => ?_
  refine sound_bind (runBase_sound machine leads.sound found (leads.keeps there)
    (leads.keeps given)) fun result last later resultThere => ?_
  exact constructorReturn_sound later.sound ((leads.trans later).keeps there) resultThere

omit machine in
theorem makeSuperCaller_sound {derived : Value} (there : Within law state.heap.size derived) :
    SoundAt law engine state (makeSuperCaller derived) :=
  sound_build sound (Build.method_grows sound.heap _ _ _ (within_cons.mpr ⟨there, within_nil⟩)
    fun _ => nofun)

end Run

end ClassLowering
