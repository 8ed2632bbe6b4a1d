import ClassLowering.Proofs.Run.Outcomes
import ClassLowering.Proofs.Soundness.Class

/-!
# Sound functions of the host

Every function that the host provides, from a frame that names only what is there.
-/

namespace ClassLowering

open Bounded

variable {law : Law} {engine : Engine} {state : State}

namespace Frame

variable {size : Nat} {frame : Frame}

theorem within_argument (within : Within law size frame) (place : Nat) :
    Within law size (frame.argument place) := within_getElem? within.2.2.2.1 place

theorem within_captured (within : Within law size frame) (place : Nat) :
    Within law size (frame.captured place) := within_getElem? within.2.1.2 place

theorem within_drop (within : Within law size frame) (count : Nat) :
    Within law size (frame.arguments.drop count) :=
  fun value member => within.2.2.2.1 value (List.mem_of_mem_drop member)

end Frame

namespace Builtin

open Run

variable (machine : engine.Sound law) (sound : state.Sound law) {frame : Frame} {value : Value}

/-! ## The global `Object` -/

include sound

theorem prototypeArgument_sound (there : Within law state.heap.size value) :
    SoundAt law engine state (prototypeArgument value) := by
  unfold prototypeArgument
  split
  · exact sound_pure sound there
  · exact sound_pure sound trivial
  · exact sound_textOf fun _ => sound_raise sound _ trivial

theorem fromArgument_sound (given : Within law state.heap.size frame) :
    SoundAt law engine state (runObjectConstructor.fromArgument frame) := by
  unfold runObjectConstructor.fromArgument
  have argument := Frame.within_argument given 0
  split
  · next held =>
    rw [held] at argument
    exact sound_pure sound argument
  · refine sound_bind (sound_build sound (Build.boxedBoolean_grows _
      (sound.heap.intrinsic .booleanPrototype))) fun created next leads there => ?_
    exact sound_pure leads.sound there
  · refine sound_bind (sound_build sound (Build.plainObject_grows sound.heap))
      fun created next leads there => ?_
    exact sound_pure leads.sound there

include machine in
theorem runObjectConstructor_sound (given : Within law state.heap.size frame) :
    SoundAt law engine state (runObjectConstructor frame) := by
  unfold runObjectConstructor
  have targetThere := given.2.2.2.2
  split
  · next target held =>
    rw [held] at targetThere
    split
    · exact fromArgument_sound sound given
    · refine sound_bind (createFromConstructor_sound machine sound targetThere
        (sound.heap.intrinsic .objectPrototype)) fun created next leads there => ?_
      exact sound_pure leads.sound there
  · exact fromArgument_sound sound given

theorem runSetPrototypeOf_sound (given : Within law state.heap.size frame) :
    SoundAt law engine state (runSetPrototypeOf frame) := by
  unfold runSetPrototypeOf
  have target := Frame.within_argument given 0
  dsimp only
  split
  · exact sound_raise sound _ trivial
  · refine sound_bind (prototypeArgument_sound sound (Frame.within_argument given 1))
      fun prototype next leads there => ?_
    replace target := leads.keeps target
    split
    · next held =>
      rw [held] at target
      refine sound_bind (setPrototype_sound leads.sound target there) fun written last later _ => ?_
      split
      · exact sound_pure later.sound (later.keeps (held ▸ target))
      · exact sound_raise later.sound _ trivial
    · exact sound_pure leads.sound target

include machine in
theorem runCreate_sound (given : Within law state.heap.size frame) :
    SoundAt law engine state (runCreate frame) := by
  unfold runCreate
  refine sound_bind (prototypeArgument_sound sound (Frame.within_argument given 0))
    fun prototype next leads there => ?_
  refine sound_bind (sound_build leads.sound (Build.object_grows there))
    fun created last later createdThere => ?_
  have properties := (leads.trans later).keeps (Frame.within_argument given 1)
  split
  · exact sound_pure later.sound createdThere
  · next held =>
    rw [held] at properties
    refine sound_bind (defineAll_sound machine later.sound createdThere properties)
      fun _ final ended _ => ?_
    exact sound_pure ended.sound (ended.keeps createdThere)
  · exact sound_raise later.sound _ trivial

include machine in
theorem runDefineProperty_sound (given : Within law state.heap.size frame) :
    SoundAt law engine state (runDefineProperty frame) := by
  unfold runDefineProperty
  have target := Frame.within_argument given 0
  have description := Frame.within_argument given 2
  split
  · next held =>
    rw [held] at target
    refine sound_ask ?_
    split
    · next record heldRecord =>
      rw [heldRecord] at description
      refine sound_bind (descriptorOf_sound machine sound description)
        fun descriptor next leads found => ?_
      refine sound_bind (define_sound leads.sound (leads.keeps target) found)
        fun _ last later _ => ?_
      exact sound_pure later.sound ((leads.trans later).keeps target)
    · exact sound_textOf fun _ => sound_raise sound _ trivial
  · exact sound_raise sound _ trivial

omit sound in
theorem within_descriptor {size : Nat} {property : Property} (within : Within law size property) :
    Within law size property.descriptor := by
  replace within : Within law size property.slot := within
  unfold Property.descriptor
  split
  · next held =>
    rw [held] at within
    exact ⟨within, trivial, trivial⟩
  · next held =>
    rw [held] at within
    exact ⟨trivial, within_getD within.1.1 trivial, within_getD within.2.1 trivial⟩

theorem runGetOwnPropertyDescriptor_sound :
    SoundAt law engine state (runGetOwnPropertyDescriptor frame) := by
  unfold runGetOwnPropertyDescriptor
  split
  · refine sound_ask (sound_ask ?_)
    split
    · next found =>
      refine sound_bind (sound_build sound (Build.descriptorRecord_grows sound.heap
        (within_descriptor (sound.heap.within_property found)))) fun created next leads there => ?_
      exact sound_pure leads.sound there
    · exact sound_pure sound trivial
  · exact sound_pure sound trivial

theorem listOwn_sound {listing : Table → List Value}
    (plain : ∀ table size, Within law size (listing table)) :
    SoundAt law engine state (listOwn value listing) := by
  unfold listOwn
  split
  · refine sound_ask ?_
    refine sound_bind (sound_build sound (Build.list_grows sound.heap (plain _ _)))
      fun created next leads there => ?_
    exact sound_pure leads.sound there
  · exact sound_raise sound _ trivial
  · exact sound_raise sound _ trivial
  · refine sound_bind (sound_build sound (Build.list_grows sound.heap within_nil))
      fun created next leads there => ?_
    exact sound_pure leads.sound there

omit sound in
theorem within_map {α : Type} {size : Nat} {items : List α} {value : α → Value}
    (plain : ∀ item, Within law size (value item)) : Within law size (items.map value) := by
  intro result member
  obtain ⟨item, _, rfl⟩ := List.mem_map.mp member
  exact plain item

theorem runHasOwnProperty_sound : SoundAt law engine state (runHasOwnProperty frame) := by
  unfold runHasOwnProperty
  refine sound_ask ?_
  split
  · exact sound_ask (sound_pure sound trivial)
  · exact sound_raise sound _ trivial
  · exact sound_raise sound _ trivial
  · exact sound_pure sound trivial

theorem linkSetterWrite_sound {prototype : Option ObjectId} (given : Within law state.heap.size frame)
    (there : Within law state.heap.size prototype) :
    SoundAt law engine state (runLinkSetter.write frame prototype) := by
  unfold runLinkSetter.write
  have this := given.2.2.1
  split
  · next held =>
    rw [held] at this
    refine sound_bind (setPrototype_sound sound this there) fun written next leads _ => ?_
    split
    · exact sound_pure leads.sound trivial
    · exact sound_raise leads.sound _ trivial
  · exact sound_pure sound trivial

theorem runLinkSetter_sound (given : Within law state.heap.size frame) :
    SoundAt law engine state (runLinkSetter frame) := by
  unfold runLinkSetter
  have prototype := Frame.within_argument given 0
  split
  · exact sound_raise sound _ trivial
  · split
    · next held =>
      rw [held] at prototype
      exact linkSetterWrite_sound sound given prototype
    · exact linkSetterWrite_sound sound given trivial
    · exact sound_pure sound trivial

/-! ## Functions, errors, booleans and proxies -/

include machine in
theorem optionalElements_sound (there : Within law state.heap.size value) :
    SoundAt law engine state (optionalElements value) := by
  unfold optionalElements
  split
  · exact sound_pure sound within_nil
  · exact elementsOf_sound machine sound there

include machine in
theorem runCall_sound (given : Within law state.heap.size frame) :
    SoundAt law engine state (runCall frame) :=
  call_sound machine sound (Frame.within_argument given 0) (Frame.within_drop given 1)

include machine in
theorem runApply_sound (given : Within law state.heap.size frame) :
    SoundAt law engine state (runApply frame) := by
  unfold runApply
  refine sound_bind (optionalElements_sound machine sound (Frame.within_argument given 1))
    fun arguments next leads found => ?_
  exact call_sound machine leads.sound (leads.keeps (Frame.within_argument given 0)) found

theorem errorProperties_sound : SoundAt law engine state (errorProperties value) := by
  unfold errorProperties
  split
  · exact sound_pure sound Table.within_empty
  · refine sound_textOf fun text => ?_
    exact sound_pure sound (Table.within_insert Table.within_empty (by trivial))

omit sound in
/-- A fixed prototype object is what a read gives. -/
theorem get_fixedPrototype? {id prototype : ObjectId} (makes : (state.heap.object id).kind.makesErrors = true)
    (fixed : (state.heap.object id).fixedPrototype? = some prototype) :
    get id "prototype" engine state = .done (.object prototype) state := by
  have ordinary : (state.heap.object id).proxy? = none := by
    unfold ObjectKind.makesErrors at makes
    split at makes
    · next held => rw [Object.proxy?, held]
    · cases makes
  unfold Object.fixedPrototype? at fixed
  split at fixed
  · next found =>
    cases fixed
    exact getFor_plain (Heap.plainRead?_own ordinary found rfl)
  · cases fixed

omit sound in
theorem makesErrors_of_backs (backed : state.heap.Backs frame)
    (code : frame.callable.code = .builtin .errorConstructor) :
    (state.heap.object frame.callee).kind.makesErrors = true := by
  unfold Heap.Backs Object.callable? at backed
  split at backed
  · next callable held =>
    rw [held, Option.some.inj backed]
    revert code
    obtain ⟨_, _, _, _⟩ := frame.callable
    rintro rfl
    rfl
  · cases backed

include machine in
/-- An error constructor finds its prototype object, unless the law lets a host take it away. -/
theorem runErrorConstructor_sound (given : Within law state.heap.size frame)
    (backed : state.heap.Backs frame) (code : frame.callable.code = .builtin .errorConstructor) :
    SoundAt law engine state (runErrorConstructor frame) := by
  unfold runErrorConstructor
  have target : Within law state.heap.size (frame.newTarget.getD frame.callee) := by
    have there := given.2.2.2.2
    cases held : frame.newTarget with
    | none => exact given.1
    | some target =>
        rw [held] at there
        exact there
  refine sound_bind_done (get_sound machine sound given.1) fun fallback next ran leads found => ?_
  split
  · refine sound_bind (instancePrototype_sound machine leads.sound (leads.keeps target) found)
      fun prototype last later there => ?_
    refine sound_bind (errorProperties_sound later.sound) fun properties final ended table => ?_
    refine sound_bind (sound_build ended.sound (Build.allocate_grows
      (Build.within_object table (ended.keeps there) (by trivial) fun _ => rfl)
      fun proxied => absurd rfl proxied))
      fun created done grows createdThere => ?_
    exact sound_pure grows.sound createdThere
  · next differs =>
    refine sound_raise leads.sound _ ?_
    by_contra asked
    have makes := makesErrors_of_backs backed code
    obtain ⟨prototype, fixed⟩ := Option.isSome_iff_exists.mp
      ((sound.heap.within frame.callee).2.2.2.equipped (Bool.not_eq_true _ ▸ asked) makes)
    rw [get_fixedPrototype? makes fixed] at ran
    cases ran
    exact differs prototype rfl

include machine in
theorem runBooleanConstructor_sound (given : Within law state.heap.size frame) :
    SoundAt law engine state (runBooleanConstructor frame) := by
  unfold runBooleanConstructor
  have targetThere := given.2.2.2.2
  dsimp only
  split
  · exact sound_pure sound trivial
  · next target held =>
    rw [held] at targetThere
    refine sound_bind (instancePrototype_sound machine sound targetThere
      (sound.heap.intrinsic .booleanPrototype)) fun prototype next leads there => ?_
    refine sound_bind (sound_build leads.sound (Build.boxedBoolean_grows _ there))
      fun created last later createdThere => ?_
    exact sound_pure later.sound createdThere

theorem truthOf_sound {method : String} : SoundAt law engine state (truthOf value method) := by
  unfold truthOf
  split
  · exact sound_pure sound trivial
  · refine sound_ask ?_
    split
    · exact sound_pure sound trivial
    · exact sound_raise sound _ trivial
  · exact sound_raise sound _ trivial

theorem runBooleanValueOf_sound : SoundAt law engine state (runBooleanValueOf frame) :=
  sound_bind (truthOf_sound sound) fun _ _ leads _ => sound_pure leads.sound trivial

theorem runBooleanToString_sound : SoundAt law engine state (runBooleanToString frame) :=
  sound_bind (truthOf_sound sound) fun _ _ leads _ => sound_pure leads.sound trivial

theorem runProxyConstructor_sound (given : Within law state.heap.size frame) :
    SoundAt law engine state (runProxyConstructor frame) := by
  unfold runProxyConstructor
  have target := Frame.within_argument given 0
  have handler := Frame.within_argument given 1
  split
  · exact sound_raise sound _ trivial
  · split
    · next heldTarget heldHandler =>
      rw [heldTarget] at target
      rw [heldHandler] at handler
      refine sound_bind (sound_build sound (Build.allocate_grows
        (Build.within_object Table.within_empty (by trivial) ⟨target, handler⟩ fun _ => rfl)
        fun _ => rfl))
        fun created next leads there => ?_
      exact sound_pure leads.sound there
    · exact sound_raise sound _ trivial

/-! ## The global `Reflect` -/

theorem constructible_sound : SoundAt law engine state (constructOperands.constructible value) := by
  unfold constructOperands.constructible
  refine sound_ask ?_
  split
  · exact sound_pure sound trivial
  · exact sound_textOf fun _ => sound_raise sound _ trivial

include machine in
theorem constructOperands_sound (given : Within law state.heap.size frame) :
    SoundAt law engine state (constructOperands frame) := by
  unfold constructOperands
  have newTargetThere : Within law state.heap.size
      (if 2 < frame.arguments.length then frame.argument 2 else frame.argument 0) := by
    split
    · exact Frame.within_argument given 2
    · exact Frame.within_argument given 0
  refine sound_bind (constructible_sound sound) fun _ first leads₁ _ => ?_
  refine sound_bind (constructible_sound leads₁.sound) fun _ second leads₂ _ => ?_
  have before := leads₁.trans leads₂
  refine sound_bind (elementsOf_sound machine leads₂.sound
    (before.keeps (Frame.within_argument given 1))) fun arguments third leads₃ found => ?_
  have all := before.trans leads₃
  exact sound_pure leads₃.sound
    ⟨all.keeps (Frame.within_argument given 0), found, all.keeps newTargetThere⟩

include machine in
theorem runReflectConstruct_sound (given : Within law state.heap.size frame) :
    SoundAt law engine state (runReflectConstruct frame) := by
  unfold runReflectConstruct
  refine sound_bind (constructOperands_sound machine sound given) fun operands next leads found => ?_
  exact constructFor_sound machine leads.sound found.2.1

include machine in
theorem prototypeForTarget_sound (there : Within law state.heap.size value) :
    SoundAt law engine state (prototypeForTarget value) := by
  unfold prototypeForTarget
  split
  · exact instancePrototype_sound machine sound there (sound.heap.intrinsic .objectPrototype)
  · exact sound_pure sound (sound.heap.intrinsic .objectPrototype)

include machine in
theorem runReflectConstructPolyfill_sound (given : Within law state.heap.size frame) :
    SoundAt law engine state (runReflectConstructPolyfill frame) := by
  unfold runReflectConstructPolyfill
  refine sound_bind (constructOperands_sound machine sound given) fun operands first leads₁ found => ?_
  refine sound_bind (prototypeForTarget_sound machine leads₁.sound found.2.2)
    fun prototype second leads₂ there => ?_
  refine sound_bind (sound_build leads₂.sound (Build.object_grows there))
    fun created third leads₃ createdThere => ?_
  refine sound_bind (call_sound machine leads₃.sound createdThere
    ((leads₂.trans leads₃).keeps found.2.1)) fun result last leads₄ resultThere => ?_
  exact sound_pure leads₄.sound (within_resultOr (leads₄.keeps createdThere) resultThere)

include machine in
theorem runReflectApply_sound (given : Within law state.heap.size frame) :
    SoundAt law engine state (runReflectApply frame) := by
  unfold runReflectApply
  refine sound_ask ?_
  split
  · refine sound_bind (elementsOf_sound machine sound (Frame.within_argument given 2))
      fun arguments next leads found => ?_
    exact call_sound machine leads.sound (leads.keeps (Frame.within_argument given 1)) found
  · exact sound_raise sound _ trivial

theorem reflectTarget_sound {method : String} (given : Within law state.heap.size frame) :
    SoundAt law engine state (reflectTarget frame method) := by
  unfold reflectTarget
  have target := Frame.within_argument given 0
  split
  · next held =>
    rw [held] at target
    exact sound_pure sound target
  · exact sound_raise sound _ trivial

theorem runReflectGetPrototypeOf_sound (given : Within law state.heap.size frame) :
    SoundAt law engine state (runReflectGetPrototypeOf frame) := by
  unfold runReflectGetPrototypeOf
  refine sound_bind (reflectTarget_sound sound given) fun id next leads _ => sound_ask ?_
  exact sound_pure leads.sound (within_ofObject? (leads.sound.heap.within_prototypeOf id))

theorem runReflectSetPrototypeOf_sound (given : Within law state.heap.size frame) :
    SoundAt law engine state (runReflectSetPrototypeOf frame) := by
  unfold runReflectSetPrototypeOf
  refine sound_bind (reflectTarget_sound sound given) fun id first leads₁ there => ?_
  refine sound_bind (prototypeArgument_sound leads₁.sound
    (leads₁.keeps (Frame.within_argument given 1))) fun prototype second leads₂ found => ?_
  refine sound_bind (setPrototype_sound leads₂.sound (leads₂.keeps there) found)
    fun written last leads₃ _ => ?_
  exact sound_pure leads₃.sound trivial

theorem runReflectOwnKeys_sound (given : Within law state.heap.size frame) :
    SoundAt law engine state (runReflectOwnKeys frame) := by
  unfold runReflectOwnKeys
  refine sound_bind (reflectTarget_sound sound given) fun id next leads _ => sound_ask ?_
  refine sound_bind (sound_build leads.sound (Build.list_grows leads.sound.heap
    (within_map within_toValue))) fun created last later there => ?_
  exact sound_pure later.sound there

/-! ## The helpers as global functions -/

include machine in
theorem runCreateClass_sound (given : Within law state.heap.size frame) :
    SoundAt law engine state (runCreateClass frame) := by
  unfold runCreateClass
  refine sound_bind (membersOf_sound machine sound (Frame.within_argument given 1))
    fun members first leads₁ found => ?_
  refine sound_bind (membersOf_sound machine leads₁.sound
    (leads₁.keeps (Frame.within_argument given 2))) fun statics second leads₂ others => ?_
  exact createClass_sound machine leads₂.sound
    ((leads₁.trans leads₂).keeps (Frame.within_argument given 0)) (leads₂.keeps found) others

include machine in
theorem runGet_sound (given : Within law state.heap.size frame) :
    SoundAt law engine state (runGet frame) := by
  unfold runGet
  refine sound_ask (superGet_sound machine sound (Frame.within_argument given 0) ?_)
  split
  · exact Frame.within_argument given 2
  · exact Frame.within_argument given 0

include machine in
theorem runHelper_sound (helper : Helper) (given : Within law state.heap.size frame) :
    SoundAt law engine state (runHelper helper frame) := by
  unfold runHelper
  have argument := Frame.within_argument given
  cases helper with
  | classCallCheck =>
      exact sound_bind (checkInstance_sound machine sound) fun _ _ leads _ =>
        sound_pure leads.sound trivial
  | inherits =>
      exact sound_bind (linkClass_sound machine sound (argument 0) (argument 1)) fun _ _ leads _ =>
        sound_pure leads.sound trivial
  | createClass => exact runCreateClass_sound machine sound given
  | defineProperty =>
      exact sound_ask (defineField_sound machine sound (argument 0) (argument 2))
  | getPrototypeOf => exact getPrototypeOf_sound machine sound (argument 0)
  | setPrototypeOf => exact setPrototypeOf_sound machine sound (argument 0) (argument 1)
  | createSuper =>
      exact sound_bind (makeSuperCaller_sound sound (argument 0)) fun _ _ leads there =>
        sound_pure leads.sound there
  | possibleConstructorReturn => exact constructorReturn_sound sound (argument 0) (argument 1)
  | assertThisInitialized => exact assertThis_sound sound (argument 0)
  | get => exact runGet_sound machine sound given
  | typeOf => exact sound_ask (sound_pure sound trivial)
  | isNativeReflectConstruct =>
      exact sound_bind (hasNativeConstruct_sound machine sound) fun _ _ leads _ =>
        sound_pure leads.sound trivial

/-! ## Every function of the host -/

include machine in
theorem run_sound (builtin : Builtin) (given : Within law state.heap.size frame)
    (backed : state.heap.Backs frame) (code : frame.callable.code = .builtin builtin) :
    SoundAt law engine state (builtin.run frame) := by
  unfold run
  cases builtin with
  | objectConstructor => exact runObjectConstructor_sound machine sound given
  | objectGetPrototypeOf => exact prototypeOfValue_sound sound
  | objectSetPrototypeOf => exact runSetPrototypeOf_sound sound given
  | objectCreate => exact runCreate_sound machine sound given
  | objectDefineProperty => exact runDefineProperty_sound machine sound given
  | objectGetOwnPropertyDescriptor => exact runGetOwnPropertyDescriptor_sound sound
  | objectKeys => exact listOwn_sound sound fun _ _ => within_map fun _ => trivial
  | objectGetOwnPropertyNames => exact listOwn_sound sound fun _ _ => within_map fun _ => trivial
  | objectHasOwnProperty => exact runHasOwnProperty_sound sound
  | linkGetter => exact prototypeOfValue_sound sound
  | linkSetter => exact runLinkSetter_sound sound given
  | functionCall => exact runCall_sound machine sound given
  | functionApply => exact runApply_sound machine sound given
  | errorConstructor => exact runErrorConstructor_sound machine sound given backed code
  | booleanConstructor => exact runBooleanConstructor_sound machine sound given
  | booleanToString => exact runBooleanToString_sound sound
  | booleanValueOf => exact runBooleanValueOf_sound sound
  | reflectConstruct => exact runReflectConstruct_sound machine sound given
  | reflectConstructPolyfill => exact runReflectConstructPolyfill_sound machine sound given
  | reflectApply => exact runReflectApply_sound machine sound given
  | reflectGetPrototypeOf => exact runReflectGetPrototypeOf_sound sound given
  | reflectSetPrototypeOf => exact runReflectSetPrototypeOf_sound sound given
  | reflectOwnKeys => exact runReflectOwnKeys_sound sound given
  | proxyConstructor => exact runProxyConstructor_sound sound given
  | helper marked => exact runHelper_sound machine sound marked given
  | superCaller =>
      exact superCall_sound machine sound (Frame.within_captured given 0) given.2.2.1 given.2.2.2.1
  | idle => exact sound_pure sound trivial

end Builtin

end ClassLowering
