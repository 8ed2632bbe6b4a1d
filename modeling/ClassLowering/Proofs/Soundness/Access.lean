import ClassLowering.Proofs.Soundness.Run

/-!
# Sound calls and property access

Calls, reads, assignments, definitions, construction, and the records and lists of scripts.
-/

namespace ClassLowering

open Bounded

theorem Object.within_defined {law : Law} {size : Nat} {object : Object} {key : PropertyKey}
    {descriptor : Descriptor} {property : Property} (before : Within law size object)
    (within : Within law size descriptor)
    (permitted : object.defined key descriptor = .ok property) : Within law size property := by
  unfold defined at permitted
  split at permitted
  · split at permitted
    · cases permitted
      exact within_ofDescriptor within
    · cases permitted
  · next held =>
    split at permitted
    · cases permitted
      have holds := before.1 key
      rw [held] at holds
      exact within_redefine holds within
    · cases permitted

/-- A definition is refused for what an object or a property withholds. -/
theorem Object.within_refusal {law : Law} {size : Nat} {object : Object} {key : PropertyKey}
    {descriptor : Descriptor} {fault : Fault}
    (refused : object.defined key descriptor = .error fault) : Within law size fault := by
  unfold defined at refused
  split at refused
  · split at refused
    · cases refused
    · cases refused
      trivial
  · split at refused
    · cases refused
    · cases refused
      trivial

namespace Run

variable {law : Law} {engine : Engine} {state : State} (machine : engine.Sound law)
  (sound : state.Sound law) {id : ObjectId} {key : PropertyKey} {value receiver this : Value}
  {arguments : List Value}

include machine sound

/-! ## Calls and reads -/

theorem call_sound {function : Value} (receives : Within law state.heap.size this)
    (given : Within law state.heap.size arguments) :
    SoundAt law engine state (call function this arguments) := by
  unfold call
  refine sound_ask ?_
  split
  · next found =>
    obtain ⟨callee, callable⟩ := sound.heap.within_function found
    exact invoke_sound machine sound ⟨callee, callable, receives, given, by trivial⟩
      (Heap.callable?_of_function? found)
  · exact sound_textOf fun _ => sound_raise sound _ trivial

/-- A read finds a proxy only where there is one, and gets at its two objects. -/
theorem getThrough_sound (proxied : (state.heap.object id).proxy? ≠ none)
    (on : Within law state.heap.size receiver) :
    SoundAt law engine state (getThrough id key receiver) := by
  unfold getThrough
  refine sound_ask ?_
  split
  · next target handler held =>
    obtain ⟨target, handler⟩ := sound.heap.within_proxy held
    refine sound_bind (read_sound machine sound handler handler) fun trap next leads _ => ?_
    replace target := leads.keeps target
    replace on := leads.keeps on
    split
    · exact read_sound machine leads.sound target on
    · exact call_sound machine leads.sound (leads.keeps handler)
        (within_cons.mpr ⟨target, within_cons.mpr ⟨within_toValue key,
          within_cons.mpr ⟨on, within_nil⟩⟩⟩)
  · next ordinary => exact absurd ordinary proxied

theorem getFor_sound (on : Within law state.heap.size receiver) :
    SoundAt law engine state (getFor id key receiver) := by
  unfold getFor
  refine sound_follow fun found ended => ?_
  have within := sound.heap.within_lookup ended
  split
  · exact sound_pure sound trivial
  · exact sound_pure sound trivial
  · exact sound_pure sound within
  · exact call_sound machine sound on within_nil
  · exact getThrough_sound machine sound (Heap.proxied_of_lookup ended) on

theorem get_sound (there : Within law state.heap.size id) :
    SoundAt law engine state (get id key) := getFor_sound machine sound there

theorem getOf_sound (there : Within law state.heap.size value) :
    SoundAt law engine state (getOf value key) := by
  unfold getOf
  cases value with
  | undefined => exact sound_textOf fun _ => sound_raise sound _ trivial
  | null => exact sound_textOf fun _ => sound_raise sound _ trivial
  | _ => exact getFor_sound machine sound there

/-! ## Assignments, definitions and links -/

theorem set_sound (there : Within law state.heap.size id)
    (given : Within law state.heap.size value) : SoundAt law engine state (set id key value) := by
  unfold set
  refine sound_ask (sound_follow fun found ended => ?_)
  have holder := sound.heap.within_resolve there
  cases found with
  | refused => exact sound_pure sound trivial
  | setter function =>
      refine sound_bind (call_sound machine sound holder (within_cons.mpr ⟨given, within_nil⟩))
        fun _ next leads _ => ?_
      exact sound_pure leads.sound trivial
  | write =>
      refine sound_ask ?_
      split
      · next accepted =>
        refine sound_bind (sound_change sound ?_) fun _ next leads _ =>
          sound_pure leads.sound trivial
        exact .write holder (sound.heap.resolve_ordinary id) ended accepted given
      · exact sound_pure sound trivial

omit machine in
theorem define_sound {descriptor : Descriptor} (there : Within law state.heap.size id)
    (given : Within law state.heap.size descriptor) :
    SoundAt law engine state (define id key descriptor) := by
  unfold define
  refine sound_ask ?_
  split
  · next permitted =>
    exact sound_change sound (.define there permitted
      (Object.within_defined (sound.heap.within id) given permitted))
  · next refused => exact sound_raise sound _ (Object.within_refusal refused)

omit machine in
theorem setPrototype_sound {prototype : Option ObjectId} (there : Within law state.heap.size id)
    (given : Within law state.heap.size prototype) :
    SoundAt law engine state (setPrototype id prototype) := by
  unfold setPrototype
  refine sound_ask (sound_ask ?_)
  split
  · next admitted =>
    refine sound_bind (sound_change sound ?_) fun _ next leads _ => sound_pure leads.sound trivial
    exact .link (sound.heap.within_resolve there) (sound.heap.resolve_ordinary id) admitted given
  · exact sound_pure sound trivial

/-! ## Tests -/

omit machine in
theorem has_sound : SoundAt law engine state (has id key) :=
  sound_follow_last sound fun _ _ => trivial

theorem instanceOf_sound {function : Value} :
    SoundAt law engine state (instanceOf value function) := by
  unfold instanceOf
  refine sound_ask ?_
  split
  · exact sound_raise sound _ trivial
  · next found =>
    cases value with
    | object id =>
        refine sound_bind (get_sound machine sound (sound.heap.within_function found).1)
          fun prototype next leads _ => ?_
        split
        · exact sound_follow_last leads.sound fun _ _ => trivial
        · exact sound_textOf fun _ => sound_raise leads.sound _ trivial
    | _ => exact sound_pure sound trivial

omit machine in
theorem prototypeOfValue_sound : SoundAt law engine state (prototypeOfValue value) := by
  unfold prototypeOfValue
  cases value with
  | object id => exact sound_ask (sound_pure sound
      (within_ofObject? (sound.heap.within_prototypeOf id)))
  | undefined => exact sound_raise sound _ trivial
  | null => exact sound_raise sound _ trivial
  | boolean _ => exact sound_pure sound (sound.heap.intrinsic .booleanPrototype)
  | _ => exact sound_pure sound (sound.heap.intrinsic .objectPrototype)

/-! ## Construction -/

theorem instancePrototype_sound {fallback : ObjectId} (there : Within law state.heap.size id)
    (other : Within law state.heap.size fallback) :
    SoundAt law engine state (instancePrototype id fallback) := by
  unfold instancePrototype
  refine sound_bind (get_sound machine sound there) fun prototype next leads within => ?_
  split
  · exact sound_pure leads.sound within
  · exact sound_pure leads.sound (leads.keeps other)

theorem createFromConstructor_sound {fallback : ObjectId} (there : Within law state.heap.size id)
    (other : Within law state.heap.size fallback) :
    SoundAt law engine state (createFromConstructor id fallback) := by
  unfold createFromConstructor
  refine sound_bind (instancePrototype_sound machine sound there other) fun _ next leads within => ?_
  exact sound_build leads.sound (Build.object_grows within)

omit machine sound in
theorem within_resultOr {size : Nat} {created : ObjectId} {result : Value}
    (there : Within law size created) (given : Within law size result) :
    Within law size (resultOr created result) := by
  cases result with
  | object id => exact given
  | _ => exact there

omit machine in
/-- The function behind a constructor is found without a change. -/
theorem sound_constructorOf {α : Type} [Bounded α] {rest : ObjectId × Callable → Run α}
    (after : ∀ function, state.heap.function? value = some function →
      SoundAt law engine state (rest function)) :
    SoundAt law engine state (constructorOf value >>= rest) := by
  unfold constructorOf
  rw [bind_assoc]
  refine sound_ask ?_
  split
  · next function found =>
    split
    · rw [bind_assoc]
      exact sound_textOf fun _ => sound_raise sound _ trivial
    · exact after _ found
  · rw [bind_assoc]
    exact sound_textOf fun _ => sound_raise sound _ trivial

omit machine in
theorem targetOf_sound {newTarget : Option Value} (there : Within law state.heap.size id) :
    SoundAt law engine state (targetOf id newTarget) := by
  unfold targetOf
  cases newTarget with
  | none => exact sound_pure sound there
  | some value =>
      exact sound_constructorOf sound fun _ found =>
        sound_pure sound (sound.heap.within_function found).1

theorem runConstructor_sound {callable : Callable} {target : ObjectId}
    (there : Within law state.heap.size id) (code : Within law state.heap.size callable)
    (backed : (state.heap.object id).callable? = some callable)
    (given : Within law state.heap.size arguments) (on : Within law state.heap.size target) :
    SoundAt law engine state (runConstructor id callable arguments target) := by
  unfold runConstructor
  split
  · exact invoke_sound machine sound ⟨there, code, by trivial, given, on⟩ backed
  · refine sound_bind (createFromConstructor_sound machine sound on
      (sound.heap.intrinsic .objectPrototype)) fun created next leads instanceThere => ?_
    refine sound_bind (invoke_sound machine leads.sound ⟨leads.keeps there, leads.keeps code,
      instanceThere, leads.keeps given, leads.keeps on⟩ ((leads.callable?_eq there).trans backed))
      fun result last later found => ?_
    exact sound_pure later.sound (within_resultOr (later.keeps instanceThere) found)

theorem constructFor_sound {constructor : Value} {newTarget : Option Value}
    (given : Within law state.heap.size arguments) :
    SoundAt law engine state (constructFor constructor arguments newTarget) := by
  unfold constructFor
  refine sound_constructorOf sound fun function found => ?_
  obtain ⟨callee, code⟩ := sound.heap.within_function found
  refine sound_bind (targetOf_sound sound callee) fun target next leads there => ?_
  exact runConstructor_sound machine leads.sound (leads.keeps callee) (leads.keeps code)
    ((leads.callable?_eq callee).trans (Heap.callable?_of_function? found)) (leads.keeps given) there

theorem construct_sound {constructor : Value} (given : Within law state.heap.size arguments) :
    SoundAt law engine state (construct constructor arguments) :=
  constructFor_sound machine sound given

/-! ## Records and lists -/

theorem field?_sound {name : String} (there : Within law state.heap.size id) :
    SoundAt law engine state (field? id name) := by
  unfold field?
  refine sound_bind (has_sound sound) fun present next leads _ => ?_
  split
  · refine sound_bind (get_sound machine leads.sound (leads.keeps there)) fun value last later found => ?_
    exact sound_pure later.sound found
  · exact sound_pure leads.sound trivial

omit machine in
theorem checkAccessor_sound {accessor : Option Value} :
    SoundAt law engine state (checkAccessor accessor) := by
  unfold checkAccessor
  split
  · refine sound_ask ?_
    split
    · exact sound_pure sound trivial
    · exact sound_raise sound _ trivial
  · exact sound_pure sound trivial

theorem descriptorOf_sound (there : Within law state.heap.size id) :
    SoundAt law engine state (descriptorOf id) := by
  unfold descriptorOf
  refine sound_bind (field?_sound machine sound there) fun enumerable first leads₁ _ => ?_
  replace there := leads₁.keeps there
  refine sound_bind (field?_sound machine leads₁.sound there) fun configurable second leads₂ _ => ?_
  replace there := leads₂.keeps there
  refine sound_bind (field?_sound machine leads₂.sound there) fun value third leads₃ valueWithin => ?_
  replace there := leads₃.keeps there
  refine sound_bind (field?_sound machine leads₃.sound there) fun writable fourth leads₄ _ => ?_
  replace there := leads₄.keeps there
  refine sound_bind (field?_sound machine leads₄.sound there) fun getter fifth leads₅ getWithin => ?_
  replace there := leads₅.keeps there
  refine sound_bind (field?_sound machine leads₅.sound there) fun setter sixth leads₆ setWithin => ?_
  refine sound_bind (checkAccessor_sound leads₆.sound) fun _ seventh leads₇ _ => ?_
  refine sound_bind (checkAccessor_sound leads₇.sound) fun _ last leads₈ _ => ?_
  split
  · exact sound_raise leads₈.sound _ trivial
  · replace valueWithin := (leads₄.trans (leads₅.trans leads₆)).keeps valueWithin
    replace getWithin := leads₆.keeps getWithin
    have later := leads₇.trans leads₈
    exact sound_pure leads₈.sound
      ⟨later.keeps valueWithin, later.keeps getWithin, later.keeps setWithin⟩

theorem descriptorEntry_sound (there : Within law state.heap.size id) :
    SoundAt law engine state (descriptorEntry id key) := by
  unfold descriptorEntry
  refine sound_ask ?_
  split
  · refine sound_bind (get_sound machine sound there) fun entry next leads within => ?_
    split
    · refine sound_bind (descriptorOf_sound machine leads.sound within)
        fun descriptor last later found => ?_
      exact sound_pure later.sound ⟨trivial, found⟩
    · exact sound_raise leads.sound _ trivial
  · exact sound_pure sound trivial

omit machine in
theorem defineEach_sound {definitions : List (PropertyKey × Descriptor)}
    (there : Within law state.heap.size id) (given : Within law state.heap.size definitions) :
    SoundAt law engine state (defineEach id definitions) :=
  sound_forM sound fun definition member _ leads =>
    define_sound leads.sound (leads.keeps there) (leads.keeps (given definition member).2)

theorem defineAll_sound {properties : ObjectId} (there : Within law state.heap.size id)
    (given : Within law state.heap.size properties) :
    SoundAt law engine state (defineAll id properties) := by
  unfold defineAll
  refine sound_ask ?_
  refine sound_bind (sound_mapM sound fun _ _ next leads =>
    descriptorEntry_sound machine leads.sound (leads.keeps given)) fun entries next leads within => ?_
  refine defineEach_sound leads.sound (leads.keeps there) fun definition member => ?_
  obtain ⟨entry, listed, present⟩ := List.mem_filterMap.mp member
  have found := within entry listed
  rw [show entry = some definition from present] at found
  exact found

theorem elementsOf_sound (there : Within law state.heap.size value) :
    SoundAt law engine state (elementsOf value) := by
  unfold elementsOf
  cases value with
  | object id =>
      refine sound_bind (getOf_sound machine sound there) fun length next leads _ => ?_
      split
      · exact sound_raise leads.sound _ trivial
      · exact sound_mapM leads.sound fun place _ last later =>
          getOf_sound machine later.sound ((leads.trans later).keeps there)
  | _ => exact sound_textOf fun _ => sound_raise sound _ trivial

end Run

end ClassLowering
