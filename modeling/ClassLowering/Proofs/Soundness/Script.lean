import ClassLowering.Proofs.Soundness.Builtin

/-!
# Sound scripts

Operations, steps and bodies whose literals are there. A script without raw operations makes no raw
change, and neither do the functions that it makes.
-/

namespace ClassLowering

open Bounded

variable {law : Law} {engine : Engine} {state : State}

namespace Script

open Run

variable {context : Context} {values : List Value}

/-! ## Variables and operands -/

theorem within_readVariable (sound : state.Sound law) (id : ScopeId) (name : String) :
    Within law state.heap.size (state.readVariable id name) := by
  unfold State.readVariable
  generalize state.scopes.size + 1 = bound
  induction bound generalizing id with
  | zero => trivial
  | succ bound ih =>
      unfold State.readFor
      dsimp only
      split
      · next value found =>
        obtain ⟨before, after, split_eq, _⟩ := List.lookup_eq_some_iff.mp found
        have member : (name, value) ∈ (state.scope id).bindings := by
          rw [split_eq]
          simp
        unfold State.scope at member
        cases held : state.scopes[id.index]? with
        | none =>
            rw [held] at member
            cases member
        | some scope =>
            rw [held] at member
            exact sound.scopes scope (Array.mem_of_getElem? held) _ member
      · split
        · exact ih _
        · trivial

theorem within_frame {size : Nat} (inside : Within law size context) {frame : Frame}
    (held : context.frame = some frame) : Within law size frame := by
  replace inside : Within law size context.frame := inside
  rw [held] at inside
  exact inside

theorem within_evaluate (sound : state.Sound law) (inside : Within law state.heap.size context)
    {operand : Operand} (given : Within law state.heap.size operand) :
    Within law state.heap.size (operand.evaluate context state) := by
  unfold Operand.evaluate
  have frames {frame : Frame} (held : context.frame = some frame) := within_frame inside held
  cases operand with
  | value literal => exact given
  | named name => exact within_readVariable sound _ name
  | argumentCount => trivial
  | repeated text count => trivial
  | spread => trivial
  | this =>
      cases held : context.frame with
      | none => trivial
      | some frame => exact (frames held).2.2.1
  | callee =>
      cases held : context.frame with
      | none => trivial
      | some frame => exact (frames held).1
  | newTarget =>
      cases held : context.frame with
      | none => trivial
      | some frame =>
          have there := (frames held).2.2.2.2
          cases target : frame.newTarget with
          | none =>
              simp only [Option.bind_some, target, Option.map_none, Option.getD_none]
              trivial
          | some id =>
              rw [target] at there
              simp only [Option.bind_some, target, Option.map_some, Option.getD_some]
              exact there
  | argument place =>
      cases held : context.frame with
      | none => trivial
      | some frame => exact Frame.within_argument (frames held) place
  | captured place =>
      cases held : context.frame with
      | none => trivial
      | some frame => exact Frame.within_captured (frames held) place

theorem within_evaluateAll (sound : state.Sound law) (inside : Within law state.heap.size context)
    {operands : List Operand} (given : Within law state.heap.size operands) :
    Within law state.heap.size (Operand.evaluateAll context state operands) := by
  intro value member
  obtain ⟨operand, listed, found⟩ := List.mem_flatMap.mp member
  split at found
  · cases held : context.frame with
    | none =>
        rw [held] at found
        cases found
    | some frame =>
        rw [held] at found
        exact (within_frame inside held).2.2.2.1 value found
  · rw [List.mem_singleton.mp found]
    exact within_evaluate sound inside (given operand listed)

theorem within_map_evaluate (sound : state.Sound law) (inside : Within law state.heap.size context)
    {operand : Option Operand} (given : Within law state.heap.size operand) :
    Within law state.heap.size (operand.map (·.evaluate context state)) := by
  cases operand with
  | none => trivial
  | some operand => exact within_evaluate sound inside given

theorem within_evaluate_descriptor (sound : state.Sound law)
    (inside : Within law state.heap.size context) {descriptor : DescriptorOperands}
    (given : Within law state.heap.size descriptor) :
    Within law state.heap.size (descriptor.evaluate context state) :=
  ⟨within_map_evaluate sound inside given.1, within_map_evaluate sound inside given.2.1,
    within_map_evaluate sound inside given.2.2⟩

theorem within_evaluate_member (sound : state.Sound law)
    (inside : Within law state.heap.size context) {member : MemberOperands}
    (given : Within law state.heap.size member) :
    Within law state.heap.size (member.evaluate context state) :=
  ⟨within_map_evaluate sound inside given.2.1, within_map_evaluate sound inside given.2.2.1,
    within_map_evaluate sound inside given.2.2.2⟩

/-! ## Operands by their places -/

variable (machine : engine.Sound law) (sound : state.Sound law)
  (given : Within law state.heap.size values)

include sound given

omit sound in
theorem within_operandAt (place : Nat) : Within law state.heap.size (operandAt values place) :=
  within_getElem? given place

theorem objectAt_sound (place : Nat) : SoundAt law engine state (objectAt values place) := by
  unfold objectAt
  have there := within_operandAt given place
  split
  · next held =>
    rw [held] at there
    exact sound_pure sound there
  · exact sound_raise sound _ trivial

theorem linkAt_sound (place : Nat) : SoundAt law engine state (linkAt values place) := by
  unfold linkAt
  have there := within_operandAt given place
  split
  · next held =>
    rw [held] at there
    exact sound_pure sound there
  · exact sound_pure sound trivial
  · exact sound_raise sound _ trivial

/-! ## Operations -/

omit given in
theorem removeKey_sound {id : ObjectId} {key : PropertyKey} (unasked : law.removes = true)
    (there : Within law state.heap.size id) :
    SoundAt law engine state (PropertyOperation.removeKey id key) := by
  unfold PropertyOperation.removeKey
  refine sound_ask (sound_bind (sound_change sound (.remove unasked there)) fun _ next leads _ => ?_)
  exact sound_pure leads.sound trivial

include machine in
theorem propertyOperation_sound {operation : PropertyOperation}
    (inside : Within law state.heap.size context)
    (lawful : Within law state.heap.size (Operation.onProperty operation)) :
    SoundAt law engine state (operation.perform context values) := by
  obtain ⟨permitted, literals⟩ := lawful
  have operand := within_operandAt given
  have first : SoundAt law engine state (objectAt values 0) := objectAt_sound sound given 0
  unfold PropertyOperation.perform
  cases operation with
  | get =>
      exact sound_ask (sound_bind (getOf_sound machine sound (operand 0)) fun _ _ leads found =>
        sound_pure leads.sound found)
  | getOwnOrInherited =>
      refine sound_bind first fun id next leads there => sound_ask ?_
      exact sound_bind (get_sound machine leads.sound there) fun _ _ later found =>
        sound_pure later.sound found
  | getWithReceiver =>
      refine sound_bind first fun id next leads there => sound_ask ?_
      exact sound_bind (getFor_sound machine leads.sound (leads.keeps (operand 2)))
        fun _ _ later found => sound_pure later.sound found
  | set =>
      refine sound_bind first fun id next leads there => sound_ask ?_
      exact sound_bind (set_sound machine leads.sound there (leads.keeps (operand 2)))
        fun _ _ later _ => sound_pure later.sound trivial
  | has =>
      refine sound_bind first fun id next leads there => sound_ask ?_
      exact sound_bind (has_sound leads.sound) fun _ _ later _ => sound_pure later.sound trivial
  | hasOwn =>
      refine sound_bind first fun id next leads there => sound_ask (sound_ask ?_)
      exact sound_pure leads.sound trivial
  | define descriptor =>
      refine sound_bind first fun id next leads there => sound_state (sound_ask ?_)
      have described := within_evaluate_descriptor leads.sound (leads.keeps inside)
        (leads.keeps literals)
      exact sound_bind (define_sound leads.sound there described) fun _ _ later _ =>
        sound_pure later.sound trivial
  | defineRaw writable enumerable configurable =>
      refine sound_bind first fun id next leads there => sound_ask ?_
      refine sound_bind (sound_change leads.sound (.overwrite (permitted.1 rfl) there ?_))
        fun _ _ later _ => sound_pure later.sound trivial
      exact leads.keeps (operand 2)
  | defineAll =>
      refine sound_bind first fun id next leads there => ?_
      refine sound_bind (objectAt_sound leads.sound (leads.keeps given) 1)
        fun properties last later found => ?_
      exact sound_bind (defineAll_sound machine later.sound (later.keeps there) found)
        fun _ _ ended _ => sound_pure ended.sound trivial
  | remove =>
      refine sound_bind first fun id next leads there => sound_ask ?_
      exact sound_bind (removeKey_sound leads.sound (permitted.2 rfl) there) fun _ _ later _ =>
        sound_pure later.sound trivial
  | rawGet =>
      refine sound_bind first fun id next leads there => sound_ask (sound_ask ?_)
      exact sound_pure leads.sound trivial
  | rawSet =>
      refine sound_bind first fun id next leads there => sound_ask ?_
      refine sound_bind (sound_change leads.sound (.overwriteValue (permitted.1 rfl) there ?_))
        fun _ _ later _ => sound_pure later.sound trivial
      exact leads.keeps (operand 2)
  | ownSlot =>
      refine sound_bind first fun id next leads there => sound_ask (sound_ask ?_)
      exact sound_pure leads.sound trivial
  | descriptor =>
      refine sound_bind first fun id next leads there => sound_ask (sound_ask ?_)
      exact sound_pure leads.sound trivial
  | descriptorFrom =>
      refine sound_bind first fun id next leads there => ?_
      exact sound_bind (descriptorOf_sound machine leads.sound there) fun _ _ later _ =>
        sound_pure later.sound trivial
  | descriptorTo descriptor =>
      have described := within_evaluate_descriptor sound inside literals
      refine sound_state (sound_bind (sound_build sound
        (Build.descriptorRecord_grows sound.heap described)) fun record next leads there => ?_)
      exact sound_pure leads.sound there
  | ownKeys =>
      refine sound_bind first fun id next leads there => sound_ask ?_
      exact sound_pure leads.sound trivial
  | enumerableKeys =>
      refine sound_bind first fun id next leads there => sound_ask ?_
      exact sound_pure leads.sound trivial
  | forIn =>
      refine sound_bind first fun id next leads there => sound_follow fun _ _ => ?_
      exact sound_pure leads.sound trivial
  | list =>
      exact sound_bind (elementsOf_sound machine sound (operand 0)) fun _ _ leads _ =>
        sound_pure leads.sound trivial
  | preventExtensions =>
      refine sound_bind first fun id next leads there => ?_
      exact sound_bind (sound_change leads.sound (.close there)) fun _ _ later _ =>
        sound_pure later.sound trivial
  | dump =>
      refine sound_bind first fun id next leads there => sound_ask ?_
      exact sound_pure leads.sound trivial
  | chain =>
      refine sound_bind first fun id next leads there => sound_follow fun _ _ => ?_
      exact sound_pure leads.sound trivial

omit given in
theorem defineGlobal_sound {name : String} {value : Value} (unasked : law.writes = true)
    (there : Within law state.heap.size value) :
    SoundAt law engine state (Run.build (Build.defineGlobal name value)) :=
  sound_of_change sound (fun _ => rfl) (.heap (.overwrite unasked (sound.heap.intrinsic .global) there))
    trivial

omit given in
theorem installHelpers_sound (unasked : law.writes = true) (marked : List Helper) :
    SoundAt law engine state (Run.build (Build.installHelpers marked)) := by
  unfold Build.installHelpers
  rw [build_forM]
  refine sound_forM sound fun helper _ next leads => ?_
  rw [build_bind]
  refine sound_bind (sound_build leads.sound
    (Build.method_grows leads.sound.heap _ _ _ within_nil fun _ => nofun))
    fun id last later there => ?_
  exact defineGlobal_sound later.sound unasked there

omit sound given in
theorem within_valueReply {size : Nat} {heap : Heap} (operation : ValueOperation)
    (given : Within law size values) : Within law size (operation.reply heap values) := by
  unfold ValueOperation.reply
  cases operation with
  | itself => exact within_getElem? given 0
  | add =>
      change Within law size (sum heap _ _)
      unfold sum
      split <;> trivial
  | _ => trivial

theorem requestedPrototype_sound :
    SoundAt law engine state (CreationOperation.requestedPrototype values) := by
  unfold CreationOperation.requestedPrototype
  split
  · exact sound_pure sound (sound.heap.intrinsic .objectPrototype)
  · exact linkAt_sound sound given 0

include machine in
theorem creationOperation_sound {operation : CreationOperation}
    (lawful : Within law state.heap.size (Operation.create operation)) :
    SoundAt law engine state (operation.perform values) := by
  unfold CreationOperation.perform
  cases operation with
  | symbol description =>
      have made : SoundAt law engine state (CreationOperation.newSymbol description) :=
        sound_of_change sound (fun _ => rfl) .symbol trivial
      exact sound_bind made fun _ _ leads _ => sound_pure leads.sound trivial
  | object =>
      refine sound_bind (requestedPrototype_sound sound given) fun prototype next leads found => ?_
      exact sound_bind (sound_build leads.sound (Build.object_grows found))
        fun _ _ later there => sound_pure later.sound there
  | array =>
      exact sound_bind (sound_build sound (Build.list_grows sound.heap given)) fun _ _ leads there =>
        sound_pure leads.sound there
  | error errorClass message =>
      exact sound_bind (sound_build sound (Build.error_grows sound.heap errorClass message))
        fun _ _ leads there => sound_pure leads.sound there
  | global => exact sound_pure sound (sound.heap.intrinsic .global)
  | globalProperty name =>
      exact sound_bind (getGlobal_sound machine sound name) fun _ _ leads found =>
        sound_pure leads.sound found
  | defineGlobal name =>
      exact sound_bind (defineGlobal_sound sound (lawful.1.1 rfl) (within_operandAt given 0))
        fun _ _ leads _ => sound_pure leads.sound trivial
  | intrinsic named => exact sound_pure sound (sound.heap.intrinsic named)
  | installHelpers marked =>
      exact sound_bind (installHelpers_sound sound (lawful.1.1 rfl) marked) fun _ _ leads _ =>
        sound_pure leads.sound trivial

include machine in
theorem prototypeOperation_sound (operation : PrototypeOperation) :
    SoundAt law engine state (operation.perform values) := by
  have operand := within_operandAt given
  have first : SoundAt law engine state (objectAt values 0) := objectAt_sound sound given 0
  unfold PrototypeOperation.perform
  cases operation with
  | rawPrototype =>
      refine sound_bind first fun id next leads _ => sound_ask ?_
      split
      · exact sound_pure leads.sound trivial
      · exact sound_pure leads.sound trivial
  | setRawPrototype =>
      refine sound_bind first fun id next leads there => ?_
      refine sound_bind (linkAt_sound leads.sound (leads.keeps given) 1)
        fun prototype last later found => ?_
      exact sound_bind (setPrototype_sound later.sound (later.keeps there) found)
        fun _ _ ended _ => sound_pure ended.sound trivial
  | prototypeOfValue =>
      exact sound_bind (prototypeOfValue_sound sound) fun _ _ leads found =>
        sound_pure leads.sound found
  | getPrototypeOf =>
      exact sound_bind (getPrototypeOf_sound machine sound (operand 0)) fun _ _ leads found =>
        sound_pure leads.sound found
  | setPrototypeOf =>
      exact sound_bind (setPrototypeOf_sound machine sound (operand 0) (operand 1))
        fun _ _ leads found => sound_pure leads.sound found
  | lookupStrategy =>
      exact sound_bind (lookupStrategy_sound sound) fun _ _ leads _ => sound_pure leads.sound trivial
  | writerStrategy =>
      exact sound_bind (writerStrategy_sound sound) fun _ _ leads _ => sound_pure leads.sound trivial
  | instanceOf =>
      exact sound_bind (instanceOf_sound machine sound) fun _ _ leads _ =>
        sound_pure leads.sound trivial

omit sound in
theorem within_drop (count : Nat) : Within law state.heap.size (values.drop count) :=
  fun value member => given value (List.mem_of_mem_drop member)

include machine in
theorem functionOperation_sound (operation : FunctionOperation) :
    SoundAt law engine state (operation.perform values) := by
  have operand := within_operandAt given
  have rest := within_drop given
  unfold FunctionOperation.perform
  cases operation with
  | call =>
      exact sound_bind (call_sound machine sound (operand 1) (rest 2)) fun _ _ leads found =>
        sound_pure leads.sound found
  | construct =>
      exact sound_bind (construct_sound machine sound (rest 1)) fun _ _ leads found =>
        sound_pure leads.sound found
  | constructAs =>
      exact sound_bind (constructFor_sound machine sound (rest 2)) fun _ _ leads found =>
        sound_pure leads.sound found
  | createFromConstructor =>
      refine sound_bind (objectAt_sound sound given 0) fun constructor next leads there => ?_
      refine sound_bind (objectAt_sound leads.sound (leads.keeps given) 1)
        fun fallback last later found => ?_
      exact sound_bind (createFromConstructor_sound machine later.sound (later.keeps there) found)
        fun _ _ ended created => sound_pure ended.sound created
  | callGlobal name =>
      refine sound_bind (getGlobal_sound machine sound name) fun function next leads _ => ?_
      exact sound_bind (call_sound machine leads.sound (by trivial) (leads.keeps given))
        fun _ _ later found => sound_pure later.sound found
  | callMethod name =>
      refine sound_bind (getOf_sound machine sound (operand 0)) fun method next leads _ => ?_
      exact sound_bind (call_sound machine leads.sound (leads.keeps (operand 0))
        (leads.keeps (rest 1))) fun _ _ later found => sound_pure later.sound found

omit given in
theorem evaluateMembers_sound (inside : Within law state.heap.size context)
    {members : List MemberOperands} (literals : Within law state.heap.size members) :
    SoundAt law engine state (ClassOperation.evaluateMembers context members) := by
  refine sound_state (sound_pure sound fun member listed => ?_)
  obtain ⟨written, among, rfl⟩ := List.mem_map.mp listed
  exact within_evaluate_member sound inside (literals written among)

include machine in
theorem classOperation_sound {operation : ClassOperation}
    (inside : Within law state.heap.size context)
    (lawful : Within law state.heap.size (Operation.onClass operation)) :
    SoundAt law engine state (operation.perform context values) := by
  have literals := lawful.2
  have operand := within_operandAt given
  unfold ClassOperation.perform
  cases operation with
  | checkInstance =>
      exact sound_bind (checkInstance_sound machine sound) fun _ _ leads _ =>
        sound_pure leads.sound trivial
  | link =>
      exact sound_bind (linkClass_sound machine sound (operand 0) (operand 1)) fun _ _ leads _ =>
        sound_pure leads.sound trivial
  | install members =>
      refine sound_bind (objectAt_sound sound given 0) fun id next leads there => ?_
      refine sound_bind (evaluateMembers_sound leads.sound (leads.keeps inside)
        (leads.keeps literals)) fun evaluated last later found => ?_
      exact sound_bind (install_sound later.sound (later.keeps there) found) fun _ _ ended _ =>
        sound_pure ended.sound trivial
  | createClass members statics =>
      refine sound_bind (evaluateMembers_sound sound inside literals.1)
        fun evaluated next leads found => ?_
      refine sound_bind (evaluateMembers_sound leads.sound (leads.keeps inside)
        (leads.keeps literals.2)) fun others last later foundOthers => ?_
      exact sound_bind (createClass_sound machine later.sound ((leads.trans later).keeps (operand 0))
        (later.keeps found) foundOthers) fun _ _ ended created => sound_pure ended.sound created
  | memberFrom =>
      refine sound_bind (objectAt_sound sound given 0) fun id next leads there => ?_
      exact sound_bind (memberOf_sound machine leads.sound there) fun _ _ later _ =>
        sound_pure later.sound trivial
  | defineField =>
      exact sound_ask (sound_bind (defineField_sound machine sound (operand 0) (operand 2))
        fun _ _ leads found => sound_pure leads.sound found)
  | assertThis =>
      exact sound_bind (assertThis_sound sound (operand 0)) fun _ _ leads found =>
        sound_pure leads.sound found
  | constructorReturn =>
      exact sound_bind (constructorReturn_sound sound (operand 0) (operand 1)) fun _ _ leads found =>
        sound_pure leads.sound found
  | superGet =>
      exact sound_ask (sound_bind (superGet_sound machine sound (operand 0) (operand 2))
        fun _ _ leads found => sound_pure leads.sound found)
  | nativeReflect =>
      exact sound_bind (hasNativeConstruct_sound machine sound) fun _ _ leads _ =>
        sound_pure leads.sound trivial
  | superCaller =>
      exact sound_bind (makeSuperCaller_sound sound (operand 0)) fun _ _ leads found =>
        sound_pure leads.sound found

omit given in
theorem note_sound (entry : JournalEntry) : SoundAt law engine state (note entry) :=
  sound_of_change sound (fun _ => rfl) (.journal _) trivial

include machine in
theorem operation_sound {operation : Operation} (inside : Within law state.heap.size context)
    (lawful : Within law state.heap.size operation) :
    SoundAt law engine state (operation.perform context values) := by
  unfold Operation.perform
  cases operation with
  | throwValue => exact sound_fail sound (within_operandAt given 0)
  | raise kind message => exact sound_raise sound _ trivial
  | log =>
      exact sound_bind (note_sound sound _) fun _ _ leads _ => sound_pure leads.sound trivial
  | onValue operation =>
      exact sound_pure sound (within_valueReply operation given)
  | create operation => exact creationOperation_sound machine sound given lawful
  | onProperty operation => exact propertyOperation_sound machine sound given inside lawful
  | onPrototype operation => exact prototypeOperation_sound machine sound given operation
  | onFunction operation => exact functionOperation_sound machine sound given operation
  | onClass operation => exact classOperation_sound machine sound given inside lawful

end Script

end ClassLowering
