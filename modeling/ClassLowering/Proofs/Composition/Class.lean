import ClassLowering.Builtin.Dispatch
import ClassLowering.Proofs.Composition.Access

/-!
# Composed helpers of lowered classes

The portable prototype link, constructors, members, links between classes, and super calls.
-/

namespace ClassLowering

/-- A member without accessor functions. -/
def Member.IsData (member : Member) : Prop := member.get = none ∧ member.set = none

namespace Run

variable {guarded : Bool} {id : ObjectId} {key : PropertyKey} {value receiver : Value}

/-! ## The portable prototype link -/

theorem askedPrototypeOf_composed (this : Value) : Composed guarded (askedPrototypeOf this value) := by
  unfold askedPrototypeOf
  refine .bind (composed_ask _) fun function => ?_
  split
  · exact call_composed _ _ _
  · exact composed_pure _

theorem getPrototypeBy_composed (strategy : PrototypeStrategy) (this : Value) :
    Composed guarded (getPrototypeBy strategy this value) := by
  cases strategy with
  | standard => exact .bind (composed_ask _) fun _ => call_composed _ _ _
  | legacy =>
      refine .bind getOf_composed fun prototype => ?_
      split
      · exact composed_pure _
      · exact askedPrototypeOf_composed this

theorem getPrototypeOf_composed : Composed guarded (getPrototypeOf value) :=
  .bind (composed_ask _) fun this =>
    .bind .lookupStrategy fun strategy => getPrototypeBy_composed strategy this

theorem setPrototypeBy_composed {prototype : Value} (strategy : PrototypeStrategy) :
    Composed guarded (setPrototypeBy strategy value prototype) := by
  cases strategy with
  | standard =>
      exact .bind (composed_ask _) fun _ => .bind (composed_ask _) fun _ => call_composed _ _ _
  | legacy =>
      cases value with
      | object id => exact .bind set_composed fun _ => composed_pure _
      | _ => exact composed_pure _

theorem setPrototypeOf_composed {prototype : Value} :
    Composed guarded (setPrototypeOf value prototype) :=
  .bind .writerStrategy fun strategy => setPrototypeBy_composed strategy

/-! ## Constructors -/

theorem checkInstance_composed {constructor : Value} :
    Composed guarded (checkInstance value constructor) := by
  unfold checkInstance
  refine .bind instanceOf_composed fun isInstance => ?_
  split
  · exact composed_pure _
  · exact composed_raise _

theorem assertThis_composed (this : Value) : Composed guarded (assertThis this) := by
  unfold assertThis
  split
  · exact composed_raise _
  · exact composed_pure _

theorem constructorReturn_composed (this result : Value) :
    Composed guarded (constructorReturn this result) := by
  unfold constructorReturn
  split
  · exact composed_pure _
  · exact assertThis_composed this

theorem readOwn_composed : Composed guarded (readOwn id key receiver) := by
  unfold readOwn
  refine .bind (composed_ask _) fun property => ?_
  split
  · exact composed_pure _
  · exact call_composed _ _ _
  · exact composed_pure _

theorem ownerFor_composed (bound : Nat) : Composed guarded (ownerFor key bound value) := by
  induction bound generalizing value with
  | zero => exact composed_endless
  | succ bound ih =>
      unfold ownerFor
      cases value with
      | object id =>
          refine .bind (composed_ask _) fun owns => ?_
          split
          · exact composed_pure _
          · exact .bind getPrototypeOf_composed fun _ => ih
      | _ => exact composed_pure _

/-- A search for the owner of a key that ended finds the same in more rounds. -/
theorem ownerFor_settled {bound more : Nat} {engine : Engine} {state : State} (le : bound ≤ more)
    (ended : ownerFor key bound value engine state ≠ .exhausted) :
    ownerFor key more value engine state = ownerFor key bound value engine state := by
  induction bound generalizing more value state with
  | zero => exact absurd rfl ended
  | succ bound ih =>
      obtain ⟨more, rfl⟩ := Nat.exists_eq_add_of_le' (Nat.le_trans (Nat.le_add_left 1 bound) le)
      unfold ownerFor at ended ⊢
      cases value with
      | object id =>
          simp only [ask_bind] at ended ⊢
          split
          · rfl
          · next missing =>
            rw [if_neg missing, bind_apply] at ended
            rw [bind_apply, bind_apply]
            cases found : getPrototypeOf (.object id) engine state with
            | done above next =>
                rw [found] at ended
                exact ih (Nat.le_of_succ_le_succ le) ended
            | failed failure next => rfl
            | exhausted => rfl
      | _ => rfl

theorem superGet_composed {target : Value} : Composed guarded (superGet target key receiver) := by
  unfold superGet
  refine .search (fun bound => .bind (ownerFor_composed bound) fun owner => ?_) ?_
  · split
    · exact readOwn_composed
    · exact composed_pure _
  · intro bound more engine state le ended
    rw [bind_apply] at ended
    have settled := ownerFor_settled le fun exhausted => ended (by rw [exhausted])
    rw [bind_apply, bind_apply, settled]

/-! ## Members -/

theorem memberOf_composed : Composed guarded (memberOf id) := by
  unfold memberOf
  refine .bind get_composed fun _ => .bind (composed_ask _) fun _ => ?_
  refine .bind (field?_composed _) fun _ => ?_
  refine .bind (field?_composed _) fun _ => ?_
  refine .bind (field?_composed _) fun _ => ?_
  refine .bind get_composed fun _ => ?_
  split
  · exact composed_raise _
  · exact composed_pure _

theorem memberOfEntry_composed : Composed guarded (memberOfEntry value) := by
  unfold memberOfEntry
  split
  · exact memberOf_composed
  · exact composed_complaint _ _

theorem membersOf_composed : Composed guarded (membersOf value) := by
  unfold membersOf
  split
  · exact composed_pure _
  · exact .bind elementsOf_composed fun _ => composed_mapM fun _ => memberOfEntry_composed

theorem install_composed {members : List Member}
    (isData : guarded = true → ∀ member ∈ members, member.IsData) :
    Composed guarded (install id members) :=
  composed_forM fun member listed => define_composed fun asked => isData asked member listed

theorem createClass_composed {members statics : List Member}
    (membersData : guarded = true → ∀ member ∈ members, member.IsData)
    (staticsData : guarded = true → ∀ member ∈ statics, member.IsData) :
    Composed guarded (createClass value members statics) := by
  unfold createClass
  cases value with
  | object id =>
      refine .bind get_composed fun prototype => ?_
      split
      · exact .bind (install_composed membersData) fun _ =>
          .bind (install_composed staticsData) fun _ => composed_pure _
      · exact composed_raise _
  | _ => exact composed_complaint _ _

theorem defineField_composed {target : Value} : Composed guarded (defineField target key value) := by
  unfold defineField
  cases target with
  | object id =>
      refine .bind has_composed fun present => ?_
      split
      · exact .bind (define_composed fun _ => ⟨rfl, rfl⟩) fun _ => composed_pure _
      · exact .bind set_composed fun _ => composed_pure _
  | _ => exact composed_complaint _ _

/-! ## Linking -/

theorem baseInstancePrototype_composed {base : Value} :
    Composed guarded (baseInstancePrototype base) := by
  unfold baseInstancePrototype
  cases base with
  | object id =>
      refine .bind get_composed fun prototype => ?_
      split
      · exact composed_pure _
      · exact composed_pure _
      · exact composed_complaint _ _
  | _ => exact composed_pure _

theorem checkBase_composed {base : Value} : Composed guarded (checkBase base) := by
  unfold checkBase
  refine .bind (composed_ask _) fun callable => ?_
  split
  · exact composed_pure _
  · exact composed_raise _

theorem linkClass_composed {derived base : Value} : Composed guarded (linkClass derived base) := by
  unfold linkClass
  refine .bind checkBase_composed fun _ => ?_
  cases derived with
  | object id =>
      refine .bind baseInstancePrototype_composed fun above => ?_
      refine .bind (composed_build fun _ => Build.guards_object _) fun prototype => ?_
      refine .bind (define_composed fun _ => ⟨rfl, rfl⟩) fun _ => .bind set_composed fun written => ?_
      split
      · split
        · exact .bind setPrototypeOf_composed fun _ => composed_pure _
        · exact composed_pure _
      · exact composed_raise _
  | _ => exact composed_complaint _ _

/-! ## Super calls -/

theorem getGlobal_composed (name : String) : Composed guarded (getGlobal name) := get_composed

theorem tryReflectConstruct_composed {function : Value} :
    Composed guarded (tryReflectConstruct id function) := by
  unfold tryReflectConstruct
  refine .bind (getGlobal_composed _) fun boolean => ?_
  refine .bind (composed_build fun _ => Build.guards_function (by trivial) 0) fun newTarget => ?_
  refine .bind (composed_build fun _ => Build.guards_list []) fun noArguments => ?_
  refine .bind (call_composed _ _ _) fun boxed => ?_
  refine .bind getOf_composed fun prototype => .bind getOf_composed fun valueOf => ?_
  exact .bind (call_composed _ _ _) fun _ => composed_pure _

theorem trustsConstruct_composed {function : Value} :
    Composed guarded (trustsConstruct id function) := by
  unfold trustsConstruct
  refine .bind (getGlobal_composed _) fun proxy => .bind (composed_ask _) fun callable => ?_
  split
  · exact composed_pure _
  · exact .bind tryReflectConstruct_composed fun _ => composed_pure _

theorem respectsNewTarget_composed {function : Value} :
    Composed guarded (respectsNewTarget id function) := by
  unfold respectsNewTarget
  split
  · exact composed_pure _
  · refine .bind getOf_composed fun sham => ?_
    split
    · exact composed_pure _
    · exact trustsConstruct_composed

theorem detectNativeConstruct_composed : Composed guarded detectNativeConstruct := by
  unfold detectNativeConstruct
  refine .bind (getGlobal_composed _) fun reflect => ?_
  split
  · exact .bind get_composed fun _ => respectsNewTarget_composed
  · exact composed_pure _

theorem hasNativeConstruct_composed : Composed guarded hasNativeConstruct :=
  .hasNativeConstruct detectNativeConstruct_composed

theorem constructBase_composed {base this : Value} {arguments : List Value} :
    Composed guarded (constructBase base this arguments) := by
  unfold constructBase constructorOfInstance
  refine .bind (.bind getPrototypeOf_composed fun _ => getOf_composed) fun newTarget => ?_
  refine .bind (getGlobal_composed _) fun reflect => .bind getOf_composed fun function => ?_
  exact .bind (composed_build fun _ => Build.guards_list _) fun list => call_composed _ _ _

theorem runBase_composed {base this : Value} {arguments : List Value} :
    Composed guarded (runBase base this arguments) := by
  unfold runBase
  refine .bind hasNativeConstruct_composed fun isNative => ?_
  split
  · exact constructBase_composed
  · exact call_composed _ _ _

theorem superCall_composed {derived this : Value} {arguments : List Value} :
    Composed guarded (superCall derived this arguments) :=
  .bind getPrototypeOf_composed fun _ =>
    .bind runBase_composed fun result => constructorReturn_composed this result

theorem makeSuperCaller_composed {derived : Value} : Composed guarded (makeSuperCaller derived) :=
  composed_build fun _ => Build.guards_method _ _ _ _

end Run

end ClassLowering
