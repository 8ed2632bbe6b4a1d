import ClassLowering.Proofs.Composition.Class

/-!
# Composed functions of the host

Every function that the host provides is a composed run. All but one are guarded: `_createClass` installs
the members that it reads from records without a test.
-/

namespace ClassLowering.Builtin

open Run

variable {guarded : Bool} {frame : Frame} {value : Value}

/-! ## The global `Object` -/

theorem prototypeArgument_composed : Composed guarded (prototypeArgument value) := by
  unfold prototypeArgument
  split
  · exact composed_pure _
  · exact composed_pure _
  · exact composed_complaint _ _

theorem fromArgument_composed : Composed guarded (runObjectConstructor.fromArgument frame) := by
  unfold runObjectConstructor.fromArgument
  split
  · exact composed_pure _
  · exact .bind (composed_build fun _ => Build.guards_boxedBoolean _ _) fun _ => composed_pure _
  · exact .bind (composed_build fun _ => Build.guards_plainObject) fun _ => composed_pure _

theorem runObjectConstructor_composed : Composed guarded (runObjectConstructor frame) := by
  unfold runObjectConstructor
  split
  · split
    · exact fromArgument_composed
    · exact .bind createFromConstructor_composed fun _ => composed_pure _
  · exact fromArgument_composed

theorem runSetPrototypeOf_composed : Composed guarded (runSetPrototypeOf frame) := by
  unfold runSetPrototypeOf
  dsimp only
  split
  · exact composed_raise _
  · refine .bind prototypeArgument_composed fun prototype => ?_
    split
    · refine .bind setPrototype_composed fun written => ?_
      split
      · exact composed_pure _
      · exact composed_raise _
    · exact composed_pure _

theorem runCreate_composed : Composed guarded (runCreate frame) := by
  unfold runCreate
  refine .bind prototypeArgument_composed fun prototype => ?_
  refine .bind (composed_build fun _ => Build.guards_object _) fun created => ?_
  split
  · exact composed_pure _
  · exact .bind defineAll_composed fun _ => composed_pure _
  · exact composed_raise _

theorem runDefineProperty_composed : Composed guarded (runDefineProperty frame) := by
  unfold runDefineProperty
  split
  · refine .bind (composed_ask _) fun key => ?_
    split
    · rw [← bind_assoc]
      exact .bind defineRead_composed fun _ => composed_pure _
    · exact composed_complaint _ _
  · exact composed_raise _

theorem runGetOwnPropertyDescriptor_composed :
    Composed guarded (runGetOwnPropertyDescriptor frame) := by
  unfold runGetOwnPropertyDescriptor
  split
  · refine .bind (composed_ask _) fun key => .bind (composed_ask _) fun property => ?_
    split
    · exact .bind (composed_build fun _ => Build.guards_descriptorRecord _) fun _ => composed_pure _
    · exact composed_pure _
  · exact composed_pure _

theorem listOwn_composed (listing : Table → List Value) : Composed guarded (listOwn value listing) := by
  unfold listOwn
  split
  · refine .bind (composed_ask _) fun values => ?_
    exact .bind (composed_build fun _ => Build.guards_list _) fun _ => composed_pure _
  · exact composed_raise _
  · exact composed_raise _
  · exact .bind (composed_build fun _ => Build.guards_list _) fun _ => composed_pure _

theorem runKeys_composed : Composed guarded (runKeys frame) := listOwn_composed _

theorem runGetOwnPropertyNames_composed : Composed guarded (runGetOwnPropertyNames frame) :=
  listOwn_composed _

theorem runHasOwnProperty_composed : Composed guarded (runHasOwnProperty frame) := by
  unfold runHasOwnProperty
  refine .bind (composed_ask _) fun key => ?_
  split
  · exact .bind (composed_ask _) fun _ => composed_pure _
  · exact composed_raise _
  · exact composed_raise _
  · exact composed_pure _

theorem linkSetterWrite_composed {prototype : Option ObjectId} :
    Composed guarded (runLinkSetter.write frame prototype) := by
  unfold runLinkSetter.write
  split
  · refine .bind setPrototype_composed fun written => ?_
    split
    · exact composed_pure _
    · exact composed_raise _
  · exact composed_pure _

theorem runLinkSetter_composed : Composed guarded (runLinkSetter frame) := by
  unfold runLinkSetter
  split
  · exact composed_raise _
  · split
    · exact linkSetterWrite_composed
    · exact linkSetterWrite_composed
    · exact composed_pure _

/-! ## Functions, errors, booleans and proxies -/

theorem optionalElements_composed : Composed guarded (optionalElements value) := by
  unfold optionalElements
  split
  · exact composed_pure _
  · exact elementsOf_composed

theorem runProxyConstructor_composed : Composed guarded (runProxyConstructor frame) := by
  unfold runProxyConstructor
  split
  · exact composed_raise _
  · split
    · exact .bind (composed_build fun _ => Build.guards_allocate Table.isData_empty rfl)
        fun _ => composed_pure _
    · exact composed_raise _

/-- The message of an error, if it has one. -/
theorem errorProperties_bind {α : Type} (rest : Table → Run α) :
    (errorProperties value >>= rest) =
      match value with
      | .undefined => rest .empty
      | message => textOf message >>= fun text =>
          rest (Table.empty.insert "message" (.hidden (.string text))) := by
  cases value <;> rfl

theorem runErrorConstructor_composed : Composed guarded (runErrorConstructor frame) := by
  unfold runErrorConstructor
  dsimp only
  refine .bind get_composed fun fallback => ?_
  split
  · refine .bind instancePrototype_composed fun prototype => ?_
    rw [errorProperties_bind]
    split
    · exact .bind (composed_build fun _ => Build.guards_allocate Table.isData_empty rfl)
        fun _ => composed_pure _
    · refine .bind (composed_ask _) fun text => ?_
      exact .bind (composed_build fun _ => Build.guards_allocate (Table.isData_empty.insert rfl) rfl)
        fun _ => composed_pure _
  · exact composed_raise _

theorem runBooleanConstructor_composed : Composed guarded (runBooleanConstructor frame) := by
  unfold runBooleanConstructor
  dsimp only
  split
  · exact composed_pure _
  · exact .bind instancePrototype_composed fun _ =>
      .bind (composed_build fun _ => Build.guards_boxedBoolean _ _) fun _ => composed_pure _

theorem truthOf_composed (method : String) : Composed guarded (truthOf value method) := by
  unfold truthOf
  split
  · exact composed_pure _
  · refine .bind (composed_ask _) fun truth => ?_
    split
    · exact composed_pure _
    · exact composed_raise _
  · exact composed_raise _

/-! ## The global `Reflect` -/

theorem constructible_composed : Composed guarded (constructOperands.constructible value) := by
  unfold constructOperands.constructible
  refine .bind (composed_ask _) fun constructs => ?_
  split
  · exact composed_pure _
  · exact composed_complaint _ _

theorem constructOperands_composed : Composed guarded (constructOperands frame) :=
  .bind constructible_composed fun _ => .bind constructible_composed fun _ =>
    .bind elementsOf_composed fun _ => composed_pure _

theorem runReflectConstruct_composed : Composed guarded (runReflectConstruct frame) :=
  .bind constructOperands_composed fun _ => constructFor_composed _ _

theorem prototypeForTarget_composed : Composed guarded (prototypeForTarget value) := by
  unfold prototypeForTarget
  split
  · exact instancePrototype_composed
  · exact composed_pure _

theorem runReflectConstructPolyfill_composed :
    Composed guarded (runReflectConstructPolyfill frame) :=
  .bind constructOperands_composed fun _ => .bind prototypeForTarget_composed fun _ =>
    .bind (composed_build fun _ => Build.guards_object _) fun _ =>
      .bind (call_composed _ _ _) fun _ => composed_pure _

theorem runReflectApply_composed : Composed guarded (runReflectApply frame) := by
  unfold runReflectApply
  refine .bind (composed_ask _) fun callable => ?_
  split
  · exact .bind elementsOf_composed fun _ => call_composed _ _ _
  · exact composed_raise _

theorem reflectTarget_composed (method : String) : Composed guarded (reflectTarget frame method) := by
  unfold reflectTarget
  split
  · exact composed_pure _
  · exact composed_raise _

theorem runReflectOwnKeys_composed : Composed guarded (runReflectOwnKeys frame) :=
  .bind (reflectTarget_composed _) fun _ => .bind (composed_ask _) fun _ =>
    .bind (composed_build fun _ => Build.guards_list _) fun _ => composed_pure _

/-! ## The helpers -/

theorem runCreateClass_composed : Composed false (runCreateClass frame) :=
  .bind membersOf_composed fun _ => .bind membersOf_composed fun _ =>
    createClass_composed Bool.noConfusion Bool.noConfusion

theorem runHelper_composed (helper : Helper) (tested : guarded = true → helper ≠ .createClass) :
    Composed guarded (runHelper helper frame) := by
  cases helper with
  | createClass =>
      cases guarded with
      | true => exact absurd rfl (tested rfl)
      | false => exact runCreateClass_composed
  | classCallCheck => exact .bind checkInstance_composed fun _ => composed_pure _
  | inherits => exact .bind linkClass_composed fun _ => composed_pure _
  | defineProperty => exact .bind (composed_ask _) fun _ => defineField_composed
  | getPrototypeOf => exact getPrototypeOf_composed
  | setPrototypeOf => exact setPrototypeOf_composed
  | createSuper => exact .bind makeSuperCaller_composed fun _ => composed_pure _
  | possibleConstructorReturn => exact constructorReturn_composed _ _
  | assertThisInitialized => exact assertThis_composed _
  | get => exact .bind (composed_ask _) fun _ => superGet_composed
  | typeOf => exact .bind (composed_ask _) fun _ => composed_pure _
  | isNativeReflectConstruct => exact .bind hasNativeConstruct_composed fun _ => composed_pure _

/-- Every function of the host is composed; but for `_createClass` it is guarded. -/
theorem run_composed (builtin : Builtin) (tested : guarded = true → builtin ≠ .helper .createClass) :
    Composed guarded (builtin.run frame) := by
  cases builtin with
  | objectConstructor => exact runObjectConstructor_composed
  | objectGetPrototypeOf => exact prototypeOfValue_composed
  | objectSetPrototypeOf => exact runSetPrototypeOf_composed
  | objectCreate => exact runCreate_composed
  | objectDefineProperty => exact runDefineProperty_composed
  | objectGetOwnPropertyDescriptor => exact runGetOwnPropertyDescriptor_composed
  | objectKeys => exact runKeys_composed
  | objectGetOwnPropertyNames => exact runGetOwnPropertyNames_composed
  | objectHasOwnProperty => exact runHasOwnProperty_composed
  | linkGetter => exact prototypeOfValue_composed
  | linkSetter => exact runLinkSetter_composed
  | functionCall => exact call_composed _ _ _
  | functionApply => exact .bind optionalElements_composed fun _ => call_composed _ _ _
  | errorConstructor => exact runErrorConstructor_composed
  | booleanConstructor => exact runBooleanConstructor_composed
  | booleanToString => exact .bind (truthOf_composed _) fun _ => composed_pure _
  | booleanValueOf => exact .bind (truthOf_composed _) fun _ => composed_pure _
  | reflectConstruct => exact runReflectConstruct_composed
  | reflectConstructPolyfill => exact runReflectConstructPolyfill_composed
  | reflectApply => exact runReflectApply_composed
  | reflectGetPrototypeOf =>
      exact .bind (reflectTarget_composed _) fun _ => .bind (composed_ask _) fun _ => composed_pure _
  | reflectSetPrototypeOf =>
      exact .bind (reflectTarget_composed _) fun _ => .bind prototypeArgument_composed fun _ =>
        .bind setPrototype_composed fun _ => composed_pure _
  | reflectOwnKeys => exact runReflectOwnKeys_composed
  | proxyConstructor => exact runProxyConstructor_composed
  | helper marked =>
      refine runHelper_composed marked fun asked same => ?_
      rw [same] at tested
      exact tested asked rfl
  | superCaller => exact superCall_composed
  | idle => exact composed_pure _

end ClassLowering.Builtin
