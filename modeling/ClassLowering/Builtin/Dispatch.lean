import ClassLowering.Builtin.Function
import ClassLowering.Builtin.Helper
import ClassLowering.Builtin.Reflect

/-!
# Running functions of the host
-/

namespace ClassLowering.Builtin

open Run

/-- Runs a function of the host. -/
def run (builtin : Builtin) (frame : Frame) : Run Value :=
  match builtin with
  | .objectConstructor => runObjectConstructor frame
  | .objectGetPrototypeOf => runGetPrototypeOf frame
  | .objectSetPrototypeOf => runSetPrototypeOf frame
  | .objectCreate => runCreate frame
  | .objectDefineProperty => runDefineProperty frame
  | .objectGetOwnPropertyDescriptor => runGetOwnPropertyDescriptor frame
  | .objectKeys => runKeys frame
  | .objectGetOwnPropertyNames => runGetOwnPropertyNames frame
  | .objectHasOwnProperty => runHasOwnProperty frame
  | .linkGetter => runLinkGetter frame
  | .linkSetter => runLinkSetter frame
  | .functionCall => runCall frame
  | .functionApply => runApply frame
  | .errorConstructor => runErrorConstructor frame
  | .booleanConstructor => runBooleanConstructor frame
  | .booleanToString => runBooleanToString frame
  | .booleanValueOf => runBooleanValueOf frame
  | .reflectConstruct => runReflectConstruct frame
  | .reflectConstructPolyfill => runReflectConstructPolyfill frame
  | .reflectApply => runReflectApply frame
  | .reflectGetPrototypeOf => runReflectGetPrototypeOf frame
  | .reflectSetPrototypeOf => runReflectSetPrototypeOf frame
  | .reflectOwnKeys => runReflectOwnKeys frame
  | .proxyConstructor => runProxyConstructor frame
  | .helper marked => runHelper marked frame
  | .superCaller => superCall (frame.captured 0) frame.this frame.arguments
  | .idle => pure .undefined

end ClassLowering.Builtin
