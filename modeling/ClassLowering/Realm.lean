import ClassLowering.Heap.Build
import ClassLowering.Host.Profile

/-!
# The realm of a host profile

A fresh heap holds the intrinsic objects at their places, and the globals that the profile asks for,
installed in a fixed order.
-/

namespace ClassLowering.Realm

/-- The intrinsic objects, without properties. -/
def skeleton : Heap :=
  let above (intrinsic : Intrinsic) : Object := .inheriting (some intrinsic.id)
  { objects :=
      #[{}, above .objectPrototype, above .objectPrototype,
        { above .objectPrototype with kind := .boolean false },
        above .objectPrototype, above (.errorPrototype .error), above (.errorPrototype .error),
        above (.errorPrototype .error), above .objectPrototype] }

/-- Adds functions of the host under their names on an object. -/
def installMethods (target : ObjectId) (methods : List (String × Nat × Builtin)) : Build Unit :=
  methods.forM fun (name, length, builtin) => do
    let _ ← Build.installMethod target name length builtin

/-- What `Function.prototype` provides. -/
def installFunction : Build Unit :=
  installMethods Intrinsic.functionPrototype.id
    [("call", 1, .functionCall), ("apply", 2, .functionApply)]

/-- The accessor of prototype links on `Object.prototype`. -/
def installLinkAccessor : Build Unit := do
  let getter ← Build.method "get __proto__" 0 .linkGetter
  let setter ← Build.method "set __proto__" 1 .linkSetter
  Build.setProperty Intrinsic.objectPrototype.id "__proto__"
    { slot := .accessor (some (.object getter)) (some (.object setter))
      writable := false
      enumerable := false }

/-- The global `Object`, with the functions that the profile asks for. -/
def installObject (profile : Profile) : Build Unit := do
  let constructor ←
    Build.constructor "Object" 1 .objectConstructor Intrinsic.objectPrototype.id
  Build.whenever profile.objectGetPrototypeOf
    (installMethods constructor [("getPrototypeOf", 1, .objectGetPrototypeOf)])
  Build.whenever profile.objectSetPrototypeOf
    (installMethods constructor [("setPrototypeOf", 2, .objectSetPrototypeOf)])
  installMethods constructor
    [("create", 2, .objectCreate), ("defineProperty", 3, .objectDefineProperty),
      ("getOwnPropertyDescriptor", 2, .objectGetOwnPropertyDescriptor),
      ("keys", 1, .objectKeys), ("getOwnPropertyNames", 1, .objectGetOwnPropertyNames)]
  installMethods Intrinsic.objectPrototype.id
    [("hasOwnProperty", 1, .objectHasOwnProperty)]
  Build.whenever profile.legacyProtoAccessor installLinkAccessor
  Build.defineGlobal "Object" (.object constructor)

/-- The constructor of an error class. Other than that of plain errors it inherits from another
constructor. -/
def installErrorClass (errorClass : ErrorClass) (parent : Option ObjectId) : Build ObjectId := do
  let prototype := (Intrinsic.errorPrototype errorClass).id
  let constructor ← Build.constructor errorClass.name 1 .errorConstructor prototype
  Build.whenever parent.isSome (modify (·.setLink constructor parent))
  Build.setProperty prototype "name" (.hidden (.string errorClass.name))
  Build.setProperty prototype "message" (.hidden (.string ""))
  Build.defineGlobal errorClass.name (.object constructor)
  return constructor

/-- The global error constructors. -/
def installErrors : Build Unit := do
  let parent ← installErrorClass .error none
  let _ ← installErrorClass .typeError (some parent)
  let _ ← installErrorClass .referenceError (some parent)
  let _ ← installErrorClass .rangeError (some parent)

/-- The global `Boolean`. -/
def installBoolean : Build Unit := do
  let prototype := Intrinsic.booleanPrototype.id
  let constructor ← Build.constructor "Boolean" 1 .booleanConstructor prototype
  installMethods prototype [("toString", 0, .booleanToString), ("valueOf", 0, .booleanValueOf)]
  Build.defineGlobal "Boolean" (.object constructor)

/-- The function that a host with `Reflect` constructs with. -/
def reflectConstructor (support : ReflectSupport) : Builtin :=
  match support with
  | .native => .reflectConstruct
  | _ => .reflectConstructPolyfill

/-- The global `Reflect`, if the profile asks for one. -/
def installReflect (support : ReflectSupport) : Build Unit := Build.whenever (support != .absent) do
  let reflect ← Build.plainObject
  let construct ← Build.installMethod reflect "construct" 2 (reflectConstructor support)
  Build.whenever (support = .sham) (Build.setProperty construct "sham" { slot := .data (.boolean true) })
  installMethods reflect
    [("apply", 3, .reflectApply), ("getPrototypeOf", 1, .reflectGetPrototypeOf),
      ("setPrototypeOf", 2, .reflectSetPrototypeOf), ("ownKeys", 1, .reflectOwnKeys)]
  Build.defineGlobal "Reflect" (.object reflect)

/-- The global `Proxy`, if the profile asks for one. -/
def installProxy (offered : Bool) : Build Unit := Build.whenever offered do
  let prototype ← Build.plainObject
  let constructor ← Build.constructor "Proxy" 2 .proxyConstructor prototype
  Build.defineGlobal "Proxy" (.object constructor)

/-- All globals of a profile. -/
def install (profile : Profile) : Build Unit := do
  installFunction
  installObject profile
  installErrors
  installBoolean
  installReflect profile.reflect
  installProxy profile.proxy
  Build.defineGlobal "globalThis" (.object Intrinsic.global.id)

/-- The heap that a run starts with. -/
@[irreducible] def heap (profile : Profile) : Heap := (install profile skeleton).2

end ClassLowering.Realm
