import ClassLowering.Json.Reader

/-!
# Host profiles

A host profile says which reflective facilities an emulated host offers. Profiles come from presets
and from JSON documents that override single facilities of a preset.
-/

namespace ClassLowering

/-- How `Reflect.construct` is provided. -/
inductive ReflectSupport where
  /-- There is no global `Reflect`. -/
  | absent
  /-- By the host itself, with regard to the new target. -/
  | native
  /-- By a library, which calls the target as a plain function. -/
  | polyfill
  /-- As a polyfill that says so by its `sham` property. -/
  | sham
  deriving DecidableEq, Repr

namespace ReflectSupport

/-- The name of a level of support in profiles. -/
def name : ReflectSupport → String
  | .absent => "absent"
  | .native => "native"
  | .polyfill => "polyfill"
  | .sham => "sham"

/-- All levels of support. -/
def all : List ReflectSupport := [.absent, .native, .polyfill, .sham]

/-- The level of support of a name. -/
def ofName? (name : String) : Option ReflectSupport :=
  all.find? fun support => support.name == name

end ReflectSupport

/-- The facilities of a host. -/
structure Profile where
  objectGetPrototypeOf : Bool
  objectSetPrototypeOf : Bool
  legacyProtoAccessor : Bool
  reflect : ReflectSupport
  proxy : Bool
  deriving DecidableEq, Repr

/-- The known kinds of host. -/
inductive Preset where
  | modern
  | es5
  | protoAccessorOnly
  | reflectPolyfill
  | reflectSham
  deriving DecidableEq, Repr

namespace Preset

/-- The name of a preset. -/
def name : Preset → String
  | .modern => "modern"
  | .es5 => "es5"
  | .protoAccessorOnly => "proto-accessor-only"
  | .reflectPolyfill => "reflect-polyfill"
  | .reflectSham => "reflect-sham"

/-- All presets. -/
def all : List Preset := [.modern, .es5, .protoAccessorOnly, .reflectPolyfill, .reflectSham]

/-- The preset of a name. -/
def ofName? (name : String) : Option Preset := all.find? fun preset => preset.name == name

/-- The facilities of a preset. -/
def profile : Preset → Profile
  | .modern =>
      { objectGetPrototypeOf := true
        objectSetPrototypeOf := true
        legacyProtoAccessor := true
        reflect := .native
        proxy := true }
  | .es5 =>
      { objectGetPrototypeOf := true
        objectSetPrototypeOf := false
        legacyProtoAccessor := true
        reflect := .absent
        proxy := false }
  | .protoAccessorOnly =>
      { objectGetPrototypeOf := false
        objectSetPrototypeOf := false
        legacyProtoAccessor := true
        reflect := .absent
        proxy := false }
  | .reflectPolyfill =>
      { objectGetPrototypeOf := true
        objectSetPrototypeOf := false
        legacyProtoAccessor := true
        reflect := .polyfill
        proxy := false }
  | .reflectSham =>
      { objectGetPrototypeOf := true
        objectSetPrototypeOf := true
        legacyProtoAccessor := true
        reflect := .sham
        proxy := true }

end Preset

/-- The facilities that are there or not. -/
inductive Facility where
  | objectGetPrototypeOf
  | objectSetPrototypeOf
  | legacyProtoAccessor
  | proxy
  deriving DecidableEq, Repr

namespace Facility

/-- The name of a facility in profiles. -/
def name : Facility → String
  | .objectGetPrototypeOf => "objectGetPrototypeOf"
  | .objectSetPrototypeOf => "objectSetPrototypeOf"
  | .legacyProtoAccessor => "legacyProtoAccessor"
  | .proxy => "proxy"

/-- All facilities. -/
def all : List Facility :=
  [.objectGetPrototypeOf, .objectSetPrototypeOf, .legacyProtoAccessor, .proxy]

/-- The facility of a name. -/
def ofName? (name : String) : Option Facility := all.find? fun facility => facility.name == name

end Facility

/-- Why a profile cannot be loaded. -/
inductive ProfileError where
  /-- The text is no JSON. -/
  | malformed
  | notAnObject
  | presetNotAString
  | unknownPreset (name : String)
  | notABoolean (key : String)
  | reflectNotAString
  | unknownReflect (name : String)
  | unknownKey (key : String)
  /-- The file is not there. -/
  | missingFile (path : String)
  deriving DecidableEq, Repr

/-- The message of a profile error. What is wrong with a malformed text is not told. -/
def ProfileError.message? : ProfileError → Option String
  | .malformed => none
  | .notAnObject => some "host profile must be a JSON object"
  | .presetNotAString => some "'preset' must be a string"
  | .unknownPreset name => some ("unknown host preset '" ++ name ++ "'")
  | .notABoolean key => some ("'" ++ key ++ "' must be a boolean")
  | .reflectNotAString => some "'reflect' must be a string"
  | .unknownReflect name =>
      some ("unknown reflect support '" ++ name ++
        "' (expected absent, native, polyfill or sham)")
  | .unknownKey key => some ("unknown host profile key '" ++ key ++ "'")
  | .missingFile path => some (path ++ ": No such file or directory (os error 2)")

namespace Profile

/-- Switches a facility on or off. -/
def setFacility (profile : Profile) (facility : Facility) (offered : Bool) : Profile :=
  match facility with
  | .objectGetPrototypeOf => { profile with objectGetPrototypeOf := offered }
  | .objectSetPrototypeOf => { profile with objectSetPrototypeOf := offered }
  | .legacyProtoAccessor => { profile with legacyProtoAccessor := offered }
  | .proxy => { profile with proxy := offered }

/-- The profile of a preset's name. -/
def ofPreset (name : String) : Except ProfileError Profile :=
  match Preset.ofName? name with
  | some preset => .ok preset.profile
  | none => .error (.unknownPreset name)

/-- The profile that the fields of a document start from. -/
def base (fields : List (String × Json)) : Except ProfileError Profile :=
  match fields.lookup "preset" with
  | none => .ok Preset.modern.profile
  | some (.string name) => ofPreset name
  | some _ => .error .presetNotAString

/-- What one field of a document changes. -/
def override (profile : Profile) (field : String × Json) : Except ProfileError Profile :=
  let (key, value) := field
  if key = "preset" then .ok profile
  else if key = "reflect" then
    match value.string? with
    | none => .error .reflectNotAString
    | some name =>
        match ReflectSupport.ofName? name with
        | some reflect => .ok { profile with reflect }
        | none => .error (.unknownReflect name)
  else
    match Facility.ofName? key with
    | none => .error (.unknownKey key)
    | some facility =>
        match value.boolean? with
        | some offered => .ok (profile.setFacility facility offered)
        | none => .error (.notABoolean key)

/-- The profile that a document describes. The preset comes first, wherever it stands; then the other
fields in their order, up to the first that is wrong. -/
def ofJson : Json → Except ProfileError Profile
  | .object fields => do
      let profile ← base fields
      fields.foldlM override profile
  | _ => .error .notAnObject

/-- The profile that a text describes. -/
def ofText (text : String) : Except ProfileError Profile :=
  match Json.read? text with
  | some document => ofJson document
  | none => .error .malformed

end Profile

end ClassLowering
