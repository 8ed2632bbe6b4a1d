import ClassLowering.Host.PrototypeLink

/-!
# Linking a class to its base

A derived class gets a new prototype object that inherits from that of its base, and is itself linked
to the base so that it inherits the statics.
-/

namespace ClassLowering.Run

/-- The prototype object that a base gives to those of its subclasses. -/
def baseInstancePrototype (base : Value) : Run (Option ObjectId) := do
  match base with
  | .object id =>
      match ← get id "prototype" with
      | .object prototype => return some prototype
      | .null => return none
      | other => raise (.invalidPrototype (← textOf other))
  | _ => return none

/-- Refuses a base that is neither a function nor `null`. -/
def checkBase (base : Value) : Run Unit := do
  if (← ask (·.isCallable base)) || base = .null then return () else raise .invalidBase

/-- The definition of the link from a prototype object back to its class. -/
def backLink (derived : Value) : Descriptor :=
  { value := some derived, writable := some true, configurable := some true }

/-- Links a derived class to its base, or to nothing for `null`. -/
def linkClass (derived base : Value) : Run Unit := do
  checkBase base
  match derived with
  | .object id =>
      let above ← baseInstancePrototype base
      let prototype ← build (.object above)
      define prototype "constructor" (backLink derived)
      if ← set id "prototype" (.object prototype) then
        match base with
        | .object _ =>
            let _ ← setPrototypeOf derived base
            return ()
        | _ => return ()
      else raise .readOnlyPrototype
  | _ => raise (.notAConstructor (← textOf derived))

end ClassLowering.Run
