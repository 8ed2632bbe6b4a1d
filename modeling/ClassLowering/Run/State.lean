import ClassLowering.Heap.Build

/-!
# The state of a run

A run works on the heap, on what the realm has found out about its host, on the variables of scripts,
and on the journal that collects what scripts show.
-/

namespace ClassLowering

/-- A plain document whose leaves may be values. -/
inductive Report (α : Type) where
  | value (value : α)
  | null
  | flag (truth : Bool)
  | text (text : String)
  | list (items : List (Report α))
  | record (fields : List (String × Report α))

/-- A list of the value that may be there. -/
def Report.optional {α : Type} (value : Option α) : Report α :=
  .list (value.map Report.value).toList

/-- What a script shows while a step runs, in order. -/
inductive JournalEntry where
  | logged (values : List Value)
  /-- A report that a step inside a function or a block made. -/
  | reported (report : Report Value)

/-- How a prototype link is reached: by the functions of `Object`, or by the `__proto__` accessor. -/
inductive PrototypeStrategy where
  | standard
  | legacy
  deriving DecidableEq, Repr

/-- The name of a strategy. -/
def PrototypeStrategy.name : PrototypeStrategy → String
  | .standard => "Standard"
  | .legacy => "Legacy"

/-- What a realm has found out about its host. Every answer is found once and then kept. -/
structure Caches where
  lookup : Option PrototypeStrategy := none
  writer : Option PrototypeStrategy := none
  nativeConstruct : Option Bool := none
  deriving DecidableEq, Repr

/-- A scope: where it is nested, and its variables. -/
structure Scope where
  parent : Option ScopeId := none
  bindings : List (String × Value) := []
  deriving DecidableEq, Repr

instance : Inhabited Scope := ⟨{}⟩

/-- The state of a run. The journal has its newest entry first. -/
structure State where
  heap : Heap := {}
  caches : Caches := {}
  symbolCount : Nat := 0
  scopes : Array Scope := #[]
  journal : List JournalEntry := []

/-- The call of a function: what is called, on what, with what, and the constructor that is being
constructed if there is one. -/
structure Frame where
  callee : ObjectId
  callable : Callable
  this : Value := .undefined
  arguments : List Value := []
  newTarget : Option ObjectId := none

namespace Frame

/-- A positional argument; a missing one is `undefined`. -/
def argument (frame : Frame) (place : Nat) : Value := frame.arguments[place]?.getD .undefined

/-- A value that the function captured when it was made. -/
def captured (frame : Frame) (place : Nat) : Value :=
  frame.callable.captured[place]?.getD .undefined

end Frame

end ClassLowering
