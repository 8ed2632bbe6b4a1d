import ClassLowering.Heap.Basic
import Std.Data.ExtTreeSet

/-!
# Chains of objects

Reads, writes and tests follow links from object to object: prototype links, and the target links of
proxies. They all go through one bounded walk. A walk that visits more objects than there are repeats
itself, so that it never ends: its result is `none`.
-/

namespace ClassLowering

/-- One stride of a walk: on to another object, or an answer. -/
inductive Stride (α : Type) where
  | next (id : ObjectId)
  | finish (answer : α)

/-- On along a prototype link, or the answer for the end of a chain. -/
def Stride.follow {α : Type} (link : Option ObjectId) (atEnd : α) : Stride α :=
  match link with
  | some id => .next id
  | none => .finish atEnd

/-- What a read finds. -/
inductive Lookup where
  | missing
  | data (value : Value)
  | accessor (getter : Option Value)
  | proxy (id : ObjectId)
  deriving DecidableEq

/-- What an assignment finds. -/
inductive Assignment where
  /-- The value is written on the receiver. -/
  | write
  | setter (function : Value)
  | refused

namespace Heap

/-- Strides from an object until there is an answer, at most so many. -/
def walkFor {α : Type} (stride : ObjectId → Stride α) : Nat → ObjectId → Option α
  | 0, _ => none
  | bound + 1, id =>
      match stride id with
      | .finish answer => some answer
      | .next id => walkFor stride bound id

/-- A walk through the heap. It meets each object at most once, and one identity that was never
given out. -/
def walk {α : Type} (heap : Heap) (stride : ObjectId → Stride α) (start : ObjectId) : Option α :=
  walkFor stride (heap.size + 1) start

theorem walkFor_succ {α : Type} {stride : ObjectId → Stride α} {bound : Nat} {id : ObjectId}
    {answer : α} (ended : walkFor stride bound id = some answer) :
    walkFor stride (bound + 1) id = some answer := by
  induction bound generalizing id with
  | zero => simp [walkFor] at ended
  | succ bound ih =>
      unfold walkFor at ended ⊢
      split
      · next found => simpa [found] using ended
      · next found =>
        rw [found] at ended
        exact ih ended

/-- On to the target of a proxy; anything else stands for itself. -/
def targetStride (heap : Heap) (id : ObjectId) : Stride ObjectId :=
  .follow (heap.object id).target? id

/-- The object that stands behind a chain of proxies. -/
def resolve (heap : Heap) (id : ObjectId) : ObjectId := (heap.walk heap.targetStride id).getD id

/-- The prototype of an object; a proxy reports that of its target. -/
def prototypeOf (heap : Heap) (id : ObjectId) : Option ObjectId :=
  (heap.object (heap.resolve id)).prototype

/-- A stride of a read. A proxy answers for itself. -/
def lookupStride (heap : Heap) (key : PropertyKey) (id : ObjectId) : Stride Lookup :=
  let object := heap.object id
  match object.proxy? with
  | some _ => .finish (.proxy id)
  | none =>
      match object.property? key with
      | some { slot := .data value, .. } => .finish (.data value)
      | some { slot := .accessor getter _, .. } => .finish (.accessor getter)
      | none => .follow object.prototype .missing

/-- What a read of a key finds, on an object or above it. -/
def lookup (heap : Heap) (id : ObjectId) (key : PropertyKey) : Option Lookup :=
  heap.walk (heap.lookupStride key) id

/-- A stride of an assignment. Proxies stand for their targets. -/
def assignmentStride (heap : Heap) (key : PropertyKey) (id : ObjectId) : Stride Assignment :=
  let object := heap.object id
  match object.target? with
  | some target => .next target
  | none =>
      match object.property? key with
      | some { slot := .accessor _ (some setter), .. } => .finish (.setter setter)
      | some { slot := .accessor _ none, .. } => .finish .refused
      | some { slot := .data _, writable, .. } => .finish (if writable then .write else .refused)
      | none => .follow object.prototype .write

/-- What an assignment to a key finds, on an object or above it. -/
def assignment (heap : Heap) (id : ObjectId) (key : PropertyKey) : Option Assignment :=
  heap.walk (heap.assignmentStride key) id

/-- A stride of the search for a key. Proxies stand for their targets. -/
def hasStride (heap : Heap) (key : PropertyKey) (id : ObjectId) : Stride Bool :=
  let object := heap.object id
  match object.target? with
  | some target => .next target
  | none => if object.hasOwn key then .finish true else .follow object.prototype false

/-- Whether a key is found, on an object or above it. -/
def has (heap : Heap) (id : ObjectId) (key : PropertyKey) : Option Bool :=
  heap.walk (heap.hasStride key) id

/-- A stride along the stored prototype links: an accessor hides what lies above it, and holds no
value itself. -/
def storedStride (heap : Heap) (key : PropertyKey) (id : ObjectId) : Stride (Option Value) :=
  let object := heap.object id
  match object.property? key with
  | some { slot := .data value, .. } => .finish (some value)
  | some { slot := .accessor .., .. } => .finish none
  | none => .follow object.prototype none

/-- The value under a key along the stored prototype links, without running a getter. -/
def storedValue (heap : Heap) (id : ObjectId) (key : PropertyKey) : Option Value :=
  (heap.walk (heap.storedStride key) id).join

/-- A stride towards an object on the stored prototype links, up to the first proxy. -/
def linkStride (heap : Heap) (id current : ObjectId) : Stride Bool :=
  if current = id then .finish true
  else
    let object := heap.object current
    if object.target?.isSome then .finish false
    else .follow object.prototype false

/-- Whether an object is met on the stored prototype links that start at another, before the first
proxy. -/
def linksTo (heap : Heap) (start id : ObjectId) : Bool :=
  (heap.walk (heap.linkStride id) start).getD false

/-- Whether the prototype link of an object may point elsewhere. The link in place is always allowed;
any other needs an extensible object that the new chain does not contain. -/
def admitsLink (heap : Heap) (id : ObjectId) (prototype : Option ObjectId) : Bool :=
  let object := heap.object id
  object.prototype = prototype ||
    (object.extensible && !prototype.any (heap.linksTo · id))

/-- A stride towards an object on the prototype links that proxies report. -/
def ancestorStride (heap : Heap) (ancestor current : ObjectId) : Stride Bool :=
  if current = ancestor then .finish true else .follow (heap.prototypeOf current) false

/-- Whether an object lies strictly above another. -/
def inherits (heap : Heap) (id ancestor : ObjectId) : Option Bool :=
  match heap.prototypeOf id with
  | none => some false
  | some first => heap.walk (heap.ancestorStride ancestor) first

/-- An object and everything above it, for as long as a bound allows. -/
def chainFor (heap : Heap) : Nat → ObjectId → Option (List ObjectId)
  | 0, _ => none
  | bound + 1, id =>
      match heap.prototypeOf id with
      | none => some [id]
      | some above => (heap.chainFor bound above).map (id :: ·)

/-- An object and everything above it. -/
def chain (heap : Heap) (id : ObjectId) : Option (List ObjectId) :=
  heap.chainFor (heap.size + 1) id

/-- The enumerable string keys of a chain of objects, each once. A key that a nearer object owns is
not listed again, even where the nearer property is not enumerable. -/
def forInAlong (seen : Std.ExtTreeSet PropertyKey PropertyKey.order) : List Table → List String
  | [] => []
  | table :: above =>
      (table.enumerableStrings.filter fun text => !seen.contains (.string text)) ++
        forInAlong (seen.insertMany table.keys) above

/-- The keys that an enumeration of an object visits. -/
def forInKeys (heap : Heap) (id : ObjectId) : Option (List String) :=
  (heap.chain id).map fun chain => forInAlong ∅ (chain.map fun id => (heap.object id).properties)

end Heap

end ClassLowering
