import ClassLowering.Property.KeyOrder
import ClassLowering.Run.State
import Std.Data.ExtTreeMap

/-!
# Showing values

What a script shows names objects and symbols by labels, counted from zero in the order in which they
are first shown. Labels say which shown things are the same, and nothing else.
-/

namespace ClassLowering.Script

/-- What has an identity. -/
inductive Identity where
  | object (id : ObjectId)
  | symbol (sym : Symbol)
  deriving DecidableEq, Repr

namespace Identity

/-- Objects before symbols, by which identities are found again. -/
def order : Identity → Identity → Ordering
  | .object first, .object second => compare first.index second.index
  | .object _, .symbol _ => .lt
  | .symbol _, .object _ => .gt
  | .symbol first, .symbol second => first.order second

instance : Std.TransCmp order where
  eq_swap {first second} := by
    cases first <;> cases second
    · exact Std.OrientedOrd.eq_swap
    · rfl
    · rfl
    · exact @Std.OrientedCmp.eq_swap _ Symbol.order _ _ _
  isLE_trans {first second third} below above := by
    cases first <;> cases second <;> cases third <;> simp only [order] at *
    all_goals
      first
      | exact Std.TransOrd.isLE_trans below above
      | exact @Std.TransCmp.isLE_trans _ Symbol.order _ _ _ _ below above
      | contradiction
      | rfl

end Identity

/-- A value as it is shown. -/
inductive Shown where
  | undefined
  | null
  | boolean (truth : Bool)
  | number (x : Float)
  | string (text : String)
  | symbol (label : Nat) (description : Option String)
  | function (label : Nat) (name : String)
  | object (label : Nat)
  deriving DecidableEq, Repr

/-- The labels of what was shown so far: of each thing, how many were shown before it. -/
abbrev Labels := Std.ExtTreeMap Identity Nat Identity.order

/-- The label of a thing, a new one if it was not shown yet. -/
def labelOf (identity : Identity) : StateM Labels Nat := fun labels =>
  match labels[identity]? with
  | some label => (label, labels)
  | none => (labels.size, labels.insert identity labels.size)

/-- A value as it is shown. -/
def showValue (heap : Heap) (value : Value) : StateM Labels Shown := do
  match value with
  | .undefined => return .undefined
  | .null => return .null
  | .boolean truth => return .boolean truth
  | .number x => return .number x
  | .string text => return .string text
  | .symbol sym => return .symbol (← labelOf (.symbol sym)) sym.description
  | .object id =>
      let label ← labelOf (.object id)
      match (heap.object id).callable? with
      | some callable => return .function label callable.name
      | none => return .object label

mutual

/-- A report as it is shown, from left to right. -/
def showReport (heap : Heap) (report : Report Value) : StateM Labels (Report Shown) :=
  match report with
  | .value value => return .value (← showValue heap value)
  | .null => return .null
  | .flag truth => return .flag truth
  | .text text => return .text text
  | .list items => return .list (← showItems heap items)
  | .record fields => return .record (← showFields heap fields)

/-- The items of a report. -/
def showItems (heap : Heap) (items : List (Report Value)) :
    StateM Labels (List (Report Shown)) :=
  match items with
  | [] => return []
  | item :: rest => do
      let shown ← showReport heap item
      return shown :: (← showItems heap rest)

/-- The fields of a report. -/
def showFields (heap : Heap) (fields : List (String × Report Value)) :
    StateM Labels (List (String × Report Shown)) :=
  match fields with
  | [] => return []
  | (name, field) :: rest => do
      let shown ← showReport heap field
      return (name, shown) :: (← showFields heap rest)

end

/-- The lists that were logged, from a journal in order. Every entry takes its labels. -/
def showJournal (heap : Heap) (entries : List JournalEntry) : StateM Labels (List (List Shown)) :=
  match entries with
  | [] => return []
  | .logged values :: rest => do
      let shown ← values.mapM (showValue heap)
      return shown :: (← showJournal heap rest)
  | .reported report :: rest => do
      let _ ← showReport heap report
      showJournal heap rest

end ClassLowering.Script
