import ClassLowering.Proofs.Heap.Acyclic

/-!
# Keys that objects pass on

An object that is no proxy and holds nothing under a key passes reads and assignments of the key on to
its prototype. What they find is what the first object gives that does not pass them on.
-/

namespace ClassLowering.Heap

open Relation

variable {heap : Heap} {id next top : ObjectId} {key : PropertyKey}

/-- An object hands a key on to its prototype. -/
structure Passes (heap : Heap) (key : PropertyKey) (id next : ObjectId) : Prop where
  ordinary : (heap.object id).proxy? = none
  missing : (heap.object id).property? key = none
  links : heap.Links id next

instance : Decidable (heap.Links id next) :=
  inferInstanceAs (Decidable ((heap.object id).prototype = some next))

instance : Decidable (heap.Passes key id next) :=
  decidable_of_iff
    ((heap.object id).proxy? = none ∧ (heap.object id).property? key = none ∧ heap.Links id next)
    ⟨fun ⟨ordinary, missing, links⟩ => ⟨ordinary, missing, links⟩,
      fun passes => ⟨passes.ordinary, passes.missing, passes.links⟩⟩

/-- From an object to another one, every object hands a key on. -/
def Clears (heap : Heap) (key : PropertyKey) (id top : ObjectId) : Prop :=
  ReflTransGen (heap.Passes key) id top

theorem Links.congr {other : Heap} (links : heap.Links id next)
    (same : other.object id = heap.object id) : other.Links id next := by
  rwa [Links, same]

theorem Passes.congr {other : Heap} (passes : heap.Passes key id next)
    (same : other.object id = heap.object id) : other.Passes key id next :=
  ⟨same ▸ passes.ordinary, same ▸ passes.missing, passes.links.congr same⟩

/-- A new object without anything of its own. -/
def Blank (heap : Heap) (id prototype : ObjectId) : Prop :=
  heap.object id = .inheriting (some prototype)

/-- A blank object hands every key on. -/
theorem Blank.passes (blank : heap.Blank id next) (key : PropertyKey) : heap.Passes key id next := by
  constructor
  · rw [blank]
    rfl
  · rw [blank]
    exact Table.get?_empty key
  · rw [Links, blank]
    rfl

theorem Passes.lookup_moves (passes : heap.Passes key id next) :
    Moves (heap.lookupStride key) id next := by
  simp only [Moves, lookupStride, passes.ordinary, passes.missing]
  exact moves_follow_iff.mpr passes.links

theorem Passes.assignment_moves (passes : heap.Passes key id next) :
    Moves (heap.assignmentStride key) id next := by
  simp only [Moves, assignmentStride, target?_of_ordinary passes.ordinary, passes.missing]
  exact moves_follow_iff.mpr passes.links

theorem Passes.has_moves (passes : heap.Passes key id next) : Moves (heap.hasStride key) id next := by
  simp only [Moves, hasStride, target?_of_ordinary passes.ordinary, Object.hasOwn_eq_isSome,
    passes.missing, Option.isSome_none, Bool.false_eq_true, if_false]
  exact moves_follow_iff.mpr passes.links

theorem Clears.along (clears : heap.Clears key id top) {relation : ObjectId → ObjectId → Prop}
    (step : ∀ current next, heap.Passes key current next → relation current next) :
    ReflTransGen relation id top := by
  induction clears with
  | refl => exact .refl
  | tail _ passes ih => exact ih.tail (step _ _ passes)

theorem Clears.index_lt (clears : heap.Clears key id top) (present : top.index < heap.size) :
    id.index < heap.size := by
  rcases ReflTransGen.cases_head clears with rfl | ⟨_, passes, _⟩
  · exact present
  · exact index_lt_of_prototype passes.links

theorem Clears.extends {larger : Heap} (clears : heap.Clears key id top)
    (grown : heap.Extends larger) : larger.Clears key id top :=
  clears.along fun current _ passes =>
    passes.congr (grown.object_eq current (index_lt_of_prototype passes.links))

/-- A key that is cleared down from an ordinary object is cleared by ordinary objects only. -/
theorem Clears.ordinary (clears : heap.Clears key id top)
    (ordinary : (heap.object top).proxy? = none) : (heap.object id).proxy? = none := by
  rcases ReflTransGen.cases_head clears with rfl | ⟨_, passes, _⟩
  · exact ordinary
  · exact passes.ordinary

theorem Clears.lookup_eq (clears : heap.Clears key id top) {found : Lookup}
    (ended : heap.lookup top key = some found) : heap.lookup id key = some found :=
  walk_of_reaches (fun _ _ moved => index_lt_of_prototype (lookupStride_moves moved))
    (clears.along fun _ _ passes => passes.lookup_moves) ended

theorem assignment_inside (heap : Heap) (key : PropertyKey) :
    heap.Inside (heap.assignmentStride key) := by
  intro current next moved
  rcases assignmentStride_moves moved with linked | linked
  · exact index_lt_of_target linked
  · exact index_lt_of_prototype linked

theorem has_inside (heap : Heap) (key : PropertyKey) : heap.Inside (heap.hasStride key) := by
  intro current next moved
  rcases hasStride_moves moved with linked | linked
  · exact index_lt_of_target linked
  · exact index_lt_of_prototype linked

theorem Passes.has_eq (passes : heap.Passes key id next) : heap.has id key = heap.has next key :=
  walk_of_moves (has_inside heap key) passes.has_moves

theorem Clears.assignment_eq (clears : heap.Clears key id top) {found : Assignment}
    (ended : heap.assignment top key = some found) : heap.assignment id key = some found :=
  walk_of_reaches (assignment_inside heap key)
    (clears.along fun _ _ passes => passes.assignment_moves) ended

/-- An object inherits from what a key is handed on to above it. -/
theorem Clears.inherits_eq {ancestor : ObjectId} (clears : heap.Clears key next ancestor)
    (ordinary : (heap.object id).proxy? = none) (links : heap.Links id next) :
    heap.inherits id ancestor = some true := by
  rw [inherits, prototypeOf_of_ordinary ordinary, links]
  dsimp only
  have inside : heap.Inside (heap.ancestorStride ancestor) :=
    fun _ _ moved => index_lt_of_prototypeOf (ancestorStride_moves moved)
  clear links
  induction clears using ReflTransGen.head_induction_on with
  | refl => exact walk_of_finish (if_pos rfl)
  | @head current above passes _ ih =>
      by_cases met : current = ancestor
      · exact walk_of_finish (if_pos met)
      · have moved : Moves (heap.ancestorStride ancestor) current above := by
          rw [Moves, ancestorStride, if_neg met, prototypeOf_of_ordinary passes.ordinary,
            passes.links]
          rfl
        exact walk_of_reaches inside (.single moved) ih

/-! ## The chain above an object -/

theorem chainFor_succ {bound : Nat} {chain : List ObjectId}
    (ended : heap.chainFor bound id = some chain) : heap.chainFor (bound + 1) id = some chain := by
  induction bound generalizing id chain with
  | zero => cases ended
  | succ bound ih =>
      rw [chainFor] at ended ⊢
      cases linked : heap.prototypeOf id with
      | none =>
          rw [linked] at ended
          exact ended
      | some above =>
          rw [linked] at ended
          obtain ⟨rest, listed, same⟩ := Option.map_eq_some_iff.mp ended
          dsimp only
          rw [ih listed, ← same]
          rfl

theorem chain_of_unlinked (ordinary : (heap.object id).proxy? = none)
    (unlinked : (heap.object id).prototype = none) : heap.chain id = some [id] := by
  rw [chain, chainFor, prototypeOf_of_ordinary ordinary, unlinked]

/-- The chain of an object is the one above its link, with itself in front. -/
theorem chain_of_links (ordinary : (heap.object id).proxy? = none) (links : heap.Links id next)
    {above : List ObjectId} (listed : heap.chain next = some above) :
    heap.chain id = some (id :: above) := by
  have linked : heap.prototypeOf id = some next := (prototypeOf_of_ordinary ordinary).trans links
  have longer : heap.chainFor (heap.size + 2) id = some (id :: above) := by
    rw [chainFor, linked]
    exact congrArg (Option.map (id :: ·)) listed
  have inside : heap.Inside (fun id => .follow (heap.prototypeOf id) ()) :=
    fun _ _ moved => index_lt_of_prototypeOf (moves_follow_iff.mp moved)
  have found : (heap.chain id).isSome := by
    have ends : (heap.chain next).isSome := by
      rw [listed]
      rfl
    rw [chain, chainFor_isSome] at ends ⊢
    obtain ⟨answer, ended⟩ := Option.isSome_iff_exists.mp ends
    have moved : Moves (fun id => .follow (heap.prototypeOf id) ()) id next :=
      moves_follow_iff.mpr linked
    exact Option.isSome_of_eq_some (walk_of_reaches inside (.single moved) ended)
  obtain ⟨chain, listed⟩ := Option.isSome_iff_exists.mp found
  have same := chainFor_succ listed
  rw [longer] at same
  exact listed.trans same.symm

end ClassLowering.Heap
