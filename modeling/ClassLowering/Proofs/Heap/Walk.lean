import ClassLowering.Heap.Chain
import Mathlib.Data.Fintype.Pigeonhole
import Mathlib.Data.Fintype.Fin
import Mathlib.Logic.Relation

/-!
# Walks and cycles

A walk through a heap stops after as many strides as there are objects. Nothing is lost by that: a
walk without an answer has come back to an object that it met before, so that no bound would help it.
`walk_eq_none_iff` says so, and `walk_eq_some_iff` that a walk has the answer that any bound gives.
-/

namespace ClassLowering.Heap

open Relation

variable {α : Type} {heap : Heap} {stride : ObjectId → Stride α} {id next : ObjectId}

theorem object_of_size_le (absent : heap.size ≤ id.index) : heap.object id = {} := by
  have missing : heap.objects[id.index]? = none := Array.getElem?_eq_none absent
  simp [object, missing]

theorem index_lt_of_prototype (linked : (heap.object id).prototype = some next) :
    id.index < heap.size := by
  by_contra absent
  rw [object_of_size_le (Nat.le_of_not_lt absent)] at linked
  cases linked

theorem index_lt_of_proxy {link : ObjectId × ObjectId}
    (proxied : (heap.object id).proxy? = some link) : id.index < heap.size := by
  by_contra absent
  rw [object_of_size_le (Nat.le_of_not_lt absent)] at proxied
  cases proxied

theorem index_lt_of_target (linked : (heap.object id).target? = some next) :
    id.index < heap.size := by
  by_contra absent
  rw [object_of_size_le (Nat.le_of_not_lt absent)] at linked
  cases linked

/-- An object with anything to it is there. -/
theorem index_lt_of_kind {kind : ObjectKind} (held : (heap.object id).kind = kind)
    (special : kind ≠ .ordinary) : id.index < heap.size := by
  by_contra absent
  rw [object_of_size_le (Nat.le_of_not_lt absent)] at held
  exact special held.symm

theorem index_lt_of_property {key : PropertyKey} {property : Property}
    (held : (heap.object id).property? key = some property) : id.index < heap.size := by
  by_contra absent
  rw [object_of_size_le (Nat.le_of_not_lt absent), Object.property?, Table.get?_empty] at held
  cases held

/-- A stride that moves on. -/
def Moves (stride : ObjectId → Stride α) (id next : ObjectId) : Prop := stride id = .next next

/-- The strides of a walk through a heap move on only from objects that are there. -/
def Inside (heap : Heap) (stride : ObjectId → Stride α) : Prop :=
  ∀ id next, Moves stride id next → id.index < heap.size

theorem moves_follow_iff {link : Option ObjectId} {answer : α} :
    Stride.follow link answer = .next next ↔ link = some next := by
  cases link <;> simp [Stride.follow]

theorem walkFor_of_moves (moves : Moves stride id next) (bound : Nat) :
    walkFor stride (bound + 1) id = walkFor stride bound next := by
  rw [walkFor, moves]

theorem walkFor_of_finish {answer : α} (finished : stride id = .finish answer) (bound : Nat) :
    walkFor stride (bound + 1) id = some answer := by
  rw [walkFor, finished]

theorem walkFor_mono {bound larger : Nat} {answer : α} (le : bound ≤ larger)
    (ended : walkFor stride bound id = some answer) :
    walkFor stride larger id = some answer := by
  induction le with
  | refl => exact ended
  | step _ ih => exact walkFor_succ ih

/-- A walk that ends has its answer from an object that it reaches. -/
theorem walkFor_finishes {bound : Nat} {answer : α}
    (ended : walkFor stride bound id = some answer) :
    ∃ last, ReflTransGen (Moves stride) id last ∧ stride last = .finish answer := by
  induction bound generalizing id with
  | zero => cases ended
  | succ bound ih =>
      cases taken : stride id with
      | finish found =>
          rw [walkFor_of_finish taken] at ended
          cases ended
          exact ⟨id, .refl, taken⟩
      | next next =>
          rw [walkFor_of_moves taken] at ended
          obtain ⟨last, reaches, finished⟩ := ih ended
          exact ⟨last, .head taken reaches, finished⟩

/-- Walks agree where their strides do. -/
theorem walkFor_congr {inside : ObjectId → Prop} {other : ObjectId → Stride α}
    (same : ∀ id, inside id → stride id = other id)
    (closed : ∀ id next, inside id → Moves stride id next → inside next) (start : inside id)
    (bound : Nat) : walkFor stride bound id = walkFor other bound id := by
  induction bound generalizing id with
  | zero => rfl
  | succ bound ih =>
      cases taken : stride id with
      | finish answer =>
          rw [walkFor_of_finish taken, walkFor_of_finish ((same id start).symm.trans taken)]
      | next next =>
          rw [walkFor_of_moves taken, walkFor_of_moves ((same id start).symm.trans taken)]
          exact ih (closed id next start taken)

/-! ## A walk on a cycle never ends -/

theorem walkFor_of_cycle (cycle : TransGen (Moves stride) id id) (bound : Nat) :
    walkFor stride bound id = none := by
  induction bound generalizing id with
  | zero => rfl
  | succ bound ih =>
      obtain ⟨next, first, back⟩ := TransGen.head'_iff.mp cycle
      rw [walkFor_of_moves first]
      exact ih (TransGen.tail' back first)

theorem walkFor_of_reaches_cycle (reaches : ReflTransGen (Moves stride) id next)
    (cycle : TransGen (Moves stride) next next) (bound : Nat) :
    walkFor stride bound id = none := by
  induction reaches using ReflTransGen.head_induction_on generalizing bound with
  | refl => exact walkFor_of_cycle cycle bound
  | head first _ ih =>
      cases bound with
      | zero => rfl
      | succ bound =>
          rw [walkFor_of_moves first]
          exact ih bound

/-! ## A walk without an answer is on a cycle -/

/-- The objects that a walk meets, by the number of strides before. -/
def path (stride : ObjectId → Stride α) (id : ObjectId) : Nat → ObjectId
  | 0 => id
  | count + 1 =>
      match stride (path stride id count) with
      | .next next => next
      | .finish _ => path stride id count

theorem moves_path {count : Nat} (taken : stride (path stride id count) = .next next) :
    Moves stride (path stride id count) (path stride id (count + 1)) := by
  have met : path stride id (count + 1) = next := by rw [path, taken]
  rw [met]
  exact taken

theorem walkFor_path_moves {bound : Nat} (unfinished : walkFor stride bound id = none)
    {count : Nat} (early : count < bound) :
    Moves stride (path stride id count) (path stride id (count + 1)) := by
  suffices step : ∀ count, count < bound →
      walkFor stride (bound - count) (path stride id count) = none ∧
        Moves stride (path stride id count) (path stride id (count + 1)) from
    (step count early).2
  intro count
  induction count with
  | zero =>
      intro early
      refine ⟨unfinished, ?_⟩
      obtain ⟨rest, rfl⟩ := Nat.exists_eq_succ_of_ne_zero (Nat.ne_of_gt early)
      cases taken : stride id with
      | finish answer => simp [walkFor_of_finish taken] at unfinished
      | next next => exact moves_path taken
  | succ count ih =>
      intro early
      obtain ⟨before, moved⟩ := ih (by omega)
      have left : bound - count = bound - (count + 1) + 1 := by omega
      have here : walkFor stride (bound - (count + 1)) (path stride id (count + 1)) = none := by
        rw [left, walkFor_of_moves moved] at before
        exact before
      refine ⟨here, ?_⟩
      have more : bound - (count + 1) = bound - (count + 1) - 1 + 1 := by omega
      cases taken : stride (path stride id (count + 1)) with
      | finish answer =>
          rw [more, walkFor_of_finish taken] at here
          cases here
      | next next => exact moves_path taken

theorem reaches_path {bound : Nat} (unfinished : walkFor stride bound id = none)
    {first last : Nat} (le : first ≤ last) (early : last ≤ bound) :
    ReflTransGen (Moves stride) (path stride id first) (path stride id last) := by
  induction le with
  | refl => exact .refl
  | step _ ih =>
      have moved := walkFor_path_moves unfinished (Nat.lt_of_succ_le early)
      exact (ih (Nat.le_of_succ_le early)).tail moved

/-- Among the first objects that an unfinished walk meets, one more than there are in the heap, two
are the same. -/
theorem exists_cycle_of_walk_eq_none (inside : heap.Inside stride)
    (unfinished : heap.walk stride id = none) :
    ∃ met, ReflTransGen (Moves stride) id met ∧ TransGen (Moves stride) met met := by
  have moved : ∀ count : Fin (heap.size + 1),
      Moves stride (path stride id count) (path stride id (count + 1)) :=
    fun count => walkFor_path_moves unfinished count.isLt
  let place (count : Fin (heap.size + 1)) : Fin heap.size :=
    ⟨(path stride id count).index, inside _ _ (moved count)⟩
  obtain ⟨first, last, differs, same⟩ :=
    Fintype.exists_ne_map_eq_of_card_lt place (by simp)
  have met : path stride id first = path stride id last :=
    congrArg ObjectId.mk (Fin.mk.inj same)
  rcases Nat.lt_or_gt_of_ne (Fin.val_ne_of_ne differs) with before | behind
  · refine ⟨path stride id first,
      reaches_path unfinished (Nat.zero_le _) (Nat.le_of_lt first.isLt), ?_⟩
    have back := reaches_path unfinished (Nat.succ_le_of_lt before) (Nat.le_of_lt last.isLt)
    rw [← met] at back
    exact TransGen.head' (moved first) back
  · refine ⟨path stride id last,
      reaches_path unfinished (Nat.zero_le _) (Nat.le_of_lt last.isLt), ?_⟩
    have back := reaches_path unfinished (Nat.succ_le_of_lt behind) (Nat.le_of_lt first.isLt)
    rw [met] at back
    exact TransGen.head' (moved last) back

/-- A walk never ends exactly when it runs into a cycle. -/
theorem walk_eq_none_iff (inside : heap.Inside stride) :
    heap.walk stride id = none ↔
      ∃ met, ReflTransGen (Moves stride) id met ∧ TransGen (Moves stride) met met := by
  constructor
  · exact exists_cycle_of_walk_eq_none inside
  · rintro ⟨met, reaches, cycle⟩
    exact walkFor_of_reaches_cycle reaches cycle _

/-- The bound of a walk changes no answer. -/
theorem walk_eq_some_iff (inside : heap.Inside stride) {answer : α} :
    heap.walk stride id = some answer ↔ ∃ bound, walkFor stride bound id = some answer := by
  constructor
  · intro ended
    exact ⟨_, ended⟩
  · rintro ⟨bound, ended⟩
    cases walked : heap.walk stride id with
    | none =>
        obtain ⟨met, reaches, cycle⟩ := exists_cycle_of_walk_eq_none inside walked
        rw [walkFor_of_reaches_cycle reaches cycle] at ended
        cases ended
    | some other =>
        have longer := walkFor_mono (Nat.le_max_left bound (heap.size + 1)) ended
        have same := walkFor_mono (Nat.le_max_right bound (heap.size + 1)) walked
        rw [longer] at same
        exact congrArg some (Option.some.inj same).symm

theorem walk_of_finish {answer : α} (finished : stride id = .finish answer) :
    heap.walk stride id = some answer := walkFor_of_finish finished heap.size

/-- A walk has the answer of any object that it meets. -/
theorem walk_of_reaches (inside : heap.Inside stride) {met : ObjectId} {answer : α}
    (reaches : ReflTransGen (Moves stride) id met) (ended : heap.walk stride met = some answer) :
    heap.walk stride id = some answer := by
  rw [walk_eq_some_iff inside] at ended ⊢
  induction reaches using ReflTransGen.head_induction_on with
  | refl => exact ended
  | head moved _ ih =>
      obtain ⟨bound, ended⟩ := ih
      exact ⟨bound + 1, (walkFor_of_moves moved bound).trans ended⟩

/-- A walk that moves on has the answer of the walk from there, also where this never ends. -/
theorem walk_of_moves (inside : heap.Inside stride) (moved : Moves stride id next) :
    heap.walk stride id = heap.walk stride next := by
  cases ended : heap.walk stride next with
  | some answer => exact walk_of_reaches inside (.single moved) ended
  | none =>
      obtain ⟨met, reaches, cycle⟩ := (walk_eq_none_iff inside).mp ended
      exact (walk_eq_none_iff inside).mpr ⟨met, .head moved reaches, cycle⟩

end ClassLowering.Heap
