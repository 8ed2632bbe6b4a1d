import ClassLowering.Proofs.Property.OwnKeys
import ClassLowering.Proofs.Soundness.Change

/-!
# The creation of keys

A moment of a run writes one own property of an object, or leaves all that objects own as it is, as long as
nothing is removed. Over any number of moments an object keeps its keys where they are, and gets new ones
behind them, in the order in which they are first written.
-/

namespace ClassLowering

open Relation

/-- An own property is written: an object, and the key. -/
abbrev KeyWrite := ObjectId × PropertyKey

namespace KeyWrite

/-- The keys that are written to one object. -/
def on (id : ObjectId) (writes : List KeyWrite) : List PropertyKey :=
  (writes.filter (·.1 = id)).map Prod.snd

/-- The keys of an object by their creation, after writes. -/
def created (keys : List PropertyKey) (id : ObjectId) (writes : List KeyWrite) : List PropertyKey :=
  keys ++ ((on id writes).filter (· ∉ keys)).eraseDups

variable {keys : List PropertyKey} {id other : ObjectId} {key : PropertyKey} {writes : List KeyWrite}

theorem on_append (id : ObjectId) (writes later : List KeyWrite) :
    on id (writes ++ later) = on id writes ++ on id later := by
  rw [on, List.filter_append, List.map_append]
  rfl

theorem on_singleton_self (id : ObjectId) (key : PropertyKey) : on id [(id, key)] = [key] := by
  rw [on, List.filter_cons_of_pos (by simp)]
  rfl

theorem on_singleton_ne (differs : other ≠ id) (key : PropertyKey) : on id [(other, key)] = [] := by
  rw [on, List.filter_cons_of_neg (by simpa using differs)]
  rfl

theorem mem_created : key ∈ created keys id writes ↔ key ∈ keys ∨ key ∈ on id writes := by
  rw [created, List.mem_append, List.mem_eraseDups, List.mem_filter, decide_eq_true_eq]
  tauto

theorem created_nil (keys : List PropertyKey) (id : ObjectId) : created keys id [] = keys :=
  List.append_nil keys

theorem created_of_known (known : ∀ key ∈ on id writes, key ∈ keys) : created keys id writes = keys := by
  have none : (on id writes).filter (· ∉ keys) = [] :=
    List.filter_eq_nil_iff.mpr fun key written unknown => of_decide_eq_true unknown (known key written)
  rw [created, none, List.eraseDups_nil, List.append_nil]

theorem created_append_of_absent (writes : List KeyWrite) (absent : on id [(other, key)] = []) :
    created keys id (writes ++ [(other, key)]) = created keys id writes := by
  rw [created, on_append, absent, List.append_nil, created]

/-- One more write adds the key, unless it is there. -/
theorem created_append_self (keys : List PropertyKey) (id : ObjectId) (writes : List KeyWrite)
    (key : PropertyKey) :
    created keys id (writes ++ [(id, key)]) =
      if key ∈ created keys id writes then created keys id writes
      else created keys id writes ++ [key] := by
  rw [created, on_append, on_singleton_self, List.filter_append]
  by_cases known : key ∈ keys
  · rw [if_pos (mem_created.mpr (.inl known)), List.filter_cons_of_neg (by simpa using known),
      List.filter_nil, List.append_nil, created]
  · rw [List.filter_cons_of_pos (by simpa using known), List.filter_nil, List.eraseDups_append]
    by_cases written : key ∈ on id writes
    · have none : [key].removeAll ((on id writes).filter (· ∉ keys)) = [] := by
        simp [List.removeAll, written, known]
      rw [if_pos (mem_created.mpr (.inr written)), none, List.eraseDups_nil, List.append_nil, created]
    · have one : [key].removeAll ((on id writes).filter (· ∉ keys)) = [key] := by
        simp [List.removeAll, written]
      have absent : key ∉ created keys id writes := fun listed =>
        (mem_created.mp listed).elim known written
      rw [if_neg absent, one, List.eraseDups_cons, List.filter_nil, List.eraseDups_nil, created,
        List.append_assoc]

end KeyWrite

/-- A write of a value is one of a property. -/
theorem Heap.setValue_eq {heap : Heap} {id : ObjectId} (present : id.index < heap.size)
    (key : PropertyKey) (value : Value) :
    heap.setValue id key value = heap.setProperty id key
      ((((heap.object id).latest? key).map (·.withValue value)).getD { slot := .data value }) :=
  modify_congr present rfl

namespace State

variable {law : Law} {before middle after : State} {id : ObjectId} {writes more : List KeyWrite}

/-- A moment writes one own property of an object that is there, or leaves the own properties of all
that are there as they are. -/
inductive Writes (before after : State) : List KeyWrite → Prop
  | written {id : ObjectId} {key : PropertyKey} {property : Property}
      (present : id.index < before.heap.size)
      (heap_eq : after.heap = before.heap.setProperty id key property) : Writes before after [(id, key)]
  | kept (size_le : before.heap.size ≤ after.heap.size)
      (same : ∀ id : ObjectId, id.index < before.heap.size →
        (after.heap.object id).properties = (before.heap.object id).properties) : Writes before after []

/-- Moments one after another, with what is written in them. -/
inductive History (before : State) : List KeyWrite → State → Prop
  | refl : History before [] before
  | tail {writes more : List KeyWrite} {middle after : State} (earlier : History before writes middle)
      (moment : middle.Writes after more) : History before (writes ++ more) after

theorem Writes.size_le (moment : before.Writes after writes) : before.heap.size ≤ after.heap.size := by
  cases moment with
  | written _ heap_eq =>
      rw [heap_eq, Heap.setProperty, Heap.size_modify]
  | kept size_le _ => exact size_le

namespace History

theorem single (moment : before.Writes after writes) : before.History writes after := .tail .refl moment

theorem trans (first : before.History writes middle) (second : middle.History more after) :
    before.History (writes ++ more) after := by
  induction second with
  | refl =>
      rw [List.append_nil]
      exact first
  | tail _ moment ih =>
      rw [← List.append_assoc]
      exact .tail ih moment

theorem size_le (history : before.History writes after) : before.heap.size ≤ after.heap.size := by
  induction history with
  | refl => exact Nat.le_refl _
  | tail _ moment ih => exact Nat.le_trans ih moment.size_le

/-- An object has the keys that it had, and behind them those that are new, as they were first written. -/
theorem keys_eq (history : before.History writes after) (present : id.index < before.heap.size) :
    (after.heap.object id).properties.keys =
      KeyWrite.created (before.heap.object id).properties.keys id writes := by
  induction history with
  | refl => rw [KeyWrite.created_nil]
  | @tail writes more middle after earlier moment ih =>
      have there : id.index < middle.heap.size := Nat.lt_of_lt_of_le present earlier.size_le
      cases moment with
      | @written target key property exists_ heap_eq =>
          by_cases same : target = id
          · cases same
            rw [KeyWrite.created_append_self, ← ih, heap_eq, Heap.setProperty,
              Heap.object_modify_self _ _ _ there]
            exact Table.keys_insert ..
          · rw [KeyWrite.created_append_of_absent _ (KeyWrite.on_singleton_ne same key), ← ih, heap_eq,
              Heap.setProperty, Heap.object_modify_ne _ _ (Ne.symm same)]
      | kept _ same => rw [List.append_nil, ← ih, same id there]

end History

/-- Where nothing is removed, every change is a moment. -/
theorem Change.exists_writes (changed : before.Change law after) (keeps : law.removes = false) :
    ∃ writes, before.Writes after writes := by
  cases changed with
  | heap changed =>
      cases changed with
      | grow grown =>
          refine ⟨_, .kept grown.size_le fun id present => ?_⟩
          rw [grown.object_eq id present]
      | define present | overwrite _ present => exact ⟨_, .written present rfl⟩
      | write present | overwriteValue _ present =>
          exact ⟨_, .written present (Heap.setValue_eq present _ _)⟩
      | @link id prototype present | @close id present =>
          refine ⟨_, .kept (Nat.le_of_eq (Heap.size_modify ..).symm) fun other _ => ?_⟩
          simp only [Heap.setLink]
          rw [Heap.object_modify _ _ _ _ present]
          split
          · next same => rw [same]
          · rfl
      | remove unasked => exact absurd (keeps.symm.trans unasked) Bool.false_ne_true
  | _ => exact ⟨_, .kept (Nat.le_refl _) fun _ _ => rfl⟩

theorem exists_history (changes : ReflTransGen (Change law) before after) (keeps : law.removes = false) :
    ∃ writes, before.History writes after := by
  induction changes with
  | refl => exact ⟨[], .refl⟩
  | tail _ changed ih =>
      obtain ⟨writes, history⟩ := ih
      obtain ⟨more, moment⟩ := changed.exists_writes keeps
      exact ⟨_, history.tail moment⟩

end State

end ClassLowering
