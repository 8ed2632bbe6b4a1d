import ClassLowering.Proofs.Heap.Routes

/-!
# Shortcuts past proxies

A prototype link to a proxy can be replaced by a link to the object behind it. Tests and assignments find
the same on both heaps, also where they never end. A read stops at the proxy, and goes on behind it only
where the link was replaced.
-/

namespace ClassLowering.Heap

open Relation

variable {heap : Heap} {id target holder current next start : ObjectId} {key : PropertyKey}

/-! ## Strides that differ in one place -/

/-- Strides that agree but for one object, from which the first ones move to a proxy and the second ones
to the object behind it. -/
structure Shortcut {α : Type} (stride short : ObjectId → Stride α) (holder id target : ObjectId) :
    Prop where
  elsewhere : ∀ current, current ≠ holder → short current = stride current
  there : (Moves stride holder id ∧ Moves short holder target) ∨
    ∃ answer, stride holder = .finish answer ∧ short holder = .finish answer

namespace Shortcut

variable {α : Type} {stride short : ObjectId → Stride α} {answer : α}
variable (shortcut : Shortcut stride short holder id target)
include shortcut

theorem finish_iff : short current = .finish answer ↔ stride current = .finish answer := by
  by_cases same : current = holder
  · subst same
    rcases shortcut.there with ⟨moved, jumped⟩ | ⟨_, finished, also⟩
    · rw [Moves] at moved jumped
      rw [moved, jumped]
      simp
    · rw [finished, also]
  · rw [shortcut.elsewhere current same]

/-- The second strides move as the first ones, or jump. -/
theorem moves_or_jumps (moved : Moves short current next) :
    Moves stride current next ∨ current = holder ∧ next = target ∧ Moves stride holder id := by
  by_cases same : current = holder
  · subst same
    rcases shortcut.there with ⟨first, jumped⟩ | ⟨_, _, finished⟩
    · exact .inr ⟨rfl, Stride.next.inj (moved.symm.trans jumped), first⟩
    · rw [Moves, finished] at moved
      cases moved
  · rw [Moves, shortcut.elsewhere current same] at moved
    exact .inl moved

/-- The first strides move as the second ones, or move to the proxy where the second ones jump. -/
theorem moves_or_jumped (moved : Moves stride current next) :
    Moves short current next ∨ current = holder ∧ next = id ∧ Moves short holder target := by
  by_cases same : current = holder
  · subst same
    rcases shortcut.there with ⟨first, jumped⟩ | ⟨_, finished, _⟩
    · exact .inr ⟨rfl, Stride.next.inj (moved.symm.trans first), jumped⟩
    · rw [Moves, finished] at moved
      cases moved
  · rw [Moves, ← shortcut.elsewhere current same] at moved
    exact .inl moved

/-- A walk that passes the proxies anyway has the same answer with the shortcut, if it has any. -/
theorem walk_eq {other : Heap} (behind : ReflTransGen (Moves stride) id target)
    (inside : heap.Inside stride) (also : other.Inside short) :
    other.walk short start = heap.walk stride start := by
  have expands {current next : ObjectId} (moved : Moves short current next) :
      TransGen (Moves stride) current next := by
    rcases shortcut.moves_or_jumps moved with same | ⟨rfl, rfl, first⟩
    · exact .single same
    · exact TransGen.head' first behind
  have reaches {last : ObjectId} (reached : ReflTransGen (Moves short) start last) :
      ReflTransGen (Moves stride) start last :=
    reflTransGen_closed (fun _ _ moved => (expands moved).to_reflTransGen) _ _ reached
  cases ended : other.walk short start with
  | some answer =>
      obtain ⟨last, reached, finished⟩ := walkFor_finishes ended
      exact (walk_of_reaches inside (reaches reached)
        (walk_of_finish (shortcut.finish_iff.mp finished))).symm
  | none =>
      obtain ⟨met, reached, cycle⟩ := (walk_eq_none_iff also).mp ended
      exact ((walk_eq_none_iff inside).mpr
        ⟨met, reaches reached, TransGen.closed (fun _ _ => expands) _ _ cycle⟩).symm

end Shortcut

/-! ## Links past proxies -/

/-- The heap in which a prototype link to a proxy points at the object behind it. -/
def through (heap : Heap) (holder target : ObjectId) : Heap := heap.setLink holder (some target)

theorem object_through_ne (differs : current ≠ holder) :
    (heap.through holder target).object current = heap.object current :=
  object_modify_ne heap _ differs

/-- Nothing but the link of its holder differs. -/
theorem holder_through (links : heap.Links holder id) (target : ObjectId) (key : PropertyKey) :
    ((heap.through holder target).object holder).proxy? = (heap.object holder).proxy? ∧
      ((heap.through holder target).object holder).property? key =
        (heap.object holder).property? key ∧
      ((heap.through holder target).object holder).prototype = some target := by
  rw [through, setLink, object_modify_self heap holder _ (index_lt_of_prototype links)]
  exact ⟨rfl, rfl, rfl⟩

theorem lookup_inside (heap : Heap) (key : PropertyKey) : heap.Inside (heap.lookupStride key) :=
  fun _ _ moved => index_lt_of_prototype (lookupStride_moves moved)

section Strides

variable (bare : heap.ProxiesBare) (links : heap.Links holder id)
include bare links

/-- Reads jump where the link was replaced. -/
theorem lookup_shortcut : Shortcut (heap.lookupStride key)
    ((heap.through holder target).lookupStride key) holder id target where
  elsewhere current differs := by simp only [lookupStride, object_through_ne differs]
  there := by
    have ordinary := ordinary_of_links bare links
    obtain ⟨proxy_eq, property_eq, prototype_eq⟩ := holder_through links target key
    unfold Links at links
    simp only [Moves, lookupStride, proxy_eq, property_eq, prototype_eq, ordinary, links]
    cases (heap.object holder).property? key with
    | none => exact .inl ⟨rfl, rfl⟩
    | some property =>
        obtain ⟨slot, _, _, _⟩ := property
        cases slot <;> exact .inr ⟨_, rfl, rfl⟩

/-- So do assignments. -/
theorem assignment_shortcut : Shortcut (heap.assignmentStride key)
    ((heap.through holder target).assignmentStride key) holder id target where
  elsewhere current differs := by simp only [assignmentStride, object_through_ne differs]
  there := by
    have ordinary := ordinary_of_links bare links
    obtain ⟨proxy_eq, property_eq, prototype_eq⟩ := holder_through links target key
    unfold Links at links
    simp only [Moves, assignmentStride, Object.target?, proxy_eq, property_eq, prototype_eq, ordinary,
      links, Option.map_none]
    cases (heap.object holder).property? key with
    | none => exact .inl ⟨rfl, rfl⟩
    | some property =>
        obtain ⟨slot, _, _, _⟩ := property
        cases slot with
        | data value => exact .inr ⟨_, rfl, rfl⟩
        | accessor getter setter => cases setter <;> exact .inr ⟨_, rfl, rfl⟩

/-- So do tests. -/
theorem has_shortcut : Shortcut (heap.hasStride key)
    ((heap.through holder target).hasStride key) holder id target where
  elsewhere current differs := by simp only [hasStride, object_through_ne differs]
  there := by
    have ordinary := ordinary_of_links bare links
    obtain ⟨proxy_eq, property_eq, prototype_eq⟩ := holder_through links target key
    unfold Links at links
    simp only [Moves, hasStride, Object.target?, Object.hasOwn_eq_isSome, proxy_eq, property_eq,
      prototype_eq, ordinary, links, Option.map_none]
    cases (heap.object holder).property? key with
    | none => exact .inl ⟨rfl, rfl⟩
    | some property => exact .inr ⟨_, rfl, rfl⟩

end Strides

section Through

variable (bare : heap.ProxiesBare) (links : heap.Links holder id)
  (stands : ReflTransGen heap.StandsFor id target)
include bare links stands

/-- Assignments pass the proxies anyway, so that they find the same. -/
theorem assignment_through :
    (heap.through holder target).assignment start key = heap.assignment start key := by
  have passes : ReflTransGen (Moves (heap.assignmentStride key)) id target := by
    refine ReflTransGen.mono (fun current next stands => ?_) _ _ stands
    unfold StandsFor at stands
    simp only [Moves, assignmentStride, stands]
  exact (assignment_shortcut bare links).walk_eq passes
    (assignment_inside heap key) (assignment_inside _ key)

/-- So do tests. -/
theorem has_through : (heap.through holder target).has start key = heap.has start key := by
  have passes : ReflTransGen (Moves (heap.hasStride key)) id target := by
    refine ReflTransGen.mono (fun current next stands => ?_) _ _ stands
    unfold StandsFor at stands
    simp only [Moves, hasStride, stands]
  exact (has_shortcut bare links).walk_eq passes
    (has_inside heap key) (has_inside _ key)

end Through

end ClassLowering.Heap
