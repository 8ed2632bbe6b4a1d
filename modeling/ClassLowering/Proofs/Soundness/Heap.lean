import ClassLowering.Proofs.Heap.Acyclic
import ClassLowering.Proofs.Soundness.Code

/-!
# Sound heaps

In a sound heap every name means an object that is there, prototype links close no cycle, and proxies
stand in front of older objects and have no prototype link of their own. Whatever a read of a sound
heap finds is there, too.
-/

namespace ClassLowering.Heap

open Bounded Relation

/-- A heap whose names mean something and whose links lead somewhere. -/
structure Sound (law : Law) (heap : Heap) : Prop where
  intrinsics : Intrinsic.global.id.index < heap.size
  within : ∀ id, Within law heap.size (heap.object id)
  bare : heap.ProxiesBare
  targets : ∀ id target, (heap.object id).target? = some target → target.index < id.index
  acyclic : heap.Acyclic

variable {law : Law} {heap after : Heap} {id next : ObjectId} {key : PropertyKey}

theorem Sound.intrinsic (sound : heap.Sound law) (intrinsic : Intrinsic) :
    Within law heap.size intrinsic.id := by
  refine Nat.lt_of_le_of_lt ?_ sound.intrinsics
  cases intrinsic with
  | errorPrototype errorClass => cases errorClass <;> decide
  | _ => decide

/-! ## What reads of a sound heap find -/

theorem Sound.within_property (sound : heap.Sound law) {property : Property}
    (found : (heap.object id).property? key = some property) : Within law heap.size property := by
  have within := (sound.within id).1 key
  rw [found] at within
  exact within

theorem Sound.within_prototype (sound : heap.Sound law)
    (linked : (heap.object id).prototype = some next) : Within law heap.size next := by
  have within := (sound.within id).2.1
  rw [linked] at within
  exact within

theorem within_proxy_of_object {size : Nat} {object : Object} (within : Within law size object)
    {target handler : ObjectId} (proxied : object.proxy? = some (target, handler)) :
    Within law size target ∧ Within law size handler := by
  replace within := within.2.2.1
  unfold Object.proxy? at proxied
  cases held : object.kind with
  | proxy first second =>
      rw [held] at proxied within
      cases proxied
      exact within
  | _ =>
      rw [held] at proxied
      cases proxied

theorem Sound.within_proxy (sound : heap.Sound law) {target handler : ObjectId}
    (proxied : (heap.object id).proxy? = some (target, handler)) :
    Within law heap.size target ∧ Within law heap.size handler :=
  within_proxy_of_object (sound.within id) proxied

theorem Sound.within_target (sound : heap.Sound law)
    (linked : (heap.object id).target? = some next) : Within law heap.size next := by
  unfold Object.target? at linked
  obtain ⟨pair, proxied, rfl⟩ := Option.map_eq_some_iff.mp linked
  exact (sound.within_proxy proxied).1

theorem Sound.within_function (sound : heap.Sound law) {value : Value} {callable : Callable}
    (found : heap.function? value = some (id, callable)) :
    Within law heap.size id ∧ Within law heap.size callable := by
  unfold function? at found
  cases value with
  | object function =>
      obtain ⟨_, called, same⟩ := Option.map_eq_some_iff.mp found
      cases same
      have within := (sound.within id).2.2.1
      unfold Object.callable? at called
      cases held : (heap.object id).kind with
      | function callable =>
          rw [held] at called within
          cases called
          refine ⟨?_, within⟩
          by_contra absent
          rw [object_of_size_le (Nat.le_of_not_lt absent)] at held
          cases held
      | _ =>
          rw [held] at called
          cases called
  | _ => cases found

/-- What holds of the start of a walk and of whatever a stride leads to holds of all that it meets. -/
theorem invariant_of_reaches {α : Type} {stride : ObjectId → Stride α} {holds : ObjectId → Prop}
    (step : ∀ id next, Moves stride id next → holds next) (start : holds id)
    (reaches : ReflTransGen (Moves stride) id next) : holds next := by
  cases reaches with
  | refl => exact start
  | tail _ moved => exact step _ _ moved

theorem Sound.resolve_spec (sound : heap.Sound law) (id : ObjectId) :
    ReflTransGen (Moves heap.targetStride) id (heap.resolve id) ∧
      (heap.object (heap.resolve id)).target? = none := by
  have older (current next : ObjectId) (moved : Moves heap.targetStride current next) :
      next.index < current.index := sound.targets _ _ (moves_follow_iff.mp moved)
  cases walked : heap.walk heap.targetStride id with
  | none =>
      obtain ⟨met, _, cycle⟩ :=
        (walk_eq_none_iff fun _ _ moved => index_lt_of_target (moves_follow_iff.mp moved)).mp walked
      exact absurd (index_lt_of_descends older cycle) (Nat.lt_irrefl _)
  | some answer =>
      have resolved : heap.resolve id = answer := by
        rw [resolve, walked]
        rfl
      obtain ⟨last, reaches, finished⟩ := walkFor_finishes walked
      unfold targetStride at finished
      cases linked : (heap.object last).target? with
      | some target =>
          rw [linked] at finished
          cases finished
      | none =>
          rw [linked] at finished
          cases finished
          rw [resolved]
          exact ⟨reaches, linked⟩

theorem Sound.within_resolve (sound : heap.Sound law) (within : Within law heap.size id) :
    Within law heap.size (heap.resolve id) :=
  invariant_of_reaches (fun _ _ moved => sound.within_target (moves_follow_iff.mp moved)) within
    (sound.resolve_spec id).1

theorem Sound.resolve_ordinary (sound : heap.Sound law) (id : ObjectId) :
    (heap.object (heap.resolve id)).proxy? = none := by
  have unlinked := (sound.resolve_spec id).2
  unfold Object.target? at unlinked
  exact Option.map_eq_none_iff.mp unlinked

theorem Sound.within_prototypeOf (sound : heap.Sound law) (id : ObjectId) :
    Within law heap.size (heap.prototypeOf id) := (sound.within _).2.1

/-- Links that proxies report lead to what is there. -/
theorem Sound.within_reported (sound : heap.Sound law) (reported : heap.prototypeOf id = some next) :
    Within law heap.size next := by
  have within := sound.within_prototypeOf id
  rwa [reported] at within

theorem Sound.within_lookup (sound : heap.Sound law) {found : Lookup}
    (ended : heap.lookup id key = some found) : Within law heap.size found := by
  obtain ⟨last, _, finished⟩ := walkFor_finishes ended
  unfold lookupStride at finished
  dsimp only at finished
  split at finished
  · next proxied =>
    cases finished
    exact index_lt_of_proxy proxied
  · split at finished
    · next held =>
      cases finished
      exact sound.within_property held
    · next held =>
      cases finished
      exact (sound.within_property held).1.1
    · unfold Stride.follow at finished
      split at finished
      · cases finished
      · cases finished
        trivial

theorem Sound.within_storedValue (sound : heap.Sound law) (id : ObjectId) (key : PropertyKey) :
    Within law heap.size (heap.storedValue id key) := by
  rw [storedValue]
  cases ended : heap.walk (heap.storedStride key) id with
  | none => trivial
  | some found =>
      obtain ⟨last, _, finished⟩ := walkFor_finishes ended
      unfold storedStride at finished
      dsimp only at finished
      split at finished
      · next held =>
        cases finished
        exact sound.within_property held
      · cases finished
        trivial
      · unfold Stride.follow at finished
        split at finished
        · cases finished
        · cases finished
          trivial

end ClassLowering.Heap
