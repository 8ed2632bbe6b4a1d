import ClassLowering.Proofs.Run.PrototypeLink

/-!
# The portable lookup of prototype links

On every host that offers a way to read prototype links, and that reads them by a function of `Object` if
it writes them so, the portable lookup agrees with the stored link. The last condition is needed: the
strategy is chosen by what writes links, and then used for reads.
-/

namespace ClassLowering

open Relation

/-- From every ordinary object below `Object.prototype`, with no own `__proto__` on the way, the lookup
gives the stored link, `null` where there is none, and changes nothing but what is known of the host. -/
theorem prototype_lookup_agrees (profile : Profile)
    (readable : profile.objectGetPrototypeOf = true ∨ profile.legacyProtoAccessor = true)
    (consistent : profile.objectSetPrototypeOf = true → profile.objectGetPrototypeOf = true)
    {state : State} (untouched : state.Untouched profile) {id : ObjectId}
    (clears : state.heap.Clears "__proto__" id Intrinsic.objectPrototype.id) (depth : Nat) :
    ∃ after,
      Run.getPrototypeOf (.object id) (Engine.ofDepth (depth + 1)) state =
        .done (.ofObject? (state.heap.object id).prototype) after ∧
      after.heap = state.heap ∧ after.Untouched profile :=
  ⟨_, Run.getPrototypeOf_apply untouched readable consistent clears depth, rfl,
    untouched.heap, untouched.caches.with_lookup⟩

/-- A host with nothing but the accessor shows what `Function.prototype` inherits from. -/
theorem functionPrototype_link_read :
    let profile := Preset.protoAccessorOnly.profile
    let state := (Session.start profile).state
    let id := Intrinsic.functionPrototype.id
    profile.legacyProtoAccessor = true ∧ state.Untouched profile ∧
      state.heap.Clears "__proto__" id Intrinsic.objectPrototype.id ∧
      ∃ after,
        Run.getPrototypeOf (.object id) (Engine.ofDepth 1) state =
          .done (.object Intrinsic.objectPrototype.id) after ∧
        after.heap = state.heap ∧ after.Untouched profile := by
  intro profile state id
  have untouched := Session.start_untouched profile
  have clears : state.heap.Clears "__proto__" id Intrinsic.objectPrototype.id :=
    .single untouched.heap.offers.functionPrototype_passes
  obtain ⟨after, ran, same, kept⟩ :=
    prototype_lookup_agrees profile (.inr rfl) Bool.noConfusion untouched clears 0
  rw [untouched.heap.offers.functionPrototype] at ran
  exact ⟨rfl, untouched, clears, after, ran, same, kept⟩

/-- A host that offers the accessor, and a function that writes links but none that reads them. -/
def writeOnlyHost : Profile :=
  { objectGetPrototypeOf := false
    objectSetPrototypeOf := true
    legacyProtoAccessor := true
    reflect := .native
    proxy := true }

/-- On a host that writes links by a function of `Object` but reads them by the accessor only, the lookup
fails for `Function.prototype`. -/
theorem functionPrototype_link_unread :
    let state := (Session.start writeOnlyHost).state
    let id := Intrinsic.functionPrototype.id
    writeOnlyHost.legacyProtoAccessor = true ∧ state.Untouched writeOnlyHost ∧
      state.heap.Clears "__proto__" id Intrinsic.objectPrototype.id ∧
      ¬ ∃ depth after,
        Run.getPrototypeOf (.object id) (Engine.ofDepth (depth + 1)) state =
          .done (.ofObject? (state.heap.object id).prototype) after := by
  intro state id
  have untouched := Session.start_untouched writeOnlyHost
  have clears : state.heap.Clears "__proto__" id Intrinsic.objectPrototype.id :=
    .single untouched.heap.offers.functionPrototype_passes
  refine ⟨rfl, untouched, clears, ?_⟩
  rintro ⟨depth, after, ran⟩
  rw [Run.getPrototypeOf_refused untouched rfl rfl] at ran
  cases ran

end ClassLowering
