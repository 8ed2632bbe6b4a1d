import ClassLowering.Proofs.Members.Admission

/-!
# Installed members

Members are installed up to the first that the target does not admit. What the target admits is decided
before the first of them is installed. Of several members under a key the last one says whether the
property is enumerable, and what it holds if it carries a value.
-/

namespace ClassLowering

/-- Members were installed on one object, all of them, in order. -/
structure Heap.Installs (before : Heap) (target : ObjectId) (members : List Member) (after : Heap) :
    Prop where
  /-- Each key is configurable, and its last member decides. -/
  listed : ∀ key ∈ members.map Member.key, ∃ member property,
    Member.last? members key = some member ∧
      (after.object target).property? key = some property ∧
      property.configurable = true ∧ property.enumerable = member.enumerable ∧
      ∀ value, member.value = some value → member.get = none → member.set = none →
        property.slot = .data value ∧ property.writable = true
  unlisted : ∀ key, key ∉ members.map Member.key →
    (after.object target).property? key = (before.object target).property? key
  /-- New keys come last, in the order in which they are first listed. -/
  keys : (after.object target).properties.keys = (before.object target).properties.keys ++
    ((members.map Member.key).filter (· ∉ (before.object target).properties.keys)).eraseDups
  rest : after.object target =
    { before.object target with properties := (after.object target).properties }
  elsewhere : ∀ other, other ≠ target → after.object other = before.object other
  size_eq : after.size = before.size

theorem State.installs_withMembers {state : State} {target : ObjectId}
    (present : target.index < state.heap.size) (members : List Member) :
    state.heap.Installs target members (state.withMembers target members).heap := by
  have object_eq := object_withMembers present members
  constructor
  · intro key listed
    obtain ⟨member, last⟩ := Member.exists_last? listed
    obtain ⟨before, left⟩ :=
      Member.replacingEach_of_last? last ((state.heap.object target).property? key)
    refine ⟨member, member.replacing before, last, ?_, Member.configurable_replacing,
      Member.enumerable_replacing, ?_⟩
    · rw [object_eq, Object.property?_withMembers, left]
    · intro value carried noGetter noSetter
      rw [Member.replacing_eq_of_value carried noGetter noSetter]
      exact ⟨rfl, rfl⟩
  · intro key unlisted
    rw [object_eq, Object.property?_withMembers_of_not_mem unlisted]
  · rw [object_eq, Object.keys_withMembers]
  · rw [object_eq]
    exact Object.withMembers_rest ..
  · exact fun other differs => Heap.object_modify_ne _ _ differs
  · exact size_withMembers members

/-- The outcome of installing members on an object, whatever its state: it succeeds exactly if each of them is
admitted from the start. Otherwise it fails at the first that is not, with those before it installed, and
nothing else changed. -/
theorem members_installed_in_order (state : State) {target : ObjectId}
    (present : target.index < state.heap.size) (members : List Member) (engine : Engine) :
    ((∃ after, Run.install target members engine state = .done () after) ↔
      ∀ member ∈ members, (state.heap.object target).Admits member.key) ∧
    (∀ after, Run.install target members engine state = .done () after →
      ∃ heap, after = { state with heap } ∧ state.heap.Installs target members heap) ∧
    ((∃ member ∈ members, ¬(state.heap.object target).Admits member.key) →
      ∃ first offending heap, (state.heap.object target).StopsAt members first offending ∧
        state.heap.Installs target first heap ∧
        Run.install target first engine state = .done () { state with heap } ∧
        Run.install target members engine state =
          .failed (.fault ((state.heap.object target).refusal offending.key)) { state with heap }) := by
  rcases (state.heap.object target).admits_all_or_stopsAt members with admits | ⟨first, offending, stops⟩
  · have installed := Run.install_admitted present admits engine
    refine ⟨iff_of_true ⟨_, installed⟩ admits, fun after done => ?_, ?_⟩
    · cases installed.symm.trans done
      exact ⟨_, rfl, State.installs_withMembers present members⟩
    · rintro ⟨member, listed, withheld⟩
      exact absurd (admits member listed) withheld
  · obtain ⟨installed, failed⟩ := Run.install_stops present stops engine
    have unfinished (after) : Run.install target members engine state ≠ .done () after := by
      rw [failed]
      exact nofun
    refine ⟨iff_of_false (fun ⟨after, done⟩ => unfinished after done) fun admits => ?_,
      fun after done => absurd done (unfinished after), fun _ => ?_⟩
    · exact stops.withheld (admits offending stops.offending_mem)
    · exact ⟨first, offending, _, stops, State.installs_withMembers present first, installed, failed⟩

/-- A key goes from a value to a getter and back, next to a key that cannot be configured. -/
theorem repeated_members_installed :
    let properties := Table.empty.insert "x" { slot := .data .null, configurable := false }
    let state : State := { heap := { objects := #[{ properties }] } }
    let members : List Member :=
      [{ key := "m", value := some .null }, { key := "m", get := some (.object ⟨0⟩) },
        { key := "n", set := some (.object ⟨0⟩) }, { key := "m", value := some (.boolean true) }]
    ∃ heap, Run.install ⟨0⟩ members (Engine.ofDepth 0) state = .done () { state with heap } ∧
      state.heap.Installs ⟨0⟩ members heap := by
  intro properties state members
  have present : (⟨0⟩ : ObjectId).index < state.heap.size := by decide
  have unused (key : PropertyKey) (differs : key ≠ "x") : (state.heap.object ⟨0⟩).Admits key := by
    refine .inr ⟨?_, rfl⟩
    exact (Table.get?_insert_ne _ _ differs).trans (Table.get?_empty key)
  have admits : ∀ member ∈ members, (state.heap.object ⟨0⟩).Admits member.key := by
    simp only [members, List.forall_mem_cons, List.not_mem_nil, false_implies, implies_true, and_true]
    exact ⟨unused _ (by decide), unused _ (by decide), unused _ (by decide), unused _ (by decide)⟩
  obtain ⟨decided, installs, _⟩ :=
    members_installed_in_order state present members (Engine.ofDepth 0)
  obtain ⟨after, done⟩ := decided.mpr admits
  obtain ⟨heap, rfl, described⟩ := installs after done
  exact ⟨heap, done, described⟩

end ClassLowering
