import ClassLowering.Proofs.Members.Admission

/-!
# Repeated and exchanged installations

A member under a key is absorbed by a later occurrence of itself, whatever is installed between the two: it
names the attributes and either the value or a half of the accessor, and what it takes over from before does
not depend on itself. A list that is installed again is therefore absorbed, member by member, by the
installation that follows. Members under different keys do not see each other.
-/

namespace ClassLowering

namespace Member

variable {member : Member}

/-- A member with a value has no accessor if it does not name both. -/
theorem noAccessor_of_value {value : Value} (unmixed : ¬member.descriptor.Mixed)
    (carried : member.value = some value) : member.get = none ∧ member.set = none := by
  have isData : member.descriptor.isData = true := by
    rw [Descriptor.isData, descriptor, carried]
    rfl
  have notAccessor : member.descriptor.isAccessor = false :=
    Bool.eq_false_iff.mpr fun isAccessor => unmixed ⟨isAccessor, isData⟩
  simpa [Descriptor.isAccessor, descriptor] using notAccessor

/-- A member that is installed twice in a row is installed once. -/
theorem redefine_replacing (unmixed : ¬member.descriptor.Mixed) (current : Option Property) :
    (member.replacing current).redefine member.descriptor = member.replacing current := by
  cases carried : member.value with
  | some value =>
      obtain ⟨noGetter, noSetter⟩ := noAccessor_of_value unmixed carried
      have replaces := replacing_eq_of_value carried noGetter noSetter
      exact (replaces (some _)).trans (replaces current).symm
  | none =>
      obtain ⟨key, value, get, set, enumerable⟩ := member
      cases carried
      match current with
      | none => cases get <;> cases set <;> rfl
      | some ⟨.data _, _, _, _⟩ => cases get <;> cases set <;> rfl
      | some ⟨.accessor _ _, _, _, _⟩ => cases get <;> cases set <;> rfl

end Member

namespace Property

variable {first second : Member} {members earlier : List Member}

/-- A member is absorbed by a later occurrence of itself. -/
theorem redefine_absorbed (unmixed : ¬first.descriptor.Mixed) (others : ¬second.descriptor.Mixed)
    (current : Property) :
    ((current.redefine first.descriptor).redefine second.descriptor).redefine first.descriptor =
      (current.redefine second.descriptor).redefine first.descriptor := by
  cases carried : first.value with
  | some value =>
      obtain ⟨noGetter, noSetter⟩ := Member.noAccessor_of_value unmixed carried
      have replaces := Member.replacing_eq_of_value carried noGetter noSetter
      exact (replaces (some _)).trans (replaces (some _)).symm
  | none =>
      cases between : second.value with
      | some value =>
          obtain ⟨noGetter, noSetter⟩ := Member.noAccessor_of_value others between
          have replaces := Member.replacing_eq_of_value between noGetter noSetter
          have same : (current.redefine first.descriptor).redefine second.descriptor =
              current.redefine second.descriptor := (replaces (some _)).trans (replaces (some _)).symm
          rw [same]
      | none =>
          -- Two accessor members: each half that is named comes from its last occurrence.
          obtain ⟨key, value, get, set, enumerable⟩ := first
          obtain ⟨otherKey, otherValue, otherGet, otherSet, otherEnumerable⟩ := second
          obtain ⟨slot, writable, shown, configurable⟩ := current
          cases carried
          cases between
          cases slot <;> cases get <;> cases set <;> cases otherGet <;> cases otherSet <;> rfl

/-- A property after members were installed over it, all of them under its key. -/
def redefineEach (members : List Member) (current : Property) : Property :=
  members.foldl (fun current member => current.redefine member.descriptor) current

theorem redefineEach_absorbs (unmixed : ∀ member ∈ members, ¬member.descriptor.Mixed)
    (listed : first ∈ members) (current : Property) :
    redefineEach members (current.redefine first.descriptor) = redefineEach members current := by
  induction members generalizing current with
  | nil => cases listed
  | cons second rest ih =>
      have absorbed := redefine_absorbed (unmixed first listed) (unmixed second List.mem_cons_self) current
      have unmixedRest := fun member inside => unmixed member (List.mem_cons_of_mem second inside)
      rcases List.mem_cons.mp listed with rfl | later
      · exact congrArg (redefineEach rest) (Member.redefine_replacing (unmixed first listed) (some current))
      · calc redefineEach rest ((current.redefine first.descriptor).redefine second.descriptor)
            = redefineEach rest (((current.redefine first.descriptor).redefine
                second.descriptor).redefine first.descriptor) := (ih unmixedRest later _).symm
          _ = redefineEach rest ((current.redefine second.descriptor).redefine first.descriptor) := by
              rw [absorbed]
          _ = redefineEach rest (current.redefine second.descriptor) := ih unmixedRest later _

/-- Members are absorbed by an installation that lists them all. -/
theorem redefineEach_absorbs_all (unmixed : ∀ member ∈ members, ¬member.descriptor.Mixed)
    (listed : ∀ member ∈ earlier, member ∈ members) (current : Property) :
    redefineEach members (redefineEach earlier current) = redefineEach members current := by
  induction earlier generalizing current with
  | nil => rfl
  | cons member rest ih =>
      obtain ⟨here, further⟩ := List.forall_mem_cons.mp listed
      exact (ih further _).trans (redefineEach_absorbs unmixed here current)

end Property

namespace Member

theorem replacingEach_some (members : List Member) (current : Property) :
    replacingEach members (some current) = some (current.redefineEach members) := by
  induction members generalizing current with
  | nil => rfl
  | cons member rest ih => exact ih (current.redefine member.descriptor)

/-- What members leave under their key stays if they are installed again. -/
theorem replacingEach_again {members : List Member} (unmixed : ∀ member ∈ members, ¬member.descriptor.Mixed)
    (current : Option Property) :
    replacingEach members (replacingEach members current) = replacingEach members current := by
  cases current with
  | some current =>
      rw [replacingEach_some, replacingEach_some,
        Property.redefineEach_absorbs_all unmixed fun _ listed => listed]
  | none =>
      cases members with
      | nil => rfl
      | cons member rest =>
          -- The first member has made a property, which it would make again.
          let made := member.replacing none
          have kept : made.redefine member.descriptor = made :=
            redefine_replacing (unmixed member List.mem_cons_self) none
          have left : replacingEach (member :: rest) none = some (made.redefineEach (member :: rest)) := by
            refine (replacingEach_some rest made).trans (congrArg some ?_)
            exact congrArg (Property.redefineEach rest) kept.symm
          rw [left, replacingEach_some, Property.redefineEach_absorbs_all unmixed fun _ listed => listed]

end Member

namespace Object

variable {members first second : List Member}

/-- Members that are installed twice are installed once: properties, their order and all. -/
theorem withMembers_again (object : Object) (unmixed : ∀ member ∈ members, ¬member.descriptor.Mixed) :
    (object.withMembers members).withMembers members = object.withMembers members := by
  have keys_eq : ((object.withMembers members).withMembers members).properties.keys =
      (object.withMembers members).properties.keys := by
    have noneNew : (members.map Member.key).filter
        (· ∉ (object.withMembers members).properties.keys) = [] := by
      rw [List.filter_eq_nil_iff]
      intro key listed unused
      exact of_decide_eq_true unused (mem_keys_withMembers object listed)
    rw [keys_withMembers, noneNew, List.eraseDups_nil, List.append_nil]
  have property_eq (key : PropertyKey) :
      ((object.withMembers members).withMembers members).property? key =
        (object.withMembers members).property? key := by
    rw [property?_withMembers, property?_withMembers]
    exact Member.replacingEach_again (fun member listed => unmixed member (List.mem_of_mem_filter listed)) _
  have properties_eq := Table.eq_of_keys_eq keys_eq property_eq
  rw [withMembers_rest, properties_eq]

/-- Under a key, it does not matter in which order members of different keys are installed. -/
theorem property?_withMembers_exchange (object : Object)
    (disjoint : ∀ member ∈ first, ∀ other ∈ second, member.key ≠ other.key) (key : PropertyKey) :
    (object.withMembers (second ++ first)).property? key =
      (object.withMembers (first ++ second)).property? key := by
  rw [withMembers_append, withMembers_append]
  by_cases inFirst : key ∈ first.map Member.key
  · obtain ⟨member, listed, rfl⟩ := List.mem_map.mp inFirst
    have notSecond : member.key ∉ second.map Member.key := by
      intro inSecond
      obtain ⟨other, inside, same⟩ := List.mem_map.mp inSecond
      exact disjoint member listed other inside same.symm
    rw [property?_withMembers_of_not_mem notSecond, property?_withMembers,
      property?_withMembers_of_not_mem notSecond, ← property?_withMembers]
  · rw [property?_withMembers_of_not_mem inFirst, property?_withMembers (object.withMembers first),
      property?_withMembers_of_not_mem inFirst, ← property?_withMembers]

end Object

theorem State.withMembers_again {state : State} {target : ObjectId}
    (present : target.index < state.heap.size) {members : List Member}
    (unmixed : ∀ member ∈ members, ¬member.descriptor.Mixed) :
    (state.withMembers target members).withMembers target members = state.withMembers target members := by
  rw [← withMembers_append]
  refine congrArg (fun heap => { state with heap }) (Heap.modify_congr present ?_)
  exact (Object.withMembers_append ..).trans (Object.withMembers_again _ unmixed)

/-- Members that do not name both a value and an accessor are installed a second time without effect and with
the same outcome: a target that refused one of them refuses the same one again. Two lists without a common
key, installed one after the other, can be installed in the other order, and leave the same properties. -/
theorem members_reinstalled_and_exchanged (state : State) {target : ObjectId}
    (present : target.index < state.heap.size) (engine : Engine) :
    (∀ members : List Member, (∀ member ∈ members, ¬member.descriptor.Mixed) →
      (∃ after, Run.install target members engine state = .done () after ∧
        Run.install target members engine after = .done () after) ∨
      ∃ first offending failure after,
        (state.heap.object target).StopsAt members first offending ∧
        (after.heap.object target).StopsAt members first offending ∧
        Run.install target members engine state = .failed failure after ∧
        Run.install target members engine after = .failed failure after) ∧
    (∀ first second : List Member, (∀ member ∈ first, ∀ other ∈ second, member.key ≠ other.key) →
      ∀ after, (Run.install target first >>= fun _ => Run.install target second) engine state =
          .done () after →
        ∃ exchanged, (Run.install target second >>= fun _ => Run.install target first) engine state =
            .done () exchanged ∧
          ∀ key, (exchanged.heap.object target).property? key =
            (after.heap.object target).property? key) := by
  have still (members : List Member) : target.index < (state.withMembers target members).heap.size :=
    (State.size_withMembers members).symm ▸ present
  constructor
  · intro members unmixed
    rcases (state.heap.object target).admits_all_or_stopsAt members with
      admits | ⟨first, offending, stops⟩
    · have again : ∀ member ∈ members,
          ((state.withMembers target members).heap.object target).Admits member.key := by
        rw [State.object_withMembers present]
        exact fun member listed => (Object.admits_withMembers_iff admits).mpr (admits member listed)
      refine .inl ⟨_, Run.install_admitted present admits engine, ?_⟩
      rw [Run.install_admitted (still members) again engine, State.withMembers_again present unmixed]
    · have again : ((state.withMembers target first).heap.object target).StopsAt members first
          offending := (State.object_withMembers present first).symm ▸ stops.again
      have unmixedFirst (member) (listed : member ∈ first) : ¬member.descriptor.Mixed := by
        obtain ⟨rest, split⟩ := stops.split
        exact unmixed member (split ▸ List.mem_append_left _ listed)
      refine .inr ⟨first, offending, _, _, stops, again, (Run.install_stops present stops engine).2, ?_⟩
      rw [(Run.install_stops (still first) again engine).2, State.withMembers_again present unmixedFirst,
        State.object_withMembers present, stops.refusal_eq]
  · intro first second disjoint after done
    rw [← Run.install_append] at done
    rcases (state.heap.object target).admits_all_or_stopsAt (first ++ second) with
      admits | ⟨installed, offending, stops⟩
    · cases (Run.install_admitted present admits engine).symm.trans done
      have exchanged : ∀ member ∈ second ++ first, (state.heap.object target).Admits member.key :=
        fun member listed => admits member (List.mem_append.mpr (List.mem_append.mp listed).symm)
      refine ⟨state.withMembers target (second ++ first), ?_, fun key => ?_⟩
      · rw [← Run.install_append]
        exact Run.install_admitted present exchanged engine
      · rw [State.object_withMembers present, State.object_withMembers present]
        exact Object.property?_withMembers_exchange _ disjoint key
    · rw [(Run.install_stops present stops engine).2] at done
      cases done

/-- The two halves of an accessor around a value, installed twice, and before or after another member. -/
theorem accessor_halves_reinstalled :
    let properties := Table.empty.insert "x" { slot := .data .null, enumerable := false }
    let state : State := { heap := { objects := #[{ properties }] } }
    let halves : List Member := [{ key := "x", get := some (.object ⟨0⟩) }, { key := "y", value := some .null },
      { key := "x", set := some (.object ⟨0⟩), enumerable := true }]
    let last : List Member := [{ key := "z", value := some (.boolean true) }]
    (∃ after, Run.install ⟨0⟩ halves (Engine.ofDepth 0) state = .done () after ∧
      Run.install ⟨0⟩ halves (Engine.ofDepth 0) after = .done () after) ∧
    ∃ after exchanged,
      (Run.install ⟨0⟩ halves >>= fun _ => Run.install ⟨0⟩ last) (Engine.ofDepth 0) state = .done () after ∧
      (Run.install ⟨0⟩ last >>= fun _ => Run.install ⟨0⟩ halves) (Engine.ofDepth 0) state =
        .done () exchanged ∧
      ∀ key, (exchanged.heap.object ⟨0⟩).property? key = (after.heap.object ⟨0⟩).property? key := by
  intro properties state halves last
  have present : (⟨0⟩ : ObjectId).index < state.heap.size := by decide
  have admits (key : PropertyKey) : (state.heap.object ⟨0⟩).Admits key := by
    by_cases used : key = "x"
    · exact .inl ⟨_, (Table.get?_insert ..).trans (if_pos used), rfl⟩
    · exact .inr ⟨(Table.get?_insert_ne _ _ used).trans (Table.get?_empty key), rfl⟩
  have unmixed : ∀ member ∈ halves, ¬member.descriptor.Mixed := by
    simp [halves, Descriptor.Mixed, Member.descriptor, Descriptor.isAccessor, Descriptor.isData]
  have disjoint : ∀ member ∈ halves, ∀ other ∈ last, member.key ≠ other.key := by
    simp [halves, last]
  obtain ⟨repeated, exchange⟩ := members_reinstalled_and_exchanged state present (Engine.ofDepth 0)
  constructor
  · rcases repeated halves unmixed with again | ⟨_, offending, _, _, stops, _⟩
    · exact again
    · exact absurd (admits offending.key) stops.withheld
  · have done : (Run.install ⟨0⟩ halves >>= fun _ => Run.install ⟨0⟩ last) (Engine.ofDepth 0) state =
        .done () (state.withMembers ⟨0⟩ (halves ++ last)) := by
      rw [← Run.install_append]
      exact Run.install_admitted present (fun member _ => admits member.key) _
    obtain ⟨exchanged, other, same⟩ := exchange halves last disjoint _ done
    exact ⟨_, exchanged, done, other, same⟩

end ClassLowering
