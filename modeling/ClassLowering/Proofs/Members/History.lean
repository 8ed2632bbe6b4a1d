import ClassLowering.Proofs.Members.Chain

/-!
# Histories of classes

A chain of classes comes about by events: a function is made, a function is linked below the newest class,
members are installed on any class, and other things happen that leave all classes alone. Every such history
leads to a chain that carries what was installed.
-/

namespace ClassLowering

open PopulatedClass

/-- How a chain of classes comes about, the newest class first. -/
inductive ClassHistory (profile : Profile) : State → List PopulatedClass → Prop
  /-- A function that was just made is a class without a base. -/
  | base {state : State} {id prototype : ObjectId} (untouched : state.Untouched profile)
      (new : state.NewFunction profile id prototype) :
      ClassHistory profile state [{ constructor := id, prototype }]
  /-- A function that was just made is linked below the newest class. -/
  | link {state after : State} {newest : PopulatedClass} {rest : List PopulatedClass}
      {id made prototype : ObjectId} {depth : Nat}
      (history : ClassHistory profile state (newest :: rest))
      (new : state.NewFunction profile id made)
      (apart : id ∉ (newest :: rest).map PopulatedClass.constructor)
      (ran : Run.linkClass (.object id) (.object newest.constructor) (Engine.ofDepth (depth + 1))
        state = .done () after)
      (instances : after.heap.Holds id "prototype" (.object prototype)) :
      ClassHistory profile after ({ constructor := id, prototype } :: newest :: rest)
  /-- Members are installed on a class. -/
  | populate {state after : State} {below above : List PopulatedClass} {made : PopulatedClass}
      {members statics : MemberList} {engine : Engine} {value : Value}
      (history : ClassHistory profile state (below ++ made :: above))
      (freeMembers : members.Free) (freeStatics : statics.Free)
      (ran : Run.createClass (.object made.constructor) (members.map Member.method)
        (statics.map Member.method) engine state = .done value after) :
      ClassHistory profile after (below ++ made.populated members statics :: above)
  /-- Anything happens that leaves the classes and the realm alone. -/
  | other {state after : State} {classes : List PopulatedClass}
      (history : ClassHistory profile state classes) (untouched : after.Untouched profile)
      (same : ∀ made ∈ classes,
        after.heap.object made.constructor = state.heap.object made.constructor ∧
          after.heap.object made.prototype = state.heap.object made.prototype) :
      ClassHistory profile after classes

namespace State

variable {profile : Profile} {state : State} {made : PopulatedClass}
variable {below above : List PopulatedClass} {members statics : MemberList}

/-- The state after members were installed on a class. -/
def populated (state : State) (made : PopulatedClass) (members statics : MemberList) : State :=
  { state with
    heap := (state.heap.installed made.prototype members).installed made.constructor statics }

section Populating

variable (carries : state.Carries profile (below ++ made :: above))
include carries

theorem Carries.pairs_here : state.Pairs profile made :=
  carries.pairs made (List.mem_append_right _ List.mem_cons_self)

/-- The other classes of a chain have other constructors and other prototype objects. -/
theorem Carries.others_ne {other : PopulatedClass} (member : other ∈ below ++ above) :
    other.constructor ≠ made.constructor ∧ other.prototype ≠ made.prototype := by
  have inside : other ∈ below ++ made :: above :=
    List.perm_middle.mem_iff.mpr (List.mem_cons_of_mem _ member)
  have differs : other.constructor ≠ made.constructor := by
    intro same
    have distinct := carries.distinct
    rw [List.map_append, List.map_cons, List.nodup_middle, ← List.map_append, List.nodup_cons] at distinct
    exact distinct.1 (same ▸ List.mem_map_of_mem member)
  refine ⟨differs, fun same => differs ?_⟩
  exact carries.pairs_here.constructor_eq (carries.pairs other inside) same

theorem Carries.takes (freeMembers : members.Free) (freeStatics : statics.Free) :
    (state.heap.object made.prototype).Takes members ∧
      (state.heap.object made.constructor).Takes statics := by
  have ladder := carries.members
  have column := carries.statics
  rw [List.map_append, List.map_cons] at ladder column
  exact ⟨ladder.shows.takes freeMembers.not_prototypeKey,
    column.shows.takes freeStatics.not_functionKey⟩

/-- Members are installed on any class of a chain. -/
theorem Carries.createClass_apply (freeMembers : members.Free) (freeStatics : statics.Free)
    (engine : Engine) :
    Run.createClass (.object made.constructor) (members.map Member.method)
        (statics.map Member.method) engine state =
      .done (.object made.constructor) (state.populated made members statics) := by
  have pairs := carries.pairs_here
  obtain ⟨callable, kind⟩ := pairs.kind
  obtain ⟨takesMembers, takesStatics⟩ := carries.takes freeMembers freeStatics
  exact Run.createClass_apply kind pairs.instances (pairs.prototype_ne pairs).symm pairs.index_lt.2
    takesMembers takesStatics

theorem Carries.object_populated_constructor (members statics : MemberList) :
    (state.populated made members statics).heap.object made.constructor =
      (state.heap.object made.constructor).installed statics := by
  have pairs := carries.pairs_here
  refine (Heap.object_installed_self ?_).trans ?_
  · rw [Heap.size_installed]
    exact pairs.index_lt.1
  · rw [Heap.object_installed_ne (pairs.prototype_ne pairs).symm]

theorem Carries.object_populated_prototype (members statics : MemberList) :
    (state.populated made members statics).heap.object made.prototype =
      (state.heap.object made.prototype).installed members := by
  have pairs := carries.pairs_here
  refine (Heap.object_installed_ne (pairs.prototype_ne pairs)).trans ?_
  exact Heap.object_installed_self pairs.index_lt.2

/-- The class is still a pair: nothing is installed under the keys of its own. -/
theorem Carries.pairs_populated (freeMembers : members.Free) (freeStatics : statics.Free) :
    (state.populated made members statics).Pairs profile (made.populated members statics) := by
  have pairs := carries.pairs_here
  have constructor_eq := carries.object_populated_constructor members statics
  have prototype_eq := carries.object_populated_prototype members statics
  obtain ⟨_, staticsOnly⟩ := Object.installed_rest (state.heap.object made.constructor) statics
  obtain ⟨_, membersOnly⟩ := Object.installed_rest (state.heap.object made.prototype) members
  obtain ⟨callable, kind⟩ := pairs.kind
  obtain ⟨property, held, slot, writable⟩ := pairs.instances
  constructor
  · refine ⟨callable, ?_⟩
    change ((state.populated made members statics).heap.object made.constructor).kind = _
    rw [constructor_eq, staticsOnly]
    exact kind
  · change ((state.populated made members statics).heap.object made.prototype).kind = _
    rw [prototype_eq, membersOnly]
    exact pairs.plain
  · refine ⟨property, ?_, slot, writable⟩
    change ((state.populated made members statics).heap.object made.constructor).property? _ = _
    rw [constructor_eq, Object.installed_property?, freeStatics.last?_eq_none (by decide)]
    exact held
  · change ((state.populated made members statics).heap.object made.prototype).property? _ = _
    rw [prototype_eq, Object.installed_property?, freeMembers.last?_eq_none (by decide)]
    exact pairs.back
  · exact pairs.constructor_outside
  · exact pairs.prototype_outside
  · exact pairs.freeMembers.append freeMembers
  · exact pairs.freeStatics.append freeStatics

/-- Installing on a class touches only what is outside the realm. -/
theorem Carries.untouched_populated :
    (state.populated made members statics).Untouched profile := by
  have pairs := carries.pairs_here
  refine ⟨carries.untouched.heap.keep ?_ fun id present => ?_, carries.untouched.caches⟩
  · change _ ≤ ((state.heap.installed _ _).installed _ _).size
    rw [Heap.size_installed, Heap.size_installed]
  · have outside {other : ObjectId} (far : (Realm.heap profile).size ≤ other.index) : id ≠ other := by
      rintro rfl
      exact Nat.lt_irrefl _ (Nat.lt_of_lt_of_le present far)
    refine (Heap.object_installed_ne (outside pairs.constructor_outside)).trans ?_
    exact Heap.object_installed_ne (outside pairs.prototype_outside)

/-- No constructor of a chain is the prototype object of the class, and none of its prototype objects is
the constructor of the class. -/
theorem Carries.crosswise_ne {other : PopulatedClass} (member : other ∈ below ++ above) :
    other.prototype ≠ made.constructor ∧ other.constructor ≠ made.prototype := by
  have here := carries.pairs_here
  have pairs := carries.pairs other (List.perm_middle.mem_iff.mpr (List.mem_cons_of_mem _ member))
  exact ⟨here.prototype_ne pairs, (pairs.prototype_ne here).symm⟩

/-- The other classes of a chain stay as they are. -/
theorem Carries.others_eq (members statics : MemberList) {other : PopulatedClass} (member : other ∈ below ++ above) :
    (state.populated made members statics).heap.object other.constructor =
        state.heap.object other.constructor ∧
      (state.populated made members statics).heap.object other.prototype =
        state.heap.object other.prototype := by
  obtain ⟨constructor_ne, prototype_ne⟩ := carries.others_ne member
  obtain ⟨first, second⟩ := carries.crosswise_ne member
  exact ⟨(Heap.object_installed_ne constructor_ne).trans (Heap.object_installed_ne second),
    (Heap.object_installed_ne first).trans (Heap.object_installed_ne prototype_ne)⟩

/-- The prototype objects carry what was installed on one of them. -/
theorem Carries.members_populated :
    (state.populated made members statics).heap.Ladder prototypeKeys Intrinsic.objectPrototype.id
      ((below ++ made.populated members statics :: above).map memberRung) := by
  have pairs := carries.pairs_here
  have ladder := carries.members
  rw [List.map_append, List.map_cons] at ladder ⊢
  have apart : ∀ rung ∈ below.map memberRung ++ above.map memberRung, rung.id ≠ made.prototype := by
    intro rung member
    rw [← List.map_append] at member
    obtain ⟨other, held, rfl⟩ := List.mem_map.mp member
    exact (carries.others_ne held).2
  refine (ladder.installed apart members).congr fun rung member => Heap.object_installed_ne ?_
  rcases List.mem_cons.mp (List.perm_middle.mem_iff.mp member) with rfl | others
  · exact pairs.prototype_ne pairs
  · rw [← List.map_append] at others
    obtain ⟨other, held, rfl⟩ := List.mem_map.mp others
    exact (carries.crosswise_ne held).1

/-- The constructors carry what was installed on one of them. -/
theorem Carries.statics_populated :
    (state.populated made members statics).heap.Ladder functionKeys Intrinsic.functionPrototype.id
      ((below ++ made.populated members statics :: above).map staticRung) := by
  have pairs := carries.pairs_here
  have ladder := carries.statics
  have first : (state.heap.installed made.prototype members).Ladder functionKeys
      Intrinsic.functionPrototype.id ((below ++ made :: above).map staticRung) := by
    refine ladder.congr fun rung member => Heap.object_installed_ne ?_
    obtain ⟨other, held, rfl⟩ := List.mem_map.mp member
    exact ((carries.pairs other held).prototype_ne pairs).symm
  rw [List.map_append, List.map_cons] at first ⊢
  refine first.installed (fun rung member => ?_) statics
  rw [← List.map_append] at member
  obtain ⟨other, held, rfl⟩ := List.mem_map.mp member
  exact (carries.others_ne held).1

/-- A chain carries what was installed on a class after what it carried before. -/
theorem Carries.populated (freeMembers : members.Free) (freeStatics : statics.Free) :
    (state.populated made members statics).Carries profile
      (below ++ made.populated members statics :: above) := by
  refine ⟨carries.untouched_populated, fun one member => ?_, ?_, carries.members_populated,
    carries.statics_populated⟩
  · rcases List.mem_cons.mp (List.perm_middle.mem_iff.mp member) with rfl | others
    · exact carries.pairs_populated freeMembers freeStatics
    · have pairs := carries.pairs one (List.perm_middle.mem_iff.mpr (List.mem_cons_of_mem _ others))
      obtain ⟨constructor_eq, prototype_eq⟩ := carries.others_eq members statics others
      exact pairs.congr constructor_eq prototype_eq
  · have distinct := carries.distinct
    rw [List.map_append, List.map_cons] at distinct ⊢
    exact distinct

end Populating

end State

/-- Every history leads to a chain that carries what was installed. -/
theorem ClassHistory.carries {profile : Profile} {state : State} {classes : List PopulatedClass}
    (links : profile.Links) (history : ClassHistory profile state classes) :
    state.Carries profile classes := by
  induction history with
  | base untouched new => exact new.carries untouched
  | @link state after newest rest id made prototype depth _ new apart ran instances ih =>
      rw [ih.link_apply new apart links depth] at ran
      cases ran
      have carries := ih.linked new apart
      have paired := (carries.pairs _ List.mem_cons_self).instances
      -- The prototype object that the new class shows is the one that it was given.
      obtain ⟨first, held, slot, _⟩ := instances
      obtain ⟨second, again, other, _⟩ := paired
      rw [held] at again
      cases again
      rw [slot] at other
      cases other
      exact carries
  | @populate state after below above made members statics engine value _ freeMembers freeStatics ran
      ih =>
      rw [ih.createClass_apply freeMembers freeStatics engine] at ran
      cases ran
      exact ih.populated freeMembers freeStatics
  | other _ untouched same ih => exact ih.keep untouched same

/-- Making objects leaves the classes alone. -/
theorem ClassHistory.grow {profile : Profile} {state : State} {classes : List PopulatedClass} {heap : Heap}
    (links : profile.Links) (history : ClassHistory profile state classes)
    (grown : state.heap.Extends heap) : ClassHistory profile { state with heap } classes := by
  have carries := history.carries links
  refine .other history ⟨?_, carries.untouched.caches⟩ fun made member => ?_
  · exact carries.untouched.heap.keep grown.size_le fun id present =>
      grown.object_eq id (Nat.lt_of_lt_of_le present carries.untouched.heap.size_le)
  · have pairs := carries.pairs made member
    exact ⟨grown.object_eq _ pairs.index_lt.1, grown.object_eq _ pairs.index_lt.2⟩

/-- A normal function that is made in an untouched realm is a new one. -/
theorem State.exists_newFunction {profile : Profile} {state : State} (untouched : state.Untouched profile)
    {callable : Callable} (normal : callable.kind = .normal) (length : Nat) :
    ∃ heap, Build.function callable length state.heap = (state.heap.next, heap) ∧
      state.heap.Extends heap ∧
      State.NewFunction profile { state with heap } state.heap.next ⟨state.heap.size + 1⟩ := by
  obtain ⟨heap, built, grown, made⟩ := Build.function_makes state.heap normal length
  exact ⟨heap, built, grown, ⟨callable, made⟩, untouched.heap.size_le,
    Nat.le_succ_of_le untouched.heap.size_le⟩

end ClassLowering
