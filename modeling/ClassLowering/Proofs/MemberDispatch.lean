import ClassLowering.Proofs.Members.History

/-!
# Dispatch of members

On every host that links prototypes, a member of a class chain is dispatched to the newest class that has
one under its key, to the last one that was installed there. Reads above a class begin with the class, and
statics are dispatched along the constructors in the same way. Enumerations of instances do not visit any
member.
-/

namespace ClassLowering

open PopulatedClass

namespace PopulatedClass

variable {part : PopulatedClass → MemberList} {classes : List PopulatedClass} {key : PropertyKey}

/-- What a chain of classes gives for a key, of their members or of their statics: the last value that was
installed on the newest class that has one. -/
def dispatch (part : PopulatedClass → MemberList) (classes : List PopulatedClass) (key : PropertyKey) :
    Option Value := classes.findSome? fun made => (part made).last? key

/-- Whether some class of a chain has a key among its members, or among its statics. -/
def Installed (part : PopulatedClass → MemberList) (classes : List PopulatedClass) (key : PropertyKey) :
    Prop := ∃ made ∈ classes, key ∈ (part made).map Prod.fst

theorem exists_dispatch (installed : Installed part classes key) :
    ∃ value, dispatch part classes key = some value := by
  obtain ⟨made, member, installed⟩ := installed
  rw [← Option.isSome_iff_exists, dispatch, List.findSome?_isSome_iff]
  exact ⟨made, member, MemberList.last?_isSome installed⟩

theorem find?_memberRung :
    Rung.find? (classes.map memberRung) key = dispatch PopulatedClass.members classes key :=
  List.findSome?_map

theorem find?_staticRung :
    Rung.find? (classes.map staticRung) key = dispatch PopulatedClass.statics classes key :=
  List.findSome?_map

end PopulatedClass

/-! ## Enumerations -/

theorem Table.enumerableStrings_eq_nil {table : Table}
    (hidden : ∀ key property, table.get? key = some property → property.enumerable = false) :
    table.enumerableStrings = [] := by
  rw [enumerableStrings, List.filterMap_eq_nil_iff]
  intro key _
  split
  · next text property held =>
    rw [hidden _ _ held]
    rfl
  · rfl

namespace Heap

/-- Tables without enumerable strings add nothing to an enumeration. -/
theorem forInAlong_eq_nil {tables : List Table} (quiet : ∀ table ∈ tables, table.enumerableStrings = [])
    (seen : Std.ExtTreeSet PropertyKey PropertyKey.order) : forInAlong seen tables = [] := by
  induction tables generalizing seen with
  | nil => rfl
  | cons table above ih =>
      rw [forInAlong, quiet table List.mem_cons_self,
        ih fun other member => quiet other (List.mem_cons_of_mem _ member)]
      rfl

theorem forInAlong_cons_quiet (table : Table) {above : List Table}
    (quiet : ∀ table ∈ above, table.enumerableStrings = []) :
    forInAlong ∅ (table :: above) = table.enumerableStrings := by
  rw [forInAlong, forInAlong_eq_nil quiet, List.append_nil, List.filter_eq_self]
  intro text _
  rw [Std.ExtTreeSet.contains_empty]
  rfl

end Heap

/-! ## Chains of classes -/

namespace State

variable {profile : Profile} {state : State} {classes rest : List PopulatedClass}
variable {newest made : PopulatedClass} {id : ObjectId} {key : PropertyKey} {value : Value}

theorem Carries.not_prototypeKey (carries : state.Carries profile classes)
    (installed : Installed PopulatedClass.members classes key) : key ∉ prototypeKeys := by
  obtain ⟨made, member, installed⟩ := installed
  obtain ⟨entry, held, rfl⟩ := List.mem_map.mp installed
  exact (carries.pairs made member).freeMembers.not_prototypeKey entry held

theorem Carries.not_functionKey (carries : state.Carries profile classes)
    (installed : Installed PopulatedClass.statics classes key) : key ∉ functionKeys := by
  obtain ⟨made, member, installed⟩ := installed
  obtain ⟨entry, held, rfl⟩ := List.mem_map.mp installed
  exact (carries.pairs made member).freeStatics.not_functionKey entry held

/-- No class has a member under the key of the accessor for links. -/
theorem Carries.find?_proto (carries : state.Carries profile classes) {part : List PopulatedClass}
    (inside : ∀ made ∈ part, made ∈ classes) :
    Rung.find? (part.map memberRung) "__proto__" = none := by
  refine Rung.find?_eq_none fun rung member entry held same => ?_
  obtain ⟨made, inner, rfl⟩ := List.mem_map.mp member
  exact (carries.pairs made (inside made inner)).freeMembers entry held (same ▸ List.mem_cons_self)

/-- An object that links to the prototype object of a class. -/
structure InstanceOf (state : State) (id : ObjectId) (made : PopulatedClass) : Prop where
  ordinary : (state.heap.object id).proxy? = none
  links : state.heap.Links id made.prototype

/-- A read of a key that an instance does not own is dispatched along the prototype objects. -/
theorem Carries.get_instance (carries : state.Carries profile (newest :: rest))
    (below : state.InstanceOf id newest) (missing : (state.heap.object id).property? key = none)
    (other : key ∉ prototypeKeys)
    (found : dispatch PopulatedClass.members (newest :: rest) key = some value) (engine : Engine) :
    Run.get id key engine state = .done value state := by
  rw [← find?_memberRung] at found
  have passes : state.heap.Passes key id newest.prototype := ⟨below.ordinary, missing, below.links⟩
  have above := carries.members.lookup_eq other found
  refine Run.getFor_plain ?_
  rw [Heap.plainRead?, Heap.Clears.lookup_eq (.single passes) above]
  rfl

/-- Prototype objects have nothing that enumerations visit. -/
theorem Pairs.quiet (pairs : state.Pairs profile made) {next : ObjectId}
    (shows : state.heap.ShowsRung prototypeKeys made.memberRung next) :
    (state.heap.object made.prototype).properties.enumerableStrings = [] := by
  refine Table.enumerableStrings_eq_nil fun key property held => ?_
  change (state.heap.object made.prototype).property? key = some property at held
  by_cases own : key ∈ prototypeKeys
  · cases List.mem_singleton.mp own
    rw [pairs.back] at held
    cases held
    rfl
  · rw [show (state.heap.object made.prototype).property? key = _ from shows.property?_eq key own] at held
    obtain ⟨value, _, rfl⟩ := Option.map_eq_some_iff.mp held
    rfl

/-- An enumeration of an instance visits its own keys only. -/
theorem Carries.forInKeys_instance (carries : state.Carries profile (newest :: rest))
    (below : state.InstanceOf id newest)
    (bare : (state.heap.object Intrinsic.objectPrototype.id).properties.enumerableStrings = []) :
    state.heap.forInKeys id = some (state.heap.object id).properties.enumerableStrings := by
  have realm := carries.untouched.heap
  have top := Heap.chain_of_unlinked realm.objectPrototype_ordinary realm.offers.objectPrototype
  have chain := Heap.chain_of_links below.ordinary below.links (carries.members.chain_eq top)
  rw [Heap.forInKeys, chain, Option.map_some, List.map_cons]
  refine congrArg some (Heap.forInAlong_cons_quiet _ fun table member => ?_)
  obtain ⟨other, above, rfl⟩ := List.mem_map.mp member
  rcases List.mem_append.mp above with inner | last
  · obtain ⟨_, rung, rfl⟩ := List.mem_map.mp inner
    obtain ⟨made, among, rfl⟩ := List.mem_map.mp rung
    obtain ⟨lower, higher, split⟩ := List.append_of_mem among
    have ladder := carries.members
    rw [split, List.map_append, List.map_cons] at ladder
    exact (carries.pairs made among).quiet ladder.shows
  · cases List.mem_singleton.mp last
    exact bare

end State

/-- How the members of a chain of classes are dispatched in a state. -/
structure DispatchesMembers (state : State) (newest : PopulatedClass) (rest : List PopulatedClass) :
    Prop where
  /-- An instance shows the last member of the newest class that has one under a key. -/
  instances : ∀ id key engine, state.InstanceOf id newest →
    (state.heap.object id).property? key = none →
    Installed PopulatedClass.members (newest :: rest) key →
    ∃ value, dispatch PopulatedClass.members (newest :: rest) key = some value ∧
      Run.get id key engine state = .done value state
  /-- A read above a class begins with the prototype object that it is given, whoever receives it. -/
  aboveClasses : ∀ below target above key receiver depth,
    newest :: rest = below ++ target :: above →
    Installed PopulatedClass.members (target :: above) key → above.length ≤ depth →
    ∃ value after, dispatch PopulatedClass.members (target :: above) key = some value ∧
      Run.superGet (.object target.prototype) key receiver (Engine.ofDepth (depth + 1)) state =
        .done value after ∧ after.heap = state.heap
  /-- A constructor shows the last static of the newest class that has one under a key. -/
  constructors : ∀ key engine, Installed PopulatedClass.statics (newest :: rest) key →
    ∃ value, dispatch PopulatedClass.statics (newest :: rest) key = some value ∧
      Run.get newest.constructor key engine state = .done value state
  /-- An enumeration of an instance visits no member. -/
  enumerations : ∀ id, state.InstanceOf id newest →
    (state.heap.object Intrinsic.objectPrototype.id).properties.enumerableStrings = [] →
    state.heap.forInKeys id = some (state.heap.object id).properties.enumerableStrings

/-- The history of a chain of classes goes on: the next class can be linked, and members can be installed on
every class. -/
structure HistoryContinues (profile : Profile) (state : State) (newest : PopulatedClass)
    (rest : List PopulatedClass) : Prop where
  links : ∀ id made depth, state.NewFunction profile id made →
    id ∉ (newest :: rest).map PopulatedClass.constructor →
    ∃ prototype after,
      Run.linkClass (.object id) (.object newest.constructor) (Engine.ofDepth (depth + 1)) state =
        .done () after ∧
      ClassHistory profile after ({ constructor := id, prototype } :: newest :: rest)
  populates : ∀ below made above members statics engine, newest :: rest = below ++ made :: above →
    MemberList.Free members → MemberList.Free statics →
    ∃ after,
      Run.createClass (.object made.constructor) (members.map Member.method)
        (statics.map Member.method) engine state = .done (.object made.constructor) after ∧
      ClassHistory profile after (below ++ made.populated members statics :: above)

/-- After every history of a chain of classes, on every host that links prototypes, members and statics are
dispatched to the newest class that has them, and the history can go on. -/
theorem members_dispatched (profile : Profile) (links : profile.Links) {state : State}
    {newest : PopulatedClass} {rest : List PopulatedClass}
    (history : ClassHistory profile state (newest :: rest)) :
    DispatchesMembers state newest rest ∧ HistoryContinues profile state newest rest := by
  have carries := history.carries links
  refine ⟨⟨?_, ?_, ?_, ?_⟩, ⟨?_, ?_⟩⟩
  · intro id key engine below missing installed
    obtain ⟨value, found⟩ := exists_dispatch installed
    exact ⟨value, found,
      carries.get_instance below missing (carries.not_prototypeKey installed) found engine⟩
  · intro below target above key receiver depth split installed enough
    have inside : ∀ made ∈ target :: above, made ∈ newest :: rest := by
      intro made member
      rw [split]
      exact List.mem_append_right _ member
    have whole : Installed PopulatedClass.members (newest :: rest) key := by
      obtain ⟨made, member, held⟩ := installed
      exact ⟨made, inside made member, held⟩
    have ladder := carries.members
    rw [split, List.map_append] at ladder
    obtain ⟨value, found⟩ := exists_dispatch installed
    obtain ⟨after, ran, same⟩ := Run.superGet_ladder links carries.untouched ladder.drop
      (carries.not_prototypeKey whole) (by decide) (carries.find?_proto inside)
      (find?_memberRung.trans found) receiver
      (by rw [List.length_map]; exact Nat.succ_le_succ enough)
    exact ⟨value, after, found, ran, same⟩
  · intro key engine installed
    obtain ⟨value, found⟩ := exists_dispatch installed
    exact ⟨value, found, Run.getFor_ladder carries.statics (carries.not_functionKey installed)
      (find?_staticRung.trans found) _⟩
  · intro id below bare
    exact carries.forInKeys_instance below bare
  · intro id made depth new apart
    have ran := carries.link_apply new apart links depth
    have instances := ((carries.linked new apart).pairs _ List.mem_cons_self).instances
    exact ⟨_, _, ran, .link history new apart ran instances⟩
  · intro below made above members statics engine split freeMembers freeStatics
    rw [split] at history carries
    have ran := carries.createClass_apply freeMembers freeStatics engine
    exact ⟨_, ran, .populate history freeMembers freeStatics ran⟩

/-- On a host that reaches prototype links by the accessor only, an instance of the lower of two classes
shows the member that this class overrides and the inherited one, and above the lower class the overridden
one is read. -/
theorem overridden_member_dispatched :
    let profile := Preset.protoAccessorOnly.profile
    let members : MemberList := [("speak", .null), ("walk", .boolean false)]
    let statics : MemberList := [("make", .boolean true)]
    let overriding : MemberList := [("speak", .null), ("speak", .boolean true)]
    profile.Links ∧ ∃ state newest base id,
      ClassHistory profile state [newest, base] ∧ base.members = members ∧ base.statics = statics ∧
      newest.members = overriding ∧ state.InstanceOf id newest ∧
      Run.get id "speak" (Engine.ofDepth 1) state = .done (.boolean true) state ∧
      Run.get id "walk" (Engine.ofDepth 1) state = .done (.boolean false) state ∧
      Run.get newest.constructor "make" (Engine.ofDepth 1) state = .done (.boolean true) state ∧
      ∃ after, Run.superGet (.object base.prototype) "speak" (.object id) (Engine.ofDepth 1) state =
        .done .null after := by
  intro profile members statics overriding
  have links : profile.Links := ⟨Bool.noConfusion, .inr rfl⟩
  have normal : Run.idleFunction.kind = .normal := rfl
  -- A base class is made and gets its members.
  let start := (Session.start profile).state
  have untouched : start.Untouched profile := Session.start_untouched profile
  obtain ⟨first, _, grown, new⟩ := State.exists_newFunction untouched normal 0
  have realm := untouched.evolves (.of_heap (grown.but start.heap.next)) untouched.heap.size_le
  have history : ClassHistory profile { start with heap := first } _ := .base realm new
  obtain ⟨based, _, history⟩ := (members_dispatched profile links history).2.populates [] _ []
    members statics (Engine.ofDepth 1) rfl (by decide) (by decide)
  -- A second class is linked below it and gets a member twice.
  have carries := history.carries links
  obtain ⟨second, _, grown, new⟩ := State.exists_newFunction carries.untouched normal 0
  have history := history.grow links grown
  have apart : based.heap.next ≠ start.heap.next := by
    have older := (carries.pairs _ List.mem_cons_self).index_lt.1
    rintro same
    exact Nat.lt_irrefl _ (same ▸ older)
  obtain ⟨prototype, linked, _, history⟩ := (members_dispatched profile links history).2.links _ _ 0 new
    fun member => apart (List.mem_singleton.mp member)
  obtain ⟨populated, _, history⟩ := (members_dispatched profile links history).2.populates [] _ _
    overriding [] (Engine.ofDepth 1) rfl (by decide) (by decide)
  -- An instance is made.
  let created : Object := .inheriting (some prototype)
  have history := history.grow links (.allocate populated.heap created)
  have below : (populated.making created).InstanceOf populated.heap.next
      { constructor := based.heap.next, prototype, members := overriding } := by
    refine ⟨?_, ?_⟩
    · rw [State.making_heap, Heap.object_allocate_next]
      rfl
    · rw [Heap.Links, State.making_heap, Heap.object_allocate_next]
      rfl
  have missing (key : PropertyKey) :
      ((populated.making created).heap.object populated.heap.next).property? key = none := by
    rw [State.making_heap, Heap.object_allocate_next]
    exact Table.get?_empty key
  obtain ⟨⟨instances, aboveClasses, constructors, _⟩, _⟩ := members_dispatched profile links history
  refine ⟨links, populated.making created, _, _, populated.heap.next, history, rfl, rfl, rfl, below, ?_⟩
  obtain ⟨_, found, spoke⟩ := instances _ "speak" (Engine.ofDepth 1) below (missing _)
    ⟨_, .head _, .head _⟩
  cases found
  obtain ⟨_, found, walked⟩ := instances _ "walk" (Engine.ofDepth 1) below (missing _)
    ⟨_, .tail _ (.head _), .tail _ (.head _)⟩
  cases found
  obtain ⟨_, found, made⟩ := constructors "make" (Engine.ofDepth 1)
    ⟨_, .tail _ (.head _), .head _⟩
  cases found
  obtain ⟨_, after, found, above, _⟩ := aboveClasses [_] _ [] "speak" (.object populated.heap.next) 0 rfl
    ⟨_, .head _, .head _⟩ (Nat.le_refl 0)
  cases found
  exact ⟨spoke, walked, made, after, above⟩

end ClassLowering
