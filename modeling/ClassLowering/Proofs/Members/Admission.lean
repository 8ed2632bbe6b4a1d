import ClassLowering.Class.Member
import ClassLowering.Proofs.PropertyDefinition

/-!
# Admission of members

Every member asks to be configurable, so that a target admits it exactly if it can configure what it has
under the key, or takes new properties where it has nothing. A member that was installed leaves this
question as it was for every key. The target at the start therefore tells which members are installed, and
what a whole list leaves under a key can be read off the members under that key alone.
-/

namespace ClassLowering

/-! ## What members leave under a key -/

namespace Member

/-- What a key holds after a member was installed over what it held. -/
def replacing (member : Member) (current : Option Property) : Property :=
  (current.map (·.redefine member.descriptor)).getD (.ofDescriptor member.descriptor)

/-- What a key holds after members were installed in order, all of them under this key. -/
def replacingEach (members : List Member) (current : Option Property) : Option Property :=
  members.foldl (fun current member => some (member.replacing current)) current

/-- The last member under a key. -/
def last? (members : List Member) (key : PropertyKey) : Option Member :=
  (members.filter (·.key = key)).getLast?

variable {member : Member} {members : List Member} {current : Option Property} {key : PropertyKey}

theorem configurable_replacing : (member.replacing current).configurable = true := by
  cases current <;> rfl

theorem enumerable_replacing : (member.replacing current).enumerable = member.enumerable := by
  cases current <;> rfl

/-- A member with a value and no accessor replaces whatever there was. -/
theorem replacing_eq_of_value {value : Value} (carried : member.value = some value)
    (noGetter : member.get = none) (noSetter : member.set = none) (current : Option Property) :
    member.replacing current =
      { slot := .data value, writable := true, enumerable := member.enumerable, configurable := true } := by
  obtain ⟨key, carries, get, set, enumerable⟩ := member
  cases carried
  cases noGetter
  cases noSetter
  match current with
  | none => rfl
  | some ⟨.data _, _, _, _⟩ => rfl
  | some ⟨.accessor _ _, _, _, _⟩ => rfl

theorem replacingEach_of_last? (last : last? members key = some member) (current : Option Property) :
    ∃ before, replacingEach (members.filter (·.key = key)) current = some (member.replacing before) := by
  obtain ⟨earlier, split⟩ := List.getLast?_eq_some_iff.mp last
  exact ⟨replacingEach earlier current, by rw [split, replacingEach, List.foldl_append]; rfl⟩

/-- Every key that is listed has a last member. -/
theorem exists_last? (listed : key ∈ members.map Member.key) : ∃ member, last? members key = some member := by
  obtain ⟨member, inside, same⟩ := List.mem_map.mp listed
  have nonempty : members.filter (·.key = key) ≠ [] :=
    List.ne_nil_of_mem (List.mem_filter.mpr ⟨inside, decide_eq_true same⟩)
  exact ⟨_, List.getLast?_eq_some_getLast nonempty⟩

end Member

namespace Object

variable {object : Object} {member : Member} {members : List Member} {key : PropertyKey}

/-- The object after a member was installed, without asking. -/
def withMember (object : Object) (member : Member) : Object :=
  object.setProperty member.key (member.replacing (object.property? member.key))

/-- The object after members were installed in order, without asking. -/
def withMembers (object : Object) (members : List Member) : Object := members.foldl withMember object

theorem withMembers_append (object : Object) (first second : List Member) :
    object.withMembers (first ++ second) = (object.withMembers first).withMembers second :=
  List.foldl_append

/-- Only properties are installed. -/
theorem withMembers_rest (object : Object) (members : List Member) :
    object.withMembers members =
      { object with properties := (object.withMembers members).properties } := by
  induction members generalizing object with
  | nil => rfl
  | cons member rest ih => exact ih (object.withMember member)

theorem property?_withMember (object : Object) (member : Member) (key : PropertyKey) :
    (object.withMember member).property? key =
      if key = member.key then some (member.replacing (object.property? key)) else object.property? key := by
  refine (property?_setProperty ..).trans ?_
  split
  · next same => rw [same]
  · rfl

/-- Under each key, only the members of that key count. -/
theorem property?_withMembers (object : Object) (members : List Member) (key : PropertyKey) :
    (object.withMembers members).property? key =
      Member.replacingEach (members.filter (·.key = key)) (object.property? key) := by
  induction members generalizing object with
  | nil => rfl
  | cons member rest ih =>
      refine (ih (object.withMember member)).trans ?_
      rw [property?_withMember]
      by_cases same : key = member.key
      · have mine : decide (member.key = key) = true := decide_eq_true same.symm
        rw [if_pos same, List.filter_cons, if_pos mine]
        rfl
      · have another : ¬decide (member.key = key) = true := by simpa using Ne.symm same
        rw [if_neg same, List.filter_cons, if_neg another]

theorem property?_withMembers_of_not_mem (unlisted : key ∉ members.map Member.key) :
    (object.withMembers members).property? key = object.property? key := by
  have none : members.filter (·.key = key) = [] := by
    rw [List.filter_eq_nil_iff]
    intro member listed same
    exact unlisted (List.mem_map.mpr ⟨member, listed, of_decide_eq_true same⟩)
  rw [property?_withMembers, none]
  rfl

theorem keys_withMember (object : Object) (member : Member) :
    (object.withMember member).properties.keys =
      if member.key ∈ object.properties.keys then object.properties.keys
      else object.properties.keys ++ [member.key] :=
  Table.keys_insert ..

/-- The keys that were there keep their places, and new ones follow as they first come up. -/
theorem keys_withMembers (object : Object) (members : List Member) :
    (object.withMembers members).properties.keys = object.properties.keys ++
      ((members.map Member.key).filter (· ∉ object.properties.keys)).eraseDups := by
  induction members generalizing object with
  | nil => simp [withMembers]
  | cons member rest ih =>
      refine (ih (object.withMember member)).trans ?_
      rw [keys_withMember, List.map_cons]
      split
      · next used => rw [List.filter_cons_of_neg (by simpa using used)]
      · next unused =>
        rw [List.filter_cons_of_pos (by simpa using unused), List.eraseDups_cons, List.filter_filter,
          List.append_assoc, List.singleton_append]
        refine congrArg (_ ++ member.key :: List.eraseDups ·) (List.filter_congr fun key _ => ?_)
        by_cases same : key = member.key <;> simp [same]

theorem mem_keys_withMembers (object : Object) (listed : key ∈ members.map Member.key) :
    key ∈ (object.withMembers members).properties.keys := by
  rw [keys_withMembers, List.mem_append]
  by_cases used : key ∈ object.properties.keys
  · exact .inl used
  · exact .inr (List.mem_eraseDups.mpr (List.mem_filter.mpr ⟨listed, decide_eq_true used⟩))

/-! ## Which members are admitted -/

/-- An object admits a member under a key: its own property may be configured, or it takes a new one. -/
def Admits (object : Object) (key : PropertyKey) : Prop :=
  (∃ current, object.property? key = some current ∧ current.configurable = true) ∨
    (object.property? key = none ∧ object.extensible = true)

theorem Admits.congr {other : Object} (property_eq : other.property? key = object.property? key)
    (extensible_eq : other.extensible = object.extensible) : other.Admits key ↔ object.Admits key := by
  rw [Admits, Admits, property_eq, extensible_eq]

/-- A definition that asks to be configurable is refused exactly where the object does not admit it. -/
theorem refuses_iff_not_admits {asked : Descriptor} (asks : asked.configurable = some true) :
    object.Refuses key asked ↔ ¬object.Admits key := by
  constructor
  · rintro (⟨missing, closed⟩ | ⟨held, fixed, _⟩) (⟨current, again, configurable⟩ | ⟨none, extensible⟩)
    · rw [missing] at again
      cases again
    · rw [closed] at extensible
      cases extensible
    · cases held.symm.trans again
      rw [fixed] at configurable
      cases configurable
    · rw [held] at none
      cases none
  · intro withheld
    cases held : object.property? key with
    | none => exact .closed held (Bool.eq_false_iff.mpr fun extensible => withheld (.inr ⟨held, extensible⟩))
    | some current =>
        have fixed : current.configurable = false :=
          Bool.eq_false_iff.mpr fun configurable => withheld (.inl ⟨current, held, configurable⟩)
        exact .fixed held fixed (.configurable asks)

/-- A member that is admitted is installed over what there is. -/
theorem Admits.defined_eq (admits : object.Admits member.key) :
    object.defined member.key member.descriptor =
      .ok (member.replacing (object.property? member.key)) := by
  unfold defined
  rcases admits with ⟨current, held, configurable⟩ | ⟨missing, extensible⟩
  · have allowed : current.allows member.descriptor = true := by
      rw [Property.allows, configurable, Bool.true_or]
    rw [held]
    exact if_pos allowed
  · rw [missing]
    exact if_pos extensible

/-- A member that was installed leaves open which members are admitted. -/
theorem admits_withMember_iff (admits : object.Admits member.key) :
    (object.withMember member).Admits key ↔ object.Admits key := by
  have held := property?_withMember object member key
  by_cases same : key = member.key
  · subst same
    rw [if_pos rfl] at held
    exact iff_of_true (.inl ⟨_, held, Member.configurable_replacing⟩) admits
  · rw [if_neg same] at held
    exact Admits.congr held rfl

theorem admits_withMembers_iff (admits : ∀ member ∈ members, object.Admits member.key) :
    (object.withMembers members).Admits key ↔ object.Admits key := by
  induction members generalizing object with
  | nil => exact Iff.rfl
  | cons member rest ih =>
      have here := admits member List.mem_cons_self
      refine (ih fun later listed => ?_).trans (admits_withMember_iff here)
      exact (admits_withMember_iff here).mpr (admits later (List.mem_cons_of_mem _ listed))

/-- The first member that an object does not admit, behind those that are installed. -/
structure StopsAt (object : Object) (members first : List Member) (offending : Member) : Prop where
  split : ∃ rest, members = first ++ offending :: rest
  admitted : ∀ member ∈ first, object.Admits member.key
  withheld : ¬object.Admits offending.key

theorem admits_all_or_stopsAt (object : Object) (members : List Member) :
    (∀ member ∈ members, object.Admits member.key) ∨
      ∃ first offending, object.StopsAt members first offending := by
  induction members with
  | nil => exact .inl fun member listed => nomatch listed
  | cons member rest ih =>
      by_cases admits : object.Admits member.key
      · rcases ih with all | ⟨first, offending, ⟨after, split⟩, admitted, withheld⟩
        · exact .inl (List.forall_mem_cons.mpr ⟨admits, all⟩)
        · exact .inr ⟨member :: first, offending, ⟨after, congrArg (member :: ·) split⟩,
            List.forall_mem_cons.mpr ⟨admits, admitted⟩, withheld⟩
      · exact .inr ⟨[], member, ⟨rest, rfl⟩, fun _ listed => (nomatch listed), admits⟩

theorem StopsAt.offending_mem {first : List Member} {offending : Member}
    (stops : object.StopsAt members first offending) : offending ∈ members := by
  obtain ⟨rest, rfl⟩ := stops.split
  exact List.mem_append_right _ List.mem_cons_self

/-- The installed members leave the offending key as it was. -/
theorem StopsAt.property?_eq {first : List Member} {offending : Member}
    (stops : object.StopsAt members first offending) :
    (object.withMembers first).property? offending.key = object.property? offending.key := by
  refine property?_withMembers_of_not_mem fun listed => stops.withheld ?_
  obtain ⟨member, installed, same⟩ := List.mem_map.mp listed
  exact same ▸ stops.admitted member installed

theorem StopsAt.refusal_eq {first : List Member} {offending : Member}
    (stops : object.StopsAt members first offending) :
    (object.withMembers first).refusal offending.key = object.refusal offending.key := by
  rw [refusal, refusal, hasOwn_eq_isSome, hasOwn_eq_isSome, stops.property?_eq]

/-- A target stops at the same member again. -/
theorem StopsAt.again {first : List Member} {offending : Member}
    (stops : object.StopsAt members first offending) :
    (object.withMembers first).StopsAt members first offending where
  split := stops.split
  admitted member installed := (admits_withMembers_iff stops.admitted).mpr (stops.admitted member installed)
  withheld admits := stops.withheld ((admits_withMembers_iff stops.admitted).mp admits)

end Object

/-! ## Runs that install members -/

namespace State

variable {state : State} {target : ObjectId}

/-- The state after members were installed, without asking. -/
def withMembers (state : State) (target : ObjectId) (members : List Member) : State :=
  { state with heap := state.heap.modify target (·.withMembers members) }

theorem object_withMembers (present : target.index < state.heap.size) (members : List Member) :
    (state.withMembers target members).heap.object target =
      (state.heap.object target).withMembers members :=
  Heap.object_modify_self _ _ _ present

theorem size_withMembers (members : List Member) :
    (state.withMembers target members).heap.size = state.heap.size :=
  Heap.size_modify ..

theorem withMembers_nil : state.withMembers target [] = state :=
  congrArg (fun heap => { state with heap }) (state.heap.modify_self target)

theorem withMembers_append (first second : List Member) :
    state.withMembers target (first ++ second) =
      (state.withMembers target first).withMembers target second := by
  have objects : (state.heap.modify target (·.withMembers first)).modify target (·.withMembers second) =
      state.heap.modify target (·.withMembers (first ++ second)) := by
    rw [Heap.modify_modify]
    refine congrArg (state.heap.modify target) (funext fun object => ?_)
    exact (Object.withMembers_append object first second).symm
  exact congrArg (fun heap => { state with heap }) objects.symm

end State

namespace Run

variable {engine : Engine} {state : State} {target : ObjectId} {member offending : Member}
  {members first : List Member}

theorem install_cons (member : Member) (rest : List Member) :
    install target (member :: rest) =
      define target member.key member.descriptor >>= fun _ => install target rest :=
  List.forM_cons

theorem install_append (first second : List Member) :
    install target (first ++ second) = install target first >>= fun _ => install target second :=
  List.forM_append

/-- One member that is admitted. -/
theorem define_member (present : target.index < state.heap.size)
    (admits : (state.heap.object target).Admits member.key) :
    define target member.key member.descriptor engine state =
      .done () (state.withMembers target [member]) := by
  refine (define_apply admits.defined_eq).trans ?_
  exact congrArg (fun heap => Outcome.done () { state with heap }) (Heap.modify_congr present rfl)

/-- One member that is not admitted. -/
theorem define_member_refused (withheld : ¬(state.heap.object target).Admits member.key) :
    define target member.key member.descriptor engine state =
      .failed (.fault ((state.heap.object target).refusal member.key)) state := by
  rw [define, ask_bind, ((Object.refuses_iff_not_admits rfl).mpr withheld).defined_eq]
  rfl

/-- A target that admits all members gets them all. -/
theorem install_admitted (present : target.index < state.heap.size)
    (admits : ∀ member ∈ members, (state.heap.object target).Admits member.key) (engine : Engine) :
    install target members engine state = .done () (state.withMembers target members) := by
  induction members generalizing state with
  | nil => exact congrArg (Outcome.done ()) State.withMembers_nil.symm
  | cons member rest ih =>
      have here := admits member List.mem_cons_self
      have object_eq := State.object_withMembers present [member]
      have still (later) (listed : later ∈ rest) :
          ((state.withMembers target [member]).heap.object target).Admits later.key := by
        rw [object_eq]
        exact (Object.admits_withMember_iff here).mpr (admits later (List.mem_cons_of_mem _ listed))
      rw [install_cons, bind_of_done (define_member present here),
        ih ((State.size_withMembers _).symm ▸ present) still, ← State.withMembers_append]
      rfl

/-- Any other target gets those before the first that it does not admit. -/
theorem install_stops (present : target.index < state.heap.size)
    (stops : (state.heap.object target).StopsAt members first offending) (engine : Engine) :
    install target first engine state = .done () (state.withMembers target first) ∧
      install target members engine state =
        .failed (.fault ((state.heap.object target).refusal offending.key))
          (state.withMembers target first) := by
  have installed := install_admitted present stops.admitted engine
  have object_eq := State.object_withMembers present first
  have withheld : ¬((state.withMembers target first).heap.object target).Admits offending.key :=
    object_eq ▸ stops.again.withheld
  obtain ⟨rest, split⟩ := stops.split
  refine ⟨installed, ?_⟩
  rw [split, install_append, bind_of_done installed, install_cons,
    bind_of_failed (define_member_refused withheld), object_eq, stops.refusal_eq]

end Run

end ClassLowering
