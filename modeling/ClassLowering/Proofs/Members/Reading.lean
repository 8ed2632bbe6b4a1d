import ClassLowering.Proofs.Accessors.Checking
import ClassLowering.Proofs.Run.Listing
import ClassLowering.Proofs.Run.Reading

/-!
# Reading members

Lists of members are read element by element and then record by record. Reading ends at the first list, element
or record that cannot be read.
-/

namespace ClassLowering

/-! ## Records -/

/-- A member carries a value and an accessor function, too. -/
def Member.mixed (member : Member) : Bool :=
  member.value.isSome && (member.get.isSome || member.set.isSome)

namespace Run

variable {engine : Engine} {state after : State} {list entry : Value} {record : ObjectId} {member : Member}
  {members : List Member} {failure : Failure}

/-- The fields of the record of a member, which may be mixed. -/
def memberFields (record : ObjectId) : Run Member := do
  let keyValue ← get record "key"
  let key ← ask (·.key keyValue)
  let value ← field? record "value"
  let getter ← field? record "get"
  let setter ← field? record "set"
  let enumerable ← get record "enumerable"
  return { key, value, get := getter, set := setter, enumerable := enumerable.isTruthy }

theorem memberOf_eq (record : ObjectId) :
    memberOf record = memberFields record >>= fun member =>
      if member.mixed then raise (.mixedMember member.key.text) else pure member := by
  simp only [memberOf, memberFields, bind_assoc, pure_bind, Member.mixed]
  rfl

/-- An entry of a list of members cannot be read. -/
inductive MemberUnread (engine : Engine) (state : State) : Value → Failure → State → Prop
  | primitive {entry : Value} (noObject : ∀ id, entry ≠ .object id) :
      MemberUnread engine state entry
        (.fault (.propertyDescriptionNotObject (some (state.heap.text entry)))) state
  | field {record : ObjectId} {failure : Failure} {after : State}
      (failed : memberFields record engine state = .failed failure after) :
      MemberUnread engine state (.object record) failure after
  | mixed {record : ObjectId} {member : Member} {after : State}
      (read : memberFields record engine state = .done member after) (mixed : member.mixed = true) :
      MemberUnread engine state (.object record) (.fault (.mixedMember member.key.text)) after

theorem memberOfEntry_eq_failed_iff :
    memberOfEntry entry engine state = .failed failure after ↔
      MemberUnread engine state entry failure after := by
  constructor
  · intro ran
    unfold memberOfEntry at ran
    split at ran
    · rw [memberOf_eq] at ran
      rcases failed_of_bind ran with failed | ⟨member, middle, read, ran⟩
      · exact .field failed
      · split at ran
        · next mixed =>
          cases ran
          exact .mixed read mixed
        · cases ran
    · next noObject =>
      cases ran
      exact .primitive noObject
  · intro unread
    cases unread with
    | primitive noObject =>
        unfold memberOfEntry
        split
        · next id => exact absurd rfl (noObject id)
        · rfl
    | field failed =>
        rw [memberOfEntry, memberOf_eq]
        exact bind_of_failed failed
    | mixed read mixed =>
        rw [memberOfEntry, memberOf_eq, bind_of_done read, if_pos mixed]
        rfl

/-! ## Lists of members -/

/-- The members of a list are read: all elements first, and then the records that they are. -/
inductive MembersRead (engine : Engine) (state : State) : Value → List Member → State → Prop
  | none {list : Value} (nullish : list.isNullish = true) : MembersRead engine state list [] state
  | records {list : Value} {elements : List Value} {members : List Member} {listed after : State}
      (present : list.isNullish = false) (read : ElementsRead engine state list elements listed)
      (each : InTurn memberOfEntry engine elements listed members after) :
      MembersRead engine state list members after

/-- The members of a list cannot be read. -/
inductive MembersUnread (engine : Engine) (state : State) : Value → Failure → State → Prop
  | elements {list : Value} {failure : Failure} {after : State} (present : list.isNullish = false)
      (unread : ElementsUnread engine state list failure after) : MembersUnread engine state list failure after
  | entry {list entry : Value} {early late : List Value} {members : List Member} {failure : Failure}
      {listed reached after : State} (present : list.isNullish = false)
      (read : ElementsRead engine state list (early ++ entry :: late) listed)
      (before : InTurn memberOfEntry engine early listed members reached)
      (unread : MemberUnread engine reached entry failure after) : MembersUnread engine state list failure after

theorem membersOf_of_present (present : list.isNullish = false) :
    membersOf list = elementsOf list >>= fun elements => elements.mapM memberOfEntry := by
  rw [membersOf, present]
  rfl

theorem membersOf_eq_done_iff :
    membersOf list engine state = .done members after ↔ MembersRead engine state list members after := by
  cases present : list.isNullish with
  | true =>
      rw [membersOf, present]
      constructor
      · intro ran
        cases ran
        exact .none present
      · intro read
        cases read with
        | none _ => rfl
        | records absent _ _ =>
            rw [present] at absent
            cases absent
  | false =>
      rw [membersOf_of_present present]
      constructor
      · intro ran
        obtain ⟨elements, listed, read, ran⟩ := done_of_bind ran
        exact .records present (elementsOf_eq_done_iff.mp read) (mapM_eq_done_iff.mp ran)
      · intro read
        cases read with
        | none nullish =>
            rw [present] at nullish
            cases nullish
        | records _ read each =>
            exact (bind_of_done (elementsOf_eq_done_iff.mpr read)).trans (mapM_eq_done_iff.mpr each)

theorem membersOf_eq_failed_iff :
    membersOf list engine state = .failed failure after ↔ MembersUnread engine state list failure after := by
  constructor
  · intro ran
    cases present : list.isNullish with
    | true =>
        rw [membersOf, present] at ran
        cases ran
    | false =>
        rw [membersOf_of_present present] at ran
        rcases failed_of_bind ran with failed | ⟨elements, listed, read, ran⟩
        · exact .elements present (elementsOf_eq_failed_iff.mp failed)
        · obtain ⟨early, entry, late, members, reached, rfl, before, failed⟩ :=
            failsInTurn_iff.mp (mapM_eq_failed_iff.mp ran)
          exact .entry present (elementsOf_eq_done_iff.mp read) before (memberOfEntry_eq_failed_iff.mp failed)
  · intro unread
    cases unread with
    | elements present unread =>
        rw [membersOf_of_present present]
        exact bind_of_failed (elementsOf_eq_failed_iff.mpr unread)
    | entry present read before unread =>
        rw [membersOf_of_present present, bind_of_done (elementsOf_eq_done_iff.mpr read)]
        exact mapM_eq_failed_iff.mpr (failsInTurn_iff.mpr
          ⟨_, _, _, _, _, rfl, before, memberOfEntry_eq_failed_iff.mpr unread⟩)

end Run

/-! ## Both lists of a class -/

namespace Frame

variable {frame : Frame} {engine : Engine} {state after : State} {members statics : List Member}
  {failure : Failure}

/-- The members and the statics that a call of `_createClass` gives are read, in this order. -/
inductive ReadsMembers (frame : Frame) (engine : Engine) (state : State) :
    List Member → List Member → State → Prop
  | both {members statics : List Member} {middle after : State}
      (first : Run.MembersRead engine state (frame.argument 1) members middle)
      (second : Run.MembersRead engine middle (frame.argument 2) statics after) :
      ReadsMembers frame engine state members statics after

/-- They cannot be read: the members, or only the statics. -/
inductive MissesMembers (frame : Frame) (engine : Engine) (state : State) : Failure → State → Prop
  | members {failure : Failure} {after : State}
      (unread : Run.MembersUnread engine state (frame.argument 1) failure after) :
      MissesMembers frame engine state failure after
  | statics {members : List Member} {failure : Failure} {middle after : State}
      (first : Run.MembersRead engine state (frame.argument 1) members middle)
      (unread : Run.MembersUnread engine middle (frame.argument 2) failure after) :
      MissesMembers frame engine state failure after

theorem readMembers_eq_done_iff :
    Builtin.readMembers frame engine state = .done (members, statics) after ↔
      frame.ReadsMembers engine state members statics after := by
  constructor
  · intro ran
    obtain ⟨members, middle, first, ran⟩ := Run.done_of_bind ran
    obtain ⟨statics, last, second, ended⟩ := Run.done_of_bind ran
    cases ended
    exact .both (Run.membersOf_eq_done_iff.mp first) (Run.membersOf_eq_done_iff.mp second)
  · rintro ⟨first, second⟩
    rw [Builtin.readMembers, Run.bind_of_done (Run.membersOf_eq_done_iff.mpr first),
      Run.bind_of_done (Run.membersOf_eq_done_iff.mpr second)]
    rfl

theorem readMembers_eq_failed_iff :
    Builtin.readMembers frame engine state = .failed failure after ↔
      frame.MissesMembers engine state failure after := by
  constructor
  · intro ran
    rcases Run.failed_of_bind ran with failed | ⟨members, middle, first, ran⟩
    · exact .members (Run.membersOf_eq_failed_iff.mp failed)
    · rcases Run.failed_of_bind ran with failed | ⟨statics, last, second, ended⟩
      · exact .statics (Run.membersOf_eq_done_iff.mp first) (Run.membersOf_eq_failed_iff.mp failed)
      · cases ended
  · intro misses
    cases misses with
    | members unread => exact Run.bind_of_failed (Run.membersOf_eq_failed_iff.mpr unread)
    | statics first unread =>
        rw [Builtin.readMembers, Run.bind_of_done (Run.membersOf_eq_done_iff.mpr first)]
        exact Run.bind_of_failed (Run.membersOf_eq_failed_iff.mpr unread)

end Frame

end ClassLowering
