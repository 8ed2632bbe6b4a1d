import ClassLowering.Proofs.Members.Admission

/-!
# Installing members

Members with hidden values are installed on objects that take new properties. Such an object admits them all.
Of several members under one key the last one stays, and nothing else about the object changes.
-/

namespace ClassLowering

/-- The members of a class by their keys and values, in the order in which they are installed. -/
abbrev MemberList := List (PropertyKey × Value)

/-- A member with a value that enumerations do not visit. -/
def Member.method (entry : PropertyKey × Value) : Member := { key := entry.1, value := some entry.2 }

namespace MemberList

/-- The value of the last member under a key. -/
def last? (members : MemberList) (key : PropertyKey) : Option Value :=
  members.reverse.lookup key

theorem last?_append (first second : MemberList) (key : PropertyKey) :
    last? (first ++ second) key = (last? second key).or (last? first key) := by
  rw [last?, List.reverse_append, List.lookup_append]
  rfl

theorem last?_singleton (entry : PropertyKey × Value) (key : PropertyKey) :
    last? [entry] key = if key = entry.1 then some entry.2 else none := by
  obtain ⟨own, value⟩ := entry
  by_cases same : key = own
  · simp [last?, same]
  · have differs : (key == own) = false := beq_false_of_ne same
    simp [last?, List.lookup_cons, same, differs]

theorem last?_eq_none {members : MemberList} {key : PropertyKey}
    (missing : ∀ entry ∈ members, entry.1 ≠ key) : members.last? key = none := by
  rw [last?, List.lookup_eq_none_iff]
  intro entry member
  exact bne_iff_ne.mpr (missing entry (List.mem_reverse.mp member)).symm

theorem last?_isSome {members : MemberList} {key : PropertyKey}
    (installed : key ∈ members.map Prod.fst) : (members.last? key).isSome := by
  obtain ⟨entry, member, rfl⟩ := List.mem_map.mp installed
  rw [Option.isSome_iff_ne_none, last?, ne_eq, List.lookup_eq_none_iff]
  intro missing
  have differs := missing entry (List.mem_reverse.mpr member)
  rw [bne_self_eq_false] at differs
  cases differs

end MemberList

namespace Object

variable {object : Object} {members : MemberList} {key : PropertyKey}

/-- The object with hidden values under the keys of members. -/
def installed (object : Object) (members : MemberList) : Object :=
  members.foldl (fun object entry => object.setProperty entry.1 (.hidden entry.2)) object

theorem installed_append (object : Object) (first second : MemberList) :
    object.installed (first ++ second) = (object.installed first).installed second :=
  List.foldl_append

/-- A member with a value leaves a hidden value, whatever there was. -/
theorem installed_eq_withMembers (object : Object) (members : MemberList) :
    object.installed members = object.withMembers (members.map Member.method) := by
  rw [installed, withMembers, List.foldl_map]
  refine congrArg (List.foldl · object members) (funext fun object => funext fun entry => ?_)
  have carried : (Member.method entry).value = some entry.2 := rfl
  have left := Member.replacing_eq_of_value carried rfl rfl (object.property? entry.1)
  exact congrArg (object.setProperty entry.1) left.symm

/-- An object takes members: it is extensible, and what it has under their keys are hidden values. -/
structure Takes (object : Object) (members : MemberList) : Prop where
  extensible : object.extensible = true
  hidden : ∀ entry ∈ members, ∀ property, object.property? entry.1 = some property →
    ∃ value, property = .hidden value

theorem installed_property? (object : Object) (members : MemberList) (key : PropertyKey) :
    (object.installed members).property? key =
      ((members.last? key).map .hidden).or (object.property? key) := by
  induction members using List.reverseRecOn with
  | nil => rfl
  | append_singleton members entry ih =>
      rw [installed_append, MemberList.last?_append, MemberList.last?_singleton]
      refine (property?_setProperty ..).trans ?_
      by_cases same : key = entry.1
      · rw [if_pos same, if_pos same]
        rfl
      · rw [if_neg same, if_neg same]
        exact ih

/-- Only properties are installed. -/
theorem installed_rest (object : Object) (members : MemberList) :
    ∃ properties, object.installed members = { object with properties } :=
  ⟨_, (object.installed_eq_withMembers members).trans (object.withMembers_rest _)⟩

theorem Takes.admits {entry : PropertyKey × Value} (takes : object.Takes members)
    (listed : entry ∈ members) : object.Admits entry.1 := by
  cases held : object.property? entry.1 with
  | none => exact .inr ⟨held, takes.extensible⟩
  | some property =>
      obtain ⟨value, rfl⟩ := takes.hidden entry listed property held
      exact .inl ⟨_, held, rfl⟩

end Object

namespace Heap

variable {heap : Heap} {id other : ObjectId} {members : MemberList}

/-- The heap with members installed on an object. -/
def installed (heap : Heap) (id : ObjectId) (members : MemberList) : Heap :=
  members.foldl (fun heap entry => heap.setProperty id entry.1 (.hidden entry.2)) heap

theorem installed_eq_modify (heap : Heap) (id : ObjectId) (members : MemberList) :
    heap.installed id members = heap.modify id (·.installed members) := by
  induction members generalizing heap with
  | nil => exact (heap.modify_self id).symm
  | cons entry rest ih => exact (ih _).trans (heap.modify_modify ..)

@[simp] theorem size_installed : (heap.installed id members).size = heap.size := by
  rw [installed_eq_modify, size_modify]

theorem object_installed_self (present : id.index < heap.size) :
    (heap.installed id members).object id = (heap.object id).installed members := by
  rw [installed_eq_modify, object_modify_self _ _ _ present]

theorem object_installed_ne (differs : other ≠ id) :
    (heap.installed id members).object other = heap.object other := by
  rw [installed_eq_modify, object_modify_ne _ _ differs]

end Heap

namespace Run

variable {engine : Engine} {state : State} {id prototype : ObjectId}

/-- Members are installed on an object that takes them. -/
theorem install_apply {members : MemberList} (present : id.index < state.heap.size)
    (takes : (state.heap.object id).Takes members) :
    install id (members.map Member.method) engine state =
      .done () { state with heap := state.heap.installed id members } := by
  have admits : ∀ member ∈ members.map Member.method, (state.heap.object id).Admits member.key := by
    intro member listed
    obtain ⟨entry, inside, rfl⟩ := List.mem_map.mp listed
    exact takes.admits inside
  have heap_eq : state.heap.modify id (·.withMembers (members.map Member.method)) =
      state.heap.installed id members := by
    rw [Heap.installed_eq_modify]
    exact Heap.modify_congr present (Object.installed_eq_withMembers _ members).symm
  rw [install_admitted present admits, State.withMembers, heap_eq]

/-- A class is created: its members go to its prototype object, and its statics to itself. -/
theorem createClass_apply {callable : Callable} {members statics : MemberList}
    (kind : (state.heap.object id).kind = .function callable)
    (instances : state.heap.Holds id "prototype" (.object prototype)) (differs : id ≠ prototype)
    (present : prototype.index < state.heap.size)
    (takesMembers : (state.heap.object prototype).Takes members)
    (takesStatics : (state.heap.object id).Takes statics) :
    createClass (.object id) (members.map Member.method) (statics.map Member.method) engine state =
      .done (.object id)
        { state with heap := (state.heap.installed prototype members).installed id statics } := by
  have read : get id "prototype" engine state = .done (.object prototype) state :=
    getFor_plain (instances.plainRead? (Heap.proxy?_of_function kind))
  let next : State := { state with heap := state.heap.installed prototype members }
  have first : install prototype (members.map Member.method) engine state = .done () next :=
    install_apply present takesMembers
  have second : install id (statics.map Member.method) engine next =
      .done () { next with heap := next.heap.installed id statics } := by
    refine install_apply ?_ ?_
    · rw [Heap.size_installed]
      exact instances.index_lt
    · rw [Heap.object_installed_ne differs]
      exact takesStatics
  rw [createClass, bind_of_done read]
  refine (bind_of_done first).trans ?_
  exact bind_of_done second

end Run

end ClassLowering
