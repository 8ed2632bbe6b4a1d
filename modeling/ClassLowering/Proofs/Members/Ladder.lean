import ClassLowering.Class.Constructor
import ClassLowering.Proofs.Members.Installing
import ClassLowering.Proofs.Run.PrototypeLink

/-!
# Ladders of members

The prototype objects of a chain of classes form a ladder, and so do its constructors: every rung holds
what was installed on it and links to the next one. A key is found on the nearest rung that has a member
under it. The keys that a rung has for itself, such as that of the link back to a constructor, are set
aside.
-/

namespace ClassLowering

open Relation

/-- An object with the members that were installed on it. -/
structure Rung where
  id : ObjectId
  members : MemberList

namespace Rung

/-- The value of the last member under a key on the nearest rung that has one. -/
def find? (rungs : List Rung) (key : PropertyKey) : Option Value :=
  rungs.findSome? fun rung => rung.members.last? key

/-- The lowest rung, or what lies above the ladder where this has none. -/
def start (top : ObjectId) (rungs : List Rung) : ObjectId := (rungs.head?.map Rung.id).getD top

theorem find?_cons_of_some {rung : Rung} {above : List Rung} {key : PropertyKey} {value : Value}
    (last : rung.members.last? key = some value) : find? (rung :: above) key = some value := by
  rw [find?, List.findSome?_cons, last]

theorem find?_cons_of_none {rung : Rung} {above : List Rung} {key : PropertyKey}
    (missing : rung.members.last? key = none) : find? (rung :: above) key = find? above key := by
  rw [find?, List.findSome?_cons, missing]
  rfl

theorem find?_eq_none {rungs : List Rung} {key : PropertyKey}
    (missing : ∀ rung ∈ rungs, ∀ entry ∈ rung.members, entry.1 ≠ key) : find? rungs key = none :=
  List.findSome?_eq_none_iff.mpr fun rung member => MemberList.last?_eq_none (missing rung member)

end Rung

namespace Heap

variable {heap after : Heap} {own : List PropertyKey} {top : ObjectId} {rungs : List Rung}
variable {key : PropertyKey} {value : Value}

/-- An object shows its members: apart from keys of its own, it has nothing else. -/
structure ShowsRung (heap : Heap) (own : List PropertyKey) (rung : Rung) (next : ObjectId) : Prop where
  ordinary : (heap.object rung.id).proxy? = none
  extensible : (heap.object rung.id).extensible = true
  links : heap.Links rung.id next
  property?_eq : ∀ key, key ∉ own →
    (heap.object rung.id).property? key = (rung.members.last? key).map .hidden

/-- Objects that link to each other up to a top, and show their members. -/
inductive Ladder (heap : Heap) (own : List PropertyKey) (top : ObjectId) : List Rung → Prop
  | nil : Ladder heap own top []
  | cons {rung : Rung} {above : List Rung} (shows : heap.ShowsRung own rung (Rung.start top above))
      (ladder : Ladder heap own top above) : Ladder heap own top (rung :: above)

theorem ShowsRung.congr {rung : Rung} {next : ObjectId} (shows : heap.ShowsRung own rung next)
    (same : after.object rung.id = heap.object rung.id) : after.ShowsRung own rung next :=
  ⟨same ▸ shows.ordinary, same ▸ shows.extensible, shows.links.congr same,
    same ▸ shows.property?_eq⟩

theorem Ladder.congr (ladder : heap.Ladder own top rungs)
    (same : ∀ rung ∈ rungs, after.object rung.id = heap.object rung.id) :
    after.Ladder own top rungs := by
  induction ladder with
  | nil => exact .nil
  | cons shows _ ih =>
      exact .cons (shows.congr (same _ List.mem_cons_self))
        (ih fun rung member => same rung (List.mem_cons_of_mem _ member))

theorem Ladder.tail {rung : Rung} {above : List Rung} (ladder : heap.Ladder own top (rung :: above)) :
    heap.Ladder own top above := by
  cases ladder with
  | cons _ rest => exact rest

theorem Ladder.head {rung : Rung} {above : List Rung} (ladder : heap.Ladder own top (rung :: above)) :
    heap.ShowsRung own rung (Rung.start top above) := by
  cases ladder with
  | cons shows _ => exact shows

theorem Ladder.drop {below above : List Rung} (ladder : heap.Ladder own top (below ++ above)) :
    heap.Ladder own top above := by
  induction below with
  | nil => exact ladder
  | cons rung rest ih => exact ih ladder.tail

theorem Ladder.shows {below above : List Rung} {rung : Rung}
    (ladder : heap.Ladder own top (below ++ rung :: above)) :
    heap.ShowsRung own rung (Rung.start top above) := ladder.drop.head

/-! ## Reading a ladder -/

theorem ShowsRung.passes {rung : Rung} {next : ObjectId} (shows : heap.ShowsRung own rung next)
    (other : key ∉ own) (missing : rung.members.last? key = none) :
    heap.Passes key rung.id next := by
  refine ⟨shows.ordinary, ?_, shows.links⟩
  rw [shows.property?_eq key other, missing]
  rfl

theorem ShowsRung.held {rung : Rung} {next : ObjectId} (shows : heap.ShowsRung own rung next)
    (other : key ∉ own) (last : rung.members.last? key = some value) :
    (heap.object rung.id).property? key = some (.hidden value) := by
  rw [shows.property?_eq key other, last]
  rfl

/-- A key without a member is handed on from rung to rung. -/
theorem Ladder.passes (ladder : heap.Ladder own top rungs) (other : key ∉ own)
    (missing : Rung.find? rungs key = none) :
    ReflTransGen (fun id next => heap.Passes key id next ∧ id ∈ rungs.map Rung.id)
      (Rung.start top rungs) top := by
  induction ladder with
  | nil => exact .refl
  | @cons rung above shows _ ih =>
      have own_missing : rung.members.last? key = none :=
        List.findSome?_eq_none_iff.mp missing rung List.mem_cons_self
      rw [Rung.find?_cons_of_none own_missing] at missing
      refine .head ⟨shows.passes other own_missing, List.mem_cons_self⟩ ?_
      exact (ih missing).lift id fun _ _ step => ⟨step.1, List.mem_cons_of_mem _ step.2⟩

theorem Ladder.clears (ladder : heap.Ladder own top rungs) (other : key ∉ own)
    (missing : Rung.find? rungs key = none) : heap.Clears key (Rung.start top rungs) top :=
  (ladder.passes other missing).lift id fun _ _ step => step.1

/-- A read from the lowest rung gives the value of the nearest member. -/
theorem Ladder.lookup_eq (ladder : heap.Ladder own top rungs) (other : key ∉ own)
    (found : Rung.find? rungs key = some value) :
    heap.lookup (Rung.start top rungs) key = some (.data value) := by
  induction ladder with
  | nil => cases found
  | @cons rung above shows _ ih =>
      cases last : rung.members.last? key with
      | some nearest =>
          rw [Rung.find?_cons_of_some last] at found
          cases found
          exact lookup_own shows.ordinary (shows.held other last)
      | none =>
          rw [Rung.find?_cons_of_none last] at found
          exact Clears.lookup_eq (.single (shows.passes other last)) (ih found)

/-- The chain above the lowest rung goes through all of them. -/
theorem Ladder.chain_eq (ladder : heap.Ladder own top rungs) {above : List ObjectId}
    (ended : heap.chain top = some above) :
    heap.chain (Rung.start top rungs) = some (rungs.map Rung.id ++ above) := by
  induction ladder with
  | nil => exact ended
  | cons shows _ ih => exact chain_of_links shows.ordinary shows.links ih

/-! ## Installing on a rung -/

theorem ShowsRung.takes {rung : Rung} {next : ObjectId} (shows : heap.ShowsRung own rung next)
    {members : MemberList} (others : ∀ entry ∈ members, entry.1 ∉ own) :
    (heap.object rung.id).Takes members := by
  refine ⟨shows.extensible, fun entry member property held => ?_⟩
  rw [shows.property?_eq entry.1 (others entry member)] at held
  obtain ⟨value, _, same⟩ := Option.map_eq_some_iff.mp held
  exact ⟨value, same.symm⟩

theorem ShowsRung.installed {rung : Rung} {next : ObjectId} (shows : heap.ShowsRung own rung next)
    (members : MemberList) :
    (heap.installed rung.id members).ShowsRung own ⟨rung.id, rung.members ++ members⟩ next := by
  have present := index_lt_of_prototype shows.links
  obtain ⟨properties, rest⟩ := Object.installed_rest (heap.object rung.id) members
  have object_eq : (heap.installed rung.id members).object rung.id =
      { heap.object rung.id with properties } := (object_installed_self present).trans rest
  refine ⟨?_, ?_, ?_, fun key other => ?_⟩
  · rw [object_eq]
    exact shows.ordinary
  · rw [object_eq]
    exact shows.extensible
  · rw [Links, object_eq]
    exact shows.links
  · rw [object_installed_self present, Object.installed_property?, shows.property?_eq key other,
      MemberList.last?_append, Option.map_or]

/-- What is installed on a rung counts after what was there before. -/
theorem Ladder.installed {rung : Rung} {below above : List Rung}
    (ladder : heap.Ladder own top (below ++ rung :: above))
    (apart : ∀ other ∈ below ++ above, other.id ≠ rung.id) (members : MemberList) :
    (heap.installed rung.id members).Ladder own top
      (below ++ ⟨rung.id, rung.members ++ members⟩ :: above) := by
  induction below with
  | nil =>
      refine .cons (ladder.head.installed members) ?_
      exact ladder.tail.congr fun other member => object_installed_ne (apart other member)
  | cons lower rest ih =>
      have lowest : Rung.start top (rest ++ ⟨rung.id, rung.members ++ members⟩ :: above) =
          Rung.start top (rest ++ rung :: above) := by cases rest <;> rfl
      have same : (heap.installed rung.id members).object lower.id = heap.object lower.id :=
        object_installed_ne (apart lower List.mem_cons_self)
      refine .cons (lowest ▸ ladder.head.congr same) ?_
      exact ih ladder.tail fun other member => apart other (List.mem_cons_of_mem _ member)

end Heap

namespace Run

variable {profile : Profile} {state : State} {own : List PropertyKey} {rungs : List Rung}
variable {key : PropertyKey} {value : Value}

theorem getFor_ladder {top : ObjectId} {engine : Engine} (ladder : state.heap.Ladder own top rungs)
    (other : key ∉ own) (found : Rung.find? rungs key = some value) (receiver : Value) :
    getFor (Rung.start top rungs) key receiver engine state = .done value state := by
  refine getFor_plain ?_
  rw [Heap.plainRead?, ladder.lookup_eq other found]
  rfl

section Owners

variable {engine : Engine} {id target : ObjectId} {property : Property} {bound : Nat}

theorem ownerFor_own (held : (state.heap.object id).property? key = some property) :
    ownerFor key (bound + 1) (.object id) engine state = .done (some id) state := by
  have owns : (state.heap.object id).hasOwn key = true := by
    rw [Object.hasOwn_eq_isSome, held]
    rfl
  rw [ownerFor, ask_bind, if_pos owns]
  rfl

theorem ownerFor_above (missing : (state.heap.object id).property? key = none) {above : Value}
    {later : State} (asked : getPrototypeOf (.object id) engine state = .done above later) :
    ownerFor key (bound + 1) (.object id) engine state = ownerFor key bound above engine later := by
  have lacks : ¬(state.heap.object id).hasOwn key = true := by
    rw [Object.hasOwn_eq_isSome, missing]
    exact nofun
  rw [ownerFor, ask_bind, if_neg lacks, bind_of_done asked]

/-- What a search found is read in the state after the search. -/
theorem superGet_of_ownerFor {receiver : Value} {found : Option ObjectId} {later : State}
    (ran : ownerFor key engine.depth (.object target) engine state = .done found later) :
    superGet (.object target) key receiver engine state =
      (match found with
        | some owner => readOwn owner key receiver
        | none => pure .undefined) engine later := by
  have asked : Run.depth engine state = .done engine.depth state := rfl
  rw [superGet, bind_of_done asked]
  refine (bind_of_done ran).trans ?_
  cases found <;> rfl

end Owners

/-- The search for the owner of a key along the links that the host shows ends on the nearest rung that
has a member under it. -/
theorem ownerFor_ladder (links : profile.Links) (untouched : state.Untouched profile)
    (ladder : state.heap.Ladder own Intrinsic.objectPrototype.id rungs) (other : key ∉ own)
    (unlinked : .string "__proto__" ∉ own) (plain : Rung.find? rungs "__proto__" = none)
    (found : Rung.find? rungs key = some value) {bound : Nat} (enough : rungs.length ≤ bound)
    (depth : Nat) :
    ∃ owner after,
      ownerFor key bound (.object (Rung.start Intrinsic.objectPrototype.id rungs))
          (Engine.ofDepth (depth + 1)) state = .done (some owner) after ∧
        after.heap = state.heap ∧
        (state.heap.object owner).property? key = some (.hidden value) := by
  generalize heap_eq : state.heap = heap at ladder
  induction ladder generalizing state bound with
  | nil => cases found
  | @cons rung above shows ladder ih =>
      obtain ⟨bound, rfl⟩ := Nat.exists_eq_add_one_of_ne_zero
        (Nat.ne_of_gt (Nat.lt_of_lt_of_le (Nat.zero_lt_succ above.length) enough))
      subst heap_eq
      cases last : rung.members.last? key with
      | some nearest =>
          rw [Rung.find?_cons_of_some last] at found
          cases found
          have held := shows.held other last
          exact ⟨rung.id, state, ownerFor_own held, rfl, held⟩
      | none =>
          have missing := (shows.passes other last).missing
          have clears := (Heap.Ladder.cons shows ladder).clears unlinked plain
          have read := getPrototypeOf_apply untouched links.readable links.consistent clears depth
          let known := state.knowing
            { state.caches with lookup := some profile.prototypeStrategy }
          have linked : (state.heap.object
              (Rung.start Intrinsic.objectPrototype.id (rung :: above))).prototype = _ := shows.links
          have plain_above : Rung.find? above "__proto__" = none := by
            have none_here := List.findSome?_eq_none_iff.mp plain rung List.mem_cons_self
            rwa [Rung.find?_cons_of_none none_here] at plain
          rw [Rung.find?_cons_of_none last] at found
          rw [linked] at read
          obtain ⟨owner, after, ran, same, held⟩ := @ih known
            ⟨untouched.heap, untouched.caches.with_lookup⟩ plain_above found bound
            (Nat.le_of_succ_le_succ enough) rfl
          exact ⟨owner, after, (ownerFor_above missing read).trans ran, same, held⟩

/-- The value above a class is read from the nearest rung that has a member under the key. -/
theorem superGet_ladder (links : profile.Links) (untouched : state.Untouched profile)
    (ladder : state.heap.Ladder own Intrinsic.objectPrototype.id rungs) (other : key ∉ own)
    (unlinked : .string "__proto__" ∉ own) (plain : Rung.find? rungs "__proto__" = none)
    (found : Rung.find? rungs key = some value) (receiver : Value) {depth : Nat}
    (enough : rungs.length ≤ depth + 1) :
    ∃ after,
      superGet (.object (Rung.start Intrinsic.objectPrototype.id rungs)) key receiver
          (Engine.ofDepth (depth + 1)) state = .done value after ∧ after.heap = state.heap := by
  obtain ⟨owner, after, ran, same, held⟩ :=
    ownerFor_ladder links untouched ladder other unlinked plain found enough depth
  refine ⟨after, ?_, same⟩
  rw [← same] at held
  refine (superGet_of_ownerFor ran).trans ?_
  dsimp only
  rw [readOwn, ask_bind, held]
  rfl

end Run

end ClassLowering
