import ClassLowering.Proofs.Run.Linking
import ClassLowering.Proofs.Soundness.Session

/-!
# Prototype links of reachable states

Whatever a session has run, prototype links close no cycle and proxies have none of their own. Every walk
that meets no proxy ends, and a prototype link is refused exactly when it would have to change on an
object that is closed or that the new chain holds.
-/

namespace ClassLowering

namespace Heap

variable {heap : Heap} {id : ObjectId} {prototype : Option ObjectId}

/-- All walks from an object end: those of reads, assignments, tests, enumerations and instance
checks. -/
structure WalksEnd (heap : Heap) (id : ObjectId) : Prop where
  lookup : ∀ key, ∃ found, heap.lookup id key = some found
  assignment : ∀ key, ∃ found, heap.assignment id key = some found
  has : ∀ key, ∃ found, heap.has id key = some found
  forInKeys : ∃ keys, heap.forInKeys id = some keys
  inherits : ∀ ancestor, ∃ found, heap.inherits id ancestor = some found

theorem walks_end (acyclic : heap.Acyclic) (free : heap.ProxyFree id) : heap.WalksEnd id where
  lookup := lookup_ends acyclic id
  assignment := assignment_ends acyclic free
  has := has_ends acyclic free
  forInKeys := forInKeys_ends acyclic free
  inherits := inherits_ends acyclic free

/-- A link that would change, on an object that takes none or that stands on the new chain. -/
def Refuses (heap : Heap) (id : ObjectId) (prototype : Option ObjectId) : Prop :=
  (heap.object id).prototype ≠ prototype ∧
    ((heap.object id).extensible = false ∨ ∃ next, prototype = some next ∧ heap.Above next id)

/-- Only the link of one object differs. -/
structure Relinked (heap : Heap) (id : ObjectId) (prototype : Option ObjectId) (after : Heap) :
    Prop where
  object_eq : after.object id = { heap.object id with prototype }
  others_eq : ∀ other, other ≠ id → after.object other = heap.object other
  size_eq : after.size = heap.size

theorem setLink_relinked (present : id.index < heap.size) :
    heap.Relinked id prototype (heap.setLink id prototype) where
  object_eq := object_modify_self heap id _ present
  others_eq _ differs := object_modify_ne heap _ differs
  size_eq := size_modify ..

theorem admitsLink_eq_false_iff (acyclic : heap.Acyclic) (bare : heap.ProxiesBare) :
    heap.admitsLink id prototype = false ↔ heap.Refuses id prototype := by
  rw [← Bool.not_eq_true, admitsLink_iff acyclic bare, Refuses, not_or, not_and_or,
    Bool.not_eq_true]
  refine and_congr_right fun _ => or_congr_right ?_
  simp only [not_forall, Classical.not_not, exists_prop]

end Heap

/-- In every state that a session reaches, the stored prototype links have no cycle and proxies have
none; all walks that meet no proxy end; and a change of the link of an object is refused exactly when it
must be, without effect, and otherwise changes this link only. -/
theorem prototype_links_acyclic (profile : Profile) {state : State}
    (reached : (Session.start profile).state.Reaches .driver state) :
    state.heap.Acyclic ∧ state.heap.ProxiesBare ∧
      (∀ id, state.heap.ProxyFree id → state.heap.WalksEnd id) ∧
      ∀ engine id prototype, id.index < state.heap.size →
        (state.heap.object id).proxy? = none →
          (state.heap.Refuses id prototype ∧
            Run.setPrototype id prototype engine state = .done false state) ∨
          (¬ state.heap.Refuses id prototype ∧ ∃ after,
            Run.setPrototype id prototype engine state = .done true { state with heap := after } ∧
            state.heap.Relinked id prototype after) := by
  obtain ⟨_, _, bare, _, acyclic⟩ := (reached.leads (Session.start_sound .driver profile)).sound.heap
  refine ⟨acyclic, bare, fun id free => Heap.walks_end acyclic free, ?_⟩
  intro engine id prototype present ordinary
  rw [Run.setPrototype_apply ordinary, ← Heap.admitsLink_eq_false_iff acyclic bare]
  cases admitted : state.heap.admitsLink id prototype with
  | false => exact .inl ⟨rfl, rfl⟩
  | true => exact .inr ⟨Bool.noConfusion, _, rfl, Heap.setLink_relinked present⟩

/-- Steps that make an object, and another one that inherits from it. -/
def nestingSteps : List Script.Step :=
  [.perform (.create .object) [] { result := some "a" },
    .perform (.create .object) [.named "a"] { result := some "b" }]

/-- The lower of two objects cannot become the prototype of the upper one. -/
theorem cyclic_link_refused :
    let start := { (Session.start Preset.modern.profile).state with scopes := #[{}] }
    let state := (Session.runSteps ⟨0⟩ nestingSteps start ∅).2
    let upper := start.heap.next
    let lower : ObjectId := ⟨start.heap.size + 1⟩
    (Session.start Preset.modern.profile).state.Reaches .driver state ∧
      upper.index < state.heap.size ∧ (state.heap.object upper).proxy? = none ∧
      state.heap.Acyclic ∧ state.heap.Refuses upper (some lower) ∧
      Run.setPrototype upper (some lower) (Engine.ofDepth 1) state = .done false state := by
  intro start state upper lower
  have lawful : Script.LawfulSteps .driver start.heap.size nestingSteps := by simp [nestingSteps]
  have reached := Session.start_reaches Preset.modern.profile lawful
  have present : upper.index < state.heap.size := by decide +kernel
  have ordinary : (state.heap.object upper).proxy? = none := by decide +kernel
  have linked : state.heap.Links lower upper := by
    unfold Heap.Links
    decide +kernel
  have differs : (state.heap.object upper).prototype ≠ some lower := by decide +kernel
  have refuses : state.heap.Refuses upper (some lower) :=
    ⟨differs, .inr ⟨lower, rfl, .single linked⟩⟩
  obtain ⟨acyclic, _, _, links⟩ := prototype_links_acyclic _ reached
  have answer := links (Engine.ofDepth 1) upper (some lower) present ordinary
  rcases answer with ⟨_, refused⟩ | ⟨admits, _⟩
  · exact ⟨reached, present, ordinary, acyclic, refuses, refused⟩
  · exact absurd refuses admits

end ClassLowering
