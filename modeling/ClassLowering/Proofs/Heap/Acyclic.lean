import ClassLowering.Proofs.Heap.Extension
import ClassLowering.Proofs.Heap.Walk

/-!
# Prototype links without cycles

`Links` is the graph of stored prototype links, and `Acyclic` says that no object stands above itself.
New objects that link to old ones, and links that `admitsLink` allows, keep it so; every walk along
prototype links ends where there are no cycles and no proxies.
-/

namespace ClassLowering.Heap

open Relation

variable {heap larger : Heap} {id next above start : ObjectId} {link : Option ObjectId}

/-- The stored prototype link of an object. -/
def Links (heap : Heap) (id next : ObjectId) : Prop := (heap.object id).prototype = some next

/-- An object, or one above it on stored prototype links. -/
def Above (heap : Heap) (id above : ObjectId) : Prop := ReflTransGen heap.Links id above

/-- No object stands above itself. -/
def Acyclic (heap : Heap) : Prop := ∀ id, ¬ TransGen heap.Links id id

/-- Links never lead to an object that is not there. -/
def LinksInside (heap : Heap) : Prop := ∀ id next, heap.Links id next → next.index < heap.size

theorem Acyclic.mono (acyclic : heap.Acyclic)
    (fewer : ∀ id next, larger.Links id next → heap.Links id next) : larger.Acyclic :=
  fun id cycle => acyclic id (TransGen.mono fewer _ _ cycle)

theorem acyclic_of_links_iff (acyclic : heap.Acyclic)
    (same : ∀ id, (larger.object id).prototype = (heap.object id).prototype) : larger.Acyclic :=
  acyclic.mono fun id _ linked => (same id).symm.trans linked

/-! ## What keeps links free of cycles -/

/-- On old objects the links of a larger heap stay among the old ones. -/
theorem Extends.transGen_links (grown : heap.Extends larger) (inside : heap.LinksInside)
    (present : id.index < heap.size) (reached : TransGen larger.Links id above) :
    TransGen heap.Links id above ∧ above.index < heap.size := by
  have old {id next : ObjectId} (present : id.index < heap.size) (linked : larger.Links id next) :
      heap.Links id next := by
    unfold Links at linked ⊢
    rwa [grown.object_eq id present] at linked
  induction reached with
  | single linked =>
      have linked := old present linked
      exact ⟨.single linked, inside _ _ linked⟩
  | tail _ linked ih =>
      have linked := old ih.2 linked
      exact ⟨.tail ih.1 linked, inside _ _ linked⟩

/-- New objects that link to older ones close no cycle. -/
theorem Acyclic.extends (acyclic : heap.Acyclic) (inside : heap.LinksInside)
    (grown : heap.Extends larger)
    (fresh : ∀ id next, heap.size ≤ id.index → larger.Links id next → next.index < id.index) :
    larger.Acyclic := by
  intro id cycle
  rcases Nat.lt_or_ge id.index heap.size with present | absent
  · exact acyclic id (grown.transGen_links inside present cycle).1
  · have below {last : ObjectId} (reached : TransGen larger.Links id last) : last.index < id.index := by
      induction reached with
      | single linked => exact fresh _ _ absent linked
      | @tail middle last _ linked ih =>
          rcases Nat.lt_or_ge middle.index heap.size with present | new
          · exact Nat.lt_of_lt_of_le (grown.transGen_links inside present (.single linked)).2 absent
          · exact Nat.lt_trans (fresh _ _ new linked) ih
    exact Nat.lt_irrefl _ (below cycle)

theorem links_setLink (present : id.index < heap.size) {other : ObjectId} :
    (heap.setLink id link).Links other next ↔
      if other = id then link = some next else heap.Links other next := by
  unfold Links setLink
  rw [object_modify heap id other _ present]
  split <;> rfl

/-- A path of steps to older objects leads to an older object. -/
theorem index_lt_of_descends {relation : ObjectId → ObjectId → Prop}
    (descends : ∀ id next, relation id next → next.index < id.index)
    (reached : TransGen relation start above) : above.index < start.index := by
  induction reached with
  | single step => exact descends _ _ step
  | tail _ step ih => exact Nat.lt_trans (descends _ _ step) ih

/-- A path over a changed link either does without it or goes through it. -/
theorem transGen_setLink (present : id.index < heap.size) {prototype : ObjectId}
    (apart : ¬ heap.Above prototype id)
    (reached : TransGen (heap.setLink id (some prototype)).Links start above) :
    TransGen heap.Links start above ∨ heap.Above start id ∧ heap.Above prototype above := by
  induction reached with
  | single linked =>
      rw [links_setLink present] at linked
      split at linked
      · next same =>
        subst same
        cases linked
        exact .inr ⟨.refl, .refl⟩
      · exact .inl (.single linked)
  | @tail middle last _ linked ih =>
      rw [links_setLink present] at linked
      split at linked
      · next same =>
        subst same
        cases linked
        rcases ih with direct | ⟨_, loops⟩
        · exact .inr ⟨direct.to_reflTransGen, .refl⟩
        · exact absurd loops apart
      · rcases ih with direct | ⟨before, behind⟩
        · exact .inl (.tail direct linked)
        · exact .inr ⟨before, behind.tail linked⟩

/-- A link to an object whose chain does not come back closes no cycle. -/
theorem Acyclic.setLink (acyclic : heap.Acyclic) (present : id.index < heap.size)
    (apart : ∀ prototype, link = some prototype → ¬ heap.Above prototype id) :
    (heap.setLink id link).Acyclic := by
  cases link with
  | none =>
      refine acyclic.mono fun other next linked => ?_
      rw [links_setLink present] at linked
      split at linked
      · cases linked
      · exact linked
  | some prototype =>
      have apart := apart prototype rfl
      intro start cycle
      rcases transGen_setLink present apart cycle with direct | ⟨before, behind⟩
      · exact acyclic start direct
      · exact apart (behind.trans before)

/-! ## Proxies -/

/-- No proxy is met on the stored links from an object. -/
def ProxyFree (heap : Heap) (id : ObjectId) : Prop :=
  ∀ met, heap.Above id met → (heap.object met).proxy? = none

theorem ProxyFree.ordinary (free : heap.ProxyFree id) : (heap.object id).proxy? = none :=
  free id .refl

theorem ProxyFree.of_links (free : heap.ProxyFree id) (links : heap.Links id next) : heap.ProxyFree next :=
  fun met reached => free met (.head links reached)

theorem target?_of_ordinary (ordinary : (heap.object id).proxy? = none) :
    (heap.object id).target? = none := by
  rw [Object.target?, ordinary]
  rfl

theorem resolve_of_ordinary (ordinary : (heap.object id).proxy? = none) :
    heap.resolve id = id := by
  have finished : heap.targetStride id = .finish id := by
    rw [targetStride, target?_of_ordinary ordinary]
    rfl
  rw [resolve, walk, walkFor_of_finish finished]
  rfl

theorem prototypeOf_of_ordinary (ordinary : (heap.object id).proxy? = none) :
    heap.prototypeOf id = (heap.object id).prototype := by
  rw [prototypeOf, resolve_of_ordinary ordinary]

theorem index_lt_of_prototypeOf (linked : heap.prototypeOf id = some next) :
    id.index < heap.size := by
  by_contra absent
  have ordinary : (heap.object id).proxy? = none := by
    rw [object_of_size_le (Nat.le_of_not_lt absent)]
    rfl
  rw [prototypeOf_of_ordinary ordinary] at linked
  exact absent (index_lt_of_prototype linked)

/-! ## The strides of reads, assignments and tests -/

variable {α : Type} {stride : ObjectId → Stride α} {key : PropertyKey} {ancestor : ObjectId}

theorem lookupStride_moves (moved : Moves (heap.lookupStride key) id next) :
    heap.Links id next := by
  unfold Moves lookupStride at moved
  dsimp only at moved
  split at moved
  · cases moved
  · split at moved
    · cases moved
    · cases moved
    · exact moves_follow_iff.mp moved

/-- A read that finds a proxy has come to one. -/
theorem proxied_of_lookup {proxy : ObjectId} (found : heap.lookup id key = some (.proxy proxy)) :
    (heap.object proxy).proxy? ≠ none := by
  obtain ⟨last, _, finished⟩ := walkFor_finishes found
  unfold lookupStride at finished
  dsimp only at finished
  split at finished
  · next proxied =>
    cases finished
    rw [proxied]
    exact Option.some_ne_none _
  · split at finished
    · cases finished
    · cases finished
    · exact absurd finished (by unfold Stride.follow; split <;> nofun)

theorem assignmentStride_moves (moved : Moves (heap.assignmentStride key) id next) :
    (heap.object id).target? = some next ∨ heap.Links id next := by
  unfold Moves assignmentStride at moved
  dsimp only at moved
  split at moved
  · next target proxied =>
    cases moved
    exact .inl proxied
  · split at moved
    · cases moved
    · cases moved
    · cases moved
    · exact .inr (moves_follow_iff.mp moved)

theorem hasStride_moves (moved : Moves (heap.hasStride key) id next) :
    (heap.object id).target? = some next ∨ heap.Links id next := by
  unfold Moves hasStride at moved
  dsimp only at moved
  split at moved
  · next target proxied =>
    cases moved
    exact .inl proxied
  · split at moved
    · cases moved
    · exact .inr (moves_follow_iff.mp moved)

theorem storedStride_moves (moved : Moves (heap.storedStride key) id next) :
    heap.Links id next := by
  unfold Moves storedStride at moved
  dsimp only at moved
  split at moved
  · cases moved
  · cases moved
  · exact moves_follow_iff.mp moved

theorem linkStride_moves (moved : Moves (heap.linkStride ancestor) id next) :
    heap.Links id next ∧ id ≠ ancestor := by
  unfold Moves linkStride at moved
  dsimp only at moved
  split at moved
  · cases moved
  · next differs =>
    split at moved
    · cases moved
    · exact ⟨moves_follow_iff.mp moved, differs⟩

theorem ancestorStride_moves (moved : Moves (heap.ancestorStride ancestor) id next) :
    heap.prototypeOf id = some next := by
  unfold Moves ancestorStride at moved
  split at moved
  · cases moved
  · exact moves_follow_iff.mp moved

theorem ancestorStride_finishes (finished : heap.ancestorStride ancestor id = .finish true) :
    id = ancestor := by
  unfold ancestorStride at finished
  split at finished
  · next met => exact met
  · unfold Stride.follow at finished
    split at finished <;> cases finished

/-! ## Walks that end -/

/-- Without cycles, a walk that moves along prototype links ends. -/
theorem walk_ends (acyclic : heap.Acyclic)
    (along : ∀ current next, heap.Above start current → Moves stride current next →
      heap.Links current next)
    (inside : heap.Inside stride) :
    ∃ answer, heap.walk stride start = some answer := by
  cases walked : heap.walk stride start with
  | some answer => exact ⟨answer, rfl⟩
  | none =>
      obtain ⟨met, reaches, cycle⟩ := (walk_eq_none_iff inside).mp walked
      have met_above : heap.Above start met := by
        clear cycle
        induction reaches with
        | refl => exact .refl
        | tail _ moved ih => exact ih.tail (along _ _ ih moved)
      have loop {last : ObjectId} (moved : TransGen (Moves stride) met last) :
          TransGen heap.Links met last := by
        induction moved with
        | single moved => exact .single (along _ _ met_above moved)
        | tail _ moved ih =>
            exact .tail ih (along _ _ (met_above.trans ih.to_reflTransGen) moved)
      exact absurd (loop cycle) (acyclic met)

/-- A read ends: at a proxy at the latest. -/
theorem lookup_ends (acyclic : heap.Acyclic) (id : ObjectId) (key : PropertyKey) :
    ∃ found, heap.lookup id key = some found :=
  walk_ends acyclic (fun _ _ _ moved => lookupStride_moves moved)
    fun _ _ moved => index_lt_of_prototype (lookupStride_moves moved)

theorem not_target_of_proxyFree (free : heap.ProxyFree start) (reached : heap.Above start id) :
    (heap.object id).target? ≠ some next := by
  rw [target?_of_ordinary (free id reached)]
  exact nofun

theorem assignment_ends (acyclic : heap.Acyclic) (free : heap.ProxyFree id) (key : PropertyKey) :
    ∃ found, heap.assignment id key = some found :=
  walk_ends acyclic
    (fun _ _ reached moved =>
      (assignmentStride_moves moved).resolve_left (not_target_of_proxyFree free reached))
    fun _ _ moved =>
      (assignmentStride_moves moved).elim index_lt_of_target index_lt_of_prototype

theorem has_ends (acyclic : heap.Acyclic) (free : heap.ProxyFree id) (key : PropertyKey) :
    ∃ found, heap.has id key = some found :=
  walk_ends acyclic
    (fun _ _ reached moved =>
      (hasStride_moves moved).resolve_left (not_target_of_proxyFree free reached))
    fun _ _ moved => (hasStride_moves moved).elim index_lt_of_target index_lt_of_prototype

theorem inherits_ends (acyclic : heap.Acyclic) (free : heap.ProxyFree id) (ancestor : ObjectId) :
    ∃ found, heap.inherits id ancestor = some found := by
  rw [inherits]
  cases linked : heap.prototypeOf id with
  | none => exact ⟨false, rfl⟩
  | some first =>
      have first_above : heap.Above id first := by
        rw [prototypeOf_of_ordinary free.ordinary] at linked
        exact .single linked
      refine walk_ends acyclic (fun current next reached moved => ?_)
        fun _ _ moved => index_lt_of_prototypeOf (ancestorStride_moves moved)
      have reported := ancestorStride_moves moved
      rwa [prototypeOf_of_ordinary (free current (first_above.trans reached))] at reported

theorem chainFor_isSome (bound : Nat) (id : ObjectId) :
    (heap.chainFor bound id).isSome =
      (walkFor (fun id => .follow (heap.prototypeOf id) ()) bound id).isSome := by
  induction bound generalizing id with
  | zero => rfl
  | succ bound ih =>
      rw [chainFor, walkFor]
      cases heap.prototypeOf id with
      | none => rfl
      | some above =>
          rw [Option.isSome_map, ih above]
          rfl

theorem forInKeys_ends (acyclic : heap.Acyclic) (free : heap.ProxyFree id) :
    ∃ keys, heap.forInKeys id = some keys := by
  obtain ⟨_, ended⟩ : ∃ answer, heap.walk (fun id => .follow (heap.prototypeOf id) ()) id =
      some answer := by
    refine walk_ends acyclic (fun current next reached moved => ?_)
      fun _ _ moved => index_lt_of_prototypeOf (moves_follow_iff.mp moved)
    have reported := moves_follow_iff.mp moved
    rwa [prototypeOf_of_ordinary (free current reached)] at reported
  have found : (heap.chain id).isSome := by
    rw [chain, chainFor_isSome, ← walk, ended]
    rfl
  obtain ⟨chain, listed⟩ := Option.isSome_iff_exists.mp found
  exact ⟨_, by rw [forInKeys, listed, Option.map_some]⟩

/-! ## The test for cycles -/

/-- A proxy has no stored prototype link. -/
def ProxiesBare (heap : Heap) : Prop :=
  ∀ id, (heap.object id).proxy? ≠ none → (heap.object id).prototype = none

theorem above_iff_of_ne (differs : start ≠ id) :
    heap.Above start id ↔ ∃ next, heap.Links start next ∧ heap.Above next id := by
  constructor
  · intro reached
    rcases ReflTransGen.cases_head reached with same | moved
    · exact absurd same differs
    · exact moved
  · rintro ⟨next, linked, reached⟩
    exact .head linked reached

theorem not_above_of_unlinked (differs : start ≠ id) (unlinked : (heap.object start).prototype = none) :
    ¬ heap.Above start id := by
  rw [above_iff_of_ne differs]
  rintro ⟨next, linked, _⟩
  rw [Links, unlinked] at linked
  cases linked

theorem linkStride_answer (bare : heap.ProxiesBare) {bound : Nat} {answer : Bool}
    (ended : walkFor (heap.linkStride id) bound start = some answer) :
    answer = true ↔ heap.Above start id := by
  induction bound generalizing start with
  | zero => cases ended
  | succ bound ih =>
      by_cases same : start = id
      · subst same
        rw [walkFor_of_finish (by rw [linkStride, if_pos rfl])] at ended
        cases ended
        exact iff_of_true rfl .refl
      · have stride_eq : heap.linkStride id start =
            .follow (heap.object start).prototype false := by
          rw [linkStride, if_neg same]
          cases proxied : (heap.object start).proxy? with
          | none => simp [target?_of_ordinary proxied]
          | some pair =>
              have unlinked := bare start (by rw [proxied]; exact nofun)
              simp [unlinked, Stride.follow]
        cases linked : (heap.object start).prototype with
        | none =>
            rw [linked] at stride_eq
            rw [walkFor_of_finish stride_eq] at ended
            cases ended
            exact iff_of_false (by decide) (not_above_of_unlinked same linked)
        | some next =>
            rw [linked] at stride_eq
            rw [walkFor_of_moves stride_eq] at ended
            rw [ih ended, above_iff_of_ne same]
            constructor
            · intro reached
              exact ⟨next, linked, reached⟩
            · rintro ⟨other, otherwise, reached⟩
              rw [Links, linked] at otherwise
              exact Option.some.inj otherwise ▸ reached

/-- The test for cycles finds the objects on the stored chain. -/
theorem linksTo_iff (acyclic : heap.Acyclic) (bare : heap.ProxiesBare) :
    heap.linksTo start id = true ↔ heap.Above start id := by
  obtain ⟨answer, ended⟩ := walk_ends acyclic
    (fun _ _ _ moved => (linkStride_moves moved).1)
    fun _ _ moved => index_lt_of_prototype (linkStride_moves moved).1
  rw [linksTo, ended, Option.getD_some]
  exact linkStride_answer bare ended

/-- A link is admitted when it is in place, or when the object takes new links and does not stand on
the chain that the link would give it. -/
theorem admitsLink_iff (acyclic : heap.Acyclic) (bare : heap.ProxiesBare) :
    heap.admitsLink id link = true ↔
      (heap.object id).prototype = link ∨
        (heap.object id).extensible = true ∧
          ∀ prototype, link = some prototype → ¬ heap.Above prototype id := by
  rw [admitsLink]
  cases link with
  | none => simp
  | some prototype => simp [← linksTo_iff acyclic bare]

end ClassLowering.Heap
