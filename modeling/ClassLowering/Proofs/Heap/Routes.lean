import ClassLowering.Proofs.ProxyProperties

/-!
# Routes through proxies

Tests, assignments, enumerations and instance checks do not stop at a proxy: they go on at its target. The
route of an object follows prototype links, and the target links of proxies. It either ends or runs into a
loop, and what each of the walks does on a route with a loop can be said exactly.
-/

namespace ClassLowering.Heap

open Relation

variable {law : Law} {heap : Heap} {id next met other : ObjectId} {key : PropertyKey}

/-! ## Routes -/

/-- Where a route goes on: at the target of a proxy, and at the prototype of any other object. -/
def onward? (heap : Heap) (id : ObjectId) : Option ObjectId :=
  match (heap.object id).target? with
  | some target => some target
  | none => (heap.object id).prototype

/-- A route goes on from one object to the next. -/
def Onward (heap : Heap) (id next : ObjectId) : Prop := heap.onward? id = some next

/-- The route of one object comes to another one. -/
def Route (heap : Heap) (id met : ObjectId) : Prop := ReflTransGen heap.Onward id met

/-- The route of an object runs into a loop. -/
def Looped (heap : Heap) (id : ObjectId) : Prop :=
  ∃ met, heap.Route id met ∧ TransGen heap.Onward met met

/-- The strides of a route. -/
def onwardStride (heap : Heap) (id : ObjectId) : Stride Unit := .follow (heap.onward? id) ()

theorem Onward.unique (onward : heap.Onward id next) (again : heap.Onward id other) : next = other :=
  Option.some.inj (onward.symm.trans again)

theorem onward_of_standsFor (stands : heap.StandsFor id next) : heap.Onward id next := by
  unfold StandsFor at stands
  rw [Onward, onward?, stands]

theorem onward_iff_links (ordinary : (heap.object id).target? = none) :
    heap.Onward id next ↔ heap.Links id next := by
  rw [Onward, onward?, ordinary, Links]

theorem standsFor_or_links (onward : heap.Onward id next) :
    heap.StandsFor id next ∨ (heap.object id).target? = none ∧ heap.Links id next := by
  cases target : (heap.object id).target? with
  | some proxied =>
      have same := (onward_of_standsFor target).unique onward
      exact .inl (same ▸ target)
  | none => exact .inr ⟨rfl, (onward_iff_links target).mp onward⟩

theorem ordinary_of_links (bare : heap.ProxiesBare) (links : heap.Links id next) :
    (heap.object id).proxy? = none := by
  by_contra proxied
  rw [Links, bare id proxied] at links
  cases links

theorem onward_of_links (bare : heap.ProxiesBare) (links : heap.Links id next) :
    heap.Onward id next :=
  (onward_iff_links (target?_of_ordinary (ordinary_of_links bare links))).mpr links

theorem index_lt_of_onward (onward : heap.Onward id next) : id.index < heap.size := by
  rcases standsFor_or_links onward with stands | ⟨_, links⟩
  · exact index_lt_of_target stands
  · exact index_lt_of_prototype links

theorem moves_onwardStride : Moves heap.onwardStride = heap.Onward := by
  funext id next
  exact propext moves_follow_iff

theorem looped_of_cycle (cycle : TransGen heap.Onward id id) : heap.Looped id := ⟨id, .refl, cycle⟩

/-! ## Walks along a route -/

variable {α : Type} {stride : ObjectId → Stride α}

/-- A walk never ends exactly when it moves on from everything that it meets. -/
theorem walk_eq_none_iff_moves (inside : heap.Inside stride) :
    heap.walk stride id = none ↔
      ∀ met, ReflTransGen (Moves stride) id met → ∃ next, Moves stride met next := by
  constructor
  · intro endless met reaches
    cases taken : stride met with
    | next next => exact ⟨next, taken⟩
    | finish answer =>
        have ended := walk_of_reaches inside reaches (walk_of_finish taken)
        rw [endless] at ended
        cases ended
  · intro moves
    cases ended : heap.walk stride id with
    | none => rfl
    | some answer =>
        obtain ⟨last, reaches, finished⟩ := walkFor_finishes ended
        obtain ⟨next, moved⟩ := moves last reaches
        rw [Moves, finished] at moved
        cases moved

/-- A route has a loop exactly when it never ends. -/
theorem looped_iff : heap.Looped id ↔ ∀ met, heap.Route id met → ∃ next, heap.Onward met next := by
  have inside : heap.Inside heap.onwardStride := fun _ _ moved =>
    index_lt_of_onward (moves_follow_iff.mp moved)
  have cycles : heap.walk heap.onwardStride id = none ↔ _ := walk_eq_none_iff inside
  have moves : heap.walk heap.onwardStride id = none ↔ _ := walk_eq_none_iff_moves inside
  rw [moves_onwardStride] at cycles moves
  exact cycles.symm.trans moves

/-- A walk that keeps to the route never ends exactly when it moves on from everything on the route. -/
theorem walk_eq_none_iff_route (keeps : ∀ id next, Moves stride id next → heap.Onward id next) :
    heap.walk stride id = none ↔ ∀ met, heap.Route id met → ∃ next, Moves stride met next := by
  rw [walk_eq_none_iff_moves fun id next moved => index_lt_of_onward (keeps id next moved)]
  constructor
  · intro moves met route
    refine moves met ?_
    induction route with
    | refl => exact .refl
    | tail _ onward reaches =>
        obtain ⟨next, moved⟩ := moves _ reaches
        exact reaches.tail ((keeps _ _ moved).unique onward ▸ moved)
  · exact fun moves met reaches => moves met (ReflTransGen.mono keeps _ _ reaches)

/-- Behind the proxies, nothing on a route has a property under a key. -/
def RouteLacks (heap : Heap) (id : ObjectId) (key : PropertyKey) : Prop :=
  ∀ met, heap.Route id met → (heap.object met).target? = none → (heap.object met).property? key = none

/-- A walk for a key goes on at the next object of a route: from proxies, and from other objects without
the key. -/
def PassesOn (heap : Heap) (key : PropertyKey) (id next : ObjectId) : Prop :=
  heap.Onward id next ∧ ((heap.object id).target? = none → (heap.object id).property? key = none)

/-- A walk for a key never ends exactly on a route that has a loop and lacks the key. -/
theorem walk_eq_none_iff_lacks
    (moves_iff : ∀ met next, Moves stride met next ↔ heap.PassesOn key met next) :
    heap.walk stride id = none ↔ heap.Looped id ∧ heap.RouteLacks id key := by
  rw [walk_eq_none_iff_route fun met next moved => ((moves_iff met next).mp moved).1, looped_iff]
  simp only [moves_iff, PassesOn, exists_and_right, RouteLacks]
  exact ⟨fun both => ⟨fun met route => (both met route).1, fun met route => (both met route).2⟩,
    fun both met route => ⟨both.1 met route, both.2 met route⟩⟩

theorem hasStride_moves_iff : Moves (heap.hasStride key) id next ↔ heap.PassesOn key id next := by
  rw [Moves, hasStride, PassesOn, Onward, onward?]
  cases (heap.object id).target? with
  | some target => simp
  | none =>
      rw [Object.hasOwn_eq_isSome]
      cases (heap.object id).property? key with
      | some property => simp
      | none => simp [moves_follow_iff]

/-- A test for a key never ends exactly on a route that has a loop and lacks the key. -/
theorem has_eq_none_iff : heap.has id key = none ↔ heap.Looped id ∧ heap.RouteLacks id key :=
  walk_eq_none_iff_lacks fun _ _ => hasStride_moves_iff

theorem assignmentStride_moves_iff :
    Moves (heap.assignmentStride key) id next ↔ heap.PassesOn key id next := by
  rw [Moves, assignmentStride, PassesOn, Onward, onward?]
  cases (heap.object id).target? with
  | some target => simp
  | none =>
      cases (heap.object id).property? key with
      | some property =>
          obtain ⟨slot, _, _, _⟩ := property
          cases slot with
          | data value => simp
          | accessor getter setter => cases setter <;> simp
      | none => simp [moves_follow_iff]

/-- So does an assignment. -/
theorem assignment_eq_none_iff :
    heap.assignment id key = none ↔ heap.Looped id ∧ heap.RouteLacks id key :=
  walk_eq_none_iff_lacks fun _ _ => assignmentStride_moves_iff

/-! ## Reported prototypes -/

/-- An object reports another one as its prototype. -/
def Reports (heap : Heap) (id next : ObjectId) : Prop := heap.prototypeOf id = some next

/-- Behind every chain of proxies there is an object that is none. -/
theorem Sound.exists_behind (sound : heap.Sound law) (id : ObjectId) :
    ∃ met, ReflTransGen heap.StandsFor id met ∧ (heap.object met).target? = none := by
  obtain ⟨reaches, ordinary⟩ := sound.resolve_spec id
  exact ⟨_, ReflTransGen.mono (fun _ _ moved => moves_follow_iff.mp moved) _ _ reaches, ordinary⟩

theorem resolve_of_standsFor (stands : ReflTransGen heap.StandsFor id met)
    (ordinary : (heap.object met).target? = none) : heap.resolve id = met := by
  have finished : heap.targetStride met = .finish met := by
    rw [targetStride, ordinary]
    rfl
  have reaches : ReflTransGen (Moves heap.targetStride) id met :=
    ReflTransGen.mono (fun _ _ stands => moves_follow_iff.mpr stands) _ _ stands
  have ended := walk_of_reaches (target_inside heap) reaches (walk_of_finish finished)
  rw [resolve, ended, Option.getD_some]

theorem prototypeOf_of_standsFor (stands : ReflTransGen heap.StandsFor id met)
    (ordinary : (heap.object met).target? = none) :
    heap.prototypeOf id = (heap.object met).prototype := by
  rw [prototypeOf, resolve_of_standsFor stands ordinary]

theorem route_of_standsFor (stands : ReflTransGen heap.StandsFor id met) : heap.Route id met :=
  ReflTransGen.mono (fun _ _ => onward_of_standsFor) _ _ stands

/-- A reported prototype lies further on the route. -/
theorem Sound.onward_of_reports (sound : heap.Sound law) (reports : heap.Reports id next) :
    TransGen heap.Onward id next := by
  obtain ⟨met, stands, ordinary⟩ := sound.exists_behind id
  rw [Reports, prototypeOf_of_standsFor stands ordinary] at reports
  exact TransGen.tail' (route_of_standsFor stands) ((onward_iff_links ordinary).mpr reports)

/-- Everything on a route stands behind something that the route reports. -/
theorem exists_reporter (route : heap.Route id met) :
    ∃ base, ReflTransGen heap.Reports id base ∧ ReflTransGen heap.StandsFor base met := by
  induction route with
  | refl => exact ⟨id, .refl, .refl⟩
  | tail _ onward ih =>
      obtain ⟨base, reports, stands⟩ := ih
      rcases standsFor_or_links onward with further | ⟨ordinary, links⟩
      · exact ⟨base, reports, stands.tail further⟩
      · exact ⟨_, reports.tail ((prototypeOf_of_standsFor stands ordinary).trans links), .refl⟩

/-- A route has a loop exactly when there is no end to the prototypes that are reported. -/
theorem Sound.looped_iff_reports (sound : heap.Sound law) :
    heap.Looped id ↔ ∀ met, ReflTransGen heap.Reports id met → ∃ next, heap.Reports met next := by
  rw [looped_iff]
  constructor
  · intro endless met reports
    have route : heap.Route id met :=
      reflTransGen_closed (fun _ _ reports => (sound.onward_of_reports reports).to_reflTransGen)
        _ _ reports
    obtain ⟨behind, stands, ordinary⟩ := sound.exists_behind met
    obtain ⟨next, onward⟩ := endless behind (route.trans (route_of_standsFor stands))
    exact ⟨next, (prototypeOf_of_standsFor stands ordinary).trans
      ((onward_iff_links ordinary).mp onward)⟩
  · intro endless met route
    obtain ⟨base, reports, stands⟩ := exists_reporter route
    cases target : (heap.object met).target? with
    | some proxied => exact ⟨proxied, onward_of_standsFor target⟩
    | none =>
        obtain ⟨next, reported⟩ := endless base reports
        rw [Reports, prototypeOf_of_standsFor stands target] at reported
        exact ⟨next, (onward_iff_links target).mpr reported⟩

theorem reports_inside (heap : Heap) :
    heap.Inside fun id => Stride.follow (heap.prototypeOf id) () :=
  fun _ _ moved => index_lt_of_prototypeOf (moves_follow_iff.mp moved)

/-- An enumeration never ends exactly on a route with a loop. -/
theorem Sound.forInKeys_eq_none_iff (sound : heap.Sound law) :
    heap.forInKeys id = none ↔ heap.Looped id := by
  have climbs : Moves (fun id => Stride.follow (heap.prototypeOf id) ()) = heap.Reports := by
    funext id next
    exact propext moves_follow_iff
  have endless : heap.walk (fun id => .follow (heap.prototypeOf id) ()) id = none ↔ _ :=
    walk_eq_none_iff_moves (reports_inside heap)
  rw [climbs, ← sound.looped_iff_reports] at endless
  rw [← endless, forInKeys, Option.map_eq_none_iff, chain, walk, ← Option.isNone_iff_eq_none,
    ← Option.isNone_iff_eq_none, ← Option.not_isSome, ← Option.not_isSome, chainFor_isSome]

theorem ancestorStride_moves_iff {ancestor : ObjectId} :
    Moves (heap.ancestorStride ancestor) met next ↔ met ≠ ancestor ∧ heap.Reports met next := by
  rw [Moves, ancestorStride]
  by_cases same : met = ancestor
  · simp [same]
  · simp [same, moves_follow_iff, Reports]

/-- A search for an ancestor never ends exactly where all that is reported differs from it and goes on. -/
theorem walk_ancestorStride_eq_none_iff {start ancestor : ObjectId} :
    heap.walk (heap.ancestorStride ancestor) start = none ↔
      ∀ met, ReflTransGen heap.Reports start met → met ≠ ancestor ∧ ∃ next, heap.Reports met next := by
  rw [walk_eq_none_iff_moves fun _ _ moved => index_lt_of_prototypeOf (ancestorStride_moves moved)]
  simp only [ancestorStride_moves_iff]
  constructor
  · intro moves met reports
    have reaches : ReflTransGen (Moves (heap.ancestorStride ancestor)) start met := by
      induction reports with
      | refl => exact .refl
      | tail _ further reaches =>
          obtain ⟨_, differs, _⟩ := moves _ reaches
          exact reaches.tail (ancestorStride_moves_iff.mpr ⟨differs, further⟩)
    obtain ⟨next, differs, further⟩ := moves met reaches
    exact ⟨differs, next, further⟩
  · intro endless met reaches
    have reports : ReflTransGen heap.Reports start met :=
      ReflTransGen.mono (fun _ _ => ancestorStride_moves) _ _ reaches
    obtain ⟨differs, next, further⟩ := endless met reports
    exact ⟨next, differs, further⟩

/-- An instance check never ends exactly on a route with a loop on which the object that it looks for is
not reported. -/
theorem Sound.inherits_eq_none_iff (sound : heap.Sound law) {ancestor : ObjectId} :
    heap.inherits id ancestor = none ↔
      heap.Looped id ∧ ¬ TransGen heap.Reports id ancestor := by
  rw [sound.looped_iff_reports, inherits]
  cases first : heap.prototypeOf id with
  | none =>
      refine iff_of_false (by simp) fun both => ?_
      obtain ⟨next, reported⟩ := both.1 id .refl
      rw [Reports, first] at reported
      cases reported
  | some above =>
      dsimp only
      rw [walk_ancestorStride_eq_none_iff]
      have reported : heap.Reports id above := first
      constructor
      · intro endless
        refine ⟨fun met reports => ?_, fun found => ?_⟩
        · rcases ReflTransGen.cases_head reports with rfl | ⟨next, one, rest⟩
          · exact ⟨above, reported⟩
          · cases Option.some.inj (reported.symm.trans one)
            exact (endless met rest).2
        · obtain ⟨next, one, rest⟩ := TransGen.head'_iff.mp found
          cases Option.some.inj (reported.symm.trans one)
          exact (endless ancestor rest).1 rfl
      · rintro ⟨endless, absent⟩ met reports
        exact ⟨fun same => absent (same ▸ TransGen.head' reported reports),
          endless met (.head reported reports)⟩

/-! ## Loops and proxies -/

/-- On the way from one object to another there is a proxy. -/
def PassesProxy (heap : Heap) (id met : ObjectId) : Prop :=
  ∃ proxy, heap.Route id proxy ∧ (heap.object proxy).proxy? ≠ none ∧ heap.Route proxy met

theorem proxy?_of_standsFor (stands : heap.StandsFor id next) : (heap.object id).proxy? ≠ none := by
  intro ordinary
  rw [StandsFor, target?_of_ordinary ordinary] at stands
  cases stands

/-- A route goes along stored links, or through a proxy. -/
theorem above_or_passesProxy (route : heap.Route id met) :
    heap.Above id met ∨ heap.PassesProxy id met := by
  induction route using ReflTransGen.head_induction_on with
  | refl => exact .inl .refl
  | head onward rest ih =>
      rcases standsFor_or_links onward with stands | ⟨_, links⟩
      · exact .inr ⟨_, .refl, proxy?_of_standsFor stands, .head onward rest⟩
      · rcases ih with above | ⟨proxy, before, proxied, behind⟩
        · exact .inl (.head links above)
        · exact .inr ⟨proxy, .head onward before, proxied, behind⟩

/-- Where the stored links have no cycle, every loop passes a proxy. -/
theorem Acyclic.passesProxy (acyclic : heap.Acyclic) (cycle : TransGen heap.Onward id id) :
    heap.PassesProxy id id := by
  obtain ⟨next, onward, back⟩ := TransGen.head'_iff.mp cycle
  rcases standsFor_or_links onward with stands | ⟨_, links⟩
  · exact ⟨id, .refl, proxy?_of_standsFor stands, cycle.to_reflTransGen⟩
  · rcases above_or_passesProxy back with above | ⟨proxy, before, proxied, behind⟩
    · exact absurd (TransGen.head' links above) (acyclic id)
    · exact ⟨proxy, .head onward before, proxied, behind⟩

/-! ## A changed link -/

theorem target?_setLink (heap : Heap) (id other : ObjectId) (prototype : Option ObjectId) :
    ((heap.setLink id prototype).object other).target? = (heap.object other).target? := by
  have same : ((heap.setLink id prototype).object other).kind = (heap.object other).kind :=
    kind_modify heap id other fun _ => rfl
  rw [Object.target?, Object.target?, Object.proxy?, Object.proxy?, same]

theorem onward_setLink_of_ne {prototype : Option ObjectId} (differs : other ≠ id) :
    (heap.setLink id prototype).Onward other next ↔ heap.Onward other next := by
  rw [Onward, Onward, onward?, onward?, target?_setLink, setLink, object_modify_ne heap _ differs]

/-- The way to an object does not depend on what lies behind the object. -/
theorem Route.congr {changed : Heap}
    (agree : ∀ current next, current ≠ id → heap.Onward current next → changed.Onward current next)
    (route : heap.Route other id) : changed.Route other id := by
  induction route using ReflTransGen.head_induction_on with
  | refl => exact .refl
  | @head start next onward _ ih =>
      by_cases same : start = id
      · exact same ▸ .refl
      · exact .head (agree start next same onward) ih

/-- So it does not depend on where the link of the object points. -/
theorem route_setLink_iff {prototype : Option ObjectId} :
    (heap.setLink id prototype).Route other id ↔ heap.Route other id :=
  ⟨Route.congr fun _ _ differs => (onward_setLink_of_ne differs).mp,
    Route.congr fun _ _ differs => (onward_setLink_of_ne differs).mpr⟩

/-- A new prototype link closes a loop exactly when the route of the prototype comes to its holder. -/
theorem loops_setLink_iff (present : id.index < heap.size)
    (ordinary : (heap.object id).target? = none) {prototype : Option ObjectId} :
    TransGen (heap.setLink id prototype).Onward id id ↔
      ∃ next, prototype = some next ∧ heap.Route next id := by
  have onward_iff (next : ObjectId) :
      (heap.setLink id prototype).Onward id next ↔ prototype = some next := by
    rw [onward_iff_links ((target?_setLink heap id id prototype).trans ordinary),
      links_setLink present, if_pos rfl]
  rw [TransGen.head'_iff]
  simp only [onward_iff]
  exact exists_congr fun next => and_congr_right fun _ => route_setLink_iff

end ClassLowering.Heap
