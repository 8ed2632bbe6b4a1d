import ClassLowering.Class.Inheritance
import ClassLowering.Proofs.Run.Constructing
import ClassLowering.Proofs.Run.Linking

/-!
# Linking a class to its base

A class that is linked gets a prototype object below that of its base and a link to the base, whatever
its host offers for prototype links.
-/

namespace ClassLowering

/-- The prototype object of a class that is linked below another one, or below nothing. -/
def Object.linkedPrototype (derived : ObjectId) (above : Option ObjectId) : Object :=
  (Object.inheriting above).setProperty "constructor" (.hidden (.object derived))

namespace Heap

variable {heap : Heap} {id derived holder base above prototype : ObjectId} {callable : Callable}
  {link : Option ObjectId}

/-- The heap with a new prototype object for a class, in the place of the one that an object holds. -/
def reprototyped (heap : Heap) (derived holder : ObjectId) (above : Option ObjectId) : Heap :=
  (heap.allocate (.linkedPrototype derived above)).2.setValue holder "prototype" (.object heap.next)

/-- The heap with a new prototype object for a function, below another one. -/
def withPrototype (heap : Heap) (id above : ObjectId) : Heap := heap.reprototyped id id (some above)

@[simp] theorem size_reprototyped : (heap.reprototyped derived holder link).size = heap.size + 1 := by
  rw [reprototyped, Heap.setValue, size_modify, size_allocate]

theorem extendsBut_reprototyped : heap.ExtendsBut holder (heap.reprototyped derived holder link) :=
  ((Extends.allocate heap _).but holder).trans (.modify _ holder _)

theorem extendsBut_withPrototype : heap.ExtendsBut id (heap.withPrototype id above) :=
  extendsBut_reprototyped

section Present

variable (present : holder.index < heap.size)
include present

theorem ne_next_of_lt : holder ≠ heap.next := by
  rintro rfl
  exact Nat.lt_irrefl _ present

theorem object_reprototyped_self :
    (heap.reprototyped derived holder link).object holder =
      (heap.object holder).setValue "prototype" (.object heap.next) := by
  have there : holder.index < (heap.allocate (.linkedPrototype derived link)).2.size := by
    rw [size_allocate]
    exact Nat.lt_succ_of_lt present
  rw [reprototyped, Heap.setValue, object_modify_self _ _ _ there, object_allocate,
    if_neg (ne_next_of_lt present)]

theorem object_reprototyped_next :
    (heap.reprototyped derived holder link).object heap.next = .linkedPrototype derived link := by
  rw [reprototyped, Heap.setValue, object_modify_ne _ _ (ne_next_of_lt present).symm,
    object_allocate_next]

theorem object_withPrototype_self :
    (heap.withPrototype holder above).object holder =
      (heap.object holder).setValue "prototype" (.object heap.next) :=
  object_reprototyped_self present

theorem object_withPrototype_next :
    (heap.withPrototype holder above).object heap.next = .linkedPrototype holder (some above) :=
  object_reprototyped_next present

end Present

/-- A class with its own prototype object, both linked to those of a base. -/
structure LinkedClass (heap : Heap) (callable : Callable) (id prototype base above : ObjectId) :
    Prop where
  kind : (heap.object id).kind = .function callable
  extensible : (heap.object id).extensible = true
  instances : heap.Holds id "prototype" (.object prototype)
  passes : heap.Passes "__proto__" id base
  prototype : heap.object prototype = .linkedPrototype id (some above)

theorem LinkedClass.back (linked : heap.LinkedClass callable id prototype base above) :
    heap.Holds prototype "constructor" (.object id) := by
  refine ⟨.hidden (.object id), ?_, rfl, rfl⟩
  rw [linked.prototype]
  exact (Object.property?_setProperty ..).trans (if_pos rfl)

/-- The prototype object has nothing but the link back to its class. -/
theorem LinkedClass.missing (linked : heap.LinkedClass callable id prototype base above)
    {key : PropertyKey} (other : key ≠ "constructor") :
    (heap.object prototype).property? key = none := by
  rw [linked.prototype]
  refine (Object.property?_setProperty ..).trans ?_
  rw [if_neg other]
  exact Table.get?_empty key

theorem LinkedClass.prototype_passes (linked : heap.LinkedClass callable id prototype base above)
    {key : PropertyKey} (other : key ≠ "constructor") : heap.Passes key prototype above := by
  refine ⟨?_, linked.missing other, ?_⟩
  · rw [linked.prototype]
    rfl
  · rw [Links, linked.prototype]
    rfl

theorem LinkedClass.extends {larger : Heap}
    (linked : heap.LinkedClass callable id prototype base above) (grown : heap.Extends larger) :
    larger.LinkedClass callable id prototype base above := by
  have id_eq := grown.object_eq id linked.instances.index_lt
  have prototype_eq := grown.object_eq prototype linked.back.index_lt
  exact ⟨id_eq ▸ linked.kind, id_eq ▸ linked.extensible, linked.instances.congr id_eq,
    linked.passes.congr id_eq, prototype_eq ▸ linked.prototype⟩

/-- A function that was just made is linked to `Function.prototype`. -/
theorem MadeFunction.linked (made : heap.MadeFunction callable id prototype) :
    heap.LinkedClass callable id prototype Intrinsic.functionPrototype.id
      Intrinsic.objectPrototype.id where
  kind := made.kind
  extensible := made.extensible
  instances := made.instances
  passes := ⟨proxy?_of_function made.kind, made.missing "__proto__" (by decide), made.link⟩
  prototype := made.prototype

theorem LinkedClass.withPrototype {higher : ObjectId}
    (linked : heap.LinkedClass callable id prototype base higher) :
    (heap.withPrototype id above).LinkedClass callable id heap.next base above := by
  have present := linked.instances.index_lt
  have object_eq : (heap.withPrototype id above).object id =
      (heap.setValue id "prototype" (.object heap.next)).object id :=
    (object_withPrototype_self present).trans
      (object_modify_self heap id (·.setValue "prototype" (.object heap.next)) present).symm
  have value_eq : (heap.withPrototype id above).object id =
      (heap.object id).setValue "prototype" (.object heap.next) := object_withPrototype_self present
  have kind : ((heap.withPrototype id above).object id).kind = .function callable := by
    rw [value_eq]
    exact linked.kind
  refine ⟨kind, ?_, ?_, ⟨proxy?_of_function kind, ?_, ?_⟩, object_withPrototype_next present⟩
  · rw [value_eq]
    exact linked.extensible
  · exact (linked.instances.setValue (.object heap.next)).congr object_eq
  · rw [value_eq]
    refine (Object.property?_setProperty ..).trans ?_
    rw [if_neg (by decide)]
    exact linked.passes.missing
  · rw [Links, value_eq]
    exact linked.passes.links

theorem LinkedClass.setLink {other : ObjectId}
    (linked : heap.LinkedClass callable id prototype base above) (differs : prototype ≠ id) :
    (heap.setLink id (some other)).LinkedClass callable id prototype other above := by
  have object_eq : (heap.setLink id (some other)).object id =
      { heap.object id with prototype := some other } :=
    object_modify_self heap id _ linked.instances.index_lt
  have kind : ((heap.setLink id (some other)).object id).kind = .function callable := by
    rw [object_eq]
    exact linked.kind
  refine ⟨kind, ?_, ?_, ⟨proxy?_of_function kind, ?_, ?_⟩, ?_⟩
  · rw [object_eq]
    exact linked.extensible
  · rw [Holds, object_eq]
    exact linked.instances
  · rw [object_eq]
    exact linked.passes.missing
  · rw [Links, object_eq]
  · exact (object_modify_ne heap _ differs).trans linked.prototype

end Heap

/-- The state after a class was linked to its base. -/
def State.linked (state : State) (profile : Profile) (id base above : ObjectId) : State :=
  { state.knowing { state.caches with writer := some profile.prototypeStrategy } with
    heap := (state.heap.withPrototype id above).setLink id (some base) }

theorem Heap.MadeFunction.linkedClass {state : State} {callable : Callable} {id prototype : ObjectId}
    (made : state.heap.MadeFunction callable id prototype) (profile : Profile) (base above : ObjectId) :
    (state.linked profile id base above).heap.LinkedClass callable id state.heap.next base above :=
  made.linked.withPrototype.setLink (Heap.ne_next_of_lt made.instances.index_lt).symm

/-- A value to which classes can be linked: `null`, or a function of which the `prototype` is read as an
object or as `null`, without effect. What is read becomes the link of their prototype objects. -/
inductive State.FitsAsBase (engine : Engine) (state : State) : Value → Option ObjectId → Prop
  | null : FitsAsBase engine state .null none
  | function {base : ObjectId} {callable : Callable} {above : Option ObjectId}
      (kind : (state.heap.object base).kind = .function callable)
      (reads : Run.get base "prototype" engine state = .done (.ofObject? above) state) :
      FitsAsBase engine state (.object base) above

namespace Run

variable {engine : Engine} {state : State} {id base above : ObjectId} {callable other : Callable}
  {value : Value} {link : Option ObjectId}

theorem checkBase_apply (fits : state.heap.isCallable value = true ∨ value = .null) :
    checkBase value engine state = .done () state := by
  rw [checkBase, ask_bind]
  exact congrFun (congrFun (if_pos (by simpa using fits)) engine) state

/-- A base that is neither a function nor `null` is refused before anything else is looked at. -/
theorem linkClass_invalidBase (derived : Value) (uncallable : state.heap.isCallable value = false)
    (present : value ≠ .null) :
    linkClass derived value engine state = .failed (.fault .invalidBase) state := by
  refine bind_of_failed ?_
  rw [checkBase, ask_bind, uncallable]
  simp [present, raise, fail]

/-- What is left once a class has its prototype object: its own link. -/
def linkToBase (id : ObjectId) (base : Value) : Run Unit := do
  match base with
  | .object _ =>
      let _ ← setPrototypeOf (.object id) base
      return ()
  | _ => return ()

/-- A class that is linked to a base takes a new prototype object, and is then itself linked. -/
theorem linkClass_eq (fits : state.FitsAsBase engine value link) (id : ObjectId) :
    linkClass (.object id) value engine state =
      (set id "prototype" (.object state.heap.next) >>= fun taken =>
        if taken then linkToBase id value else raise .readOnlyPrototype) engine
        (state.making (.linkedPrototype id link)) := by
  have checked : checkBase value engine state = .done () state := by
    refine checkBase_apply ?_
    cases fits with
    | null => exact .inr rfl
    | function kind _ =>
        rw [Heap.isCallable, Heap.function?_of_kind kind]
        exact .inl rfl
  have read : baseInstancePrototype value engine state = .done link state := by
    cases fits with
    | null => rfl
    | function _ reads =>
        refine (bind_of_done reads).trans ?_
        cases link <;> rfl
  have built : build (.object link) engine state =
      .done state.heap.next (state.making (.inheriting link)) := rfl
  have defined : define state.heap.next "constructor" (backLink (.object id)) engine
      (state.making (.inheriting link)) = .done () (state.making (.linkedPrototype id link)) := by
    have allowed : ((state.making (.inheriting link)).heap.object state.heap.next).defined "constructor"
        (backLink (.object id)) = .ok (.hidden (.object id)) := by
      rw [State.making_heap, Heap.object_allocate_next]
      rfl
    refine (define_apply allowed).trans ?_
    rw [State.making_heap, Heap.setProperty_allocate]
    rfl
  unfold linkClass
  refine (bind_of_done checked).trans ?_
  refine (bind_of_done read).trans ?_
  rw [bind_of_done built, bind_of_done defined]
  cases fits <;> rfl

/-- A function that holds its prototype object as an own value takes a new one. -/
theorem linkClass_held (fits : state.FitsAsBase engine value link)
    (kind : (state.heap.object id).kind = .function callable)
    (extensible : (state.heap.object id).extensible = true) {held : Value}
    (holds : state.heap.Holds id "prototype" held) :
    linkClass (.object id) value engine state =
      linkToBase id value engine { state with heap := state.heap.reprototyped id id link } := by
  let made := state.making (.linkedPrototype id link)
  have same : made.heap.object id = state.heap.object id := by
    rw [State.making_heap, Heap.object_allocate, if_neg (Heap.ne_next_of_lt holds.index_lt)]
  have ordinary : (made.heap.object id).proxy? = none := same ▸ Heap.proxy?_of_function kind
  have written := @set_write engine made id "prototype" ordinary
    ((holds.congr same).assignment_eq ordinary) (same ▸ extensible) (.object state.heap.next)
  rw [linkClass_eq fits, bind_of_done written]
  rfl

variable {profile : Profile} {older : Heap} {prototype : ObjectId}

theorem evolves_linked (profile : Profile) (state : State) (id base above : ObjectId) :
    state.Evolves profile id [] (state.linked profile id base above) := by
  have changed : state.Evolves profile id []
      { state with heap := state.heap.withPrototype id above } := .of_heap Heap.extendsBut_withPrototype
  refine changed.trans (.trans (.knowing fun agree => agree.with_writer) (.of_heap ?_))
  exact .modify _ id _

/-- A class that was just made is linked to one that it is not met above. -/
theorem linkClass_admitted (untouched : state.Untouched profile) (links : profile.Links)
    (outside : (Realm.heap profile).size ≤ id.index)
    (made : state.heap.MadeFunction callable id prototype)
    (kind : (state.heap.object base).kind = .function other)
    (instances : state.heap.plainRead? base "prototype" = some (.object above))
    (apart : (state.heap.withPrototype id above).linksTo base id = false) (depth : Nat) :
    linkClass (.object id) (.object base) (Engine.ofDepth (depth + 1)) state =
      .done () (state.linked profile id base above) := by
  let named : State := { state with heap := state.heap.withPrototype id above }
  have changed : state.Evolves profile id [] named := .of_heap Heap.extendsBut_withPrototype
  have realmed := untouched.evolves changed outside
  have split : named.heap.LinkedClass callable id state.heap.next Intrinsic.functionPrototype.id
      above := made.linked.withPrototype
  have below : named.heap.Clears "__proto__" id Intrinsic.objectPrototype.id :=
    .head split.passes (.single realmed.heap.offers.functionPrototype_passes)
  have ordinary := Heap.proxy?_of_function split.kind
  have fits : state.FitsAsBase (Engine.ofDepth (depth + 1)) (.object base) (some above) :=
    .function kind (getFor_plain instances)
  have offered := realmed.writer_offered links.writable
  have writes : named.WritesLinks id := realmed.heap.writesLinks offered fun _ found => by
    rw [Heap.resolve_of_ordinary ordinary]
    exact below.assignment_eq found
  have written : setPrototypeOf (.object id) (.object base) (Engine.ofDepth (depth + 1)) named =
      .done (.object id) (state.linked profile id base above) := by
    refine (setPrototypeOf_relinks id (some base) writes depth).trans ?_
    refine (named.knowingWriter.relink_admitted ordinary
      (Heap.admitsLink_of_apart split.extensible apart)).trans ?_
    rw [State.knowingWriter, realmed.writerStrategy_eq]
    rfl
  rw [linkClass_held fits made.kind made.extensible made.instances]
  exact bind_of_done written

/-- A class that was just made is linked to an older one. -/
theorem linkClass_apply (untouched : state.Untouched profile) (links : profile.Links)
    (grown : older.Extends state.heap) (new : older.size ≤ id.index)
    (realm : Realm.Untouched profile older)
    (clears : older.Clears "__proto__" base Intrinsic.objectPrototype.id)
    (made : state.heap.MadeFunction callable id prototype)
    (kind : (state.heap.object base).kind = .function other)
    (instances : state.heap.plainRead? base "prototype" = some (.object above)) (depth : Nat) :
    ∃ after,
      linkClass (.object id) (.object base) (Engine.ofDepth (depth + 1)) state = .done () after ∧
        state.Evolves profile id [] after ∧
        after.heap.LinkedClass callable id state.heap.next base above := by
  have outside : (Realm.heap profile).size ≤ id.index := Nat.le_trans realm.size_le new
  have larger : older.Extends (state.heap.withPrototype id above) :=
    ((grown.but id).trans Heap.extendsBut_withPrototype).of_new new
  have top := Nat.lt_of_lt_of_le ((Realm.heap_sound profile).intrinsic .objectPrototype) realm.size_le
  have apart : (state.heap.withPrototype id above).linksTo base id = false :=
    Heap.linksTo_new larger new clears top realm.objectPrototype_ordinary
      realm.offers.objectPrototype
  exact ⟨_, linkClass_admitted untouched links outside made kind instances apart depth,
    evolves_linked profile state id base above, made.linkedClass profile base above⟩

end Run

end ClassLowering
