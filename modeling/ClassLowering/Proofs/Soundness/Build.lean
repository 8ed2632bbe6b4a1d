import ClassLowering.Proofs.Soundness.Change

/-!
# Building on sound heaps

What runs build consists of new objects that name only objects that are there.
-/

namespace ClassLowering

open Bounded

variable {law : Law} {size : Nat} {heap : Heap}

instance : Bounded Table where
  Within law size table := ∀ key, Within law size (table.get? key)
  mono within le key := (within key).mono le

namespace Table

theorem within_empty : Within law size Table.empty := by
  intro key
  rw [get?_empty]
  trivial

theorem within_insert {table : Table} (before : Within law size table) {key : PropertyKey}
    {property : Property} (within : Within law size property) :
    Within law size (table.insert key property) := by
  intro other
  rw [get?_insert]
  split
  · exact within
  · exact before other

theorem within_insertElements {table : Table} (before : Within law size table)
    {values : List Value} (within : Within law size values) (place : Nat) :
    Within law size (table.insertElements place values) := by
  induction values generalizing table place with
  | nil => exact before
  | cons value rest ih =>
      obtain ⟨first, others⟩ := within_cons.mp within
      exact ih (within_insert before first) others _

end Table

namespace Build

variable {α : Type} [Bounded α]

/-- A build goes on with adding objects to a base, and its result is there. -/
structure Grows (law : Law) (base heap : Heap) (build : Build α) : Prop where
  grown : base.GrowsTo law (build heap).2
  within : Within law (build heap).2.size (build heap).1

variable {base : Heap}

theorem pure_grows (grown : base.GrowsTo law heap) {result : α}
    (within : Within law heap.size result) : Grows law base heap (pure result) := ⟨grown, within⟩

theorem allocate_bind_grows (grown : base.GrowsTo law heap) {object : Object}
    (within : Within law heap.size object) (bare : object.proxy? ≠ none → object.prototype = none)
    {rest : ObjectId → Build α}
    (after : ∀ larger, base.GrowsTo law larger → larger.size = heap.size + 1 →
      (∀ id, (larger.object id).kind =
        if id = heap.next then object.kind else (heap.object id).kind) →
      Grows law base larger (rest heap.next)) : Grows law base heap (allocate object >>= rest) := by
  obtain ⟨later, found⟩ := after _ (grown.allocate within bare) (Heap.size_allocate heap object)
    fun id => by rw [Heap.object_allocate, apply_ite Object.kind]
  exact ⟨later, found⟩

theorem setProperty_bind_grows (grown : base.GrowsTo law heap) {id : ObjectId} {key : PropertyKey}
    {property : Property} (new : base.size ≤ id.index) (present : id.index < heap.size)
    (within : Within law heap.size property)
    (plain : law.writes = false → (heap.object id).kind.makesErrors = false) {rest : Unit → Build α}
    (after : ∀ larger, base.GrowsTo law larger → larger.size = heap.size →
      (∀ id, (larger.object id).kind = (heap.object id).kind) → Grows law base larger (rest ())) :
    Grows law base heap (setProperty id key property >>= rest) := by
  obtain ⟨later, found⟩ := after _
    (grown.setProperty new present within fun asked makes =>
      absurd ((plain asked).symm.trans makes) Bool.false_ne_true)
    (Heap.size_modify ..) fun other => Heap.kind_modify heap id other fun _ => rfl
  exact ⟨later, found⟩

theorem allocate_grows {object : Object}
    (within : Within law heap.size object) (bare : object.proxy? ≠ none → object.prototype = none) :
    Grows law heap heap (allocate object) :=
  ⟨(Heap.GrowsTo.refl law heap).allocate within bare, Heap.next_index_lt heap object⟩

theorem within_object {properties : Table} {prototype : Option ObjectId} {kind : ObjectKind}
    (table : Within law size properties) (link : Within law size prototype)
    (held : Within law size kind)
    (plain : law.writes = false → kind.makesErrors = false) :
    Within law size ({ properties, prototype, kind } : Object) :=
  ⟨table, link, held, fun _ => rfl, fun asked makes =>
    absurd ((plain asked).symm.trans makes) Bool.false_ne_true⟩

theorem object_grows {prototype : Option ObjectId}
    (within : Within law heap.size prototype) : Grows law heap heap (object prototype) :=
  allocate_grows (within_object Table.within_empty within trivial fun _ => rfl)
    fun proxied => absurd rfl proxied

theorem plainObject_grows (sound : heap.Sound law) : Grows law heap heap plainObject :=
  object_grows (sound.intrinsic .objectPrototype)

theorem boxedBoolean_grows {prototype : ObjectId} (truth : Bool)
    (within : Within law heap.size prototype) : Grows law heap heap (boxedBoolean truth prototype) :=
  allocate_grows (within_object Table.within_empty within trivial fun _ => rfl)
    fun proxied => absurd rfl proxied

theorem error_grows (sound : heap.Sound law) (errorClass : ErrorClass) (message : String) :
    Grows law heap heap (error errorClass message) := by
  refine allocate_grows (within_object (Table.within_insert Table.within_empty ?_) ?_ trivial fun _ => rfl)
    fun proxied => absurd rfl proxied
  · trivial
  · exact sound.intrinsic (.errorPrototype errorClass)

theorem list_grows (sound : heap.Sound law) {values : List Value}
    (within : Within law heap.size values) : Grows law heap heap (list values) := by
  refine allocate_grows (within_object (Table.within_insert ?_ ?_) ?_ trivial fun _ => rfl)
    fun proxied => absurd rfl proxied
  · exact Table.within_insertElements Table.within_empty within 0
  · trivial
  · exact sound.intrinsic .arrayPrototype

theorem within_fields {fields : List (String × Value)}
    (within : ∀ field ∈ fields, Within law size field.2) {table : Table}
    (before : Within law size table) :
    Within law size
      (fields.foldl (fun table field => table.insert field.1 { slot := .data field.2 }) table) := by
  induction fields generalizing table with
  | nil => exact before
  | cons field rest ih =>
      refine ih (fun other member => within other (.tail _ member)) (Table.within_insert before ?_)
      exact within field (.head _)

theorem descriptorRecord_grows (sound : heap.Sound law) {descriptor : Descriptor}
    (within : Within law heap.size descriptor) : Grows law heap heap (descriptorRecord descriptor) := by
  refine allocate_grows (within_object (within_fields ?_ Table.within_empty) ?_ trivial fun _ => rfl)
    fun proxied => absurd rfl proxied
  · have flags (name : String) (flag : Bool) :
        Within law heap.size ((name, Value.boolean flag) : String × Value).2 := trivial
    split
    · simp only [List.cons_append, List.nil_append, List.forall_mem_cons]
      exact ⟨within_getD within.2.1 trivial, within_getD within.2.2 trivial, trivial, trivial, nofun⟩
    · simp only [List.cons_append, List.nil_append, List.forall_mem_cons]
      exact ⟨within_getD within.1 trivial, trivial, trivial, trivial, nofun⟩
  · exact sound.intrinsic .objectPrototype

/-- Functions are added, except that constructors of errors take a host that gives them their
prototype object. -/
theorem function_grows (sound : heap.Sound law) {callable : Callable}
    (within : Within law heap.size callable) (length : Nat)
    (plain : law.writes = false → (ObjectKind.function callable).makesErrors = false) :
    Grows law heap heap (function callable length) := by
  have index_eq : heap.next.index = heap.size := rfl
  refine allocate_bind_grows (.refl law heap)
    (within_object Table.within_empty (sound.intrinsic .functionPrototype) within plain)
    (fun proxied => absurd rfl proxied) fun made grown size_eq kinds => ?_
  have own : (made.object heap.next).kind = .function callable := (kinds _).trans (if_pos rfl)
  refine setProperty_bind_grows grown (by omega) (by omega) (by trivial) (by rwa [own])
    fun measured grown same kinds => ?_
  replace own := (kinds _).trans own
  refine setProperty_bind_grows grown (by omega) (by omega) (by trivial) (by rwa [own])
    fun named grown equal kinds => ?_
  replace own := (kinds _).trans own
  have present : heap.next.index < named.size := by omega
  unfold whenever
  split
  · simp only [instances, plainObject, object, bind_assoc]
    refine allocate_bind_grows grown
      (within_object Table.within_empty ((grown.sound sound).intrinsic .objectPrototype) (by trivial)
        fun _ => rfl)
      (fun proxied => absurd rfl proxied) fun paired grown paired_size kinds => ?_
    have prototype_eq : named.next.index = named.size := rfl
    have paired_kind : (paired.object named.next).kind = .ordinary := (kinds _).trans (if_pos rfl)
    have differs : heap.next ≠ named.next := fun equal => by
      rw [equal] at present
      exact Nat.lt_irrefl _ present
    replace own := ((kinds _).trans (if_neg differs)).trans own
    refine setProperty_bind_grows grown (by omega) (by omega)
      (present.trans_le (by omega)) (fun _ => by rw [paired_kind]; rfl)
      fun backed grown backed_size kinds => ?_
    replace own := (kinds _).trans own
    refine setProperty_bind_grows grown (by omega) (by omega) ?_ (by rwa [own])
      fun linked grown linked_size _ => ?_
    · change named.next.index < backed.size
      omega
    · refine pure_grows grown ?_
      change heap.next.index < linked.size
      omega
  · exact pure_grows grown present

theorem method_grows (sound : heap.Sound law) (name : String) (length : Nat) (builtin : Builtin)
    {captured : List Value} (within : Within law heap.size captured)
    (plain : law.writes = false → builtin ≠ .errorConstructor) :
    Grows law heap heap (method name length builtin captured) := by
  refine function_grows sound ?_ length fun asked => ?_
  · exact ⟨trivial, within⟩
  · unfold ObjectKind.makesErrors
    split
    · next held =>
      cases held
      exact absurd rfl (plain asked)
    · rfl

end Build

theorem Failure.value_grows (sound : heap.Sound law) {failure : Failure}
    (within : Within law heap.size failure) : Build.Grows law heap heap failure.value := by
  cases failure with
  | fault cause =>
      obtain ⟨grown, within⟩ := Build.error_grows sound cause.errorClass cause.message
      exact ⟨grown, within⟩
  | thrown value => exact Build.pure_grows (.refl law heap) within

end ClassLowering
