import Std.Data.String.ToInt
import ClassLowering.Proofs.Construction.Instance
import ClassLowering.Proofs.LinkWriters
import ClassLowering.Proofs.OrdinarySet
import ClassLowering.Proofs.Run.Constructing

/-!
# Numbers as names of properties

A number names the property of its text. Whole numbers below `Number.wholeLimit` are written as decimal
numerals, but through the signed words of sixty-four bits: from the ends of these on, all of them are written
as the end, and so they all name one property. Within the words the numerals are exact, and no two numbers
share a name.
-/

namespace ClassLowering

/-! ## Integers among the numbers -/

namespace Binary64

variable {negative : Bool} {significand : Nat} {exponent : Int}

/-- A significand has at most fifty-three binary digits. -/
theorem significand_lt {bits : UInt64} (read : ofBits bits = finite negative significand exponent) :
    significand < Number.exactLimit := by
  have fraction : bits.toNat % (1 <<< 52) < 1 <<< 52 := Nat.mod_lt _ (by decide)
  have unit : 1 <<< 52 = 4503599627370496 := rfl
  rw [Number.exactLimit_eq]
  unfold ofBits at read
  dsimp only at read
  split at read
  · split at read <;> cases read
  · split at read
    · cases read
      omega
    · cases read
      omega

/-- An odd integer is no larger than a significand: what is shifted to the left is even. -/
theorem natAbs_lt_of_odd {x : Float} {integer : Int} (equals : (ofFloat x).integer? = some integer)
    (odd : integer % 2 = 1) : integer.natAbs < Number.exactLimit := by
  cases read : ofFloat x with
  | finite negative significand exponent =>
      rw [read] at equals
      obtain ⟨magnitude, rfl, shifted⟩ := shifted_of_integer? equals
      have magnitude_eq : (if negative then -(magnitude : Int) else magnitude).natAbs = magnitude := by
        split <;> omega
      rw [magnitude_eq]
      refine Nat.lt_of_le_of_lt ?_ (significand_lt read)
      split at shifted
      · cases places : exponent.toNat with
        | zero =>
            rw [places] at shifted
            exact Nat.le_of_eq shifted
        | succ fewer =>
            rw [places, Nat.shiftLeft_succ] at shifted
            split at odd <;> omega
      · rw [shifted, Nat.shiftLeft_eq]
        exact Nat.le_mul_of_pos_right _ (Nat.two_pow_pos _)
  | _ =>
      rw [read] at equals
      cases equals

end Binary64

/-! ## Numerals -/

namespace Number

variable {x y : Float} {first second : Int}

theorem minValue_eq : Int64.minValue.toInt = -9223372036854775808 := by decide

theorem maxValue_eq : Int64.maxValue.toInt = 9223372036854775807 := by decide

/-- A number that is an integer and is written as one. -/
structure Whole (x : Float) (integer : Int) : Prop where
  equals : (Binary64.ofFloat x).integer? = some integer
  small : integer.natAbs < wholeLimit

instance {integer : Int} : Decidable (Whole x integer) :=
  decidable_of_iff ((Binary64.ofFloat x).integer? = some integer ∧ integer.natAbs < wholeLimit)
    ⟨fun ⟨equals, small⟩ => ⟨equals, small⟩, fun whole => ⟨whole.equals, whole.small⟩⟩

/-- An integer that sixty-four bits hold, one of which is the sign. -/
def InWord (integer : Int) : Prop :=
  Int64.minValue.toInt ≤ integer ∧ integer ≤ Int64.maxValue.toInt

/-- Two integers that are clamped to the same end of the words. -/
def Merged (first second : Int) : Prop :=
  (Int64.maxValue.toInt < first ∧ Int64.maxValue.toInt < second) ∨
    (first ≤ Int64.minValue.toInt ∧ second ≤ Int64.minValue.toInt)

theorem clamp_eq_self_iff : clamp first = first ↔ InWord first := by
  rw [clamp, InWord, minValue_eq, maxValue_eq]
  omega

/-- The upper end of the words is odd and no number, so that what is clamped to it lies above it. -/
theorem Whole.ne_maxValue (whole : Whole x first) : first ≠ Int64.maxValue.toInt := by
  rintro rfl
  have small := Binary64.natAbs_lt_of_odd whole.equals (by decide)
  exact absurd small (by decide)

theorem Whole.clamp_eq_clamp_iff (one : Whole x first) (other : Whole y second) :
    clamp first = clamp second ↔ first = second ∨ Merged first second := by
  have firstNe := one.ne_maxValue
  have secondNe := other.ne_maxValue
  rw [maxValue_eq] at firstNe secondNe
  rw [clamp, clamp, Merged, minValue_eq, maxValue_eq]
  omega

/-- A whole number is written as the numeral of the nearest word. -/
theorem Whole.text_eq (whole : Whole x first) : text x = toString (clamp first) := by
  obtain ⟨equals, small⟩ := whole
  rw [text]
  cases read : Binary64.ofFloat x with
  | finite negative significand exponent =>
      rw [read] at equals
      simp only [valueText, equals, if_pos small]
  | _ =>
      rw [read] at equals
      cases equals

theorem toString_eq_toString_iff : toString first = toString second ↔ first = second := by
  rw [Int.toString_eq_repr, Int.toString_eq_repr, Int.repr_inj]

end Number

/-! ## Properties that numbers name -/

namespace Heap

variable {heap : Heap} {id top : ObjectId} {key other : PropertyKey}

theorem key_number_eq_iff (heap : Heap) (x y : Float) :
    heap.key (.number x) = heap.key (.number y) ↔ Number.text x = Number.text y :=
  ⟨PropertyKey.string.inj, congrArg PropertyKey.string⟩

/-- After a write, reads of another key find what they found before. -/
theorem lookup_setValue_ne (differs : other ≠ key) (holder : ObjectId) (value : Value) (id : ObjectId) :
    (heap.setValue holder key value).lookup id other = heap.lookup id other := by
  rcases Nat.lt_or_ge holder.index heap.size with present | absent
  · have strides : (heap.setValue holder key value).lookupStride other = heap.lookupStride other := by
      funext id
      rw [lookupStride, lookupStride, object_setValue present]
      by_cases same : id = holder
      · subst same
        have unaffected := (heap.object id).property?_setValue_ne differs value
        simp only [if_true, unaffected]
        rfl
      · simp only [if_neg same]
    rw [lookup, lookup, walk, walk, strides, Heap.setValue, size_modify]
  · have unchanged : heap.setValue holder key value = heap := by
      refine congrArg Heap.mk (Array.ext (by simp) fun place below _ => ?_)
      have elsewhere : holder.index ≠ place := by
        rw [Array.size_modify] at below
        exact Nat.ne_of_gt (Nat.lt_of_lt_of_le below absent)
      rw [Array.getElem_modify, if_neg elsewhere]
    rw [unchanged]

/-- Nothing on the route of a blank object owns a key if the end of the route lacks it. -/
theorem Blank.unowned (blank : heap.Blank id top) (ends : heap.onward? top = none)
    (missing : (heap.object top).property? key = none) : heap.Unowned key id :=
  .further (blank.passes key).passesOn (.last ends missing)

end Heap

/-- What is assigned under one key does not show under another: unless a setter takes the assignment, a read of
the other key finds what it found before, from every object. -/
def State.KeepsApart (state : State) (key other : PropertyKey) : Prop :=
  ∀ (id : ObjectId) (value : Value) (engine : Engine) (answer : Bool) (after : State),
    (∀ setter, state.heap.assignment (state.heap.resolve id) key ≠ some (.setter setter)) →
    Run.set id key value engine state = .done answer after →
      ∀ reader, after.heap.lookup reader other = state.heap.lookup reader other ∧
        ∀ found reading, state.heap.plainRead? reader other = some found →
          Run.get reader other reading after = .done found after

theorem State.keepsApart (state : State) {key other : PropertyKey} (differs : key ≠ other) :
    state.KeepsApart key other := by
  intro id value engine answer after unset ran reader
  have same : after.heap.lookup reader other = state.heap.lookup reader other := by
    rcases Run.set_without_setter unset value engine with endless | refused | written
    · rw [endless] at ran
      cases ran
    · rw [refused] at ran
      cases ran
      rfl
    · rw [written] at ran
      cases ran
      exact Heap.lookup_setValue_ne differs.symm ..
  refine ⟨same, fun found reading read => Run.getFor_plain ?_⟩
  rw [Heap.plainRead?, same]
  exact read

/-- A new object takes an assignment, which a read of the key gives back. -/
theorem Run.set_on_blank {state : State} {id top : ObjectId} {key : PropertyKey}
    (blank : state.heap.Blank id top) (present : id.index < state.heap.size)
    (ends : state.heap.onward? top = none) (missing : (state.heap.object top).property? key = none)
    (value : Value) :
    ∃ heap, ∀ engine, set id key value engine state = .done true { state with heap } ∧
      get id key engine { state with heap } = .done value { state with heap } := by
  have ordinary : (state.heap.object id).proxy? = none := congrArg Object.proxy? blank
  have whole : (state.heap.object id).removed = .empty := congrArg Object.removed blank
  have accepts : (state.heap.object id).accepts key = true := by
    rw [blank]
    rfl
  obtain ⟨heap, _, sets⟩ :=
    set_written ordinary present whole (blank.unowned ends missing).assignment_eq accepts
  exact ⟨heap, sets⟩

/-- A whole number is written as the numeral of the nearest signed word of sixty-four bits. This is its own
numeral for the numbers that are words, and for no others. Two whole numbers name one property exactly if they
are equal or are clamped to the same end of the words; otherwise what is assigned under one is not read under
the other. -/
theorem whole_numbers_name_properties {x y : Float} {first second : Int} (one : Number.Whole x first)
    (other : Number.Whole y second) :
    Number.text x = toString (Number.clamp first) ∧
      (Number.text x).toInt? = some (Number.clamp first) ∧
      (Number.text x = toString first ↔ Number.InWord first) ∧
      (∀ heap : Heap, heap.key (.number x) = heap.key (.number y) ↔
        first = second ∨ Number.Merged first second) ∧
      (first ≠ second → ¬ Number.Merged first second → ∀ state : State,
        state.KeepsApart (state.heap.key (.number x)) (state.heap.key (.number y))) := by
  have shared (heap : Heap) : heap.key (.number x) = heap.key (.number y) ↔
      first = second ∨ Number.Merged first second := by
    rw [heap.key_number_eq_iff, one.text_eq, other.text_eq, Number.toString_eq_toString_iff]
    exact one.clamp_eq_clamp_iff other
  refine ⟨one.text_eq, ?_, ?_, shared, fun differ apart state => ?_⟩
  · rw [one.text_eq, Int.toString_eq_repr, Int.toInt?_repr]
  · rw [one.text_eq, Number.toString_eq_toString_iff, Number.clamp_eq_self_iff]
  · exact state.keepsApart fun same => ((shared state.heap).mp same).elim differ apart

/-- Two neighbours beyond the exact integers: what is assigned under one is not read under the other. -/
theorem neighbours_kept_apart :
    let x := Number.ofNat 9007199254740994
    let y := Number.ofNat 9007199254740992
    let start := Session.prepared Preset.modern.profile []
    let id := start.heap.next
    let state := start.making (.inheriting (some Intrinsic.objectPrototype.id))
    Number.Whole x 9007199254740994 ∧ Number.Whole y 9007199254740992 ∧
      Number.text x = toString (9007199254740994 : Int) ∧
      ∃ after, ∀ engine,
        Run.set id (state.heap.key (.number x)) (.boolean true) engine state = .done true after ∧
          Run.get id (state.heap.key (.number x)) engine after = .done (.boolean true) after ∧
          Run.get id (state.heap.key (.number y)) engine after = .done .undefined after := by
  intro x y start id state
  have one : Number.Whole x 9007199254740994 := by decide +kernel
  have other : Number.Whole y 9007199254740992 := by decide +kernel
  obtain ⟨_, _, exact_iff, _, apart⟩ := whole_numbers_name_properties one other
  have word : Number.InWord 9007199254740994 := by
    rw [Number.InWord, Number.minValue_eq, Number.maxValue_eq]
    decide
  have unmerged : ¬ Number.Merged 9007199254740994 9007199254740992 := by
    rw [Number.Merged, Number.minValue_eq, Number.maxValue_eq]
    decide
  have blank : state.heap.Blank id Intrinsic.objectPrototype.id := Heap.object_allocate_next ..
  have present : id.index < state.heap.size := Heap.next_index_lt ..
  have ends : state.heap.onward? Intrinsic.objectPrototype.id = none := by decide +kernel
  have missing : (state.heap.object Intrinsic.objectPrototype.id).property?
      (state.heap.key (.number x)) = none := by decide +kernel
  have unread : state.heap.plainRead? id (state.heap.key (.number y)) = some .undefined := by
    decide +kernel
  have resolved : state.heap.resolve id = id := Heap.resolve_of_ordinary (congrArg Object.proxy? blank)
  have unset : ∀ setter, state.heap.assignment (state.heap.resolve id)
      (state.heap.key (.number x)) ≠ some (.setter setter) := by
    rw [resolved, (blank.unowned ends missing).assignment_eq]
    exact nofun
  obtain ⟨heap, sets⟩ := Run.set_on_blank blank present ends missing (.boolean true)
  refine ⟨one, other, exact_iff.mpr word, _, fun engine => ⟨(sets engine).1, (sets engine).2, ?_⟩⟩
  obtain ⟨_, reads⟩ := apart (by decide) unmerged state id _ engine _ _ unset (sets engine).1 id
  exact reads _ engine unread

/-- Two to the sixty-third and its double are written as one numeral, which is that of neither: a read under
one of them gives what was assigned under the other. -/
theorem doubles_beyond_words_merged :
    let x := Number.ofNat 9223372036854775808
    let y := Number.ofNat 18446744073709551616
    let start := Session.prepared Preset.modern.profile []
    let id := start.heap.next
    let state := start.making (.inheriting (some Intrinsic.objectPrototype.id))
    Number.Whole x 9223372036854775808 ∧ Number.Whole y 18446744073709551616 ∧
      Number.text x ≠ toString (9223372036854775808 : Int) ∧
      Number.text y ≠ toString (18446744073709551616 : Int) ∧
      state.heap.key (.number x) = state.heap.key (.number y) ∧
      state.heap.plainRead? id (state.heap.key (.number y)) = some .undefined ∧
      ∃ after, ∀ engine,
        Run.set id (state.heap.key (.number x)) (.boolean true) engine state = .done true after ∧
          Run.get id (state.heap.key (.number y)) engine after = .done (.boolean true) after := by
  intro x y start id state
  have shared : state.heap.key (.number x) = state.heap.key (.number y) := by decide +kernel
  have blank : state.heap.Blank id Intrinsic.objectPrototype.id := Heap.object_allocate_next ..
  have present : id.index < state.heap.size := Heap.next_index_lt ..
  have ends : state.heap.onward? Intrinsic.objectPrototype.id = none := by decide +kernel
  have missing : (state.heap.object Intrinsic.objectPrototype.id).property?
      (state.heap.key (.number x)) = none := by decide +kernel
  obtain ⟨heap, sets⟩ := Run.set_on_blank blank present ends missing (.boolean true)
  refine ⟨by decide +kernel, by decide +kernel, by decide +kernel, by decide +kernel, shared,
    by decide +kernel, _, fun engine => ⟨(sets engine).1, ?_⟩⟩
  rw [← shared]
  exact (sets engine).2

end ClassLowering
