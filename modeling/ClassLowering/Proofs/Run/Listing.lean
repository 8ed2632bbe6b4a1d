import ClassLowering.Proofs.Run.InTurn
import ClassLowering.Proofs.Run.Making
import ClassLowering.Run.Record

/-!
# Lists of arguments

Any object is read as a list: its length first, and then an element for each place below it. A list object
gives back the values that it was made of, unless they are more than a call may have.
-/

namespace ClassLowering

namespace PropertyKey

theorem index_ne_length (place : Nat) (few : place < arrayIndexLimit) :
    index place ≠ "length" := by
  intro same
  have found := arrayIndex?_eq_some_iff.mpr ⟨same.symm, few⟩
  have missing : (string "length").arrayIndex? = none := by decide
  rw [missing] at found
  cases found

end PropertyKey

namespace Table

theorem get?_ofElements {values : List Value} {place : Nat} {value : Value}
    (held : values[place]? = some value) :
    (ofElements values).get? (.index place) = some { slot := .data value } := by
  rw [get?_eq_some_iff, toList_ofElements, List.mem_map]
  exact ⟨(value, place), List.mem_zipIdx_iff_getElem?.mpr held, rfl⟩

end Table

namespace Run

variable {engine : Engine} {state middle after : State} {id : ObjectId} {list : Value}
  {values elements : List Value} {failure : Failure}

/-! ## How lists are read -/

/-- The element of an object at a place. -/
def elementAt (id : ObjectId) (place : Nat) : Run Value := getOf (.object id) (.index place)

/-- The elements of a list are read: its length, and then one element after another. -/
inductive ElementsRead (engine : Engine) (state : State) : Value → List Value → State → Prop
  | inTurn {id : ObjectId} {length : Value} {count : Nat} {elements : List Value} {counted after : State}
      (measured : getOf (.object id) "length" engine state = .done length counted)
      (few : lengthOf length = some count)
      (each : InTurn (elementAt id) engine (List.range count) counted elements after) :
      ElementsRead engine state (.object id) elements after

/-- The elements of a list cannot be read. -/
inductive ElementsUnread (engine : Engine) (state : State) : Value → Failure → State → Prop
  | primitive {list : Value} (noObject : ∀ id, list ≠ .object id) :
      ElementsUnread engine state list (.fault (.listFromNonObject (state.heap.text list))) state
  | length {id : ObjectId} {failure : Failure} {after : State}
      (failed : getOf (.object id) "length" engine state = .failed failure after) :
      ElementsUnread engine state (.object id) failure after
  | overlong {id : ObjectId} {length : Value} {after : State}
      (measured : getOf (.object id) "length" engine state = .done length after)
      (many : lengthOf length = none) :
      ElementsUnread engine state (.object id) (.fault .tooManyArguments) after
  | element {id : ObjectId} {length : Value} {count : Nat} {failure : Failure} {counted after : State}
      (measured : getOf (.object id) "length" engine state = .done length counted)
      (few : lengthOf length = some count)
      (failed : FailsInTurn (elementAt id) engine failure after (List.range count) counted) :
      ElementsUnread engine state (.object id) failure after

theorem elementsOf_eq_done_iff :
    elementsOf list engine state = .done elements after ↔ ElementsRead engine state list elements after := by
  constructor
  · intro ran
    unfold elementsOf at ran
    split at ran
    · obtain ⟨length, counted, measured, ran⟩ := done_of_bind ran
      cases few : lengthOf length with
      | none =>
          rw [few] at ran
          cases ran
      | some count =>
          rw [few] at ran
          exact .inTurn measured few (mapM_eq_done_iff.mp ran)
    · cases ran
  · rintro ⟨measured, few, each⟩
    rw [elementsOf, bind_of_done measured, few]
    exact mapM_eq_done_iff.mpr each

theorem elementsOf_eq_failed_iff :
    elementsOf list engine state = .failed failure after ↔
      ElementsUnread engine state list failure after := by
  constructor
  · intro ran
    unfold elementsOf at ran
    split at ran
    · rcases failed_of_bind ran with failed | ⟨length, counted, measured, ran⟩
      · exact .length failed
      · cases few : lengthOf length with
        | none =>
            rw [few] at ran
            cases ran
            exact .overlong measured few
        | some count =>
            rw [few] at ran
            exact .element measured few (mapM_eq_failed_iff.mp ran)
    · next noObject =>
      cases ran
      exact .primitive noObject
  · intro unread
    cases unread with
    | primitive noObject =>
        unfold elementsOf
        split
        · next id => exact absurd rfl (noObject id)
        · rfl
    | length failed => exact bind_of_failed failed
    | overlong measured many =>
        rw [elementsOf, bind_of_done measured, many]
        rfl
    | element measured few failed =>
        rw [elementsOf, bind_of_done measured, few]
        exact mapM_eq_failed_iff.mpr failed

/-! ## Lengths -/

/-- A length that is an integer stands for as many elements, unless they are more than a call may have. -/
theorem lengthOf_of_integer? {number : Float} {integer : Int}
    (equals : (Binary64.ofFloat number).integer? = some integer) :
    lengthOf (.number number) = if (maxArguments : Int) < integer then none else some integer.toNat := by
  simp only [lengthOf, Binary64.exceeds_of_integer? equals, Binary64.wholePart?_of_integer? equals,
    decide_eq_true_eq, Option.getD_some]

theorem lengthOf_ofNat {count : Nat} (few : count ≤ maxArguments) :
    lengthOf (.number (Number.ofNat count)) = some count := by
  have small : count < Number.exactLimit := Nat.lt_of_le_of_lt few (by decide)
  have within : ¬ (maxArguments : Int) < count := Int.not_lt.mpr (Int.ofNat_le.mpr few)
  exact (lengthOf_of_integer? (Number.integer?_ofNat small)).trans (if_neg within)

theorem lengthOf_overlong {count : Nat} (many : maxArguments < count) :
    lengthOf (.number (Number.ofNat count)) = none := by
  rcases Nat.lt_or_ge count Number.exactLimit with exact | large
  · exact (lengthOf_of_integer? (Number.integer?_ofNat exact)).trans (if_pos (Int.ofNat_lt.mpr many))
  · rw [lengthOf, Number.exceeds_ofNat_of_le large (by decide)]
    rfl

/-- The elements of an object are read as its length says: at all places below it, in ascending order, and
no further once a read fails. -/
structure ReadsInOrder (engine : Engine) (id : ObjectId) (count : Nat) (state middle : State) : Prop where
  done_iff : ∀ elements after, elementsOf (.object id) engine state = .done elements after ↔
    InTurn (elementAt id) engine (List.range count) middle elements after
  failed_iff : ∀ failure after, elementsOf (.object id) engine state = .failed failure after ↔
    FailsInTurn (elementAt id) engine failure after (List.range count) middle

/-- Any object whose length is an integer counts as a list of as many elements. -/
theorem elementsOf_inOrder {number : Float} {integer : Int}
    (read : getOf (.object id) "length" engine state = .done (.number number) middle)
    (equals : (Binary64.ofFloat number).integer? = some integer) (few : integer ≤ maxArguments) :
    ReadsInOrder engine id integer.toNat state middle := by
  have counted : lengthOf (.number number) = some integer.toNat :=
    (lengthOf_of_integer? equals).trans (if_neg (Int.not_lt.mpr few))
  have reads : elementsOf (.object id) engine state =
      (List.range integer.toNat).mapM (elementAt id) engine middle := by
    rw [elementsOf, bind_of_done read, counted]
    rfl
  constructor
  · intro elements after
    rw [reads, mapM_eq_done_iff]
  · intro failure after
    rw [reads, mapM_eq_failed_iff]

/-- It is refused, before an element is read, if the integer is more than a call may have. -/
theorem elementsOf_refused {number : Float} {integer : Int}
    (read : getOf (.object id) "length" engine state = .done (.number number) middle)
    (equals : (Binary64.ofFloat number).integer? = some integer) (many : (maxArguments : Int) < integer) :
    elementsOf (.object id) engine state = .failed (.fault .tooManyArguments) middle :=
  elementsOf_eq_failed_iff.mpr (.overlong read ((lengthOf_of_integer? equals).trans (if_pos many)))

/-! ## List objects -/

/-- The length of a list object. -/
theorem getOf_length (made : state.heap.object id = Build.listObject values) :
    getOf (.object id) "length" engine state =
      .done (.number (Number.ofNat values.length)) state := by
  have ordinary : (state.heap.object id).proxy? = none := by
    rw [made]
    rfl
  have held : (state.heap.object id).property? "length" =
      some
        { slot := .data (.number (Number.ofNat values.length))
          enumerable := false
          configurable := false } := by
    rw [made]
    exact Table.get?_insert_self ..
  exact getFor_plain (Heap.plainRead?_own ordinary held rfl)

/-- A list with more values than a call may have is refused. -/
theorem elementsOf_overlong (made : state.heap.object id = Build.listObject values)
    (many : maxArguments < values.length) :
    elementsOf (.object id) engine state = .failed (.fault .tooManyArguments) state :=
  elementsOf_eq_failed_iff.mpr (.overlong (getOf_length made) (lengthOf_overlong many))

/-- The elements of a list object are the values that it was made of. -/
theorem elementsOf_apply (made : state.heap.object id = Build.listObject values)
    (few : values.length ≤ maxArguments) :
    elementsOf (.object id) engine state = .done values state := by
  have ordinary : (state.heap.object id).proxy? = none := by
    rw [made]
    rfl
  have each : List.Forall₂
      (fun place value => getOf (.object id) (.index place) engine state = .done value state)
      (List.range values.length) values := by
    rw [List.forall₂_iff_get]
    refine ⟨List.length_range, fun place first second => ?_⟩
    have listed : values[place]? = some (values.get ⟨place, second⟩) :=
      List.getElem?_eq_getElem second
    have below : place < PropertyKey.arrayIndexLimit :=
      Nat.lt_of_lt_of_le second (Nat.le_trans few (by decide))
    have held : (state.heap.object id).property? (.index place) =
        some { slot := .data (values.get ⟨place, second⟩) } := by
      rw [made]
      exact (Table.get?_insert_ne _ _ (PropertyKey.index_ne_length place below)).trans
        (Table.get?_ofElements listed)
    rw [List.get_eq_getElem, List.getElem_range]
    exact getFor_plain (Heap.plainRead?_own ordinary held rfl)
  exact elementsOf_eq_done_iff.mpr (.inTurn (getOf_length made) (lengthOf_ofNat few) (.of_forall₂ each))

end Run

end ClassLowering
