import ClassLowering.Property.Order

/-!
# Listing own keys

The listing of own keys rearranges the keys of a table: array indices, other strings and symbols are
three parts of them, and none is lost or listed twice. Array indices are the canonical numerals up to
4294967294, and are listed in ascending order; the other two parts keep the order of the table. The
enumerable strings are listed in the order of all keys.
-/

namespace ClassLowering

namespace PropertyKey

/-- The numerals of the array indices among some keys are those keys. -/
theorem map_index_arrayIndices (keys : List PropertyKey) :
    (keys.filterMap arrayIndex?).map index = keys.filter (·.arrayIndex?.isSome) := by
  induction keys with
  | nil => rfl
  | cons key rest ih =>
      cases read : key.arrayIndex? with
      | none => simp [read, ih]
      | some place =>
          obtain ⟨same, _⟩ := arrayIndex?_eq_some_iff.mp read
          rw [List.filterMap_cons_some read, List.map_cons, ih, ← same, List.filter_cons, read]
          rfl

/-- The keys that are no array indices are the plain strings and the symbols. -/
theorem perm_plain_and_symbols (keys : List PropertyKey) :
    (keys.filter isPlainString ++ keys.filter isSymbol).Perm
      (keys.filter fun key => !key.arrayIndex?.isSome) := by
  have parts := List.filter_append_perm (fun key => key.string?.isSome)
    (keys.filter fun key => !key.arrayIndex?.isSome)
  rw [List.filter_filter, List.filter_filter] at parts
  have plain : (fun key : PropertyKey => key.string?.isSome && !key.arrayIndex?.isSome) =
      isPlainString := by
    funext key
    simp [isPlainString]
  have symbols : (fun key : PropertyKey => (!key.string?.isSome) && !key.arrayIndex?.isSome) =
      isSymbol := by
    funext key
    cases key <;> rfl
  rwa [plain, symbols] at parts

/-- Keys in order are the same keys. -/
theorem inOrder_perm (keys : List PropertyKey) : (inOrder keys).Perm keys := by
  have sorted : (((keys.filterMap arrayIndex?).mergeSort fun first second => first ≤ second).map
      index).Perm (keys.filter (·.arrayIndex?.isSome)) := by
    rw [← map_index_arrayIndices]
    exact (List.mergeSort_perm _ _).map index
  rw [inOrder, List.append_assoc]
  exact (sorted.append (perm_plain_and_symbols keys)).trans (List.filter_append_perm _ keys)

/-- Keys in order: canonical numerals by ascending value, then the other strings, then the symbols, both as
they were created. -/
structure Arranged (created listed : List PropertyKey) : Prop where
  nodup : listed.Nodup
  mem_iff : ∀ key, key ∈ listed ↔ key ∈ created
  grouped : ∃ (places : List Nat) (strings symbols : List PropertyKey),
    listed = places.map index ++ strings ++ symbols ∧
    places.Pairwise (· < ·) ∧ (∀ place ∈ places, place ≤ 4294967294) ∧
    (∀ key ∈ strings, ∃ text, key = .string text ∧ ∀ place ≤ 4294967294, text ≠ toString place) ∧
    (∀ key ∈ symbols, ∃ symbol, key = .symbol symbol) ∧
    strings.Sublist created ∧ symbols.Sublist created

variable {keys : List PropertyKey} {key : PropertyKey}

/-- No array index comes twice, so that they ascend strictly. -/
theorem places_ascend (nodup : keys.Nodup) :
    ((keys.filterMap arrayIndex?).mergeSort fun first second => first ≤ second).Pairwise (· < ·) := by
  have distinct : (keys.filterMap arrayIndex?).Nodup := by
    refine List.Pairwise.filterMap arrayIndex? (fun first second apart place atFirst other atSecond => ?_)
      nodup
    rintro rfl
    apply apart
    rw [(arrayIndex?_eq_some_iff.mp atFirst).1, (arrayIndex?_eq_some_iff.mp atSecond).1]
  have sorted : ((keys.filterMap arrayIndex?).mergeSort fun first second => first ≤ second).Pairwise
      (· ≤ ·) := by
    refine (List.pairwise_mergeSort (fun _ _ _ => ?_) (fun _ _ => ?_) _).imp of_decide_eq_true
    · simpa using Nat.le_trans
    · simpa using Nat.le_total _ _
  have apart := (List.mergeSort_perm (keys.filterMap arrayIndex?)
    fun first second => first ≤ second).nodup_iff.mpr distinct
  exact (sorted.and apart).imp fun both => Nat.lt_of_le_of_ne both.1 both.2

theorem string_of_isPlainString (plain : key.isPlainString = true) :
    ∃ text, key = .string text ∧ ∀ place ≤ 4294967294, text ≠ toString place := by
  rw [isPlainString, Bool.and_eq_true] at plain
  cases key with
  | symbol symbol => cases plain.1
  | string text =>
      refine ⟨text, rfl, fun place bound same => ?_⟩
      have found : (string text).arrayIndex? = some place :=
        arrayIndex?_eq_some_iff.mpr ⟨congrArg string same, Nat.lt_succ_of_le bound⟩
      rw [found] at plain
      cases plain.2

theorem symbol_of_isSymbol (isSymbol : key.isSymbol = true) : ∃ symbol, key = .symbol symbol := by
  cases key with
  | symbol symbol => exact ⟨symbol, rfl⟩
  | string text => cases isSymbol

/-- The keys of a table are listed in order. -/
theorem inOrder_arranged (nodup : keys.Nodup) : Arranged keys (inOrder keys) where
  nodup := (inOrder_perm keys).nodup_iff.mpr nodup
  mem_iff _ := (inOrder_perm keys).mem_iff
  grouped := by
    refine ⟨_, _, _, rfl, places_ascend nodup, fun place listed => ?_, fun key listed => ?_,
      fun key listed => ?_, List.filter_sublist, List.filter_sublist⟩
    · rw [List.mem_mergeSort, List.mem_filterMap] at listed
      obtain ⟨key, _, read⟩ := listed
      exact Nat.le_of_lt_succ (arrayIndex?_eq_some_iff.mp read).2
    · exact string_of_isPlainString (List.mem_filter.mp listed).2
    · exact symbol_of_isSymbol (List.mem_filter.mp listed).2

end PropertyKey

namespace Table

variable {table : Table} {text : String}

theorem orderedKeys_perm (table : Table) : table.orderedKeys.Perm table.keys :=
  PropertyKey.inOrder_perm table.keys

theorem orderedKeys_nodup (table : Table) : table.orderedKeys.Nodup :=
  table.orderedKeys_perm.nodup_iff.mpr table.keys_nodup

theorem mem_orderedKeys {key : PropertyKey} : key ∈ table.orderedKeys ↔ key ∈ table.keys :=
  table.orderedKeys_perm.mem_iff

theorem mem_enumerableStrings : text ∈ table.enumerableStrings ↔
    ∃ property, table.get? (.string text) = some property ∧ property.enumerable = true := by
  rw [enumerableStrings, List.mem_filterMap]
  constructor
  · rintro ⟨key, _, shown⟩
    split at shown
    · next held =>
      split at shown
      · next enumerable =>
        cases shown
        exact ⟨_, held, enumerable⟩
      · cases shown
    · cases shown
  · rintro ⟨property, held, enumerable⟩
    have used : PropertyKey.string text ∈ table.keys :=
      List.mem_map.mpr ⟨_, get?_eq_some_iff.mp held, rfl⟩
    refine ⟨.string text, mem_orderedKeys.mpr used, ?_⟩
    simp [held, enumerable]

/-- The enumerable strings stand in the order of the own keys. -/
theorem enumerableStrings_sublist (table : Table) :
    (table.enumerableStrings.map PropertyKey.string).Sublist table.orderedKeys := by
  rw [enumerableStrings]
  induction table.orderedKeys with
  | nil => exact .slnil
  | cons key rest ih =>
      rw [List.filterMap_cons]
      split
      · exact ih.cons key
      · next text shown =>
        split at shown
        · split at shown
          · cases shown
            exact ih.cons_cons _
          · cases shown
        · cases shown

end Table

end ClassLowering
