import ClassLowering.Property.Basic
import ClassLowering.Property.Key
import ClassLowering.Property.KeyOrder
import Std.Data.ExtTreeMap

/-!
# Property tables

The properties of an object in the order in which their keys were first added, each key once. Beside
the entries stands a tree in which the place of a key is looked up; the field `placed` says that it
answers exactly what a search through the entries would.

The view of a table is its list of entries: `ext` says that there is nothing else to it,
`get?_eq_some_iff` ties look-up to it, `get?_insert` and `keys_insert` say what a write does.
-/

namespace ClassLowering

/-- Properties in the order in which their keys were added. -/
structure Table where
  entries : Array (PropertyKey × Property)
  /-- The place of each key among the entries. -/
  places : Std.ExtTreeMap PropertyKey Nat PropertyKey.order
  placed : ∀ (key : PropertyKey) (place : Nat),
    places[key]? = some place ↔ (entries.toList.map Prod.fst)[place]? = some key

namespace Table

/-- The table without properties. -/
def empty : Table := ⟨#[], ∅, by simp⟩

instance : Inhabited Table := ⟨empty⟩

/-- The entries in order. -/
def toList (table : Table) : List (PropertyKey × Property) := table.entries.toList

/-- The keys in order. -/
def keys (table : Table) : List PropertyKey := table.toList.map Prod.fst

theorem keys_nodup (table : Table) : table.keys.Nodup := by
  rw [List.Nodup, List.pairwise_iff_getElem]
  intro first second inFirst inSecond before same
  have atFirst := (table.placed table.keys[first] first).mpr (List.getElem?_eq_getElem _)
  have atSecond := (table.placed table.keys[second] second).mpr (List.getElem?_eq_getElem _)
  rw [← same, atFirst, Option.some.injEq] at atSecond
  omega

@[ext] theorem ext {first second : Table} (same : first.toList = second.toList) :
    first = second := by
  obtain ⟨entries, places, placed⟩ := first
  obtain ⟨otherEntries, otherPlaces, otherPlaced⟩ := second
  have : entries = otherEntries := Array.toList_inj.mp same
  subst this
  have : places = otherPlaces := by
    apply Std.ExtTreeMap.ext_getElem?
    intro key
    apply Option.ext
    intro place
    rw [placed, otherPlaced]
  subst this
  rfl

/-- The place of a key. -/
def position? (table : Table) (key : PropertyKey) : Option Nat := table.places[key]?

theorem position?_eq_some_iff {table : Table} {key : PropertyKey} {place : Nat} :
    table.position? key = some place ↔ table.keys[place]? = some key := table.placed key place

theorem position?_eq_some {table : Table} {key : PropertyKey} {place : Nat}
    (found : table.position? key = some place) :
    ∃ property, table.entries[place]? = some (key, property) := by
  have held := position?_eq_some_iff.mp found
  simp only [keys, toList, List.getElem?_map, Option.map_eq_some_iff] at held
  obtain ⟨⟨_, property⟩, atPlace, rfl⟩ := held
  exact ⟨property, by simpa using atPlace⟩

theorem position?_eq_none_iff {table : Table} {key : PropertyKey} :
    table.position? key = none ↔ key ∉ table.keys := by
  rw [List.mem_iff_getElem?, Option.eq_none_iff_forall_ne_some, not_exists]
  exact forall_congr' fun place => not_congr position?_eq_some_iff

/-- The property under a key. -/
def get? (table : Table) (key : PropertyKey) : Option Property :=
  (table.position? key).bind fun place => table.entries[place]?.map Prod.snd

/-- Whether a key is in use. -/
def contains (table : Table) (key : PropertyKey) : Bool := (table.position? key).isSome

theorem get?_eq_some_iff {table : Table} {key : PropertyKey} {property : Property} :
    table.get? key = some property ↔ (key, property) ∈ table.toList := by
  unfold get?
  constructor
  · intro found
    obtain ⟨place, placed, held⟩ := Option.bind_eq_some_iff.mp found
    obtain ⟨other, atPlace⟩ := position?_eq_some placed
    simp only [atPlace, Option.map_some, Option.some.injEq] at held
    subst held
    exact Array.mem_toList_iff.mpr (Array.mem_of_getElem? atPlace)
  · intro member
    obtain ⟨place, atPlace⟩ := List.mem_iff_getElem?.mp member
    have placed : table.position? key = some place :=
      position?_eq_some_iff.mpr (by simp [keys, atPlace])
    have held : table.entries[place]? = some (key, property) := by simpa [toList] using atPlace
    simp [placed, held]

theorem contains_iff {table : Table} {key : PropertyKey} :
    table.contains key = true ↔ key ∈ table.keys := by
  unfold contains
  rw [Option.isSome_iff_ne_none, ne_eq, position?_eq_none_iff, Classical.not_not]

theorem get?_eq_none_iff {table : Table} {key : PropertyKey} :
    table.get? key = none ↔ key ∉ table.keys := by
  rw [← position?_eq_none_iff]
  unfold get?
  constructor
  · intro missing
    cases found : table.position? key with
    | none => rfl
    | some place =>
        obtain ⟨property, atPlace⟩ := position?_eq_some found
        simp [found, atPlace] at missing
  · intro missing
    simp [missing]

theorem getElem?_toList (table : Table) (place : Nat) :
    table.toList[place]? = table.keys[place]?.bind fun key => (table.get? key).map (key, ·) := by
  rw [keys, List.getElem?_map]
  cases atPlace : table.toList[place]? with
  | none => rfl
  | some entry =>
      have held : table.get? entry.1 = some entry.2 :=
        get?_eq_some_iff.mpr (List.mem_of_getElem? atPlace)
      simp [held]

/-- A table is the order of its keys and what it holds under each. -/
theorem eq_of_keys_eq {first second : Table} (keys_eq : first.keys = second.keys)
    (get?_eq : ∀ key, first.get? key = second.get? key) : first = second := by
  ext1
  refine List.ext_getElem? fun place => ?_
  rw [getElem?_toList, getElem?_toList, keys_eq]
  simp only [get?_eq]

theorem contains_eq_isSome (table : Table) (key : PropertyKey) :
    table.contains key = (table.get? key).isSome := by
  rw [Bool.eq_iff_iff, contains_iff, Option.isSome_iff_ne_none, ne_eq, get?_eq_none_iff,
    Classical.not_not]

theorem set_eq_self {α : Type} {list : List α} {place : Nat} {item : α}
    (held : list[place]? = some item) : list.set place item = list := by
  obtain ⟨bound, rfl⟩ := List.getElem?_eq_some_iff.mp held
  exact List.set_getElem_self bound

theorem getElem?_append_eq_some_iff {keys : List PropertyKey} {key : PropertyKey}
    (absent : key ∉ keys) (other : PropertyKey) (place : Nat) :
    (keys ++ [key])[place]? = some other ↔
      if key = other then keys.length = place else keys[place]? = some other := by
  rw [List.getElem?_append]
  split
  · next inside =>
    split
    · next same =>
      subst same
      have missing : keys[place]? ≠ some key := fun held => absent (List.mem_of_getElem? held)
      simp only [missing, false_iff]
      omega
    · rfl
  · next outside =>
    have beyond : keys[place]? = none := List.getElem?_eq_none (by omega)
    rw [List.getElem?_singleton]
    by_cases last : keys.length = place
    · subst last
      by_cases same : key = other <;> simp [same]
    · have further : place - keys.length ≠ 0 := by omega
      simp [beyond, last, further]

/-- Writes a property: in place when its key is in use, at the end otherwise. -/
def insert (table : Table) (key : PropertyKey) (property : Property) : Table :=
  match found : table.position? key with
  | some place =>
      { entries := table.entries.setIfInBounds place (key, property)
        places := table.places
        placed := by
          have sameKeys : (table.toList.set place (key, property)).map Prod.fst = table.keys := by
            rw [List.map_set]
            exact set_eq_self (position?_eq_some_iff.mp found)
          rw [Array.toList_setIfInBounds]
          exact sameKeys ▸ table.placed }
  | none =>
      let last := table.entries.size
      { entries := table.entries.push (key, property)
        places := table.places.insert key last
        placed := by
          intro other place
          have absent := position?_eq_none_iff.mp found
          rw [Array.toList_push, List.map_append, Std.ExtTreeMap.getElem?_insert]
          simp only [Std.LawfulEqCmp.compare_eq_iff_eq]
          refine Iff.trans ?_ (getElem?_append_eq_some_iff absent other place).symm
          split
          · simp [keys, toList, last]
          · exact table.placed other place }

/-- Where all keys differ, those behind the first entry are others than its own. -/
theorem nodup_keys_cons {head : PropertyKey × Property} {rest : List (PropertyKey × Property)}
    (distinct : ((head :: rest).map Prod.fst).Nodup) :
    (∀ entry ∈ rest, entry.1 ≠ head.1) ∧ (rest.map Prod.fst).Nodup := by
  obtain ⟨absent, others⟩ := List.nodup_cons.mp distinct
  exact ⟨fun entry member same => absent (same ▸ List.mem_map_of_mem member), others⟩

theorem set_eq_map {entries : List (PropertyKey × Property)} {key : PropertyKey}
    {old : Property} (new : Property) {place : Nat} (distinct : (entries.map Prod.fst).Nodup)
    (held : entries[place]? = some (key, old)) :
    entries.set place (key, new) =
      entries.map fun entry => if entry.1 = key then (key, new) else entry := by
  induction entries generalizing place with
  | nil => simp at held
  | cons head rest ih =>
      obtain ⟨differ, others⟩ := nodup_keys_cons distinct
      cases place with
      | zero =>
          simp only [List.getElem?_cons_zero, Option.some.injEq] at held
          subst held
          have kept : rest.map (fun entry => if entry.1 = key then (key, new) else entry) = rest :=
            (List.map_congr_left fun entry member => if_neg (differ entry member)).trans (List.map_id rest)
          simp [kept]
      | succ place =>
          simp only [List.getElem?_cons_succ] at held
          have differs : head.1 ≠ key := (differ _ (List.mem_of_getElem? held)).symm
          simp [differs, ih others held]

theorem toList_insert_of_mem {table : Table} {key : PropertyKey} (property : Property)
    (used : key ∈ table.keys) :
    (table.insert key property).toList =
      table.toList.map fun entry => if entry.1 = key then (key, property) else entry := by
  unfold insert
  split
  · next place found =>
    obtain ⟨old, atPlace⟩ := position?_eq_some found
    have held : table.toList[place]? = some (key, old) := by simpa [toList] using atPlace
    have moved := set_eq_map property table.keys_nodup held
    simpa [toList] using moved
  · next found => exact absurd used (position?_eq_none_iff.mp found)

theorem toList_insert_of_not_mem {table : Table} {key : PropertyKey} (property : Property)
    (unused : key ∉ table.keys) :
    (table.insert key property).toList = table.toList ++ [(key, property)] := by
  unfold insert
  split
  · next place found => simp [position?_eq_none_iff.mpr unused] at found
  · simp [toList]

/-- A write keeps the order of the keys, and puts a new key last. -/
theorem keys_insert (table : Table) (key : PropertyKey) (property : Property) :
    (table.insert key property).keys =
      if key ∈ table.keys then table.keys else table.keys ++ [key] := by
  split
  · next used =>
    rw [keys, toList_insert_of_mem property used, keys, List.map_map]
    congr 1
    funext entry
    by_cases same : entry.1 = key <;> simp [same]
  · next unused => simp [keys, toList_insert_of_not_mem property unused]

theorem mem_keys_insert {table : Table} {key other : PropertyKey} {property : Property} :
    other ∈ (table.insert key property).keys ↔ other = key ∨ other ∈ table.keys := by
  rw [keys_insert]
  split
  · next used =>
    constructor
    · exact Or.inr
    · rintro (rfl | held)
      · exact used
      · exact held
  · rw [List.mem_append, List.mem_singleton, or_comm]

/-- A write is seen under its key and nowhere else. -/
theorem get?_insert (table : Table) (key other : PropertyKey) (property : Property) :
    (table.insert key property).get? other =
      if other = key then some property else table.get? other := by
  apply Option.ext
  intro found
  rw [get?_eq_some_iff]
  by_cases used : key ∈ table.keys
  · rw [toList_insert_of_mem property used, List.mem_map]
    obtain ⟨entry, member, entryKey⟩ := List.mem_map.mp used
    constructor
    · rintro ⟨source, sourceMember, equal⟩
      by_cases same : source.1 = key
      · rw [if_pos same] at equal
        cases equal
        simp
      · rw [if_neg same] at equal
        subst equal
        rw [if_neg same]
        exact get?_eq_some_iff.mpr sourceMember
    · intro written
      by_cases same : other = key
      · rw [if_pos same] at written
        cases written
        exact ⟨entry, member, by rw [if_pos entryKey, same]⟩
      · rw [if_neg same] at written
        exact ⟨(other, found), get?_eq_some_iff.mp written, by rw [if_neg same]⟩
  · rw [toList_insert_of_not_mem property used, List.mem_append, List.mem_singleton]
    by_cases same : other = key
    · subst same
      have missing : (other, found) ∉ table.toList := fun member =>
        used (List.mem_map.mpr ⟨_, member, rfl⟩)
      simp [missing, eq_comm]
    · simp [same, get?_eq_some_iff]

@[simp] theorem get?_insert_self (table : Table) (key : PropertyKey) (property : Property) :
    (table.insert key property).get? key = some property := by simp [get?_insert]

theorem get?_insert_ne (table : Table) {key other : PropertyKey} (property : Property)
    (differs : other ≠ key) : (table.insert key property).get? other = table.get? other := by
  simp [get?_insert, differs]

@[simp] theorem get?_empty (key : PropertyKey) : empty.get? key = none := by
  simp [get?_eq_none_iff, keys, toList, empty]

@[simp] theorem keys_empty : empty.keys = [] := by simp [keys, toList, empty]

theorem getElem?_eraseIdx_eq_some_iff {keys : List PropertyKey} {key : PropertyKey} {gone : Nat}
    (distinct : keys.Nodup) (held : keys[gone]? = some key) (other : PropertyKey) (place : Nat) :
    (keys.eraseIdx gone)[place]? = some other ↔
      key ≠ other ∧
        ∃ old, keys[old]? = some other ∧ (if gone < old then old - 1 else old) = place := by
  have bound : gone < keys.length := (List.getElem?_eq_some_iff.mp held).1
  have unique : ∀ old, keys[old]? = some key → gone = old := fun old atOld =>
    (List.getElem?_inj bound distinct).mp (held.trans atOld.symm)
  rw [List.getElem?_eraseIdx]
  constructor
  · intro found
    split at found
    · next before =>
      refine ⟨?_, place, found, by rw [if_neg (by omega)]⟩
      rintro rfl
      have := unique place found
      omega
    · next behind =>
      refine ⟨?_, place + 1, found, by rw [if_pos (by omega)]; omega⟩
      rintro rfl
      have := unique (place + 1) found
      omega
  · rintro ⟨differs, old, atOld, moved⟩
    have apart : gone ≠ old := by
      rintro rfl
      exact differs (Option.some.inj (held.symm.trans atOld))
    split at moved
    · have : old = place + 1 := by omega
      rw [if_neg (by omega), ← this, atOld]
    · rw [if_pos (by omega), ← moved, atOld]

theorem map_eraseIdx {α β : Type} (change : α → β) (list : List α) (place : Nat) :
    (list.eraseIdx place).map change = (list.map change).eraseIdx place := by
  simp [List.eraseIdx_eq_take_drop_succ]

/-- Removes a key; the order of the others stays. -/
def erase (table : Table) (key : PropertyKey) : Table :=
  match found : table.position? key with
  | some gone =>
      { entries := table.entries.eraseIdxIfInBounds gone
        places := (table.places.erase key).map fun _ old => if gone < old then old - 1 else old
        placed := by
          intro other place
          have held := position?_eq_some_iff.mp found
          rw [Array.toList_eraseIdxIfInBounds, map_eraseIdx, Std.ExtTreeMap.getElem?_map,
            Std.ExtTreeMap.getElem?_erase, Option.map_eq_some_iff]
          simp only [Std.LawfulEqCmp.compare_eq_iff_eq]
          refine Iff.trans ?_ (getElem?_eraseIdx_eq_some_iff table.keys_nodup held other place).symm
          split
          · next same => simp [same]
          · next differs => simp only [table.placed, ne_eq, differs, not_false_eq_true, true_and]; rfl }
  | none => table

theorem eraseIdx_eq_filter {entries : List (PropertyKey × Property)} {key : PropertyKey}
    {property : Property} {place : Nat} (distinct : (entries.map Prod.fst).Nodup)
    (held : entries[place]? = some (key, property)) :
    entries.eraseIdx place = entries.filter fun entry => entry.1 ≠ key := by
  induction entries generalizing place with
  | nil => simp at held
  | cons head rest ih =>
      obtain ⟨differ, others⟩ := nodup_keys_cons distinct
      cases place with
      | zero =>
          simp only [List.getElem?_cons_zero, Option.some.injEq] at held
          subst held
          have kept : rest.filter (fun entry => entry.1 ≠ key) = rest :=
            List.filter_eq_self.mpr fun entry member => decide_eq_true (differ entry member)
          simpa using kept.symm
      | succ place =>
          simp only [List.getElem?_cons_succ] at held
          have differs : head.1 ≠ key := (differ _ (List.mem_of_getElem? held)).symm
          simp [differs, ih others held]

theorem toList_erase (table : Table) (key : PropertyKey) :
    (table.erase key).toList = table.toList.filter fun entry => entry.1 ≠ key := by
  unfold erase
  split
  · next place found =>
    obtain ⟨property, atPlace⟩ := position?_eq_some found
    have held : table.toList[place]? = some (key, property) := by simpa [toList] using atPlace
    simpa [toList] using eraseIdx_eq_filter table.keys_nodup held
  · next found =>
    have absent := position?_eq_none_iff.mp found
    symm
    rw [List.filter_eq_self]
    intro entry member
    have differs : entry.1 ≠ key := by
      rintro rfl
      exact absent (List.mem_map.mpr ⟨entry, member, rfl⟩)
    simp [differs]

theorem get?_erase (table : Table) (key other : PropertyKey) :
    (table.erase key).get? other = if other = key then none else table.get? other := by
  apply Option.ext
  intro found
  rw [get?_eq_some_iff]
  by_cases same : other = key
  · simp [toList_erase, same]
  · rw [if_neg same, get?_eq_some_iff]
    simp [toList_erase, same]

/-- Adds values under the indices from a place on. -/
def insertElements (table : Table) (place : Nat) : List Value → Table
  | [] => table
  | value :: rest =>
      (table.insert (.index place) { slot := .data value }).insertElements (place + 1) rest

/-- The elements of a list, each under its index. -/
def ofElements (values : List Value) : Table := empty.insertElements 0 values

theorem toList_insertElements (table : Table) (place : Nat) (values : List Value)
    (unused : ∀ index, place ≤ index → PropertyKey.index index ∉ table.keys) :
    (table.insertElements place values).toList =
      table.toList ++ (values.zipIdx place).map fun entry =>
        (PropertyKey.index entry.2, ({ slot := .data entry.1 } : Property)) := by
  induction values generalizing table place with
  | nil => simp [insertElements]
  | cons value rest ih =>
      have fresh := unused place (Nat.le_refl place)
      rw [insertElements, ih, toList_insert_of_not_mem _ fresh]
      · simp
      · intro index above
        rw [mem_keys_insert, not_or]
        refine ⟨fun same => ?_, unused index (by omega)⟩
        have := PropertyKey.index_injective same
        omega

/-- The elements stand in order, each under its index. -/
theorem toList_ofElements (values : List Value) :
    (ofElements values).toList = values.zipIdx.map fun entry =>
      (PropertyKey.index entry.2, ({ slot := .data entry.1 } : Property)) := by
  rw [ofElements, toList_insertElements]
  · rfl
  · simp

end Table

end ClassLowering
