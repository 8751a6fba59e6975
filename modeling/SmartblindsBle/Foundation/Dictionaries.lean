import Mathlib.Data.List.AList
import Mathlib.Data.List.Dedup
import Mathlib.Data.List.Sort

/-! # Dictionaries that are filled item by item

Each item changes the value of its own key. What such a dictionary holds is told key
by key, and it is listed in the order of its keys.
-/

namespace Foundation

variable {Key Value Item : Type}

abbrev Dictionary (Key Value : Type) := AList fun _ : Key => Value

/-! ## Filling -/

section Filling

variable [DecidableEq Key] (keyOf : Item → Key) (change : Option Value → Item → Value)

/-- The item changes the value of its key. -/
def adjust (table : Dictionary Key Value) (item : Item) : Dictionary Key Value :=
  table.insert (keyOf item) (change (table.lookup (keyOf item)) item)

theorem lookup_foldl_adjust (table : Dictionary Key Value) (items : List Item) (key : Key) :
    (items.foldl (adjust keyOf change) table).lookup key =
      (items.filter (keyOf · = key)).foldl (fun value item => some (change value item))
        (table.lookup key) := by
  induction items generalizing table with
  | nil => rfl
  | cons item items induction =>
      rw [List.foldl_cons, induction]
      by_cases same : keyOf item = key
      · rw [List.filter_cons_of_pos (by simpa using same), List.foldl_cons, adjust, same,
          AList.lookup_insert]
      · rw [List.filter_cons_of_neg (by simpa using same), adjust,
          AList.lookup_insert_ne (Ne.symm same)]

end Filling

/-- One more item. -/
def count (value : Option Nat) (_ : Item) : Nat := value.getD 0 + 1

theorem foldl_count (value : Nat) (items : List Item) :
    items.foldl (fun value item => some (count value item)) (some value) =
      some (value + items.length) := by
  induction items generalizing value with
  | nil => rfl
  | cons item items induction =>
      rw [List.foldl_cons, count, Option.getD_some, induction, List.length_cons]
      congr 1
      omega

/-- The distinct values so far, and one more. -/
def gather [DecidableEq Value] (valueOf : Item → Value) (values : Option (List Value))
    (item : Item) : List Value :=
  (values.getD []).insert (valueOf item)

theorem foldl_gather [DecidableEq Value] (valueOf : Item → Value) (values : List Value)
    (nodup : values.Nodup) (items : List Item) :
    ∃ after : List Value,
      items.foldl (fun values item => some (gather valueOf values item)) (some values) =
        some after ∧
      after.Nodup ∧ ∀ value, value ∈ after ↔ value ∈ values ∨ value ∈ items.map valueOf := by
  induction items generalizing values with
  | nil => exact ⟨values, rfl, nodup, fun value => by simp⟩
  | cons item items induction =>
      rcases induction (values.insert (valueOf item)) nodup.insert with
        ⟨after, folded, nodupAfter, members⟩
      refine ⟨after, folded, nodupAfter, ?_⟩
      intro value
      rw [members, List.mem_insert_iff, List.map_cons, List.mem_cons]
      tauto

/-! ## Listing -/

section Listing

variable [LinearOrder Key]

/-- The distinct values in their order. -/
def ascending (values : List Key) : List Key := values.dedup.insertionSort (· ≤ ·)

theorem mem_ascending {values : List Key} {value : Key} :
    value ∈ ascending values ↔ value ∈ values := by
  rw [ascending, List.mem_insertionSort, List.mem_dedup]

theorem insertionSort_eq_ascending {distinct values : List Key} (nodup : distinct.Nodup)
    (same : ∀ value, value ∈ distinct ↔ value ∈ values) :
    distinct.insertionSort (· ≤ ·) = ascending values := by
  have members : distinct.Perm values.dedup := by
    rw [List.perm_ext_iff_of_nodup nodup values.nodup_dedup]
    intro value
    rw [same, List.mem_dedup]
  apply List.Perm.eq_of_pairwise' (List.pairwise_insertionSort _ _)
    (List.pairwise_insertionSort _ _)
  exact ((List.perm_insertionSort _ _).trans members).trans (List.perm_insertionSort _ _).symm

/-- `sorted(table.items())`. -/
def sortedItems (table : Dictionary Key Value) : List (Key × Value) :=
  (table.entries.map fun entry => (entry.1, entry.2)).insertionSort (·.1 ≤ ·.1)

theorem sortedItems_eq {table : Dictionary Key Value} {occurring : List Key}
    {valueOf : Key → Value}
    (present : ∀ key ∈ occurring, table.lookup key = some (valueOf key))
    (absent : ∀ key, key ∉ occurring → table.lookup key = none) :
    sortedItems table = (ascending occurring).map fun key => (key, valueOf key) := by
  have isKey : ∀ key, key ∈ table.keys ↔ key ∈ occurring := by
    intro key
    rw [← AList.mem_keys, ← AList.lookup_isSome]
    by_cases occurs : key ∈ occurring
    · simp [occurs, present key occurs]
    · simp [occurs, absent key occurs]
  have keys : (sortedItems table).map Prod.fst = ascending occurring := by
    have sorted := List.map_insertionSort (fun left right : Key × Value => left.1 ≤ right.1)
      (· ≤ ·) Prod.fst (table.entries.map fun entry => (entry.1, entry.2))
      (fun _ _ _ _ => Iff.rfl)
    rw [sortedItems, sorted, List.map_map]
    exact insertionSort_eq_ascending table.keys_nodup isKey
  have values : ∀ item ∈ sortedItems table,
      ((fun key => (key, valueOf key)) ∘ Prod.fst) item = item := by
    intro item member
    rw [sortedItems, List.mem_insertionSort, List.mem_map] at member
    rcases member with ⟨entry, isEntry, rfl⟩
    have found : table.lookup entry.1 = some entry.2 := AList.mem_lookup_iff.mpr isEntry
    have occurs : entry.1 ∈ occurring :=
      (isKey entry.1).mp (List.mem_map_of_mem isEntry)
    rw [present entry.1 occurs, Option.some.injEq] at found
    rw [Function.comp_apply, found]
  rw [← keys, List.map_map, List.map_congr_left values, List.map_id']

theorem lookup_filled (keyOf : Item → Key) (change : Option Value → Item → Value)
    (items : List Item) (key : Key) :
    (key ∈ items.map keyOf → ∃ first rest, items.filter (keyOf · = key) = first :: rest ∧
      (items.foldl (adjust keyOf change) ∅).lookup key =
        rest.foldl (fun value item => some (change value item)) (some (change none first))) ∧
    (key ∉ items.map keyOf → (items.foldl (adjust keyOf change) ∅).lookup key = none) := by
  rw [lookup_foldl_adjust, AList.lookup_empty]
  cases own : items.filter (keyOf · = key) with
  | nil =>
      refine ⟨?_, fun _ => rfl⟩
      intro occurs
      rcases List.mem_map.mp occurs with ⟨item, member, isKey⟩
      exact absurd isKey (by simpa using List.filter_eq_nil_iff.mp own item member)
  | cons first rest =>
      refine ⟨fun _ => ⟨first, rest, rfl, rfl⟩, ?_⟩
      intro missing
      have member : first ∈ items.filter (keyOf · = key) := own ▸ List.mem_cons_self ..
      rw [List.mem_filter, decide_eq_true_eq] at member
      exact absurd (List.mem_map.mpr ⟨first, member⟩) missing

theorem sortedItems_counted (keyOf : Item → Key) (items : List Item) :
    sortedItems (items.foldl (adjust keyOf count) ∅) =
      (ascending (items.map keyOf)).map fun key => (key, items.countP (keyOf · = key)) := by
  apply sortedItems_eq
  · intro key occurs
    rcases (lookup_filled keyOf count items key).1 occurs with ⟨first, rest, own, found⟩
    rw [found, foldl_count, List.countP_eq_length_filter, own, List.length_cons, count,
      Option.getD_none]
    congr 1
    omega
  · exact fun key => (lookup_filled keyOf count items key).2

/-- Which values occur under each key. -/
theorem sortedItems_gathered [LinearOrder Value] (keyOf : Item → Key) (valueOf : Item → Value)
    (items : List Item) :
    (sortedItems (items.foldl (adjust keyOf (gather valueOf)) ∅)).map
        (fun entry => (entry.1, entry.2.insertionSort (· ≤ ·))) =
      (ascending (items.map keyOf)).map fun key =>
        (key, ascending ((items.filter (keyOf · = key)).map valueOf)) := by
  let table := items.foldl (adjust keyOf (gather valueOf)) ∅
  have gathered : ∀ key ∈ items.map keyOf, ∃ values, table.lookup key = some values ∧
      values.Nodup ∧
      ∀ value, value ∈ values ↔ value ∈ (items.filter (keyOf · = key)).map valueOf := by
    intro key occurs
    rcases (lookup_filled keyOf (gather valueOf) items key).1 occurs with
      ⟨first, rest, own, found⟩
    rcases foldl_gather valueOf [valueOf first] (List.nodup_singleton _) rest with
      ⟨values, folded, nodup, members⟩
    refine ⟨values, found.trans folded, nodup, ?_⟩
    intro value
    rw [members, own, List.map_cons, List.mem_singleton, List.mem_cons]
  have present : ∀ key ∈ items.map keyOf,
      table.lookup key = some ((table.lookup key).getD []) := by
    intro key occurs
    rcases gathered key occurs with ⟨values, found, _⟩
    rw [found, Option.getD_some]
  rw [sortedItems_eq present fun key => (lookup_filled keyOf (gather valueOf) items key).2,
    List.map_map]
  apply List.map_congr_left
  intro key member
  rcases gathered key (mem_ascending.mp member) with ⟨values, found, nodup, members⟩
  rw [Function.comp_apply, found, Option.getD_some, insertionSort_eq_ascending nodup members]

end Listing

end Foundation
