import Mathlib.Data.List.Sort
import Mathlib.Tactic.SplitIfs
import SnapshotQuery.OrderedMap

/-!
# Entries and look-up

The entries of an ordered map are exactly what its look-up finds, so a list
computed from the entries in order depends on the look-up alone.
-/

namespace SnapshotQuery.OrderedMap

universe u v w

variable {Key : Type u} {Item : Type v} {Other : Type w} [LT Key]

theorem eq_of_entries {left right : OrderedMap Key Item} (same : left.entries = right.entries) :
    left = right := by
  obtain ⟨entries, sorted⟩ := left
  obtain rfl : entries = right.entries := same
  rfl

theorem size_eq_length_values (map : OrderedMap Key Item) : map.size = map.values.length := by
  simp [size, values]

theorem values_mapItems (change : Item → Other) (map : OrderedMap Key Item) :
    (map.mapItems change).values = map.values.map change := by
  simp [mapItems, values]

theorem values_filter (keep : Item → Bool) (map : OrderedMap Key Item) :
    (map.filter fun _ item => keep item).values = map.values.filter keep := by
  simp [filter, values, List.filter_map, Function.comp_def]

section Listing

variable [DecidableEq Key] [DecidableLT Key]

theorem insertEntry_perm {key : Key} (item : Item) {entries : List (Key × Item)}
    (fresh : key ∉ entries.map (·.1)) :
    (insertEntry key item entries).Perm ((key, item) :: entries) := by
  induction entries with
  | nil => exact .refl _
  | cons head rest inductionHypothesis =>
      rw [List.map_cons, List.mem_cons, not_or] at fresh
      obtain ⟨differs, others⟩ := fresh
      rw [insertEntry, if_neg differs]
      split_ifs
      · exact .refl _
      · exact ((inductionHypothesis others).cons head).trans (.swap _ _ rest)

variable [Std.Trichotomous (fun left right : Key => left < right)]
  [Trans (fun left right : Key => left < right) (fun left right : Key => left < right)
    (fun left right : Key => left < right)]

theorem entries_foldl_insert_perm {items : List (Key × Item)} :
    ∀ {map : OrderedMap Key Item}, ((map.entries ++ items).map (·.1)).Nodup →
      (items.foldl (fun map item => map.insert item.1 item.2) map).entries.Perm
        (map.entries ++ items) := by
  induction items with
  | nil =>
      intro map _
      rw [List.append_nil]
      exact .refl _
  | cons item rest inductionHypothesis =>
      intro map apart
      have moved : (map.entries ++ item :: rest).Perm (item :: (map.entries ++ rest)) :=
        List.perm_middle
      have once := (moved.map (·.1)).nodup_iff.mp apart
      have fresh : item.1 ∉ map.entries.map (·.1) := by
        intro held
        rw [List.map_cons, List.map_append] at once
        exact (List.nodup_cons.mp once).1 (List.mem_append_left _ held)
      have inserted : (map.insert item.1 item.2).entries.Perm (item :: map.entries) :=
        insertEntry_perm item.2 fresh
      have step := inserted.append_right rest
      exact (inductionHypothesis ((step.map (·.1)).nodup_iff.mpr once)).trans
        (step.trans moved.symm)

/-- Items with keys of their own are all listed, once each. -/
theorem entries_ofList_perm {items : List (Key × Item)} (apart : (items.map (·.1)).Nodup) :
    (ofList items).entries.Perm items :=
  entries_foldl_insert_perm apart

end Listing

variable [Std.Irrefl fun left right : Key => left < right]

theorem entries_nodup (map : OrderedMap Key Item) : map.entries.Nodup := by
  apply map.sorted.imp
  rintro first second ordered rfl
  exact Std.Irrefl.irrefl first.1 ordered

variable [DecidableEq Key]

theorem mem_entries_iff (map : OrderedMap Key Item) (key : Key) (item : Item) :
    (key, item) ∈ map.entries ↔ map.find? key = some item := by
  obtain ⟨entries, sorted⟩ := map
  simp only [find?]
  induction entries with
  | nil => simp
  | cons entry rest inductionHypothesis =>
      obtain ⟨least, restSorted⟩ := List.pairwise_cons.mp sorted
      rw [List.mem_cons, lookup_cons, inductionHypothesis restSorted]
      by_cases here : key = entry.1
      · subst here
        have absent : rest.lookup entry.1 ≠ some item := by
          intro found
          have later : (entry.1, item) ∈ rest := (inductionHypothesis restSorted).mpr found
          exact Std.Irrefl.irrefl entry.1 (least (entry.1, item) later)
        simp [Prod.ext_iff, absent, eq_comm]
      · simp [Prod.ext_iff, here]

@[simp]
theorem find?_filter (map : OrderedMap Key Item) (keep : Key → Item → Bool) (key : Key) :
    (map.filter keep).find? key = (map.find? key).filter (keep key) := by
  apply Option.ext
  intro item
  rw [← mem_entries_iff, Option.filter_eq_some_iff, ← mem_entries_iff]
  simp [filter]

/-- The head of the keys is below every other key. -/
theorem head?_keys_le {map : OrderedMap Key Item} {least key : Key} {item : Item}
    (first : map.keys.head? = some least) (found : map.find? key = some item) :
    least = key ∨ least < key := by
  obtain ⟨rest, split⟩ := List.head?_eq_some_iff.mp first
  have member : key ∈ map.keys :=
    List.mem_map.mpr ⟨(key, item), (map.mem_entries_iff key item).mpr found, rfl⟩
  have sorted := map.keys_sorted
  rw [split] at member sorted
  rcases List.mem_cons.mp member with same | later
  · exact .inl same.symm
  · exact .inr ((List.pairwise_cons.mp sorted).1 key later)

/-- What its look-up finds determines the entries of a map. -/
theorem entries_congr [Std.Asymm fun left right : Key => left < right]
    {left right : OrderedMap Key Item}
    (same : ∀ key, left.find? key = right.find? key) : left.entries = right.entries := by
  apply List.Perm.eq_of_pairwise _ left.sorted right.sorted
  · refine (List.perm_ext_iff_of_nodup left.entries_nodup right.entries_nodup).mpr ?_
    rintro ⟨key, item⟩
    rw [mem_entries_iff, mem_entries_iff, same key]
  · intro first second _ _ forward backward
    exact absurd forward (Std.Asymm.asymm _ _ backward)

/-- The items of a map are the one under a key, if there is one, and those under other keys. -/
theorem values_perm (map : OrderedMap Key Item) (key : Key) :
    map.values.Perm ((map.find? key).toList ++ (map.erase key).values) := by
  have split : map.entries.Perm
      ((map.find? key).toList.map (fun item => (key, item)) ++ (map.erase key).entries) := by
    have apart : ∀ item, (key, item) ∉ (map.erase key).entries := by
      intro item
      simp [mem_entries_iff]
    refine (List.perm_ext_iff_of_nodup map.entries_nodup ?_).mpr ?_
    · cases map.find? key with
      | none => exact (map.erase key).entries_nodup
      | some item => exact List.nodup_cons.mpr ⟨apart item, (map.erase key).entries_nodup⟩
    · rintro ⟨other, item⟩
      by_cases here : other = key
      · subst here
        simp [mem_entries_iff, apart]
      · simp [mem_entries_iff, here, Ne.symm here]
  simpa [values, Function.comp_def] using split.map fun entry => entry.2

theorem values_insert_perm [Std.Asymm fun left right : Key => left < right]
    [DecidableLT Key] [Std.Trichotomous (fun left right : Key => left < right)]
    [Trans (fun left right : Key => left < right) (fun left right : Key => left < right)
      (fun left right : Key => left < right)]
    (map : OrderedMap Key Item) (key : Key) (item : Item) :
    (map.insert key item).values.Perm (item :: (map.erase key).values) := by
  have others : ((map.insert key item).erase key).entries = (map.erase key).entries := by
    apply entries_congr
    intro other
    by_cases here : other = key <;> simp [here]
  have split := (map.insert key item).values_perm key
  rw [find?_insert, if_pos rfl] at split
  simpa [values, others] using split

end SnapshotQuery.OrderedMap
