/-!
# Ordered maps

A finite map kept as its entries in increasing key order.  Iteration order is
the entry order, so whatever visits a map visits the keys from least to
greatest, and two maps with the same items are equal.
-/

namespace SnapshotQuery

universe u v w

instance instTransString : Trans (fun left right : String => left < right)
    (fun left right : String => left < right) (fun left right : String => left < right) :=
  ⟨String.lt_trans⟩

instance instTrichotomousString : Std.Trichotomous (fun left right : String => left < right) where
  trichotomous _ _ notBelow notAbove :=
    String.le_antisymm (String.not_lt.mp notAbove) (String.not_lt.mp notBelow)

/-- A finite map, written as its entries in increasing key order. -/
structure OrderedMap (Key : Type u) (Item : Type v) [LT Key] where
  entries : List (Key × Item)
  sorted : entries.Pairwise fun left right => left.1 < right.1
deriving DecidableEq

namespace OrderedMap

variable {Key : Type u} {Item : Type v} {Other : Type w}

theorem lookup_cons [DecidableEq Key] (key : Key) (entry : Key × Item)
    (rest : List (Key × Item)) :
    (entry :: rest).lookup key = if key = entry.1 then some entry.2 else rest.lookup key := by
  obtain ⟨held, item⟩ := entry
  by_cases here : key = held
  · have same : (key == held) = true := beq_iff_eq.mpr here
    rw [List.lookup_cons, same, if_pos here]
  · have differs : (key == held) = false := beq_eq_false_iff_ne.mpr here
    rw [List.lookup_cons, differs, if_neg here]

variable [LT Key]

def empty : OrderedMap Key Item := ⟨[], .nil⟩

instance : Inhabited (OrderedMap Key Item) := ⟨empty⟩

def keys (map : OrderedMap Key Item) : List Key := map.entries.map (·.1)

def values (map : OrderedMap Key Item) : List Item := map.entries.map (·.2)

def size (map : OrderedMap Key Item) : Nat := map.entries.length

def isEmpty (map : OrderedMap Key Item) : Bool := map.entries.isEmpty

theorem keys_sorted (map : OrderedMap Key Item) :
    map.keys.Pairwise fun left right => left < right :=
  List.pairwise_map.2 map.sorted

def filter (keep : Key → Item → Bool) (map : OrderedMap Key Item) : OrderedMap Key Item :=
  ⟨map.entries.filter fun entry => keep entry.1 entry.2, map.sorted.filter _⟩

/-- Replace every item, keeping the keys. -/
def mapItems (change : Item → Other) (map : OrderedMap Key Item) : OrderedMap Key Other :=
  ⟨map.entries.map fun entry => (entry.1, change entry.2), List.pairwise_map.2 map.sorted⟩

@[simp]
theorem keys_mapItems (change : Item → Other) (map : OrderedMap Key Item) :
    (map.mapItems change).keys = map.keys := by
  simp [mapItems, keys]

variable [DecidableEq Key]

def find? (map : OrderedMap Key Item) (key : Key) : Option Item :=
  map.entries.lookup key

def contains (map : OrderedMap Key Item) (key : Key) : Bool :=
  (map.find? key).isSome

def erase (map : OrderedMap Key Item) (key : Key) : OrderedMap Key Item :=
  map.filter fun other _ => other ≠ key

@[simp]
theorem find?_empty (key : Key) : (empty : OrderedMap Key Item).find? key = none := rfl

@[simp]
theorem find?_mapItems (change : Item → Other) (map : OrderedMap Key Item) (key : Key) :
    (map.mapItems change).find? key = (map.find? key).map change := by
  obtain ⟨entries, sorted⟩ := map
  simp only [mapItems, find?]
  clear sorted
  induction entries with
  | nil => simp
  | cons entry rest ih =>
      by_cases here : key = entry.1 <;> simp [lookup_cons, here, ih]

@[simp]
theorem find?_erase (map : OrderedMap Key Item) (key other : Key) :
    (map.erase key).find? other = if other = key then none else map.find? other := by
  obtain ⟨entries, sorted⟩ := map
  simp only [erase, filter, find?]
  clear sorted
  induction entries with
  | nil => simp
  | cons entry rest ih =>
      rw [List.filter_cons, lookup_cons]
      by_cases dropped : entry.1 = key
      · rw [if_neg (by simp [dropped]), ih, dropped]
        by_cases same : other = key <;> simp [same]
      · rw [if_pos (by simp [dropped]), lookup_cons, ih]
        by_cases here : other = entry.1 <;> simp [dropped, here]

variable [DecidableLT Key]

/-- Put an entry in its place; an entry with the same key gives way. -/
def insertEntry (key : Key) (item : Item) : List (Key × Item) → List (Key × Item)
  | [] => [(key, item)]
  | (other, kept) :: rest =>
      if key < other then (key, item) :: (other, kept) :: rest
      else if key = other then (key, item) :: rest
      else (other, kept) :: insertEntry key item rest

theorem lookup_insertEntry (key other : Key) (item : Item) (entries : List (Key × Item)) :
    (insertEntry key item entries).lookup other =
      if other = key then some item else entries.lookup other := by
  induction entries with
  | nil => simp [insertEntry, lookup_cons]
  | cons entry rest ih =>
      obtain ⟨held, kept⟩ := entry
      unfold insertEntry
      split
      · simp [lookup_cons]
      · split
        · rename_i equal
          subst equal
          by_cases same : other = key <;> simp [lookup_cons, same]
        · rename_i differs
          by_cases here : other = held
          · subst here
            simp [lookup_cons, Ne.symm differs]
          · simp [lookup_cons, here, ih]

/-- Every entry after an insertion is the new one or an old one. -/
theorem mem_insertEntry {key : Key} {item : Item} {entries : List (Key × Item)}
    {entry : Key × Item} (member : entry ∈ insertEntry key item entries) :
    entry = (key, item) ∨ entry ∈ entries := by
  induction entries with
  | nil => simpa [insertEntry] using member
  | cons head rest ih =>
      unfold insertEntry at member
      split at member
      · simpa using member
      · split at member
        · rcases List.mem_cons.1 member with new | old
          · exact .inl new
          · exact .inr (List.mem_cons_of_mem _ old)
        · rcases List.mem_cons.1 member with kept | later
          · exact .inr (kept ▸ List.mem_cons_self)
          · rcases ih later with new | old
            · exact .inl new
            · exact .inr (List.mem_cons_of_mem _ old)

variable [Std.Trichotomous (fun left right : Key => left < right)]
  [Trans (fun left right : Key => left < right) (fun left right : Key => left < right)
    (fun left right : Key => left < right)]

theorem sorted_insertEntry (key : Key) (item : Item) {entries : List (Key × Item)}
    (sorted : entries.Pairwise fun left right => left.1 < right.1) :
    (insertEntry key item entries).Pairwise fun left right => left.1 < right.1 := by
  induction entries with
  | nil => simp [insertEntry]
  | cons head rest ih =>
      obtain ⟨headLeast, restSorted⟩ := List.pairwise_cons.1 sorted
      unfold insertEntry
      split
      · rename_i below
        refine List.pairwise_cons.2 ⟨fun entry member => ?_, sorted⟩
        rcases List.mem_cons.1 member with first | later
        · exact first ▸ below
        · exact Std.lt_trans below (headLeast entry later)
      · split
        · rename_i same
          exact List.pairwise_cons.2 ⟨same ▸ headLeast, restSorted⟩
        · rename_i notBelow differs
          refine List.pairwise_cons.2 ⟨fun entry member => ?_, ih restSorted⟩
          rcases mem_insertEntry member with new | old
          · subst new
            rcases Std.lt_trichotomy key head.1 with below | equal | above
            · exact absurd below notBelow
            · exact absurd equal differs
            · exact above
          · exact headLeast entry old

def insert (map : OrderedMap Key Item) (key : Key) (item : Item) : OrderedMap Key Item :=
  ⟨insertEntry key item map.entries, sorted_insertEntry key item map.sorted⟩

@[simp]
theorem find?_insert (map : OrderedMap Key Item) (key other : Key) (item : Item) :
    (map.insert key item).find? other = if other = key then some item else map.find? other :=
  lookup_insertEntry key other item map.entries

/-- Enter a list of pairs one after the other, so the last item of a key stays. -/
def ofList (pairs : List (Key × Item)) : OrderedMap Key Item :=
  pairs.foldl (fun map pair => map.insert pair.1 pair.2) empty

end OrderedMap

end SnapshotQuery
