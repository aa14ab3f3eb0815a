import Mathlib.Data.List.Nodup
import Mathlib.Data.List.Dedup
import Mathlib.Order.Lattice

/-!
# Ordered maps

A map keeps its entries in the order of their keys, one for each key. Inserting a
key again replaces its value, so that of several pairs with one key the last one
stays.
-/

namespace Arisa.Std

variable {κ α : Type}

/-- `entry` is in the list, and no pair after it has its key. -/
inductive LastOf (entry : κ × α) : List (κ × α) → Prop where
  | here {rest : List (κ × α)} (last : entry.1 ∉ rest.map Prod.fst) : LastOf entry (entry :: rest)
  | later {pair : κ × α} {rest : List (κ × α)} (last : LastOf entry rest) :
      LastOf entry (pair :: rest)

section LastOf

variable {entry pair : κ × α} {pairs rest : List (κ × α)}

/-- An empty list of pairs has no last entry. -/
@[simp] theorem not_lastOf_nil : ¬ LastOf entry ([] : List (κ × α)) := by
  intro last
  cases last

/-- The first pair is a last entry only if its key does not come again. -/
theorem lastOf_cons :
    LastOf entry (pair :: rest) ↔
      LastOf entry rest ∨ entry = pair ∧ entry.1 ∉ rest.map Prod.fst := by
  constructor
  · intro last
    cases last with
    | here last => exact .inr ⟨rfl, last⟩
    | later last => exact .inl last
  · rintro (last | ⟨rfl, last⟩)
    · exact .later last
    · exact .here last

/-- A last entry is one of the pairs. -/
theorem LastOf.mem (last : LastOf entry pairs) : entry ∈ pairs := by
  induction last with
  | here last => exact List.mem_cons_self
  | later last ih => exact List.mem_cons_of_mem _ ih

/-- Every key has a last pair. -/
theorem exists_lastOf {key : κ} (listed : key ∈ pairs.map Prod.fst) :
    ∃ value, LastOf (key, value) pairs := by
  induction pairs with
  | nil => cases listed
  | cons pair rest ih =>
      by_cases again : key ∈ rest.map Prod.fst
      · obtain ⟨value, last⟩ := ih again
        exact ⟨value, .later last⟩
      · rcases List.mem_cons.mp listed with rfl | listed
        · exact ⟨pair.2, .here again⟩
        · exact absurd listed again

/-- Where no key is repeated, every pair is the last one with its key. -/
theorem lastOf_iff_mem (distinct : (pairs.map Prod.fst).Nodup) :
    LastOf entry pairs ↔ entry ∈ pairs := by
  induction pairs with
  | nil => simp
  | cons pair rest ih =>
      obtain ⟨fresh, others⟩ := List.nodup_cons.mp distinct
      rw [lastOf_cons, ih others, List.mem_cons, or_comm]
      apply or_congr_left
      constructor
      · exact And.left
      · rintro rfl
        exact ⟨rfl, fresh⟩

/-- Pairs whose keys stand in the same order, no key twice, cannot be permuted. -/
theorem eq_of_perm_of_keys {others : List (κ × α)} (permuted : pairs.Perm others)
    (same : pairs.map Prod.fst = others.map Prod.fst) (distinct : (pairs.map Prod.fst).Nodup) :
    pairs = others := by
  induction pairs generalizing others with
  | nil => exact permuted.symm.eq_nil.symm
  | cons pair rest ih =>
      cases others with
      | nil => cases same
      | cons other others =>
          obtain ⟨key, keys⟩ := List.cons.inj same
          obtain rfl : pair = other := by
            have unique := List.inj_on_of_nodup_map (permuted.map Prod.fst |>.nodup distinct)
            exact unique (permuted.mem_iff.mp List.mem_cons_self) List.mem_cons_self key
          rw [ih permuted.cons_inv keys (List.nodup_cons.mp distinct).2]

end LastOf

section Insertion

variable [LinearOrder κ]

/-- The entries stand in the strict order of their keys. -/
def KeyOrdered (entries : List (κ × α)) : Prop :=
  entries.Pairwise fun left right => left.1 < right.1

/-- A key that is there gets the new value; another one is put in its place. -/
def insertEntry (key : κ) (value : α) : List (κ × α) → List (κ × α)
  | [] => [(key, value)]
  | (other, kept) :: rest =>
      if key = other then (key, value) :: rest
      else if key < other then (key, value) :: (other, kept) :: rest
      else (other, kept) :: insertEntry key value rest

variable {key : κ} {value : α} {entries : List (κ × α)} {entry : κ × α}

/-- In order, no key comes twice. -/
theorem KeyOrdered.ne_of_mem {first : κ × α} {rest : List (κ × α)}
    (ordered : KeyOrdered (first :: rest)) (member : entry ∈ rest) : entry.1 ≠ first.1 :=
  ((List.pairwise_cons.mp ordered).1 entry member).ne'

/-- Inserting replaces the entry of the key and keeps all others. -/
theorem mem_insertEntry (ordered : KeyOrdered entries) :
    entry ∈ insertEntry key value entries ↔
      entry = (key, value) ∨ entry ∈ entries ∧ entry.1 ≠ key := by
  induction entries with
  | nil => simp [insertEntry]
  | cons first rest ih =>
      obtain ⟨other, kept⟩ := first
      obtain ⟨smallest, others⟩ := List.pairwise_cons.mp ordered
      unfold insertEntry
      split
      · rename_i same
        subst same
        have apart : entry ∈ rest → entry.1 ≠ key := ordered.ne_of_mem
        grind
      · split
        · -- every key of the list is beyond the new one
          rename_i below
          have beyond : ∀ pair ∈ rest, pair.1 ≠ key := fun pair member =>
            (below.trans (smallest pair member)).ne'
          grind
        · rw [List.mem_cons, ih others]
          grind

/-- Inserting keeps the order. -/
theorem KeyOrdered.insertEntry (ordered : KeyOrdered entries) (key : κ) (value : α) :
    KeyOrdered (insertEntry key value entries) := by
  induction entries with
  | nil => exact List.pairwise_singleton ..
  | cons first rest ih =>
      obtain ⟨other, kept⟩ := first
      obtain ⟨smallest, others⟩ := List.pairwise_cons.mp ordered
      unfold Std.insertEntry
      split
      · rename_i same
        subst same
        exact List.pairwise_cons.mpr ⟨smallest, others⟩
      · rename_i different
        split
        · rename_i below
          refine List.pairwise_cons.mpr ⟨?_, ordered⟩
          intro pair member
          rcases List.mem_cons.mp member with rfl | member
          · exact below
          · exact below.trans (smallest pair member)
        · rename_i above
          refine List.pairwise_cons.mpr ⟨?_, ih others⟩
          intro pair member
          rcases (mem_insertEntry others).mp member with rfl | ⟨member, _⟩
          · exact lt_of_le_of_ne (not_lt.mp above) (Ne.symm different)
          · exact smallest pair member

end Insertion

structure OrderedMap (κ α : Type) [LinearOrder κ] where
  entries : List (κ × α)
  ordered : KeyOrdered entries

namespace OrderedMap

variable [LinearOrder κ] {pairs : List (κ × α)} {entry : κ × α}

def empty : OrderedMap κ α := ⟨[], .nil⟩

def insert (map : OrderedMap κ α) (key : κ) (value : α) : OrderedMap κ α :=
  ⟨insertEntry key value map.entries, map.ordered.insertEntry key value⟩

/-- The pairs inserted one after the other. -/
def insertAll (map : OrderedMap κ α) : List (κ × α) → OrderedMap κ α
  | [] => map
  | pair :: rest => (map.insert pair.1 pair.2).insertAll rest

def ofPairs (pairs : List (κ × α)) : OrderedMap κ α :=
  empty.insertAll pairs

/-- So a map has each key once. -/
theorem nodup_keys (map : OrderedMap κ α) : (map.entries.map Prod.fst).Nodup :=
  List.pairwise_map.mpr (map.ordered.imp fun below => below.ne)

/-- Of the pairs inserted the last one of each key is there, and of the rest what no pair has
replaced. -/
theorem mem_insertAll (map : OrderedMap κ α) :
    entry ∈ (map.insertAll pairs).entries ↔
      LastOf entry pairs ∨ entry ∈ map.entries ∧ entry.1 ∉ pairs.map Prod.fst := by
  induction pairs generalizing map with
  | nil => simp [insertAll]
  | cons pair rest ih =>
      have inserted : entry ∈ (map.insert pair.1 pair.2).entries ↔
          entry = pair ∨ entry ∈ map.entries ∧ entry.1 ≠ pair.1 := mem_insertEntry map.ordered
      rw [insertAll, ih, inserted, lastOf_cons, List.map_cons, List.mem_cons]
      tauto

/-- Of the pairs with one key the last one is kept. -/
theorem mem_ofPairs : entry ∈ (ofPairs pairs).entries ↔ LastOf entry pairs := by
  rw [ofPairs, mem_insertAll]
  simp [empty]

/-- The keys of the map are those of the pairs. -/
theorem mem_keys_ofPairs {key : κ} :
    key ∈ (ofPairs pairs).entries.map Prod.fst ↔ key ∈ pairs.map Prod.fst := by
  constructor
  · intro kept
    obtain ⟨entry, member, rfl⟩ := List.mem_map.mp kept
    exact List.mem_map_of_mem (mem_ofPairs.mp member).mem
  · intro listed
    obtain ⟨value, last⟩ := exists_lastOf listed
    exact List.mem_map.mpr ⟨(key, value), mem_ofPairs.mpr last, rfl⟩

/-- There are as many entries as there are different keys. -/
theorem length_ofPairs : (ofPairs pairs).entries.length = (pairs.map Prod.fst).dedup.length := by
  have keys : ((ofPairs pairs).entries.map Prod.fst).Perm (pairs.map Prod.fst).dedup := by
    apply (List.perm_ext_iff_of_nodup (nodup_keys _) (List.nodup_dedup _)).mpr
    intro key
    rw [mem_keys_ofPairs, List.mem_dedup]
  simpa using keys.length_eq

/-- All pairs are kept exactly when no key is repeated. -/
theorem perm_ofPairs_iff :
    (ofPairs pairs).entries.Perm pairs ↔ (pairs.map Prod.fst).Nodup := by
  constructor
  · intro kept
    exact (kept.map Prod.fst).nodup_iff.mp (nodup_keys _)
  · intro distinct
    apply (List.perm_ext_iff_of_nodup (nodup_keys _).of_map distinct.of_map).mpr
    intro entry
    rw [mem_ofPairs, lastOf_iff_mem distinct]

end OrderedMap
end Arisa.Std
