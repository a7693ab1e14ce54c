import Mathlib.Data.Finmap

namespace VpsManager.Table

variable {κ α : Type}

def size (table : Finmap (fun _ : κ => α)) : Nat := table.entries.card

section Rules

variable {table : Finmap (fun _ : κ => α)} {keep : α → Bool} {key : κ} {record : α}

theorem size_eq_card_keys : size table = table.keys.card := by
  exact (Multiset.card_map Sigma.fst table.entries).symm

variable [DecidableEq κ]

theorem size_insert (absent : key ∉ table) : size (table.insert key record) = size table + 1 := by
  rw [size, Finmap.entries_insert_of_notMem absent, Multiset.card_cons, size]

theorem size_insert_of_mem (present : key ∈ table) :
    size (table.insert key record) = size table := by
  rw [size_eq_card_keys, size_eq_card_keys]
  congr 1
  ext other
  rw [Finmap.mem_keys, Finmap.mem_keys, Finmap.mem_insert]
  exact or_iff_right_of_imp fun same => same ▸ present

theorem size_insert_le : size (table.insert key record) ≤ size table + 1 := by
  by_cases present : key ∈ table
  · rw [size_insert_of_mem present]
    exact Nat.le_succ _
  · rw [size_insert present]

theorem size_erase (present : key ∈ table) : size (table.erase key) + 1 = size table := by
  rw [size_eq_card_keys, size_eq_card_keys, Finmap.keys_erase]
  exact Finset.card_erase_add_one (Finmap.mem_keys.mpr present)

end Rules

end VpsManager.Table
