import Mathlib.Data.Finmap

namespace VpsManager

/-- A finite table that cannot hold a record under another record's key. -/
structure Keyed {κ α : Type} [DecidableEq κ] (key : α → κ) where
  entries : Finmap (fun _ : κ => α)
  own : ∀ id record, entries.lookup id = some record → key record = id

namespace Keyed

variable {κ α : Type} [DecidableEq κ] {key : α → κ}

def empty : Keyed key where
  entries := ∅
  own := by
    intro id record found
    simp at found

def get (table : Keyed key) (id : κ) : Option α := table.entries.lookup id

/-- Store a record, in the place of any other with its key. -/
def put (table : Keyed key) (record : α) : Keyed key where
  entries := table.entries.insert (key record) record
  own := by
    intro id other found
    by_cases same : id = key record
    · subst same
      rw [Finmap.lookup_insert] at found
      rw [← Option.some.inj found]
    · rw [Finmap.lookup_insert_of_ne _ same] at found
      exact table.own id other found

def erase (table : Keyed key) (id : κ) : Keyed key where
  entries := table.entries.erase id
  own := by
    intro other record found
    by_cases same : other = id
    · subst same
      simp at found
    · rw [Finmap.lookup_erase_ne same] at found
      exact table.own other record found

/-- The records in some order, as a loop over the table meets them. -/
structure Enumerates (table : Keyed key) (records : List α) : Prop where
  nodup : records.Nodup
  mem_iff : ∀ record, record ∈ records ↔ table.get (key record) = some record

def single (record : α) : Keyed key := empty.put record

@[simp] theorem get_empty (id : κ) : (empty : Keyed key).get id = none := by
  simp [get, empty]

theorem key_of_get {table : Keyed key} {id : κ} {record : α} (found : table.get id = some record) :
    key record = id :=
  table.own id record found

theorem get_put_self (table : Keyed key) (record : α) :
    (table.put record).get (key record) = some record := by
  simp [get, put]

theorem get_put_of_ne (table : Keyed key) (record : α) {id : κ} (other : id ≠ key record) :
    (table.put record).get id = table.get id := by
  simp [get, put, Finmap.lookup_insert_of_ne _ other]

theorem get_put (table : Keyed key) (record : α) (id : κ) :
    (table.put record).get id = if id = key record then some record else table.get id := by
  by_cases same : id = key record
  · subst same
    simp [get_put_self]
  · simp [same, get_put_of_ne table record same]

theorem get_erase (table : Keyed key) (gone id : κ) :
    (table.erase gone).get id = if id = gone then none else table.get id := by
  by_cases same : id = gone
  · subst same
    simp [get, erase]
  · simp [get, erase, same, Finmap.lookup_erase_ne same]

theorem eq_of_get_single {record other : α} {id : κ}
    (found : (single record : Keyed key).get id = some other) : other = record := by
  rw [single, get_put] at found
  split at found
  · exact (Option.some.inj found).symm
  · rw [get_empty] at found
    cases found

theorem enumerates_empty : (empty : Keyed key).Enumerates [] where
  nodup := List.nodup_nil
  mem_iff record := by simp

theorem Enumerates.put {table : Keyed key} {records : List α} {record : α}
    (all : table.Enumerates records) (fresh : table.get (key record) = none) :
    (table.put record).Enumerates (record :: records) := by
  have absent : record ∉ records := by
    intro member
    rw [all.mem_iff, fresh] at member
    cases member
  refine ⟨List.nodup_cons.mpr ⟨absent, all.nodup⟩, ?_⟩
  intro other
  rw [List.mem_cons, all.mem_iff, get_put]
  split
  · rename_i same
    rw [same, fresh]
    simp [eq_comm]
  · rename_i differs
    have notSame : other ≠ record := fun same => differs (congrArg key same)
    simp [notSame]

theorem mem_single_iff (record other : α) :
    other ∈ [record] ↔ (single record : Keyed key).get (key other) = some other := by
  rw [List.mem_singleton]
  constructor
  · intro same
    rw [same]
    exact get_put_self empty record
  · exact eq_of_get_single

end Keyed

end VpsManager
