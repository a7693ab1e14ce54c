import Mathlib.Data.Finmap

/- Tables that remember a key until a deadline, so that it is used at most once
before then. Each use first drops the entries whose deadline has been reached. -/
namespace VpsManager.Expiring

variable {κ : Type} [DecidableEq κ]

abbrev Table (κ : Type) := Finmap (fun _ : κ => Int)

/-- Keep the entries whose deadline lies after the cutoff. -/
def prune (cutoff : Int) (table : Table κ) : Table κ where
  entries := table.entries.filter fun entry => cutoff < entry.2
  nodupKeys := by
    apply Multiset.nodup_keys.mp
    exact Multiset.nodup_of_le (Multiset.map_le_map (Multiset.filter_le _ _))
      table.nodupKeys.nodup_keys

theorem lookup_prune_eq_some (cutoff : Int) (table : Table κ) (key : κ) (deadline : Int) :
    (prune cutoff table).lookup key = some deadline ↔
      table.lookup key = some deadline ∧ cutoff < deadline := by
  have kept := Finmap.lookup_eq_some_iff (s := prune cutoff table) (a := key) (b := deadline)
  have held := Finmap.lookup_eq_some_iff (s := table) (a := key) (b := deadline)
  rw [kept, held]
  exact Multiset.mem_filter

/-- One use of a key: the entry it asks to leave behind and the instant up to
which older entries are dropped before. -/
structure Use (κ : Type) where
  key : κ
  deadline : Int
  cutoff : Int
  deriving DecidableEq, Repr

/-- A full table refuses; `none` is a table without a bound. -/
def full (limit : Option Nat) (table : Table κ) : Bool :=
  match limit with
  | none => false
  | some bound => bound ≤ table.keys.card

/-- Prune, refuse a key that is still there or a full table, else remember it. -/
def use (limit : Option Nat) (table : Table κ) (request : Use κ) : Table κ × Bool :=
  let pruned := prune request.cutoff table
  if request.key ∈ pruned then (pruned, false)
  else if full limit pruned then (pruned, false)
  else (pruned.insert request.key request.deadline, true)

def after (limit : Option Nat) : List (Use κ) → Table κ
  | [] => ∅
  | request :: earlier => (use limit (after limit earlier) request).1

def granted (limit : Option Nat) : List (Use κ) → List (Use κ)
  | [] => []
  | request :: earlier =>
    if (use limit (after limit earlier) request).2 then request :: granted limit earlier
    else granted limit earlier

theorem use_granted_lookup (limit : Option Nat) (table : Table κ) (request : Use κ)
    (success : (use limit table request).2 = true) :
    (use limit table request).1.lookup request.key = some request.deadline := by
  unfold use at success ⊢
  dsimp only at success ⊢
  split at success
  · cases success
  · rename_i absent
    split at success
    · cases success
    · rename_i room
      simp only [absent, room, ↓reduceIte]
      exact Finmap.lookup_insert _

/-- An entry whose deadline lies after the cutoff outlives any use, and a use of
its own key is refused. -/
theorem use_keeps (limit : Option Nat) (table : Table κ) (request : Use κ) (key : κ)
    (deadline : Int) (held : table.lookup key = some deadline)
    (unexpired : request.cutoff < deadline) :
    (use limit table request).1.lookup key = some deadline ∧
      (request.key = key → (use limit table request).2 = false) := by
  have kept : (prune request.cutoff table).lookup key = some deadline :=
    (lookup_prune_eq_some _ _ _ _).mpr ⟨held, unexpired⟩
  unfold use
  dsimp only
  split
  · exact ⟨kept, fun _ => rfl⟩
  · rename_i absent
    have other : key ≠ request.key := by
      rintro rfl
      exact absent (Finmap.mem_of_lookup_eq_some kept)
    split
    · exact ⟨kept, fun _ => rfl⟩
    · refine ⟨?_, fun same => absurd same.symm other⟩
      rw [Finmap.lookup_insert_of_ne _ other]
      exact kept

/-- While no cutoff has reached its deadline, a granted use is remembered. -/
theorem granted_remembered (limit : Option Nat) (history : List (Use κ)) (old : Use κ)
    (member : old ∈ granted limit history)
    (unexpired : ∀ request ∈ history, request.cutoff < old.deadline) :
    (after limit history).lookup old.key = some old.deadline := by
  induction history with
  | nil => cases member
  | cons request earlier ih =>
    have rest : ∀ entry ∈ earlier, entry.cutoff < old.deadline :=
      fun entry inside => unexpired entry (List.mem_cons_of_mem _ inside)
    have now := unexpired request (by simp)
    unfold granted at member
    split at member
    · rename_i success
      rcases List.mem_cons.mp member with rfl | inside
      · exact use_granted_lookup limit _ _ success
      · exact (use_keeps limit _ request _ _ (ih inside rest) now).1
    · exact (use_keeps limit _ request _ _ (ih member rest) now).1

/-- A second use of a key is refused as long as no cutoff, its own included, has
reached the deadline of the first. -/
theorem use_refused (limit : Option Nat) (history : List (Use κ)) (old request : Use κ)
    (member : old ∈ granted limit history) (same : request.key = old.key)
    (unexpired : ∀ entry ∈ request :: history, entry.cutoff < old.deadline) :
    (use limit (after limit history) request).2 = false := by
  have held := granted_remembered limit history old member
    (fun entry inside => unexpired entry (List.mem_cons_of_mem _ inside))
  exact (use_keeps limit _ request _ _ held (unexpired request (by simp))).2 same

/-- What the calls that use one table share: the table and the clock they read. -/
structure Clocked (κ : Type) where
  clock : Int
  table : Table κ

def Clocked.initial (clock : Int) : Clocked κ := ⟨clock, ∅⟩

/-- The clock never goes back. -/
inductive ClockStep {ε : Type} (tick : ε) : Clocked κ → ε → Clocked κ → Prop
  | tick {shared : Clocked κ} {clock : Int} (later : shared.clock ≤ clock) :
      ClockStep tick shared tick { shared with clock := clock }

section Traces

variable {ε : Type} (useOf : ε → Option (Use κ × Bool))

/-- The uses in a trace of a run, newest first, where `useOf` gives the use a
label stands for and its answer. -/
def uses (trace : List ε) : List (Use κ) := trace.filterMap fun label => (useOf label).map (·.1)

/-- A table is the one the uses of a trace left, and the trace tells the answers
they had. -/
structure Records (limit : Option Nat) (table : Table κ) (trace : List ε) : Prop where
  table : table = after limit (uses useOf trace)
  granted : ∀ label ∈ trace, ∀ old, useOf label = some (old, true) →
    old ∈ granted limit (uses useOf trace)

variable {useOf} {limit : Option Nat} {table : Table κ} {trace : List ε}

theorem Records.initial : Records useOf limit ∅ ([] : List ε) := ⟨rfl, by simp⟩

omit [DecidableEq κ] in
theorem uses_cons_none {label : ε} (unrelated : useOf label = none) :
    uses useOf (label :: trace) = uses useOf trace := by
  simp [uses, unrelated]

omit [DecidableEq κ] in
theorem uses_cons_some {label : ε} {request : Use κ} {answer : Bool}
    (related : useOf label = some (request, answer)) :
    uses useOf (label :: trace) = request :: uses useOf trace := by
  simp [uses, related]

theorem Records.skip (held : Records useOf limit table trace) (label : ε)
    (unrelated : useOf label = none) : Records useOf limit table (label :: trace) := by
  refine ⟨?_, ?_⟩
  · rw [uses_cons_none unrelated]
    exact held.table
  · intro other member old related
    rw [uses_cons_none unrelated]
    rcases List.mem_cons.mp member with rfl | member
    · rw [unrelated] at related
      cases related
    · exact held.granted other member old related

theorem Records.used (held : Records useOf limit table trace) (label : ε) (request : Use κ)
    (related : useOf label = some (request, (use limit table request).2)) :
    Records useOf limit (use limit table request).1 (label :: trace) := by
  have same := held.table
  refine ⟨?_, ?_⟩
  · rw [uses_cons_some related, same]
    rfl
  · intro other member old answered
    rw [uses_cons_some related]
    simp only [Expiring.granted]
    rw [← same]
    rcases List.mem_cons.mp member with rfl | member
    · rw [related] at answered
      obtain ⟨rfl, success⟩ := Prod.mk.inj (Option.some.inj answered)
      rw [if_pos success]
      exact List.mem_cons_self
    · have inside := held.granted other member old answered
      split
      · exact List.mem_cons_of_mem _ inside
      · exact inside

/-- A use granted in the trace blocks its key while no cutoff has reached its
deadline. -/
theorem Records.refuses (held : Records useOf limit table trace) {label : ε} {old request : Use κ}
    (member : label ∈ trace) (success : useOf label = some (old, true))
    (same : request.key = old.key)
    (unexpired : ∀ entry ∈ request :: uses useOf trace, entry.cutoff < old.deadline) :
    (use limit table request).2 = false := by
  rw [held.table]
  exact use_refused limit _ old request (held.granted label member old success) same unexpired

end Traces

end VpsManager.Expiring
