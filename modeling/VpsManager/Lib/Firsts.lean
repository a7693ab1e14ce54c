import Mathlib.Data.List.Basic

namespace VpsManager.Firsts

variable {κ β σ ν : Type} [DecidableEq κ]

/-- Apply the entry, unless its key has been seen. -/
def take (apply : κ → β → σ → σ) (state : σ × List κ) (entry : κ × β) : σ × List κ :=
  if entry.1 ∈ state.2 then state else (apply entry.1 entry.2 state.1, entry.1 :: state.2)

variable {apply : κ → β → σ → σ} {key : κ}

theorem mem_seen (entries : List (κ × β)) (state : σ × List κ) :
    key ∈ (entries.foldl (take apply) state).2 ↔
      key ∈ state.2 ∨ key ∈ entries.map Prod.fst := by
  induction entries generalizing state with
  | nil => simp
  | cons entry rest ih =>
    rw [List.foldl_cons, ih, List.map_cons, List.mem_cons, take]
    by_cases seen : entry.1 ∈ state.2
    · rw [if_pos seen]
      constructor
      · rintro (before | later)
        · exact .inl before
        · exact .inr (.inr later)
      · rintro (before | rfl | later)
        · exact .inl before
        · exact .inl seen
        · exact .inr later
    · rw [if_neg seen, List.mem_cons]
      tauto

section View

variable {view : σ → ν}
  (others : ∀ other value state, other ≠ key → view (apply other value state) = view state)

include others

/-- What only the entries of a key change stays once the key has been seen. -/
theorem view_seen (entries : List (κ × β)) (state : σ × List κ) (seen : key ∈ state.2) :
    view (entries.foldl (take apply) state).1 = view state.1 := by
  induction entries generalizing state with
  | nil => rfl
  | cons entry rest ih =>
    rw [List.foldl_cons, take]
    split
    · exact ih state seen
    · rename_i unseen
      rw [ih _ (List.mem_cons_of_mem _ seen)]
      exact others _ _ _ fun same => unseen (same ▸ seen)

theorem view_absent (entries : List (κ × β)) (state : σ × List κ)
    (absent : key ∉ entries.map Prod.fst) :
    view (entries.foldl (take apply) state).1 = view state.1 := by
  induction entries generalizing state with
  | nil => rfl
  | cons entry rest ih =>
    rw [List.map_cons, List.mem_cons, not_or] at absent
    rw [List.foldl_cons, ih _ absent.2, take]
    split
    · rfl
    · exact others _ _ _ (Ne.symm absent.1)

/-- Otherwise it is what the first entry of the key makes of it. -/
theorem view_first {before after : List (κ × β)} {value : β} (state : σ × List κ)
    (unseen : key ∉ state.2) (first : key ∉ before.map Prod.fst) :
    ∃ between, view between = view state.1 ∧
      view ((before ++ (key, value) :: after).foldl (take apply) state).1 =
        view (apply key value between) := by
  refine ⟨(before.foldl (take apply) state).1, view_absent others before state first, ?_⟩
  rw [List.foldl_append, List.foldl_cons, take, if_neg]
  · rw [view_seen others after _ List.mem_cons_self]
  · rw [mem_seen, not_or]
    exact ⟨unseen, first⟩

end View

end VpsManager.Firsts
