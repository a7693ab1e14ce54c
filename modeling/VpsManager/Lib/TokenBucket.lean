import Mathlib.Algebra.BigOperators.Group.List.Basic
import Mathlib.Algebra.Order.Group.MinMax
import Mathlib.Algebra.Order.Ring.Defs
import Mathlib.Tactic.Linarith

namespace VpsManager.TokenBucket

variable {K : Type} [CommRing K]

/-- What arrives: when, and how much is charged for it. -/
structure Arrival (K : Type) where
  time : K
  charge : K

def total (arrivals : List (Arrival K)) : K := (arrivals.map Arrival.charge).sum

variable {rate burst : K} {arrivals : List (Arrival K)}

/-- Arrivals at one time have only the burst. -/
theorem curve_of_simultaneous (time : K) {first : Arrival K} {between : List (Arrival K)}
    (together : ∀ arrival ∈ first :: between, arrival.time = time) :
    burst + (((first :: between).getLast (by simp)).time - first.time) * rate = burst := by
  rw [together _ (List.getLast_mem _), together first (by simp), sub_self, zero_mul, add_zero]

variable [LinearOrder K]

/-- No run of consecutive arrivals is charged more than `burst` and what `rate` gives
between the first and the last of them. -/
def WithinCurve (rate burst : K) (arrivals : List (Arrival K)) : Prop :=
  ∀ before first between after, arrivals = before ++ first :: between ++ after →
    total (first :: between) ≤
      burst + (((first :: between).getLast (by simp)).time - first.time) * rate

/-- The same for the runs that start with the first arrival, of which `credit` was left
at the time `since`. -/
def WithinCredit (rate credit since : K) (arrivals : List (Arrival K)) : Prop :=
  ∀ first between after, arrivals = first :: between ++ after →
    total (first :: between) ≤
      credit + (((first :: between).getLast (by simp)).time - since) * rate

/-- A bucket that holds `tokens` at the time `last` pays for all arrivals in turn. -/
def Pays (rate burst : K) : K → K → List (Arrival K) → Prop
  | _, _, [] => True
  | tokens, last, arrival :: rest =>
    let refilled := min (tokens + (arrival.time - last) * rate) burst
    arrival.charge ≤ refilled ∧ Pays rate burst (refilled - arrival.charge) arrival.time rest

theorem withinCurve_nil (rate burst : K) : WithinCurve rate burst [] := by
  intro before first between after same
  simp at same

theorem withinCredit_nil (rate credit since : K) : WithinCredit rate credit since [] := by
  intro first between after same
  simp at same

theorem withinCurve_cons {arrival : Arrival K} {rest : List (Arrival K)} :
    WithinCurve rate burst (arrival :: rest) ↔
      WithinCredit rate burst arrival.time (arrival :: rest) ∧ WithinCurve rate burst rest := by
  constructor
  · intro within
    constructor
    · intro first between after same
      obtain ⟨rfl, -⟩ := List.cons.inj same
      exact within [] arrival between after same
    · intro before first between after same
      exact within (arrival :: before) first between after (by rw [same]; rfl)
  · rintro ⟨starts, behind⟩ before first between after same
    cases before with
    | nil =>
      obtain ⟨rfl, -⟩ := List.cons.inj same
      exact starts arrival between after same
    | cons other before =>
      obtain ⟨-, tail⟩ := List.cons.inj same
      exact behind before first between after tail

variable [IsStrictOrderedRing K]

theorem withinCredit_cons {credit since : K} {arrival : Arrival K} {rest : List (Arrival K)} :
    WithinCredit rate credit since (arrival :: rest) ↔
      arrival.charge ≤ credit + (arrival.time - since) * rate ∧
        WithinCredit rate (credit + (arrival.time - since) * rate - arrival.charge) arrival.time
          rest := by
  constructor
  · intro within
    constructor
    · simpa [total] using within arrival [] rest rfl
    · intro first between after same
      have longer := within arrival (first :: between) after (by rw [same]; rfl)
      simp only [total, List.map_cons, List.sum_cons, List.getLast_cons_cons] at longer ⊢
      linarith
  · rintro ⟨paid, behind⟩ first between after same
    obtain ⟨rfl, tail⟩ := List.cons.inj same
    cases between with
    | nil => simpa [total] using paid
    | cons second between =>
      have shorter := behind second between after tail
      simp only [total, List.map_cons, List.sum_cons, List.getLast_cons_cons] at shorter ⊢
      linarith

theorem withinCredit_min {one other since : K} :
    WithinCredit rate (min one other) since arrivals ↔
      WithinCredit rate one since arrivals ∧ WithinCredit rate other since arrivals := by
  simp only [WithinCredit, ← min_add_add_right, le_min_iff, ← forall_and]

/-- A bucket pays for all arrivals exactly if no run of them exceeds the curve and none
that starts with the first exceeds what the bucket held. -/
theorem pays_iff {tokens last : K} :
    Pays rate burst tokens last arrivals ↔
      WithinCredit rate tokens last arrivals ∧ WithinCurve rate burst arrivals := by
  induction arrivals generalizing tokens last with
  | nil => simp [Pays, withinCurve_nil, withinCredit_nil]
  | cons arrival rest ih =>
    have own : arrival.charge ≤ burst + (arrival.time - arrival.time) * rate ↔
        arrival.charge ≤ burst := by simp
    rw [Pays, ih, withinCredit_cons, withinCurve_cons, withinCredit_cons, own,
      ← min_sub_sub_right, withinCredit_min, sub_self, zero_mul, add_zero, le_min_iff]
    tauto

/-- A bucket that is full when it is created gives nothing beyond the curve from then on. -/
theorem pays_full_iff {start : K} (nonnegative : 0 ≤ rate)
    (later : ∀ arrival ∈ arrivals.head?, start ≤ arrival.time) :
    Pays rate burst burst start arrivals ↔ WithinCurve rate burst arrivals := by
  rw [pays_iff, and_iff_right_iff_imp]
  intro within first between after same
  have bounded := within [] first between after same
  have forward : start ≤ first.time := later first (by simp [same])
  have gained := mul_le_mul_of_nonneg_right (sub_le_sub_left forward
    ((first :: between).getLast (by simp)).time) nonnegative
  linarith

/-- Equal arrivals at one time are within the curve if all of them are within the burst. -/
theorem withinCurve_replicate {time charge : K} {count : Nat} (costs : 0 ≤ charge)
    (some' : 0 < count) :
    WithinCurve rate burst (List.replicate count ⟨time, charge⟩) ↔ count * charge ≤ burst := by
  have totals : ∀ fewer, total (List.replicate fewer ⟨time, charge⟩) = (fewer : K) * charge := by
    simp [total]
  constructor
  · intro within
    obtain ⟨fewer, rfl⟩ := Nat.exists_eq_succ_of_ne_zero some'.ne'
    have all := within [] ⟨time, charge⟩ (List.replicate fewer ⟨time, charge⟩) []
      (by simp [List.replicate_succ])
    rw [curve_of_simultaneous time fun arrival member => by
      rw [List.eq_of_mem_replicate (n := fewer + 1) member]] at all
    rwa [← totals (fewer + 1)]
  · intro bounded before first between after same
    have members : ∀ arrival ∈ first :: between, arrival = ⟨time, charge⟩ := by
      intro arrival member
      refine List.eq_of_mem_replicate (n := count) ?_
      rw [same]
      exact List.mem_append_left _ (List.mem_append_right _ member)
    have fewer : (first :: between).length ≤ count := by
      have lengths := congrArg List.length same
      simp only [List.length_replicate, List.length_append] at lengths
      omega
    rw [curve_of_simultaneous time fun arrival member => by rw [members arrival member]]
    calc total (first :: between) = ((first :: between).length : K) * charge := by
          rw [← totals, ← List.eq_replicate_of_mem members]
      _ ≤ count * charge := mul_le_mul_of_nonneg_right (Nat.cast_le.mpr fewer) costs
      _ ≤ burst := bounded

end VpsManager.TokenBucket
