import Mathlib.Data.Int.Basic
import Mathlib.Data.String.Basic

namespace VpsManager.Decimal

theorem nat_chars (n : Nat) : ∀ c ∈ (toString n).toList, c.isDigit = true := by
  intro c inside
  rw [Nat.toString_eq_repr, Nat.toList_repr] at inside
  exact Nat.isDigit_of_mem_toDigits (by decide) (by decide) inside

theorem int_chars (n : Int) : ∀ c ∈ (toString n).toList, c = '-' ∨ c.isDigit = true := by
  intro c inside
  cases n with
  | ofNat m => exact .inr (nat_chars m c inside)
  | negSucc m =>
    have text : toString (Int.negSucc m) = "-" ++ toString (m + 1) := rfl
    rw [text, String.toList_append, List.mem_append] at inside
    rcases inside with sign | digits
    · exact .inl (List.mem_singleton.mp sign)
    · exact .inr (nat_chars (m + 1) c digits)

theorem nat_ne_nil (n : Nat) : (toString n).toList ≠ [] := by
  rw [Nat.toString_eq_repr, Nat.toList_repr]
  exact Nat.toDigits_ne_nil

theorem int_ne_nil (n : Int) : (toString n).toList ≠ [] := by
  cases n with
  | ofNat m => exact nat_ne_nil m
  | negSucc m =>
    have text : toString (Int.negSucc m) = "-" ++ toString (m + 1) := rfl
    rw [text, String.toList_append]
    exact List.append_ne_nil_of_left_ne_nil (by decide) _

def digitsNumber (digits : List Char) : Nat :=
  digits.foldl (fun value c => 10 * value + (c.toNat - 48)) 0

/-- The last digit stands after those of the tenth. -/
theorem toDigits_split {n : Nat} (large : 10 ≤ n) :
    Nat.toDigits 10 n = Nat.toDigits 10 (n / 10) ++ [Nat.digitChar (n % 10)] := by
  have last : n % 10 < 10 := Nat.mod_lt _ (by decide)
  have joined := Nat.toDigits_append_toDigits (b := 10) (n := n / 10) (d := n % 10)
    (by decide) (by omega) last
  rw [Nat.div_add_mod, Nat.toDigits_of_lt_base last] at joined
  exact joined.symm

theorem nat_head {n : Nat} (positive : 0 < n) : (toString n).toList.head? ≠ some '0' := by
  have digit : ∀ d < 10, 0 < d → Nat.digitChar d ≠ '0' := by decide
  rw [Nat.toString_eq_repr, Nat.toList_repr]
  induction n using Nat.strongRecOn with
  | ind n ih =>
    by_cases small : n < 10
    · rw [Nat.toDigits_of_lt_base small]
      simpa using digit n small positive
    · have front := ih (n / 10) (by omega) (by omega)
      rw [toDigits_split (Nat.le_of_not_lt small),
        List.head?_append_of_ne_nil _ Nat.toDigits_ne_nil]
      exact front

theorem digitsNumber_toDigits (n : Nat) : digitsNumber (Nat.toDigits 10 n) = n := by
  have digit : ∀ d < 10, digitsNumber [Nat.digitChar d] = d := by decide
  induction n using Nat.strongRecOn with
  | ind n ih =>
    by_cases small : n < 10
    · rw [Nat.toDigits_of_lt_base small, digit n small]
    · have last : n % 10 < 10 := Nat.mod_lt _ (by decide)
      have split := toDigits_split (Nat.le_of_not_lt small)
      have front := ih (n / 10) (by omega)
      have back := digit _ last
      simp only [digitsNumber, List.foldl_cons, List.foldl_nil] at front back
      rw [split, digitsNumber, List.foldl_append, front, List.foldl_cons, List.foldl_nil]
      omega

theorem toString_nat_injective {n m : Nat} (same : toString n = toString m) : n = m := by
  rw [Nat.toString_eq_repr, Nat.toString_eq_repr, Nat.repr, Nat.repr] at same
  rw [← digitsNumber_toDigits n, String.ofList_injective same, digitsNumber_toDigits]

theorem toString_int_injective {n m : Int} (same : toString n = toString m) : n = m := by
  have unsigned : ∀ k : Nat, '-' ∉ (toString k).toList := by
    intro k inside
    have isDigit := nat_chars k _ inside
    revert isDigit
    decide
  have signed : ∀ k : Nat, toString (Int.negSucc k) = "-" ++ toString (k + 1) := fun _ => rfl
  have minus : ∀ k : Nat, '-' ∈ (toString (Int.negSucc k)).toList := by
    intro k
    rw [signed, String.toList_append]
    exact List.mem_append_left _ (by decide)
  cases n with
  | ofNat n =>
    cases m with
    | ofNat m => exact congrArg Int.ofNat (toString_nat_injective same)
    | negSucc m => exact absurd (same ▸ minus m) (unsigned n)
  | negSucc n =>
    cases m with
    | ofNat m => exact absurd (same ▸ minus n) (unsigned m)
    | negSucc m =>
      rw [signed, signed] at same
      have digits := toString_nat_injective (String.append_right_inj _ |>.mp same)
      rw [Nat.succ.inj digits]

end VpsManager.Decimal
