import VpsManager.Go.Text
import VpsManager.Lib.Decimal

namespace VpsManager.Go

theorem decimal_eq {digits : List Char} (numeric : ∀ c ∈ digits, c.isDigit = true) :
    decimal digits = some (Decimal.digitsNumber digits) := by
  have fold : ∀ start : Nat, digits.foldl (fun value c => value.bind fun n =>
      if isDigitASCII c then some (10 * n + (c.toNat - 48)) else none) (some start) =
      some (digits.foldl (fun value c => 10 * value + (c.toNat - 48)) start) := by
    induction digits with
    | nil => exact fun start => rfl
    | cons c digits ih =>
      obtain ⟨here, there⟩ := List.forall_mem_cons.mp numeric
      have digit : isDigitASCII c = true := here
      intro start
      rw [List.foldl_cons, List.foldl_cons, Option.bind_some, if_pos digit, ih there]
  exact fold 0

theorem decimal_toString (n : Nat) : decimal (toString n).toList = some n := by
  rw [decimal_eq (Decimal.nat_chars n), Nat.toString_eq_repr, Nat.toList_repr,
    Decimal.digitsNumber_toDigits]

/-- `strconv.ParseInt` reads what `strconv.FormatInt` prints. -/
theorem parseInt64_toString {n : Int} (low : -(2 ^ 63) ≤ n) (high : n < 2 ^ 63) :
    parseInt64 (toString n) = some n := by
  unfold parseInt64
  extract_lets signed
  cases n with
  | ofNat m =>
    have parts : signed = (1, (toString m).toList) := by
      have digits := Decimal.nat_chars m
      have text : (toString (Int.ofNat m)).toList = (toString m).toList := rfl
      simp only [signed, text]
      split
      · rename_i rest shape
        rw [shape] at digits
        cases digits '-' List.mem_cons_self
      · rename_i rest shape
        rw [shape] at digits
        cases digits '+' List.mem_cons_self
      · rfl
    have value : (1 : Int) * m = Int.ofNat m := Int.one_mul m
    rw [parts, if_neg (by simp)]
    simp only [decimal_toString, value]
    exact if_pos ⟨low, high⟩
  | negSucc m =>
    have parts : signed = (-1, (toString (m + 1)).toList) := by
      have text : (toString (Int.negSucc m)).toList = '-' :: (toString (m + 1)).toList := by
        rw [show toString (Int.negSucc m) = "-" ++ toString (m + 1) from rfl,
          String.toList_append]
        rfl
      simp only [signed, text]
    have value : (-1 : Int) * (m + 1 : Nat) = Int.negSucc m := by omega
    rw [parts, if_neg (by simp)]
    simp only [decimal_toString, value]
    exact if_pos ⟨low, high⟩

end VpsManager.Go
