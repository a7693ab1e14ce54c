import VpsManager.Go.Text

namespace VpsManager.Go.Float64

def magnitude (x : Float64) : Nat := x.bits.toNat % 2 ^ 63

def signed (x : Float64) : Bool := 2 ^ 63 ≤ x.bits.toNat

def isNaN (x : Float64) : Bool := 2047 * 2 ^ 52 < x.magnitude

/-- `math.IsInf(x, 0)`. -/
def isInf (x : Float64) : Bool := x.magnitude = 2047 * 2 ^ 52

/-- The place among the numbers; both zeros have the same. -/
def rank (x : Float64) : Int := if x.signed then -x.magnitude else x.magnitude

/-- `x < y`, which is false if either is not a number. -/
def less (x y : Float64) : Bool := !x.isNaN && !y.isNaN && x.rank < y.rank

def zero : Float64 := ⟨0⟩
def one : Float64 := ⟨0x3FF0000000000000⟩

theorem less_iff {x y : Float64} (left : x.isNaN = false) (right : y.isNaN = false) :
    less x y = true ↔ x.rank < y.rank := by
  simp [less, left, right]

/-- The absolute value of a number, in units of the smallest one. -/
def units (x : Float64) : Nat :=
  let exponent := x.magnitude / 2 ^ 52
  let fraction := x.magnitude % 2 ^ 52
  if exponent = 0 then fraction else (2 ^ 52 + fraction) * 2 ^ (exponent - 1)

/-- How many of the smallest numbers there are in one. -/
def unitsOfOne : Nat := 2 ^ 1074

/-- The quotient of two numbers, rounded to the nearest, and to an even one if two are
as near. -/
def roundedDiv (n d : Nat) : Nat :=
  if d < 2 * (n % d) ∨ (d = 2 * (n % d) ∧ n / d % 2 = 1) then n / d + 1 else n / d

def hundredths (x : Float64) : Nat := roundedDiv (100 * x.units) unitsOfOne

def hundredthsText (n : Nat) : String :=
  toString (n / 100) ++ "." ++ toString (n / 10 % 10) ++ toString (n % 10)

/-- `%.2f`. -/
def fixed2 (x : Float64) : String :=
  if x.isNaN then "NaN"
  else if x.isInf then if x.signed then "-Inf" else "+Inf"
  else (if x.signed then "-" else "") ++ hundredthsText x.hundredths

example : fixed2 ⟨0x3FEF0A3D70A3D70A⟩ = "0.97" ∧ fixed2 ⟨0x3FC0000000000000⟩ = "0.12" ∧
    fixed2 ⟨0xC005333333333333⟩ = "-2.65" := by decide +kernel

theorem roundedDiv_le {n d k : Nat} (positive : 0 < d) (small : n ≤ k * d) :
    roundedDiv n d ≤ k := by
  have parts := Nat.div_add_mod n d
  have quotient : n / d ≤ k := by
    rw [Nat.div_le_iff_le_mul_add_pred positive]
    rw [Nat.mul_comm] at small
    omega
  unfold roundedDiv
  split
  · rename_i up
    -- something is left over, so that the quotient is below the bound
    have left : 0 < n % d := by omega
    have below : n / d ≠ k := by
      rintro rfl
      rw [Nat.mul_comm] at small
      omega
    omega
  · exact quotient

theorem unitsOfOne_pos : 0 < unitsOfOne := by
  unfold unitsOfOne
  apply Nat.two_pow_pos

theorem pow_le_unitsOfOne {e : Nat} (small : e ≤ 1074) : 2 ^ e ≤ unitsOfOne := by
  unfold unitsOfOne
  apply Nat.pow_le_pow_right
  · decide
  · exact small

theorem units_le_one {x : Float64} (small : x.magnitude ≤ one.magnitude) :
    x.units ≤ unitsOfOne := by
  have top : one.magnitude = 1023 * 2 ^ 52 := by decide
  rw [top] at small
  have cut := Nat.div_add_mod x.magnitude (2 ^ 52)
  have fraction : x.magnitude % 2 ^ 52 < 2 ^ 52 := Nat.mod_lt _ (by decide)
  unfold units
  dsimp only
  split
  · exact (fraction.trans_le (pow_le_unitsOfOne (by decide))).le
  · rename_i normal
    by_cases below : x.magnitude / 2 ^ 52 ≤ 1022
    · calc (2 ^ 52 + x.magnitude % 2 ^ 52) * 2 ^ (x.magnitude / 2 ^ 52 - 1)
          ≤ 2 ^ 53 * 2 ^ (x.magnitude / 2 ^ 52 - 1) := Nat.mul_le_mul_right _ (by omega)
        _ = 2 ^ (53 + (x.magnitude / 2 ^ 52 - 1)) := (Nat.pow_add _ _ _).symm
        _ ≤ unitsOfOne := pow_le_unitsOfOne (by omega)
    · have exponent : x.magnitude / 2 ^ 52 = 1023 := by omega
      have whole : x.magnitude % 2 ^ 52 = 0 := by omega
      rw [exponent, whole, Nat.add_zero, ← Nat.pow_add]
      apply pow_le_unitsOfOne
      decide

/-- A number from zero to one is printed as one of the hundredths. -/
theorem fixed2_of_unit {x : Float64} (number : x.isNaN = false) (low : less x zero = false)
    (high : less one x = false) :
    ∃ sign ∈ ["", "-"], ∃ n ≤ 100, fixed2 x = sign ++ hundredthsText n := by
  have isZero : zero.isNaN = false ∧ zero.rank = 0 := by decide
  have isOne : one.isNaN = false ∧ one.rank = one.magnitude := by decide
  rw [← Bool.not_eq_true, less_iff number isZero.1, isZero.2] at low
  rw [← Bool.not_eq_true, less_iff isOne.1 number, isOne.2] at high
  have small : x.magnitude ≤ one.magnitude := by
    unfold rank at low high
    cases sign : x.signed with
    | false =>
      simp only [sign, Bool.false_eq_true, if_false] at high
      omega
    | true =>
      simp only [sign, if_true] at low
      omega
  have finite : x.isInf = false := by
    have top : one.magnitude = 1023 * 2 ^ 52 := by decide
    simp only [isInf, decide_eq_false_iff_not]
    omega
  have bound : x.hundredths ≤ 100 :=
    roundedDiv_le unitsOfOne_pos (Nat.mul_le_mul_left 100 (units_le_one small))
  refine ⟨if x.signed then "-" else "", by cases x.signed <;> decide, x.hundredths, bound, ?_⟩
  simp only [fixed2, number, finite, Bool.false_eq_true, if_false]

end VpsManager.Go.Float64
