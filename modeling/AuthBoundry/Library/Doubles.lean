import Mathlib.Data.Int.Log
import Mathlib.Data.Rat.Floor

/-!
# Numbers with 53 binary digits

The number that a double stands for when another number was written, as long as
it is not beyond all doubles.
-/

namespace Library

def roundToEven (value : ℚ) : Int :=
  let below := ⌊value⌋
  if value - below < 1 / 2 ∨ (value - below = 1 / 2 ∧ below % 2 = 0) then
    below
  else
    below + 1

/-- The nearest double; between two of them, the even one. -/
def nearestDouble (value : ℚ) : ℚ :=
  let unit : ℚ := 2 ^ max (Int.log 2 |value| - 52) (-1074)
  roundToEven (value / unit) * unit

theorem roundToEven_intCast (value : Int) : roundToEven value = value := by
  simp [roundToEven]

/-- A whole number of at most 53 digits is a double. -/
theorem nearestDouble_intCast {value : Int}
    (small : value.natAbs < 2 ^ 53) : nearestDouble value = value := by
  have fine : Int.log 2 |(value : ℚ)| - 52 ≤ 0 := by
    rw [← Int.cast_abs, Int.abs_eq_natAbs, Int.cast_natCast, Int.log_natCast]
    have digits : Nat.log 2 value.natAbs < 53 :=
      Nat.log_lt_of_lt_pow' (by decide) small
    omega
  obtain ⟨digits, exponent⟩ : ∃ digits : Nat,
      max (Int.log 2 |(value : ℚ)| - 52) (-1074) = -(digits : Int) :=
    ⟨(-max (Int.log 2 |(value : ℚ)| - 52) (-1074)).toNat, by omega⟩
  have scaled : (value : ℚ) / 2 ^ (-(digits : Int)) =
      ((value * 2 ^ digits : Int) : ℚ) := by
    rw [zpow_neg, div_inv_eq_mul, zpow_natCast]
    push_cast
    rfl
  have nonzero : (2 : ℚ) ^ (-(digits : Int)) ≠ 0 :=
    zpow_ne_zero _ two_ne_zero
  rw [nearestDouble, exponent, scaled, roundToEven_intCast, ← scaled]
  exact div_mul_cancel₀ _ nonzero

end Library
