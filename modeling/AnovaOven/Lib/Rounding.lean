import Mathlib.Algebra.Order.Floor.Ring
import Mathlib.Data.Rat.Floor
import Mathlib.Tactic.Linarith
import Mathlib.Tactic.Ring

/-!
# Rounding half away from zero

`f32::round` and `f64::round` over exact rationals, and the saturating cast to 32-bit integers.
The bound every setpoint law rests on is `abs_roundAway_sub_le`: rounding moves a value by at most
one half.
-/

/-- The nearest integer, halves away from zero. -/
def roundAway (q : ℚ) : ℤ := if 0 ≤ q then ⌊q + 1 / 2⌋ else -⌊-q + 1 / 2⌋

/-- Rounding moves a value by at most one half. -/
theorem abs_roundAway_sub_le (q : ℚ) : |(roundAway q : ℚ) - q| ≤ 1 / 2 := by
  unfold roundAway
  split
  · have lower := Int.floor_le (q + 1 / 2)
    have upper := Int.lt_floor_add_one (q + 1 / 2)
    rw [abs_le]
    constructor <;> linarith
  · have lower := Int.floor_le (-q + 1 / 2)
    have upper := Int.lt_floor_add_one (-q + 1 / 2)
    rw [abs_le]
    push_cast
    constructor <;> linarith

/-- A value between integer bounds rounds to an integer between them. -/
theorem roundAway_mem_Icc {q : ℚ} {a b : ℤ} (ha : (a : ℚ) ≤ q) (hb : q ≤ b) :
    a ≤ roundAway q ∧ roundAway q ≤ b := by
  have near := abs_le.mp (abs_roundAway_sub_le q)
  have lower : (a : ℚ) < roundAway q + 1 := by linarith
  have upper : (roundAway q : ℚ) < b + 1 := by linarith
  have lower' : a < roundAway q + 1 := by exact_mod_cast lower
  have upper' : roundAway q < b + 1 := by exact_mod_cast upper
  omega

/-- A value near an integer rounds to it. -/
theorem roundAway_of_near {q : ℚ} {n : ℤ} (near : |q - n| < 1 / 2) : roundAway q = n := by
  have rounding := abs_le.mp (abs_roundAway_sub_le q)
  have near := abs_lt.mp near
  have lower : (n : ℚ) - 1 < roundAway q := by linarith
  have upper : (roundAway q : ℚ) < n + 1 := by linarith
  have lower' : n - 1 < roundAway q := by exact_mod_cast lower
  have upper' : roundAway q < n + 1 := by exact_mod_cast upper
  omega

/-- A float-to-`i32` cast of an integral value: it saturates. -/
def asI32 (n : ℤ) : ℤ := max (-2 ^ 31) (min n (2 ^ 31 - 1))

theorem asI32_of_mem {n : ℤ} (lower : -2 ^ 31 ≤ n) (upper : n ≤ 2 ^ 31 - 1) : asI32 n = n := by
  unfold asI32
  omega
