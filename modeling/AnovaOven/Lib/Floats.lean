import AnovaOven.Lib.Rounding
import Mathlib.Data.Int.Log

/-!
# Floats as exact rationals

A finite `f32` or `f64` is the rational it stands for. A number is rounded to the nearest float, halves to
even, and a decimal text is read as the float nearest to it. The sign of a zero is not kept, and a number
too large for the format stays the number it is: both compare as the float would.

**What a range check on one format is worth in another** (`nearest_mem_Icc`): a number between two integers
stays between them, as long as it is smaller than the format's integers reach.
-/

/-- The nearest integer, halves to the even one. -/
def roundEven (q : ℚ) : ℤ :=
  let part := q - ⌊q⌋
  if part < 1 / 2 then ⌊q⌋
  else if 1 / 2 < part then ⌊q⌋ + 1
  else ⌊q⌋ + ⌊q⌋ % 2

/-- It is one of the integers around the number. -/
theorem roundEven_near (q : ℚ) : ⌊q⌋ ≤ roundEven q ∧ roundEven q ≤ ⌊q⌋ + 1 := by
  unfold roundEven
  dsimp only
  split_ifs <;> omega

theorem roundEven_intCast (n : ℤ) : roundEven n = n := by
  simp [roundEven]

/-- A value between integers rounds to an integer between them. -/
theorem roundEven_mem_Icc {q : ℚ} {a b : ℤ} (ha : (a : ℚ) ≤ q) (hb : q ≤ b) :
    a ≤ roundEven q ∧ roundEven q ≤ b := by
  have near := roundEven_near q
  have lower : a ≤ ⌊q⌋ := Int.le_floor.mpr ha
  rcases hb.lt_or_eq with inside | rfl
  · have upper : ⌊q⌋ < b := Int.floor_lt.mpr inside
    omega
  · rw [roundEven_intCast]
    exact ⟨by exact_mod_cast ha, le_refl b⟩

/-- The step between the floats of a number's size: with so many digits, and a lowest exponent below
which the steps don't shrink. -/
def floatStep (digits : ℕ) (lowest : ℤ) (q : ℚ) : ℚ :=
  2 ^ max (Int.log 2 |q| + 1 - digits) lowest

/-- The float nearest to a number. -/
def nearest (digits : ℕ) (lowest : ℤ) (q : ℚ) : ℚ :=
  roundEven (q / floatStep digits lowest q) * floatStep digits lowest q

/-- Among the integers a format reaches, there is a whole number of steps to one. -/
theorem floatStep_eq {digits : ℕ} {lowest : ℤ} {q : ℚ} (some : 0 < digits) (fine : lowest ≤ 0)
    (small : |q| < 2 ^ digits) : ∃ k : ℕ, floatStep digits lowest q = ((2 : ℚ) ^ k)⁻¹ := by
  have log : Int.log 2 |q| < digits := by
    by_cases zero : q = 0
    · rw [zero, abs_zero, Int.log_zero_right]
      exact_mod_cast some
    · apply (Int.lt_zpow_iff_log_lt one_lt_two (abs_pos.mpr zero)).mp
      exact_mod_cast small
  have shrinks : max (Int.log 2 |q| + 1 - digits) lowest ≤ 0 := by omega
  obtain ⟨k, eq⟩ := Int.exists_eq_neg_ofNat shrinks
  refine ⟨k, ?_⟩
  unfold floatStep
  rw [eq, zpow_neg, zpow_natCast]

/-- **Range checks.** The float nearest to a value between integers is between them. -/
theorem nearest_mem_Icc {digits : ℕ} {lowest : ℤ} {q : ℚ} {a b : ℤ} (some : 0 < digits)
    (fine : lowest ≤ 0) (small : |q| < 2 ^ digits) (ha : (a : ℚ) ≤ q) (hb : q ≤ b) :
    (a : ℚ) ≤ nearest digits lowest q ∧ nearest digits lowest q ≤ b := by
  obtain ⟨k, step⟩ := floatStep_eq some fine small
  have positive : (0 : ℚ) < 2 ^ k := by positivity
  unfold nearest
  rw [step, div_inv_eq_mul, ← div_eq_mul_inv, le_div_iff₀ positive, div_le_iff₀ positive]
  have lower : ((a * 2 ^ k : ℤ) : ℚ) ≤ q * 2 ^ k := by
    push_cast
    exact mul_le_mul_of_nonneg_right ha positive.le
  have upper : q * 2 ^ k ≤ ((b * 2 ^ k : ℤ) : ℚ) := by
    push_cast
    exact mul_le_mul_of_nonneg_right hb positive.le
  have between := roundEven_mem_Icc lower upper
  exact ⟨by exact_mod_cast between.1, by exact_mod_cast between.2⟩

/-- `as f32`: the nearest `f32`. -/
def asF32 (q : ℚ) : ℚ := nearest 24 (-149) q

/-- A value between integers an `f32` reaches is cast to one between them. -/
theorem asF32_mem_Icc {q : ℚ} {a b : ℤ} (ha : (a : ℚ) ≤ q) (hb : q ≤ b) (reach : |q| < 2 ^ 24) :
    (a : ℚ) ≤ asF32 q ∧ asF32 q ≤ b :=
  nearest_mem_Icc (by norm_num) (by norm_num) reach ha hb

/-! ## Reading one -/

/-- What a sign makes of a number, and what follows it. -/
def readSign : List Char → ℤ × List Char
  | '+' :: rest => (1, rest)
  | '-' :: rest => (-1, rest)
  | rest => (1, rest)

/-- The number that decimal digits make. -/
def digitsValue (digits : List Char) : ℕ :=
  digits.foldl (fun n c => 10 * n + (c.toNat - '0'.toNat)) 0

/-- The exponent a text of a number ends in: none where what is left of it is neither nothing nor one. -/
def readExponent : List Char → Option ℤ
  | [] => some 0
  | c :: rest =>
    let (sign, digits) := readSign rest
    if (c = 'e' ∨ c = 'E') ∧ digits ≠ [] ∧ digits.all Char.isDigit then
      some (sign * digitsValue digits)
    else none

/-- The number a decimal text stands for: a sign, digits with a point before, in or after them, and an
exponent. -/
def readDecimal (text : String) : Option ℚ :=
  let (sign, rest) := readSign text.toList
  let whole := rest.takeWhile Char.isDigit
  let rest := rest.dropWhile Char.isDigit
  let (part, rest) := match rest with
    | '.' :: rest => (rest.takeWhile Char.isDigit, rest.dropWhile Char.isDigit)
    | rest => ([], rest)
  if whole = [] ∧ part = [] then none
  else (readExponent rest).map fun exponent : ℤ =>
    sign * digitsValue (whole ++ part) * (10 : ℚ) ^ (exponent - part.length)

/-- `str::parse::<f64>`, where it gives a number: the texts of the infinities and of what isn't a number
give none. -/
def parseF64 (text : String) : Option ℚ := (readDecimal text).map (nearest 53 (-1074))
