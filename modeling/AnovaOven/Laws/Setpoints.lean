import AnovaOven.Protocol.Stages
import Mathlib.Tactic.NormNum

/-!
# Setpoints

A setpoint goes out as whole degrees of both scales and reads back from the Fahrenheit, to a tenth of a
degree Celsius. The two roundings move it by half a degree Fahrenheit and by half a tenth of a degree
Celsius, so by less than a third of a degree (`readCelsius_near`). Half a tenth is less than half a
degree Fahrenheit, so what reads back goes out at the same Fahrenheit (`readCelsius_fahrenheit`), and
from then on it stays (`setpoint_stable`).
-/

namespace AnovaOven

/-! ## What reads back -/

/-- A setpoint as it reads back: the Fahrenheit sent, in tenths of a degree Celsius. -/
def readCelsius (celsius : ℚ) : ℚ :=
  (roundAway (((roundAway (celsius * 1.8 + 32) : ℚ) - 32) / 1.8 * 10) : ℚ) / 10

/-- A setpoint reads back within a third of a degree. -/
theorem readCelsius_near (celsius : ℚ) : |readCelsius celsius - celsius| < 1 / 3 := by
  have nearF := abs_le.mp (abs_roundAway_sub_le (celsius * 1.8 + 32))
  have nearT := abs_le.mp (abs_roundAway_sub_le
    (((roundAway (celsius * 1.8 + 32) : ℚ) - 32) / 1.8 * 10))
  unfold readCelsius
  generalize (roundAway (celsius * 1.8 + 32) : ℚ) = f at nearF nearT ⊢
  generalize (roundAway ((f - 32) / 1.8 * 10) : ℚ) = tenths at nearT ⊢
  have scale : (f - 32) / 1.8 * 10 = (f - 32) * (50 / 9) := by norm_num; ring
  rw [scale] at nearT
  rw [abs_lt]
  constructor <;> linarith

/-- What reads back goes out at the same Fahrenheit. -/
theorem readCelsius_fahrenheit (celsius : ℚ) :
    roundAway (readCelsius celsius * 1.8 + 32) = roundAway (celsius * 1.8 + 32) := by
  have nearT := abs_le.mp (abs_roundAway_sub_le
    (((roundAway (celsius * 1.8 + 32) : ℚ) - 32) / 1.8 * 10))
  apply roundAway_of_near
  unfold readCelsius
  generalize (roundAway (celsius * 1.8 + 32) : ℚ) = f at nearT ⊢
  generalize (roundAway ((f - 32) / 1.8 * 10) : ℚ) = tenths at nearT ⊢
  have scale : (f - 32) / 1.8 * 10 = (f - 32) * (50 / 9) := by norm_num; ring
  rw [scale] at nearT
  rw [abs_lt]
  constructor <;> linarith

/-- What reads back is between bounds that the Fahrenheit sent is between. -/
theorem readCelsius_of_fahrenheit {celsius : ℚ} (low high tenthsLow tenthsHigh : ℤ)
    (sent : low ≤ roundAway (celsius * 1.8 + 32) ∧ roundAway (celsius * 1.8 + 32) ≤ high)
    (isLow : (tenthsLow : ℚ) ≤ ((low : ℚ) - 32) * (50 / 9))
    (isHigh : ((high : ℚ) - 32) * (50 / 9) ≤ tenthsHigh) :
    (tenthsLow : ℚ) / 10 ≤ readCelsius celsius ∧ readCelsius celsius ≤ (tenthsHigh : ℚ) / 10 := by
  have low' : (low : ℚ) ≤ roundAway (celsius * 1.8 + 32) := by exact_mod_cast sent.1
  have high' : (roundAway (celsius * 1.8 + 32) : ℚ) ≤ high := by exact_mod_cast sent.2
  unfold readCelsius
  generalize (roundAway (celsius * 1.8 + 32) : ℚ) = f at low' high' ⊢
  have scale : (f - 32) / 1.8 * 10 = (f - 32) * (50 / 9) := by norm_num; ring
  rw [scale]
  obtain ⟨lower, upper⟩ := roundAway_mem_Icc (q := (f - 32) * (50 / 9)) (a := tenthsLow)
    (b := tenthsHigh) (by linarith) (by linarith)
  have lower : (tenthsLow : ℚ) ≤ roundAway ((f - 32) * (50 / 9)) := by exact_mod_cast lower
  have upper : (roundAway ((f - 32) * (50 / 9)) : ℚ) ≤ tenthsHigh := by exact_mod_cast upper
  constructor <;> linarith

/-- A stage's temperature reads back within the bounds it is checked against. -/
theorem readCelsius_temperature {celsius : ℚ} (lower : 25 ≤ celsius) (upper : celsius ≤ 250) :
    25 ≤ readCelsius celsius ∧ readCelsius celsius ≤ 250 := by
  have sent : 77 ≤ roundAway (celsius * 1.8 + 32) ∧ roundAway (celsius * 1.8 + 32) ≤ 482 := by
    refine roundAway_mem_Icc ?_ ?_ <;> push_cast <;> linarith
  have range := readCelsius_of_fahrenheit 77 482 250 2500 sent
    (by norm_num) (by norm_num)
  norm_num at range
  exact range

theorem readCelsius_sousVide {celsius : ℚ} (lower : 25 ≤ celsius) (upper : celsius ≤ 100) :
    readCelsius celsius ≤ 100 := by
  have sent : 77 ≤ roundAway (celsius * 1.8 + 32) ∧ roundAway (celsius * 1.8 + 32) ≤ 212 := by
    refine roundAway_mem_Icc ?_ ?_ <;> push_cast <;> linarith
  have range := readCelsius_of_fahrenheit 77 212 250 1000 sent
    (by norm_num) (by norm_num)
  norm_num at range
  exact range.2

/-- A target reads back within its bounds. One degree goes out as 34 °F. -/
theorem readCelsius_target {celsius : ℚ} (lower : 1 ≤ celsius) (upper : celsius ≤ 100) :
    1 ≤ readCelsius celsius ∧ readCelsius celsius ≤ 100 := by
  have above : (33 : ℚ) < roundAway (celsius * 1.8 + 32) := by
    have near := abs_le.mp (abs_roundAway_sub_le (celsius * 1.8 + 32))
    norm_num at near
    linarith
  have high : 33 ≤ roundAway (celsius * 1.8 + 32) ∧ roundAway (celsius * 1.8 + 32) ≤ 212 := by
    refine roundAway_mem_Icc ?_ ?_ <;> push_cast <;> linarith
  have low : 33 < roundAway (celsius * 1.8 + 32) := by exact_mod_cast above
  have range := readCelsius_of_fahrenheit 34 212 10 1000 ⟨by omega, high.2⟩
    (by norm_num) (by norm_num)
  norm_num at range
  exact range

/-! ## The roundings -/

/-- Whether a number fits an `i32`. -/
def FitsI32 (n : ℤ) : Prop := -2 ^ 31 ≤ n ∧ n ≤ 2 ^ 31 - 1

/-- Both roundings of a setpoint fit an `i32`. -/
structure RoundingsFit (celsius : ℚ) : Prop where
  inCelsius : FitsI32 (roundAway celsius)
  inFahrenheit : FitsI32 (roundAway (celsius * 1.8 + 32))

/-- Both roundings of a setpoint within an oven's range fit. -/
theorem roundingsFit_of_mem {celsius : ℚ} (lower : 1 ≤ celsius) (upper : celsius ≤ 250) :
    RoundingsFit celsius := by
  have inC : 1 ≤ roundAway celsius ∧ roundAway celsius ≤ 250 :=
    roundAway_mem_Icc (by exact_mod_cast lower) (by exact_mod_cast upper)
  have inF : 0 ≤ roundAway (celsius * 1.8 + 32) ∧ roundAway (celsius * 1.8 + 32) ≤ 482 := by
    refine roundAway_mem_Icc ?_ ?_
    · push_cast
      linarith
    · push_cast
      linarith
  constructor <;> constructor <;> omega

/-- What reads back of a setpoint whose roundings fit has roundings that fit: it goes out at the same
Fahrenheit, and that is further from zero than the Celsius, where either is large. -/
theorem RoundingsFit.readCelsius {celsius : ℚ} (fit : RoundingsFit celsius) :
    RoundingsFit (readCelsius celsius) := by
  refine ⟨?_, by rw [readCelsius_fahrenheit]; exact fit.inFahrenheit⟩
  have near := abs_lt.mp (readCelsius_near celsius)
  have nearF := abs_le.mp (abs_roundAway_sub_le (celsius * 1.8 + 32))
  have lower : (-2 ^ 31 : ℚ) ≤ roundAway (celsius * 1.8 + 32) := by
    exact_mod_cast fit.inFahrenheit.1
  have upper : (roundAway (celsius * 1.8 + 32) : ℚ) ≤ 2 ^ 31 - 1 := by
    exact_mod_cast fit.inFahrenheit.2
  apply roundAway_mem_Icc
  · push_cast
    linarith
  · push_cast
    linarith

theorem setpointJson_eq {celsius : ℚ} (fit : RoundingsFit celsius) :
    setpointJson celsius = .obj [("celsius", .int (roundAway celsius)),
      ("fahrenheit", .int (roundAway (celsius * 1.8 + 32)))] := by
  unfold setpointJson
  rw [asI32_of_mem fit.inCelsius.1 fit.inCelsius.2, asI32_of_mem fit.inFahrenheit.1 fit.inFahrenheit.2]

/-- **Setpoints.** A setpoint reads back as the Fahrenheit sent: the Celsius sent is half a degree from
it at most, and it is a third of a degree from what reads back, so the two agree. -/
theorem setpointCelsius_setpointJson_of_fit {celsius : ℚ} (fit : RoundingsFit celsius) :
    setpointCelsius (setpointJson celsius) = some (readCelsius celsius) := by
  have nearC := abs_le.mp (abs_roundAway_sub_le celsius)
  have kept : |readCelsius celsius - (roundAway celsius : ℚ)| ≤ 1 := by
    have near := abs_lt.mp (readCelsius_near celsius)
    rw [abs_le]
    constructor <;> linarith
  unfold AnovaOven.readCelsius at kept ⊢
  rw [setpointJson_eq fit]
  simp [setpointCelsius, List.lookup_cons, Option.filter, kept]

theorem setpointCelsius_setpointJson_eq {celsius : ℚ} (lower : 1 ≤ celsius) (upper : celsius ≤ 250) :
    setpointCelsius (setpointJson celsius) = some (readCelsius celsius) :=
  setpointCelsius_setpointJson_of_fit (roundingsFit_of_mem lower upper)

/-! ## Round trips -/

/-- A setpoint after some round trips: sent and read back as often. -/
def roundTrips : Nat → ℚ → Option ℚ
  | 0, celsius => some celsius
  | n + 1, celsius => (roundTrips n celsius).bind fun celsius =>
    setpointCelsius (setpointJson celsius)

/-- What reads back twice reads back as what read back once. -/
theorem readCelsius_readCelsius (celsius : ℚ) :
    readCelsius (readCelsius celsius) = readCelsius celsius := by
  rw [readCelsius, readCelsius_fahrenheit, ← readCelsius]

theorem roundTrips_succ {celsius : ℚ} (fit : RoundingsFit celsius) (n : Nat) :
    roundTrips (n + 1) celsius = some (readCelsius celsius) := by
  induction n with
  | zero => exact setpointCelsius_setpointJson_of_fit fit
  | succ n ih =>
    rw [roundTrips, ih, Option.bind_some, setpointCelsius_setpointJson_of_fit fit.readCelsius,
      readCelsius_readCelsius]

/-- A whole degree Fahrenheit is sent as it is. -/
theorem readCelsius_whole {celsius : ℚ} {fahrenheit : ℤ} (whole : celsius * 1.8 + 32 = fahrenheit) :
    readCelsius celsius = (roundAway (celsius * 10) : ℚ) / 10 := by
  have sent : roundAway (celsius * 1.8 + 32) = fahrenheit := by
    apply roundAway_of_near
    rw [whole, sub_self, abs_zero]
    norm_num
  have back : ((fahrenheit : ℚ) - 32) / 1.8 = celsius := by
    rw [← whole]
    ring
  rw [readCelsius, sent, back]

/-- **Stable setpoints.** A setpoint whose roundings fit reads back, within a third of a degree. What
reads back goes out at the same Fahrenheit, so every further round trip reads back the same. A whole
degree Fahrenheit reads back as it is, to a tenth of a degree Celsius, and what is within the oven's
range stays within it. -/
theorem setpoint_stable {celsius : ℚ} (fit : RoundingsFit celsius) :
    ∃ read, setpointCelsius (setpointJson celsius) = some read ∧
      |read - celsius| ≤ 1 / 3 ∧
      (setpointJson read).get "fahrenheit" = (setpointJson celsius).get "fahrenheit" ∧
      (∀ n, roundTrips (n + 1) celsius = some read) ∧
      (∀ fahrenheit : ℤ, celsius * 1.8 + 32 = fahrenheit →
        read = (roundAway (celsius * 10) : ℚ) / 10) ∧
      (25 ≤ celsius ∧ celsius ≤ 250 → 25 ≤ read ∧ read ≤ 250) := by
  refine ⟨readCelsius celsius, setpointCelsius_setpointJson_of_fit fit,
    (readCelsius_near celsius).le, ?_, roundTrips_succ fit, ?_, ?_⟩
  · show some (Json.int (asI32 (roundAway (readCelsius celsius * 1.8 + 32)))) = _
    rw [readCelsius_fahrenheit]
    rfl
  · intro fahrenheit whole
    exact readCelsius_whole whole
  · rintro ⟨lower, upper⟩
    exact readCelsius_temperature lower upper

/-- Half way between two degrees Celsius, a setpoint stays what it first reads back as. -/
theorem setpoint_stable_half :
    ∃ read, setpointCelsius (setpointJson 180.5) = some read ∧ |read - 180.5| ≤ 1 / 3 ∧
      (setpointJson read).get "fahrenheit" = (setpointJson 180.5).get "fahrenheit" ∧
      (∀ n, roundTrips (n + 1) 180.5 = some read) ∧
      (∀ fahrenheit : ℤ, (180.5 : ℚ) * 1.8 + 32 = fahrenheit →
        read = (roundAway (180.5 * 10) : ℚ) / 10) ∧
      (25 ≤ (180.5 : ℚ) ∧ (180.5 : ℚ) ≤ 250 → 25 ≤ read ∧ read ≤ 250) :=
  setpoint_stable (roundingsFit_of_mem (by norm_num) (by norm_num))

end AnovaOven
