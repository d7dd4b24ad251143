import AnovaOven.Lib.Machine

/-!
# The button's debouncer (`anova-oven-pico-core/src/button.rs`)

Samples of the line, each with the time since the one before, are integrated until they make a press or
are seen not to. The counters of the log (`samples`, `elapsedMs`, `lastLowMs`) wrap, as they do in a
release build.
-/

namespace AnovaOven

/-- `ButtonVerdict`: what a caller does after a sample. -/
inductive ButtonVerdict where
  | idle
  | pressed
  | released
  | glitch
  deriving Repr, DecidableEq

/-- A sample of the line: whether it is low, and the milliseconds since the sample before. -/
structure LineSample where
  isLow : Bool
  elapsedMs : UInt32
  deriving Repr, DecidableEq

/-- `Debouncer`. -/
structure Debouncer where
  chargeMs : Nat
  pressed : Bool
  samples : UInt32
  peakChargeMs : Nat
  elapsedMs : UInt32
  lastLowMs : UInt32
  deriving Repr, DecidableEq

namespace Debouncer

/-- `Debouncer::PRESS_MS`. -/
def pressMs : Nat := 12

/-- `Debouncer::MAX_STEP_MS`. -/
def maxStepMs : Nat := pressMs / 2

/-- `Debouncer::new`. -/
def new : Debouncer := ⟨0, false, 0, 0, 0, 0⟩

/-- The part of `Debouncer::sample` that takes a sample in. -/
def integrate (d : Debouncer) (sample : LineSample) : Debouncer :=
  let step := min sample.elapsedMs.toNat maxStepMs
  let elapsedMs := d.elapsedMs + sample.elapsedMs
  let d := { d with samples := d.samples + 1, elapsedMs := elapsedMs }
  if sample.isLow then
    let chargeMs := min (d.chargeMs + step) pressMs
    { d with
      lastLowMs := elapsedMs
      chargeMs := chargeMs
      peakChargeMs := max d.peakChargeMs chargeMs }
  else { d with chargeMs := d.chargeMs - step }

/-- The part of `Debouncer::sample` that decides. -/
def verdict (d : Debouncer) : Debouncer × ButtonVerdict :=
  if !d.pressed && d.chargeMs ≥ pressMs then ({ d with pressed := true }, .pressed)
  else if d.chargeMs = 0 then (d, if d.pressed then .released else .glitch)
  else (d, .idle)

/-- `Debouncer::sample`. -/
def sample (d : Debouncer) (s : LineSample) : Debouncer × ButtonVerdict := (d.integrate s).verdict

end Debouncer

/-- The debouncer as a machine, with a verdict for each sample. -/
def debouncing : Machine Debouncer LineSample ButtonVerdict where
  step d s := ((d.sample s).1, [(d.sample s).2])

end AnovaOven
