import AnovaOven.Lib.Machine
import Mathlib.Data.Rat.Defs
import Mathlib.Algebra.Order.Ring.Unbundled.Rat

/-!
# Telemetry (`telemetry.rs`)

The energy totals that the server counts from the frames the oven sends. Watts and joules are exact, and times
are milliseconds since the epoch.
-/

namespace AnovaOven

/-- `MAX_ENERGY_GAP_MS`. -/
def maxEnergyGapMs : Nat := 60000

/-- Watts or joules of each of the `ELEMENTS`: top, rear, bottom, boiler and evaporator. -/
abbrev Elements := Vector ℚ 5

/-- A frame: when it was taken, and each element's watts. -/
abbrev Frame := Nat × Elements

/-- `EnergyIntegrator`. -/
structure EnergyIntegrator where
  joules : Elements
  last : Option Frame
  deriving DecidableEq

namespace EnergyIntegrator

/-- `EnergyIntegrator::default`. -/
def new : EnergyIntegrator := ⟨Vector.replicate 5 0, none⟩

/-- `EnergyIntegrator::observe`, and whether the totals changed. -/
def observe (e : EnergyIntegrator) (frameMs : Nat) (watts : Elements) : EnergyIntegrator × Bool :=
  match e.last with
  | some (prevMs, prevWatts) =>
    if frameMs ≤ prevMs then (e, false)
    else if frameMs - prevMs ≤ maxEnergyGapMs then
      let secs : ℚ := (frameMs - prevMs : Nat) / 1000
      let joules := e.joules.zipWith (fun total w => total + max w 0 * secs) prevWatts
      (⟨joules, some (frameMs, watts)⟩, true)
    else ({ e with last := some (frameMs, watts) }, false)
  | none => ({ e with last := some (frameMs, watts) }, false)

end EnergyIntegrator

/-- The integrator as a machine, which says whether each frame changed the totals. -/
def energyIntegrator : Machine EnergyIntegrator Frame Bool where
  step e frame := ((e.observe frame.1 frame.2).1, [(e.observe frame.1 frame.2).2])

end AnovaOven
