import AnovaOven.Lib.Records
import AnovaOven.Telemetry
import Mathlib.Tactic.Positivity

/-!
# Laws of the energy totals

The integrator keeps just the last frame that was newer than all before it, and that is enough to tell the next
one (`Records.above_iff`). So its totals are left Riemann sums over those frames (`EnergyTold`), whatever
comes between them, and a total never falls (`observe_joules_le`).
-/

namespace AnovaOven

open Records

/-- The frames that are newer than every frame before them. -/
abbrev newerFrames (frames : List Frame) : List Frame := records Prod.fst frames

/-- What an element takes from a frame to the next: the frame's watts, held, unless the gap is too long. -/
def heldJoules (i : Fin 5) (frame next : Frame) : ℚ :=
  if next.1 - frame.1 ≤ maxEnergyGapMs then max frame.2[i] 0 * ((next.1 - frame.1 : Nat) / 1000) else 0

/-- The left Riemann sum of an element's power over some frames. -/
def leftRiemann (i : Fin 5) (frames : List Frame) : ℚ := sumSteps (heldJoules i) frames

theorem heldJoules_nonneg (i : Fin 5) (frame next : Frame) : 0 ≤ heldJoules i frame next := by
  unfold heldJoules
  split
  case isTrue =>
    have held : 0 ≤ max frame.2[i] 0 := le_max_right _ _
    positivity
  case isFalse => exact le_refl 0

/-! ## One frame -/

namespace EnergyIntegrator

/-- The frame the integrator keeps is older, where it keeps one. -/
def Newer (e : EnergyIntegrator) (frame : Frame) : Prop := ∀ prev ∈ e.last, prev.1 < frame.1

/-- A repeated or an older frame changes nothing. -/
theorem observe_older {e : EnergyIntegrator} {frame : Frame} (older : ¬ e.Newer frame) :
    e.observe frame.1 frame.2 = (e, false) := by
  unfold Newer at older
  push Not at older
  obtain ⟨prev, last, le⟩ := older
  unfold observe
  rw [Option.mem_def.mp last]
  exact if_pos le

/-- A newer frame is kept. -/
theorem observe_last {e : EnergyIntegrator} {frame : Frame} (newer : e.Newer frame) :
    (e.observe frame.1 frame.2).1.last = some frame := by
  unfold observe
  cases last : e.last with
  | none => rfl
  | some prev =>
    dsimp only
    rw [if_neg (newer prev last).not_ge]
    split <;> rfl

/-- It adds to each total what its element has taken since the frame before. -/
theorem observe_joules {e : EnergyIntegrator} {frame : Frame} (newer : e.Newer frame) (i : Fin 5) :
    (e.observe frame.1 frame.2).1.joules[i] = e.joules[i] + e.last.elim 0 (heldJoules i · frame) := by
  unfold observe
  cases last : e.last with
  | none => exact (add_zero _).symm
  | some prev =>
    dsimp only [Option.elim]
    rw [if_neg (newer prev last).not_ge]
    unfold heldJoules
    split
    case isTrue => exact Vector.getElem_zipWith i.isLt
    case isFalse => exact (add_zero _).symm

/-- The totals are said to change just where a frame comes soon enough after the one before. -/
theorem observe_changed (e : EnergyIntegrator) (frame : Frame) :
    (e.observe frame.1 frame.2).2 = true ↔
      ∃ prev ∈ e.last, prev.1 < frame.1 ∧ frame.1 - prev.1 ≤ maxEnergyGapMs := by
  unfold observe
  cases last : e.last with
  | none => simp
  | some prev =>
    simp only [Option.mem_def, Option.some.injEq, exists_eq_left']
    split_ifs with older soon
    case pos => simp only [not_lt.mpr older, false_and]
    case pos => simp only [not_le.mp older, soon, and_self]
    case neg => simp only [soon, and_false]

/-- A total never falls. -/
theorem observe_joules_le (e : EnergyIntegrator) (frame : Frame) (i : Fin 5) :
    e.joules[i] ≤ (e.observe frame.1 frame.2).1.joules[i] := by
  by_cases newer : e.Newer frame
  · rw [observe_joules newer]
    apply le_add_of_nonneg_right
    cases e.last with
    | none => exact le_refl 0
    | some prev => exact heldJoules_nonneg i prev frame
  · rw [observe_older newer]

end EnergyIntegrator

/-! ## Every run -/

/-- No run of frames takes from a total. -/
theorem energyIntegrator_joules_le (e : EnergyIntegrator) (frames : List Frame) (i : Fin 5) :
    e.joules[i] ≤ (energyIntegrator.run e frames).joules[i] :=
  Machine.run_keeps (I := fun now : EnergyIntegrator => e.joules[i] ≤ now.joules[i])
    (fun now frame _ le => le.trans (now.observe_joules_le frame i)) (le_refl _)

/-- The integrator after some frames. -/
abbrev integratorAfter (frames : List Frame) : EnergyIntegrator := energyIntegrator.run .new frames

/-- What the integrator holds of the frames so far: the last that was newer than all before it, and the sums up
to it. -/
structure EnergyTold (e : EnergyIntegrator) (frames : List Frame) : Prop where
  last : e.last = (newerFrames frames).getLast?
  joules : ∀ i : Fin 5, e.joules[i] = leftRiemann i (newerFrames frames)

/-- So it tells a newer frame. -/
theorem EnergyTold.newer_iff {e : EnergyIntegrator} {frames : List Frame} (told : EnergyTold e frames)
    (frame : Frame) : e.Newer frame ↔ Above Prod.fst frames frame := by
  unfold EnergyIntegrator.Newer
  rw [told.last]
  exact above_iff.symm

/-- A frame keeps it so. -/
theorem EnergyTold.next {e : EnergyIntegrator} {frames : List Frame} (told : EnergyTold e frames)
    (frame : Frame) : EnergyTold (energyIntegrator.next e frame) (frames ++ [frame]) := by
  show EnergyTold (e.observe frame.1 frame.2).1 (frames ++ [frame])
  by_cases newer : e.Newer frame
  · have record : newerFrames (frames ++ [frame]) = newerFrames frames ++ [frame] :=
      records_concat_above ((told.newer_iff frame).mp newer)
    constructor
    case last => rw [EnergyIntegrator.observe_last newer, record, List.getLast?_concat]
    case joules =>
      intro i
      rw [EnergyIntegrator.observe_joules newer, record, told.joules, told.last]
      exact (sumSteps_concat (heldJoules i) _ frame).symm
  · have same : newerFrames (frames ++ [frame]) = newerFrames frames :=
      records_concat_below ((told.newer_iff frame).not.mp newer)
    rw [EnergyIntegrator.observe_older newer]
    constructor
    case last => rw [same, told.last]
    case joules =>
      intro i
      rw [same, told.joules]

theorem energyTold_new : EnergyTold .new [] := by
  refine ⟨rfl, fun i => ?_⟩
  show (Vector.replicate 5 (0 : ℚ))[i] = 0
  exact Vector.getElem_replicate i.isLt

theorem integratorAfter_told (frames : List Frame) : EnergyTold (integratorAfter frames) frames :=
  Machine.run_past energyTold_new (fun _ _ frame told => told.next frame) frames

/-- **Energy totals.** Whatever frames come in whatever order: each element's total is the left Riemann sum of
its power over the frames newer than all before them, without the gaps that are too long. A repeated or an
older frame changes nothing, and no total ever falls. -/
theorem energy_riemann (frames : List Frame) :
    (∀ i : Fin 5, (integratorAfter frames).joules[i] = leftRiemann i (newerFrames frames)) ∧
    (∀ frame : Frame, (∃ past ∈ frames, frame.1 ≤ past.1) →
      (integratorAfter frames).observe frame.1 frame.2 = (integratorAfter frames, false)) ∧
    ∀ (later : List Frame) (i : Fin 5),
      (integratorAfter frames).joules[i] ≤ (integratorAfter (frames ++ later)).joules[i] := by
  have told := integratorAfter_told frames
  refine ⟨told.joules, fun frame older => ?_, fun later i => ?_⟩
  · apply EnergyIntegrator.observe_older
    rw [told.newer_iff]
    obtain ⟨past, item, le⟩ := older
    exact fun above => (above past item).not_ge le
  · have more : integratorAfter (frames ++ later) = energyIntegrator.run (integratorAfter frames) later :=
      energyIntegrator.run_append _ frames later
    rw [more]
    exact energyIntegrator_joules_le _ later i

end AnovaOven
