import AnovaOven.PicoCore.Button
import Mathlib.Data.List.Infix

/-!
# Laws of the debouncer

The `evidence` of a list of samples is what it says of a press: each low sample adds its gap, capped at half
the threshold, and each high one takes as much away, between nothing and the threshold. A debouncer says
`pressed` just at the first sample at which the evidence of all it took reaches the threshold
(`pressed_iff`), so once at most, and never at the first low sample (`evidence_le`). What it says of an
excursion's end goes by whether it said so (`released_after`, `glitch_before`).
-/

namespace AnovaOven

open Debouncer (pressMs maxStepMs)

/-! ## The evidence -/

/-- What a sample makes of the evidence before it. -/
def LineSample.weigh (evidence : Nat) (s : LineSample) : Nat :=
  if s.isLow then min (evidence + min s.elapsedMs.toNat (pressMs / 2)) pressMs
  else evidence - min s.elapsedMs.toNat (pressMs / 2)

/-- The evidence of a press in a list of samples. -/
def evidence (samples : List LineSample) : Nat := samples.foldl LineSample.weigh 0

theorem evidence_concat (samples : List LineSample) (s : LineSample) :
    evidence (samples ++ [s]) = s.weigh (evidence samples) :=
  List.foldl_concat ..

/-- The evidence of some earlier part of the samples reached the threshold. -/
def Reached (samples : List LineSample) : Prop :=
  ∃ earlier, earlier <+: samples ∧ pressMs ≤ evidence earlier

theorem reached_concat (samples : List LineSample) (s : LineSample) :
    Reached (samples ++ [s]) ↔ Reached samples ∨ pressMs ≤ evidence (samples ++ [s]) := by
  constructor
  · rintro ⟨earlier, within, reaches⟩
    rcases List.prefix_concat_iff.mp within with rfl | before
    · exact .inr reaches
    · exact .inl ⟨earlier, before, reaches⟩
  · rintro (⟨earlier, within, reaches⟩ | reaches)
    · exact ⟨earlier, within.trans (List.prefix_append samples [s]), reaches⟩
    · exact ⟨_, List.prefix_rfl, reaches⟩

/-- **Low samples.** Each brings half the threshold at most. -/
theorem evidence_le (samples : List LineSample) :
    evidence samples ≤ pressMs / 2 * samples.countP LineSample.isLow := by
  induction samples using List.reverseRecOn with
  | nil => exact Nat.le_refl 0
  | append_singleton samples s ih =>
    rw [evidence_concat, List.countP_append]
    unfold LineSample.weigh pressMs at *
    cases low : s.isLow with
    | true =>
      have one : [s].countP LineSample.isLow = 1 := by simp [low]
      rw [if_pos rfl, one]
      omega
    | false =>
      rw [if_neg Bool.false_ne_true]
      omega

/-- The evidence is never past the threshold. -/
theorem evidence_le_press (samples : List LineSample) : evidence samples ≤ pressMs := by
  induction samples using List.reverseRecOn with
  | nil => exact Nat.zero_le pressMs
  | append_singleton samples s ih =>
    rw [evidence_concat]
    unfold LineSample.weigh
    split_ifs <;> omega

/-! ## One sample -/

namespace Debouncer

theorem integrate_chargeMs (d : Debouncer) (s : LineSample) :
    (d.integrate s).chargeMs = s.weigh d.chargeMs := by
  unfold integrate LineSample.weigh
  cases s.isLow <;> rfl

theorem integrate_pressed (d : Debouncer) (s : LineSample) :
    (d.integrate s).pressed = d.pressed := by
  unfold integrate
  cases s.isLow <;> rfl

/-- What a sample does to the charge. -/
theorem sample_chargeMs (d : Debouncer) (s : LineSample) :
    (d.sample s).1.chargeMs = s.weigh d.chargeMs := by
  rw [← integrate_chargeMs]
  unfold sample verdict
  split_ifs <;> rfl

/-- What decides of a press: the debouncer is charged and wasn't pressed. -/
theorem verdict_eq (d : Debouncer) :
    d.verdict =
      if d.pressed = false ∧ pressMs ≤ d.chargeMs then ({ d with pressed := true }, .pressed)
      else if d.chargeMs = 0 then (d, if d.pressed then .released else .glitch)
      else (d, .idle) := by
  unfold verdict
  simp only [Bool.and_eq_true, Bool.not_eq_true', decide_eq_true_eq, ge_iff_le]

/-- A debouncer is pressed from the sample on that charges it. -/
theorem sample_pressed (d : Debouncer) (s : LineSample) :
    (d.sample s).1.pressed = true ↔ d.pressed = true ∨ pressMs ≤ s.weigh d.chargeMs := by
  rw [← integrate_chargeMs, ← integrate_pressed d s]
  unfold sample
  rw [verdict_eq]
  cases was : (d.integrate s).pressed with
  | true =>
    rw [if_neg (by simp)]
    split_ifs <;> simp [was]
  | false =>
    by_cases charged : pressMs ≤ (d.integrate s).chargeMs
    · rw [if_pos ⟨rfl, charged⟩]
      exact iff_of_true rfl (.inr charged)
    · rw [if_neg fun both => charged both.2]
      split_ifs <;> simp [was, charged]

/-- **A press** is told just when the debouncer is charged and wasn't pressed. -/
theorem sample_verdict_pressed (d : Debouncer) (s : LineSample) :
    (d.sample s).2 = .pressed ↔ d.pressed = false ∧ pressMs ≤ s.weigh d.chargeMs := by
  rw [← integrate_chargeMs, ← integrate_pressed d s]
  unfold sample
  rw [verdict_eq]
  split_ifs with press <;> simp [press]

/-- A release is told of a debouncer that was pressed, and a glitch of one that wasn't. -/
theorem sample_released {d : Debouncer} {s : LineSample} (h : (d.sample s).2 = .released) :
    d.pressed = true := by
  rw [← integrate_pressed d s]
  unfold sample at h
  rw [verdict_eq] at h
  split_ifs at h with press ended was
  exact was

theorem sample_glitch {d : Debouncer} {s : LineSample} (h : (d.sample s).2 = .glitch) :
    d.pressed = false := by
  rw [← integrate_pressed d s]
  unfold sample at h
  rw [verdict_eq] at h
  split_ifs at h with press ended was
  exact Bool.eq_false_iff.mpr was

end Debouncer

/-! ## Any samples -/

/-- The charge is the evidence of the samples so far. -/
theorem run_chargeMs (samples : List LineSample) :
    (debouncing.run Debouncer.new samples).chargeMs = evidence samples := by
  induction samples using List.reverseRecOn with
  | nil => rfl
  | append_singleton samples s ih =>
    rw [Machine.run_append, evidence_concat, ← ih]
    exact Debouncer.sample_chargeMs _ s

/-- A debouncer is pressed where the evidence reached the threshold. -/
theorem run_pressed (samples : List LineSample) :
    (debouncing.run Debouncer.new samples).pressed = true ↔ Reached samples := by
  induction samples using List.reverseRecOn with
  | nil =>
    apply iff_of_false Bool.false_ne_true
    rintro ⟨earlier, within, reaches⟩
    rw [List.prefix_nil.mp within] at reaches
    exact absurd reaches (by decide)
  | append_singleton samples s ih =>
    rw [reached_concat, ← ih, evidence_concat, ← run_chargeMs, Machine.run_append]
    exact Debouncer.sample_pressed _ s

/-- **A press is told** just at the first sample at which the evidence reaches the threshold. -/
theorem pressed_iff (past : List LineSample) (s : LineSample) :
    ((debouncing.run Debouncer.new past).sample s).2 = .pressed ↔
      pressMs ≤ evidence (past ++ [s]) ∧ ¬ Reached past := by
  rw [Debouncer.sample_verdict_pressed, run_chargeMs, evidence_concat, ← run_pressed,
    Bool.not_eq_true, and_comm]

/-- **Once.** A press is told once where a debouncer is pressed, and never where it isn't. -/
theorem count_pressed (samples : List LineSample) :
    (debouncing.trace Debouncer.new samples).count .pressed =
      (debouncing.run Debouncer.new samples).pressed.toNat := by
  induction samples using List.reverseRecOn with
  | nil => rfl
  | append_singleton samples s ih =>
    rw [Machine.trace_append, List.count_append, ih, Machine.run_append]
    show _ + [(Debouncer.sample _ s).2].count .pressed = (Debouncer.sample _ s).1.pressed.toNat
    have told := Debouncer.sample_verdict_pressed (debouncing.run Debouncer.new samples) s
    have after := Debouncer.sample_pressed (debouncing.run Debouncer.new samples) s
    by_cases press : ((debouncing.run Debouncer.new samples).sample s).2 = .pressed
    · obtain ⟨was, charged⟩ := told.mp press
      rw [press, was, after.mpr (.inr charged)]
      rfl
    · have same : ((debouncing.run Debouncer.new samples).sample s).1.pressed =
          (debouncing.run Debouncer.new samples).pressed := by
        apply Bool.eq_iff_iff.mpr
        rw [after]
        refine ⟨fun pressed => pressed.elim id fun charged => ?_, .inl⟩
        by_contra was
        exact press (told.mpr ⟨Bool.eq_false_iff.mpr was, charged⟩)
      rw [same, List.count_singleton, if_neg (by simpa using press), Nat.add_zero]

/-- A press was told where the evidence reached the threshold. -/
theorem mem_trace_pressed (samples : List LineSample) :
    .pressed ∈ debouncing.trace Debouncer.new samples ↔ Reached samples := by
  rw [← run_pressed, ← List.count_pos_iff, count_pressed]
  cases (debouncing.run Debouncer.new samples).pressed <;> simp

/-- **The debouncer**, whatever samples it is fed. It tells of a press once at most: at the first sample at
which the evidence reaches the threshold, and not before two low samples. It tells of a release after a
press only, and of a glitch only where there was none. -/
theorem debounced :
    (∀ samples, (debouncing.trace Debouncer.new samples).count .pressed ≤ 1) ∧
      ∀ past s,
        (((debouncing.run Debouncer.new past).sample s).2 = .pressed ↔
          pressMs ≤ evidence (past ++ [s]) ∧
            ∀ earlier, earlier <+: past → evidence earlier < pressMs) ∧
        (((debouncing.run Debouncer.new past).sample s).2 = .pressed →
          2 ≤ (past ++ [s]).countP LineSample.isLow) ∧
        (((debouncing.run Debouncer.new past).sample s).2 = .released →
          .pressed ∈ debouncing.trace Debouncer.new past) ∧
        (((debouncing.run Debouncer.new past).sample s).2 = .glitch →
          .pressed ∉ debouncing.trace Debouncer.new past) := by
  refine ⟨?_, fun past s => ⟨?_, ?_, ?_, ?_⟩⟩
  · intro samples
    rw [count_pressed]
    exact Bool.toNat_le _
  · rw [pressed_iff]
    unfold Reached
    push Not
    rfl
  · intro press
    have reaches := ((pressed_iff past s).mp press).1
    have lows := evidence_le (past ++ [s])
    unfold pressMs at reaches lows
    omega
  · intro release
    exact (mem_trace_pressed past).mpr ((run_pressed past).mp (Debouncer.sample_released release))
  · intro glitch told
    have pressed := (run_pressed past).mpr ((mem_trace_pressed past).mp told)
    exact Bool.false_ne_true ((Debouncer.sample_glitch glitch).symm.trans pressed)

end AnovaOven
