import AnovaOven.PicoCore.Encoder
import Mathlib.Algebra.Order.Group.Int

/-!
# Laws of the quadrature decoder

The pins go round a cycle of four positions, and a sample is a turn of the shaft where it is the position
after the last one, or before it. The decoder's accumulator is the `streak` of one direction less that of
the other: how many turns that way came last, with no tick and no turn back among them (`Counted`). So a
tick is told just at the fourth (`tick_iff`). Seen in the mirror, with the pins exchanged, the decoder tells
the same ticks the other way (`mirrored`).
-/

namespace AnovaOven

/-- The place of a sample in the cycle of a shaft that turns clockwise. -/
def PinSample.position (pins : PinSample) : Nat :=
  match pins.aLow, pins.bLow with
  | false, false => 0
  | true, false => 1
  | true, true => 2
  | false, true => 3

/-- The turn between two samples: to the next position or the one before. A sample repeated is none, nor is
a jump of both pins. -/
def pinTurn (prev curr : PinSample) : Option EncoderTick :=
  if curr.position = (prev.position + 1) % 4 then some .cw
  else if prev.position = (curr.position + 1) % 4 then some .ccw
  else none

/-- What a direction counts for. -/
def EncoderTick.sign : EncoderTick → Int
  | .cw => 1
  | .ccw => -1

/-- The other direction. -/
def EncoderTick.flip : EncoderTick → EncoderTick
  | .cw => .ccw
  | .ccw => .cw

/-- **The table** gives each turn its direction, and nothing to what isn't one. -/
theorem direction_eq (prev curr : PinSample) :
    QuadratureDecoder.direction prev.encode curr.encode = ((pinTurn prev curr).map EncoderTick.sign).getD 0 := by
  obtain ⟨a, b⟩ := prev
  obtain ⟨a', b'⟩ := curr
  cases a <;> cases b <;> cases a' <;> cases b' <;> rfl

/-! ## Turns since the last tick or the last turn back -/

/-- How many turns of a direction came last, with neither a tick nor a turn back among them. The turns are
given with whether each made a tick, the last one first. -/
def streak (t : EncoderTick) (turns : List (EncoderTick × Bool)) : Nat :=
  (turns.takeWhile fun turn => turn = (t, false)).length

theorem streak_cons_tick (t t' : EncoderTick) (turns : List (EncoderTick × Bool)) :
    streak t ((t', true) :: turns) = 0 := by
  simp [streak]

theorem streak_cons_same (t : EncoderTick) (turns : List (EncoderTick × Bool)) :
    streak t ((t, false) :: turns) = streak t turns + 1 := by
  simp [streak]

theorem streak_cons_flip (t : EncoderTick) (turns : List (EncoderTick × Bool)) :
    streak t.flip ((t, false) :: turns) = 0 := by
  cases t <;> simp [streak, EncoderTick.flip]

/-- Turns both ways don't come last. -/
theorem streak_flip (t : EncoderTick) (turns : List (EncoderTick × Bool)) :
    streak t turns = 0 ∨ streak t.flip turns = 0 := by
  cases turns with
  | nil => exact .inl rfl
  | cons last turns =>
    obtain ⟨t', ticked⟩ := last
    cases ticked with
    | true => exact .inl (streak_cons_tick t t' turns)
    | false =>
      by_cases same : t' = t
      · subst same
        exact .inr (streak_cons_flip t' turns)
      · have other : t = t'.flip := by cases t <;> cases t' <;> simp_all [EncoderTick.flip]
        subst other
        exact .inl (streak_cons_flip t' turns)

/-- An accumulator that has counted the turns: the streak of one direction less that of the other, neither
as long as a detent. -/
structure Counted (accum : Int) (turns : List (EncoderTick × Bool)) : Prop where
  accum : accum = streak .cw turns - streak .ccw turns
  cw : streak .cw turns ≤ 3
  ccw : streak .ccw turns ≤ 3

/-- Either streak is one the accumulator counts for its direction. -/
theorem Counted.signed {accum : Int} {turns : List (EncoderTick × Bool)} (counted : Counted accum turns)
    (t : EncoderTick) :
    accum = t.sign * (streak t turns - streak t.flip turns) ∧ streak t turns ≤ 3 ∧
      streak t.flip turns ≤ 3 := by
  obtain ⟨rfl, cw, ccw⟩ := counted
  cases t with
  | cw => exact ⟨(one_mul _).symm, cw, ccw⟩
  | ccw => exact ⟨by simp [EncoderTick.sign, EncoderTick.flip], ccw, cw⟩

theorem Counted.of_signed {accum : Int} {turns : List (EncoderTick × Bool)} {t : EncoderTick}
    (eq : accum = t.sign * (streak t turns - streak t.flip turns)) (own : streak t turns ≤ 3)
    (other : streak t.flip turns ≤ 3) : Counted accum turns := by
  cases t with
  | cw => exact ⟨eq.trans (one_mul _), own, other⟩
  | ccw => exact ⟨eq.trans (by simp [EncoderTick.sign, EncoderTick.flip]), other, own⟩

/-- What a turn makes of two streaks, one of which is none: the other way starts over. -/
theorem accumulate_signed (t : EncoderTick) {own other : Nat} (one : own = 0 ∨ other = 0)
    (short : own ≤ 3) :
    QuadratureDecoder.accumulate (t.sign * (own - other)) t.sign =
      if own = 3 then (0, some t) else (t.sign * (own + 1), none) := by
  have from_own : (if ((t.sign * (own - other) : Int) > 0 ∧ t.sign < 0) ∨
      ((t.sign * (own - other) : Int) < 0 ∧ t.sign > 0) then 0 else (t.sign * (own - other) : Int)) =
      t.sign * own := by
    cases t <;> simp only [EncoderTick.sign] <;> split_ifs <;> omega
  unfold QuadratureDecoder.accumulate transitionsPerDetent
  rw [from_own]
  by_cases fourth : own = 3
  · subst fourth
    cases t <;> rfl
  · have sum : t.sign * own + t.sign = t.sign * (own + 1 : Int) := by rw [Int.mul_add, Int.mul_one]
    have within : -4 < t.sign * (own + 1 : Int) ∧ t.sign * (own + 1 : Int) < 4 := by
      cases t <;> simp only [EncoderTick.sign] <;> omega
    dsimp only
    rw [if_neg fourth, sum, if_neg (not_le.mpr within.2), if_neg (not_le.mpr within.1)]

/-- **One turn.** It makes a tick where it is the fourth of a streak, and is counted. -/
theorem Counted.turn {accum : Int} {turns : List (EncoderTick × Bool)} (counted : Counted accum turns)
    (t : EncoderTick) :
    (QuadratureDecoder.accumulate accum t.sign).2 = (if streak t turns = 3 then some t else none) ∧
      Counted (QuadratureDecoder.accumulate accum t.sign).1
        ((t, decide (streak t turns = 3)) :: turns) := by
  obtain ⟨rfl, own, other⟩ := counted.signed t
  rw [accumulate_signed t (streak_flip t turns) own]
  by_cases fourth : streak t turns = 3
  · rw [if_pos fourth, if_pos fourth, decide_eq_true fourth]
    refine ⟨rfl, ?_⟩
    apply @Counted.of_signed _ _ t <;> simp [streak_cons_tick]
  · rw [if_neg fourth, if_neg fourth, decide_eq_false fourth]
    refine ⟨rfl, ?_⟩
    apply @Counted.of_signed _ _ t
    · rw [streak_cons_same, streak_cons_flip]
      push_cast
      rw [sub_zero]
    · rw [streak_cons_same]
      omega
    · rw [streak_cons_flip]
      omega

/-! ## Any samples -/

/-- The decoder with the sample before, told of every turn, and whether it made a tick. -/
def turning : Machine (PinSample × QuadratureDecoder) PinSample (EncoderTick × Bool) where
  step s pins :=
    ((pins, (s.2.update pins).1),
      (pinTurn s.1 pins).toList.map fun t => (t, (s.2.update pins).2.isSome))

/-- The last of the samples. -/
def lastSample (start : PinSample) (samples : List PinSample) : PinSample := samples.getLastD start

/-- The turns among the samples, and whether each made a tick: the last one first. -/
def turns (start : PinSample) (samples : List PinSample) : List (EncoderTick × Bool) :=
  (turning.trace (start, QuadratureDecoder.new start) samples).reverse

/-- The decoder is the one without. -/
theorem turning_run (start : PinSample) (d : QuadratureDecoder) (samples : List PinSample) :
    turning.run (start, d) samples = (lastSample start samples, quadrature.run d samples) := by
  induction samples using List.reverseRecOn with
  | nil => rfl
  | append_singleton samples pins ih =>
    rw [Machine.run_append, Machine.run_append, ih]
    simp only [lastSample, List.getLastD_concat]
    rfl

/-- The turns with one sample more. -/
theorem turns_concat (start : PinSample) (samples : List PinSample) (pins : PinSample) :
    turns start (samples ++ [pins]) =
      (pinTurn (lastSample start samples) pins).toList.map
          (fun t => (t, ((quadrature.run (QuadratureDecoder.new start) samples).update pins).2.isSome)) ++
        turns start samples := by
  unfold turns
  rw [Machine.trace_append, turning_run, List.reverse_append, Machine.trace_cons, Machine.trace_nil,
    List.append_nil]
  congr 1
  show (List.map _ (pinTurn _ pins).toList).reverse = _
  cases pinTurn (lastSample start samples) pins <;> rfl

/-- A sample that is no turn leaves the accumulator. -/
theorem update_still {d : QuadratureDecoder} {prev pins : PinSample} (code : d.prev = prev.encode)
    (still : pinTurn prev pins = none) : d.update pins = ({ d with prev := pins.encode }, none) := by
  unfold QuadratureDecoder.update
  dsimp only
  rw [code, direction_eq, still]
  rfl

/-- A turn goes into the accumulator. -/
theorem update_turn {d : QuadratureDecoder} {prev pins : PinSample} {t : EncoderTick}
    (code : d.prev = prev.encode) (turned : pinTurn prev pins = some t) :
    d.update pins = (⟨pins.encode, (QuadratureDecoder.accumulate d.accum t.sign).1⟩,
      (QuadratureDecoder.accumulate d.accum t.sign).2) := by
  unfold QuadratureDecoder.update
  dsimp only
  rw [code, direction_eq, turned]
  cases t <;> rfl

/-- **The accumulator** has counted the turns so far. -/
theorem run_counted (start : PinSample) (samples : List PinSample) :
    (quadrature.run (QuadratureDecoder.new start) samples).prev = (lastSample start samples).encode ∧
      Counted (quadrature.run (QuadratureDecoder.new start) samples).accum (turns start samples) := by
  induction samples using List.reverseRecOn with
  | nil => exact ⟨rfl, ⟨rfl, Nat.zero_le 3, Nat.zero_le 3⟩⟩
  | append_singleton samples pins ih =>
    obtain ⟨code, counted⟩ := ih
    have last : lastSample start (samples ++ [pins]) = pins := List.getLastD_concat ..
    rw [turns_concat, Machine.run_append, last]
    show (QuadratureDecoder.update _ pins).1.prev = _ ∧ Counted (QuadratureDecoder.update _ pins).1.accum _
    cases turned : pinTurn (lastSample start samples) pins with
    | none =>
      rw [update_still code turned]
      exact ⟨rfl, counted⟩
    | some t =>
      obtain ⟨tick, after⟩ := counted.turn t
      rw [update_turn code turned]
      refine ⟨rfl, ?_⟩
      have ticked : (if streak t (turns start samples) = 3 then some t else none).isSome =
          decide (streak t (turns start samples) = 3) := by split_ifs <;> simp_all
      simp only [tick, Option.toList_some, List.map_cons, List.map_nil, ticked]
      exact after

/-- **Ticks.** A sample makes a tick of a direction just where it is a turn that way, and the fourth since the
last tick or the last turn back. -/
theorem tick_iff (start : PinSample) (samples : List PinSample) (pins : PinSample) (t : EncoderTick) :
    ((quadrature.run (QuadratureDecoder.new start) samples).update pins).2 = some t ↔
      pinTurn (lastSample start samples) pins = some t ∧ streak t (turns start samples) = 3 := by
  obtain ⟨code, counted⟩ := run_counted start samples
  cases turned : pinTurn (lastSample start samples) pins with
  | none =>
    rw [update_still code turned]
    simp
  | some t' =>
    rw [update_turn code turned]
    show (QuadratureDecoder.accumulate _ _).2 = _ ↔ _
    rw [(counted.turn t').1]
    by_cases same : t' = t
    · subst same
      simp
    · simp [same]

/-! ## In the mirror -/

/-- The pins exchanged. -/
def PinSample.swap (pins : PinSample) : PinSample := ⟨pins.bLow, pins.aLow⟩

/-- A code of the pins exchanged. -/
def swapCode (code : Fin 4) : Fin 4 := ⟨code.val % 2 * 2 + code.val / 2, by omega⟩

/-- A decoder of the pins exchanged. -/
def QuadratureDecoder.mirror (d : QuadratureDecoder) : QuadratureDecoder := ⟨swapCode d.prev, -d.accum⟩

theorem encode_swap (pins : PinSample) : pins.swap.encode = swapCode pins.encode := by
  obtain ⟨a, b⟩ := pins
  cases a <;> cases b <;> rfl

/-- The table is the same in the mirror, the other way round. -/
theorem direction_swap (prev curr : Fin 4) :
    QuadratureDecoder.direction (swapCode prev) (swapCode curr) =
      -QuadratureDecoder.direction prev curr := by
  revert prev curr
  decide

/-- So is the accumulator. -/
theorem accumulate_neg (accum dir : Int) :
    QuadratureDecoder.accumulate (-accum) (-dir) =
      (-(QuadratureDecoder.accumulate accum dir).1,
        (QuadratureDecoder.accumulate accum dir).2.map EncoderTick.flip) := by
  have reset : (if (-accum > 0 ∧ -dir < 0) ∨ (-accum < 0 ∧ -dir > 0) then 0 else -accum) =
      -(if (accum > 0 ∧ dir < 0) ∨ (accum < 0 ∧ dir > 0) then 0 else accum) := by
    split_ifs <;> omega
  unfold QuadratureDecoder.accumulate transitionsPerDetent
  rw [reset]
  generalize (if (accum > 0 ∧ dir < 0) ∨ (accum < 0 ∧ dir > 0) then 0 else accum) = kept
  dsimp only
  rw [← Int.neg_add]
  rcases lt_trichotomy (kept + dir) 0 with less | zero | more
  · by_cases far : kept + dir ≤ -4
    · rw [if_pos (by omega), if_neg (by omega), if_pos far]
      rfl
    · rw [if_neg (by omega), if_neg (by omega), if_neg (by omega), if_neg far]
      rfl
  · rw [zero]
    rfl
  · by_cases far : 4 ≤ kept + dir
    · rw [if_neg (by omega), if_pos (by omega), if_pos far]
      rfl
    · rw [if_neg (by omega), if_neg (by omega), if_neg far, if_neg (by omega)]
      rfl

/-- One sample in the mirror. -/
theorem update_mirror (d : QuadratureDecoder) (pins : PinSample) :
    d.mirror.update pins.swap =
      ((d.update pins).1.mirror, (d.update pins).2.map EncoderTick.flip) := by
  unfold QuadratureDecoder.update
  dsimp only
  rw [encode_swap]
  have dir : QuadratureDecoder.direction d.mirror.prev (swapCode pins.encode) =
      -QuadratureDecoder.direction d.prev pins.encode := direction_swap _ _
  rw [dir]
  by_cases still : QuadratureDecoder.direction d.prev pins.encode = 0
  · rw [if_pos (by omega), if_pos still]
    rfl
  · rw [if_neg (by omega), if_neg still]
    show (QuadratureDecoder.mk _ (QuadratureDecoder.accumulate (-d.accum) _).1,
      (QuadratureDecoder.accumulate (-d.accum) _).2) = _
    rw [accumulate_neg]
    rfl

/-- **The mirror.** A decoder of the pins exchanged does what the decoder does, the other way round. -/
theorem mirrored : Machine.Simulates quadrature quadrature QuadratureDecoder.mirror
    (fun _ pins => pins.swap) EncoderTick.flip where
  next d pins := (congrArg Prod.fst (update_mirror d pins)).symm
  effects d pins := by
    show (d.update pins).2.toList.map _ = (d.mirror.update pins.swap).2.toList
    rw [update_mirror]
    exact Option.toList_map.symm

/-- **The decoder**, whatever samples it is fed. Its accumulator stays short of a detent. A sample makes a
tick just where it is the fourth turn one way since the last tick or the last turn back. With the pins
exchanged it makes the same ticks the other way. -/
theorem decoded (start : PinSample) (samples : List PinSample) :
    (-3 ≤ (quadrature.run (QuadratureDecoder.new start) samples).accum ∧
        (quadrature.run (QuadratureDecoder.new start) samples).accum ≤ 3) ∧
      (∀ pins t, ((quadrature.run (QuadratureDecoder.new start) samples).update pins).2 = some t ↔
        pinTurn (lastSample start samples) pins = some t ∧ streak t (turns start samples) = 3) ∧
      quadrature.trace (QuadratureDecoder.new start.swap) (samples.map PinSample.swap) =
        (quadrature.trace (QuadratureDecoder.new start) samples).map EncoderTick.flip := by
  refine ⟨?_, tick_iff start samples, ?_⟩
  · obtain ⟨eq, cw, ccw⟩ := (run_counted start samples).2
    omega
  · have mirror : (QuadratureDecoder.new start).mirror = QuadratureDecoder.new start.swap := by
      unfold QuadratureDecoder.new QuadratureDecoder.mirror
      rw [encode_swap]
      rfl
    have swapped (d : QuadratureDecoder) : quadrature.readings (fun _ pins => pins.swap) d samples =
        samples.map PinSample.swap := by
      induction samples generalizing d with
      | nil => rfl
      | cons pins samples ih => exact congrArg _ (ih _)
    rw [mirrored.trace, mirror, swapped]

end AnovaOven
