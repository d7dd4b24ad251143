import AnovaOven.Laws.Normalize
import AnovaOven.Processors.Mqtt.Manual

/-!
# Laws of the manual cook

A command that is refused leaves the draft as it was (`set_refused`); a draft is `Sound` whatever commands
it took (`run_sound`), each field within its own range and each select within its options. The checks of a
recipe go across the fields: of a sound draft, only sous vide above 100 degrees is refused
(`recipe_ok_iff`).
-/

namespace AnovaOven.Manual

/-! ## One command -/

/-- A number that is taken is within its bounds. -/
theorem number_ok {payload : String} {lo hi : Nat} {what : String} {v : ℚ}
    (h : number payload lo hi what = .ok v) : (lo : ℚ) ≤ v ∧ v ≤ hi := by
  unfold number at h
  split at h
  case h_1 read =>
    cases h
    simpa using (Option.filter_eq_some_iff.mp read).2
  case h_2 => cases h

/-- A choice that is taken is an option. -/
theorem choice_ok {payload : String} {options : List String} {i : Nat}
    (h : choice payload options = .ok i) : i < options.length := by
  unfold choice at h
  split at h
  case h_1 found =>
    cases h
    exact (List.idxOf?_eq_some_iff.mp found).1
  case h_2 => cases h

namespace Draft

/-- An assignment that fails assigns nothing. -/
theorem assign_refused {α : Type} {draft : Draft} {value : Except String α} {field : α → Draft}
    {error : String} (h : (draft.assign value field).2 = .error error) :
    (draft.assign value field).1 = draft := by
  cases value with
  | ok v => cases h
  | error e => rfl

/-- What holds of the draft, and of it with any value that may be assigned, holds after. -/
theorem assign_keeps {α : Type} {P : Draft → Prop} {draft : Draft} {value : Except String α}
    {field : α → Draft} (keep : P draft) (assigned : ∀ v, value = .ok v → P (field v)) :
    P (draft.assign value field).1 := by
  cases value with
  | ok v => exact assigned v rfl
  | error e => exact keep

/-- **Refused commands** leave the draft as it was. -/
theorem set_refused {draft : Draft} {field payload error : String}
    (h : (draft.set field payload).2 = .error error) : (draft.set field payload).1 = draft := by
  unfold set at h ⊢
  split at h <;> first | exact assign_refused h | rfl

/-- A draft whose fields are each within their range. -/
structure Sound (draft : Draft) : Prop where
  temperature : 25 ≤ draft.temperatureC ∧ draft.temperatureC ≤ 250
  mode : draft.mode < modes.length
  steam : 0 ≤ draft.steamPct ∧ draft.steamPct ≤ 100
  elements : draft.elements < Manual.elements.length
  preheat : draft.preheat < preheats.length
  ends : draft.ends < Manual.ends.length
  timer : 1 ≤ draft.timerMins.toNat ∧ draft.timerMins.toNat ≤ 1440
  probe : 1 ≤ draft.probeTargetC ∧ draft.probeTargetC ≤ 100
  atEnd : draft.atEnd < Manual.atEnd.length

theorem default_sound : default.Sound where
  temperature := by norm_num [default]
  mode := by decide
  steam := by norm_num [default]
  elements := by decide
  preheat := by decide
  ends := by decide
  timer := by decide
  probe := by norm_num [default]
  atEnd := by decide

/-- What a number in a range becomes as an `f32` is in it. -/
theorem asF32_number {payload : String} {lo hi : Nat} {what : String} {v : ℚ} (reach : hi < 2 ^ 24)
    (h : number payload lo hi what = .ok v) : (lo : ℚ) ≤ asF32 v ∧ asF32 v ≤ hi := by
  obtain ⟨lower, upper⟩ := number_ok h
  have positive : 0 ≤ v := (Nat.cast_nonneg lo).trans lower
  have small : |v| < 2 ^ 24 := by
    rw [abs_of_nonneg positive]
    exact upper.trans_lt (by exact_mod_cast reach)
  exact_mod_cast @asF32_mem_Icc v lo hi (by exact_mod_cast lower) (by exact_mod_cast upper) small

/-- A timer of minutes in a range is a whole number of them in it. -/
theorem asU32_number {payload : String} {lo hi : Nat} {what : String} {v : ℚ}
    (reach : hi < 4294967296) (h : number payload lo hi what = .ok v) :
    lo ≤ (asU32 (roundAway v)).toNat ∧ (asU32 (roundAway v)).toNat ≤ hi := by
  obtain ⟨lower, upper⟩ := number_ok h
  have between := @roundAway_mem_Icc v lo hi (by exact_mod_cast lower) (by exact_mod_cast upper)
  unfold asU32
  rw [UInt32.toNat_ofNat_of_lt']
  · omega
  · show _ < 4294967296
    omega

/-- **One command** keeps a draft sound. -/
theorem set_sound {draft : Draft} (sound : draft.Sound) (field payload : String) :
    (draft.set field payload).1.Sound := by
  unfold set
  split
  case h_1 =>
    apply assign_keeps sound
    intro v taken
    exact { sound with temperature := by exact_mod_cast asF32_number (by norm_num) taken }
  case h_2 =>
    apply assign_keeps sound
    intro i taken
    exact { sound with mode := choice_ok taken }
  case h_3 =>
    apply assign_keeps sound
    intro v taken
    exact { sound with steam := by exact_mod_cast asF32_number (by norm_num) taken }
  case h_4 =>
    apply assign_keeps sound
    intro i taken
    exact { sound with elements := choice_ok taken }
  case h_5 =>
    apply assign_keeps sound
    intro i taken
    exact { sound with preheat := choice_ok taken }
  case h_6 =>
    apply assign_keeps sound
    intro i taken
    exact { sound with ends := choice_ok taken }
  case h_7 =>
    apply assign_keeps sound
    intro v taken
    exact { sound with timer := asU32_number (by norm_num) taken }
  case h_8 =>
    apply assign_keeps sound
    intro v taken
    exact { sound with probe := by exact_mod_cast asF32_number (by norm_num) taken }
  case h_9 =>
    apply assign_keeps sound
    intro i taken
    exact { sound with atEnd := choice_ok taken }
  case h_10 => exact sound

end Draft

/-- **Any commands** keep a draft sound. -/
theorem run_sound {draft : Draft} (sound : draft.Sound) (commands : List (String × String)) :
    (drafting.run draft commands).Sound :=
  Machine.run_keeps (fun _ command _ sound => Draft.set_sound sound command.1 command.2) sound

/-! ## The recipe of a draft -/

namespace Draft

/-- The heating elements of a select's options are one or two. -/
theorem elementsOn_count {i : Nat} {top rear bottom : Bool}
    (h : elementsOn[i]? = some (top, rear, bottom)) :
    1 ≤ [some top, some rear, some bottom].countP (fun e => e = some true) ∧
      [some top, some rear, some bottom].countP (fun e => e = some true) ≤ 2 := by
  have all : ∀ on ∈ elementsOn, 1 ≤ [some on.1, some on.2.1, some on.2.2].countP (fun e => e = some true) ∧
      [some on.1, some on.2.1, some on.2.2].countP (fun e => e = some true) ≤ 2 := by decide
  exact all _ (List.mem_of_getElem? h)

/-- Sous vide above 100 degrees. -/
def TooHot (draft : Draft) : Prop := draft.mode = 1 ∧ 100 < draft.temperatureC

/-- A sound draft is as hot as its mode allows, unless it is too hot. -/
theorem temperature_le_limit {draft : Draft} (sound : draft.Sound) (top rear bottom : Bool) :
    draft.temperatureC ≤ temperatureLimit (draft.cook top rear bottom) ↔ ¬ draft.TooHot := by
  by_cases wet : draft.mode = 1
  · simp [temperatureLimit, cook, TooHot, wet]
  · simp [temperatureLimit, cook, TooHot, wet, sound.temperature.2]

/-- A timer of minutes lasts some seconds. -/
theorem secs_positive {mins : UInt32} (h : 1 ≤ mins.toNat ∧ mins.toNat ≤ 1440) :
    0 < mins.toUInt64 * 60 := by
  rw [UInt64.lt_iff_toNat_lt, UInt64.toNat_mul, UInt32.toNat_toUInt64]
  show 0 < mins.toNat * 60 % 18446744073709551616
  omega

/-- The cook stage of a sound draft passes, unless it is too hot. -/
theorem cook_passes {draft : Draft} (sound : draft.Sound) (cool : ¬ draft.TooHot)
    {top rear bottom : Bool} (on : elementsOn[draft.elements]? = some (top, rear, bottom)) :
    (draft.cook top rear bottom).Passes true where
  kind := .inr rfl
  temperature := ⟨sound.temperature.1, (temperature_le_limit sound top rear bottom).mpr cool⟩
  steam := sound.steam
  fan := UInt8.le_refl 100
  rack := by
    intro rack set
    cases set
  timer := by
    intro timed
    have timer : draft.ends = endsTimer := by simpa [cook] using timed
    exact ⟨draft.timerMins.toUInt64 * 60, by simp [cook, timer], secs_positive sound.timer⟩
  probe := by
    intro probed
    have probe : draft.ends = endsProbe := by simpa [cook] using probed
    simp [cook, probe]
  target := by
    intro target set
    have eq : draft.probeTargetC = target := by
      by_cases probe : draft.ends = endsProbe <;> simp_all [cook]
    exact eq ▸ sound.probe
  oneEnd := by
    rintro ⟨timed, probed⟩
    have timer : draft.ends = endsTimer := by simpa [cook] using timed
    have probe : draft.ends = endsProbe := by simpa [cook] using probed
    exact absurd (timer.symm.trans probe) (by decide)
  preheat := by
    intro preheats
    exact absurd preheats (show "cook" ≠ "preheat" by decide)
  last := fun _ => rfl
  turnOff := by
    intro off
    have turns : draft.turnsOff = true := by
      by_contra stays
      simp [cook, stays] at off
    simpa [turnsOff, cook] using (Bool.and_eq_true_iff.mp turns).2
  prompt := by
    intro prompt set
    cases set
  elements := elementsOn_count on

/-- The preheat before a cook stage that passes, and has no note, passes. -/
theorem preheatFor_passes {cook : Stage} (passes : cook.Passes true) (noNote : cook.prompt = none) :
    (preheatFor cook).Passes false where
  kind := .inl rfl
  temperature := passes.temperature
  steam := passes.steam
  fan := passes.fan
  rack := passes.rack
  timer := fun timed => by cases timed
  probe := fun probed => by cases probed
  target := fun target set => by cases set
  oneEnd := fun both => by cases both.1
  preheat := fun _ => ⟨nofun, nofun⟩
  last := fun off => by cases off
  turnOff := fun off => by cases off
  prompt := by
    intro prompt set
    have none : trimPrompt cook.prompt = none := by rw [noNote]; rfl
    cases none.symm.trans set
  elements := passes.elements

/-- The stages of a sound draft: its cook, led by a preheat for it or not. -/
theorem stages_eq {draft : Draft} (sound : draft.Sound) :
    ∃ top rear bottom, elementsOn[draft.elements]? = some (top, rear, bottom) ∧
      draft.stages = some (if draft.preheat = noPreheat then [draft.cook top rear bottom]
        else [preheatFor (draft.cook top rear bottom), draft.cook top rear bottom]) := by
  have inside : draft.elements < elementsOn.length := sound.elements
  obtain ⟨⟨top, rear, bottom⟩, on⟩ : ∃ on, elementsOn[draft.elements]? = some on :=
    ⟨_, List.getElem?_eq_getElem inside⟩
  exact ⟨top, rear, bottom, on, by rw [stages, on]; rfl⟩

end Draft

theorem check_untitled (fresh : Nat → String) (stages : List Stage) :
    check fresh none stages = (normalize fresh ⟨"", title, 0, stages, .own⟩).mapError checkMessage :=
  rfl

theorem mapError_eq_ok {ε ε' α : Type} {x : Except ε α} {f : ε → ε'} {a : α} :
    x.mapError f = .ok a ↔ x = .ok a := by
  cases x <;> simp [Except.mapError]

/-- `check` takes stages just where they make a recipe that passes. -/
theorem check_ok_iff {fresh : Nat → String} {stages : List Stage} :
    (∃ recipe, check fresh none stages = .ok recipe) ↔
      stages ≠ [] ∧ ∀ (i : Nat) (stage : Stage), stages[i]? = some stage →
        stage.Passes (i + 1 = stages.length) := by
  simp only [check_untitled, mapError_eq_ok, normalize_ok_iff]
  constructor
  · rintro ⟨_, passes, _⟩
    exact ⟨passes.stages, passes.each⟩
  · rintro ⟨some, each⟩
    have titled : trim title ≠ "" := by decide +kernel
    exact ⟨_, ⟨titled, some, each⟩, rfl⟩

/-- **The recipe** of a sound draft is refused just where the draft is sous vide above 100 degrees. -/
theorem recipe_ok_iff {fresh : Nat → String} {draft : Draft} (sound : draft.Sound) :
    ∃ result, draft.recipe fresh = some result ∧ ((∃ recipe, result = .ok recipe) ↔ ¬ draft.TooHot) := by
  obtain ⟨top, rear, bottom, on, stages⟩ := Draft.stages_eq sound
  refine ⟨_, by rw [Draft.recipe, stages, Option.map_some], ?_⟩
  rw [check_ok_iff]
  constructor
  · rintro ⟨_, each⟩
    apply (Draft.temperature_le_limit sound top rear bottom).mp
    split at each
    · exact (each 0 _ rfl).temperature.2
    · exact (each 1 _ rfl).temperature.2
  · intro cool
    have cook := Draft.cook_passes sound cool on
    split
    · refine ⟨List.cons_ne_nil _ _, ?_⟩
      intro i stage at'
      cases i with
      | zero => cases at'; exact cook
      | succ i => cases at'
    · refine ⟨List.cons_ne_nil _ _, ?_⟩
      intro i stage at'
      match i, at' with
      | 0, rfl => exact Draft.preheatFor_passes cook rfl
      | 1, rfl => exact cook

/-- **Manual cooks.** Whatever commands a draft took from its default: a command that is refused leaves
it as it is, its selects are each within their options, and its recipe is taken just where it isn't in
sous vide above 100 degrees. -/
theorem drafted (fresh : Nat → String) (commands : List (String × String)) :
    (∀ field payload error,
      ((drafting.run Draft.default commands).set field payload).2 = .error error →
        ((drafting.run Draft.default commands).set field payload).1 =
          drafting.run Draft.default commands) ∧
    ((drafting.run Draft.default commands).mode < modes.length ∧
      (drafting.run Draft.default commands).elements < elements.length ∧
      (drafting.run Draft.default commands).elements < elementsOn.length ∧
      (drafting.run Draft.default commands).preheat < preheats.length ∧
      (drafting.run Draft.default commands).ends < ends.length ∧
      (drafting.run Draft.default commands).atEnd < atEnd.length) ∧
    ∃ result, (drafting.run Draft.default commands).recipe fresh = some result ∧
      ((∃ recipe, result = .ok recipe) ↔
        ¬ ((drafting.run Draft.default commands).mode = 1 ∧
          100 < (drafting.run Draft.default commands).temperatureC)) := by
  have sound := run_sound Draft.default_sound commands
  refine ⟨fun field payload error refused => Draft.set_refused refused, ?_, recipe_ok_iff sound⟩
  exact ⟨sound.mode, sound.elements, sound.elements, sound.preheat, sound.ends, sound.atEnd⟩

end AnovaOven.Manual
