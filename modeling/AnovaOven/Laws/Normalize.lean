import AnovaOven.Lib.Trim
import AnovaOven.Processors.LocalStore.Normalize
import Mathlib.Tactic.Linarith

/-!
# Laws of accepted recipes

What `normalize` promises of every stage of a recipe it accepts (`normalize_accepted`), as one
structure whose fields the wire laws read, and that a recipe that comes out of it goes through it again
unchanged (`normalize_idempotent`), stage by stage (`kept_kept`).
-/

namespace AnovaOven

open Trim

/-- A stage `normalize` lets through, as it leaves it. -/
structure Stage.Accepted (stage : Stage) : Prop where
  kind : stage.kind = "preheat" ∨ stage.kind = "cook"
  temperature : 25 ≤ stage.temperatureC ∧ stage.temperatureC ≤ 250
  steam : 0 ≤ stage.steamPct
  timer : stage.timerAdded = some true → ∃ secs, stage.durationSecs = some secs ∧ 0 < secs
  probe : stage.probeAdded = some true → stage.probeTargetC.isSome
  target : ∀ target, stage.probeTargetC = some target → 1 ≤ target ∧ target ≤ 100
  oneEnd : ¬ (stage.timerAdded = some true ∧ stage.probeAdded = some true)
  preheat : stage.kind = "preheat" → stage.timerAdded ≠ some true ∧ stage.probeAdded ≠ some true
  turnOff : stage.turnOffAtEnd = some true →
    stage.timerAdded = some true ∨ stage.probeAdded = some true
  elements : 1 ≤ elementsSetOn stage ∧ elementsSetOn stage ≤ 2
  fan : stage.heatingElementRear = some true ∨ 0 < stage.steamPct → stage.fanSpeed = 100
  title : stage.title ≠ some ""

/-- The fan's speed in a normalized stage. -/
theorem normalizeFanSpeed_fanSpeed (stage : Stage) :
    stage.normalizeFanSpeed.fanSpeed =
      if stage.heatingElementRear.getD false || decide (0 < stage.steamPct) then 100
      else stage.fanSpeed :=
  apply_ite Stage.fanSpeed _ _ _

/-- The fan of a normalized stage runs at 100 with the rear element or with steam. -/
theorem normalizeFanSpeed_fan (stage : Stage)
    (h : stage.heatingElementRear = some true ∨ 0 < stage.steamPct) :
    stage.normalizeFanSpeed.fanSpeed = 100 := by
  rw [normalizeFanSpeed_fanSpeed]
  rcases h with h | h <;> simp [h]

/-- Only the fan's speed changes. -/
theorem normalizeFanSpeed_frame (stage : Stage) :
    ∃ speed, stage.normalizeFanSpeed = { stage with fanSpeed := speed } := by
  unfold Stage.normalizeFanSpeed
  dsimp only
  split
  · exact ⟨_, rfl⟩
  · exact ⟨stage.fanSpeed, rfl⟩

/-- The checks a stage passes. -/
structure Stage.Passes (isLast : Bool) (stage : Stage) : Prop where
  kind : stage.kind = "preheat" ∨ stage.kind = "cook"
  temperature : 25 ≤ stage.temperatureC ∧ stage.temperatureC ≤ temperatureLimit stage
  steam : 0 ≤ stage.steamPct ∧ stage.steamPct ≤ 100
  fan : stage.fanSpeed ≤ 100
  rack : ∀ rack, stage.rackPosition = some rack → 1 ≤ rack ∧ rack ≤ 5
  timer : stage.timerAdded = some true → ∃ secs, stage.durationSecs = some secs ∧ 0 < secs
  probe : stage.probeAdded = some true → stage.probeTargetC.isSome
  target : ∀ target, stage.probeTargetC = some target → 1 ≤ target ∧ target ≤ 100
  oneEnd : ¬ (stage.timerAdded = some true ∧ stage.probeAdded = some true)
  preheat : stage.kind = "preheat" → stage.timerAdded ≠ some true ∧ stage.probeAdded ≠ some true
  last : stage.turnOffAtEnd = some true → isLast = true
  turnOff : stage.turnOffAtEnd = some true →
    stage.timerAdded = some true ∨ stage.probeAdded = some true
  prompt : ∀ prompt, trimPrompt stage.prompt = some prompt →
    prompt.length ≤ promptMaxChars ∧ stage.userActionRequired = some true
  elements : 1 ≤ elementsSetOn stage ∧ elementsSetOn stage ≤ 2

/-- A stage as it is kept. -/
def Stage.kept (freshId : String) (stage : Stage) : Stage :=
  { stage with
    fanSpeed := stage.normalizeFanSpeed.fanSpeed
    turnOffAtEnd := stage.turnOffAtEnd.filter fun on => on
    prompt := trimPrompt stage.prompt
    title := stage.title.filter fun t => trim t ≠ ""
    id := keptId freshId stage.id }

/-- **The loop body** lets a stage through exactly where it passes the checks, and leaves it as it is
kept. -/
theorem normalizeStage_ok_iff {freshId : String} {isLast : Bool} {i : Nat} {stage out : Stage} :
    normalizeStage freshId isLast i stage = .ok out ↔
      stage.Passes isLast ∧ out = stage.kept freshId := by
  obtain ⟨speed, frame⟩ := normalizeFanSpeed_frame stage
  unfold normalizeStage invalidStage Stage.kept
  rw [frame]
  simp only [refuseIf_bind_ok, Except.ok.injEq]
  constructor
  · rintro ⟨kind, temperature, steam, fan, rack, timer, probe, target, oneEnd, preheat, last, turnOff,
      length, waits, elements, done⟩
    refine ⟨?_, done.symm⟩
    refine
    { kind := ?kind
      temperature := not_not.mp temperature
      steam := not_not.mp steam
      fan := UInt8.not_lt.mp fan
      rack := ?rack
      timer := ?timer
      probe := fun on => Option.isSome_iff_ne_none.mpr fun missing => probe ⟨on, missing⟩
      target := ?target
      oneEnd := oneEnd
      preheat := fun preheats => ⟨fun on => preheat ⟨preheats, .inl on⟩,
        fun on => preheat ⟨preheats, .inr on⟩⟩
      last := ?last
      turnOff := ?turnOff
      prompt := ?prompt
      elements := not_not.mp elements }
    case kind => exact (em _).imp_right fun other => by_contra fun neither => kind ⟨other, neither⟩
    case rack =>
      intro level set
      simpa only [set, Option.any_some, Bool.not_eq_true', decide_eq_false_iff_not, not_not] using rack
    case timer =>
      intro on
      have some := by_contra fun missing => timer ⟨on, missing⟩
      simpa using (Option.any_eq_true _ _).mp some
    case target =>
      intro celsius set
      simpa [set] using target
    case last =>
      intro on
      simpa [on] using last
    case turnOff =>
      intro on
      by_contra neither
      exact turnOff ⟨on, fun timed => neither (.inl timed), fun probed => neither (.inr probed)⟩
    case prompt =>
      intro text set
      exact ⟨by simpa [set] using length, by simpa [set] using waits⟩
  · rintro ⟨passes, done⟩
    refine ⟨?passes_kind, not_not.mpr passes.temperature, not_not.mpr passes.steam,
      UInt8.not_lt.mpr passes.fan, ?passes_rack, ?passes_timer, ?passes_probe, ?passes_target,
      passes.oneEnd, ?passes_preheat, ?passes_last, ?passes_turnOff, ?passes_length, ?passes_waits,
      not_not.mpr passes.elements, done.symm⟩
    case passes_kind => exact fun neither => passes.kind.elim neither.1 neither.2
    case passes_rack =>
      cases set : stage.rackPosition with
      | none => simp
      | some level =>
        simpa only [Option.any_some, Bool.not_eq_true', decide_eq_false_iff_not, not_not]
          using passes.rack level set
    case passes_timer =>
      rintro ⟨on, missing⟩
      obtain ⟨secs, set, positive⟩ := passes.timer on
      exact missing (by simpa [set] using positive)
    case passes_probe =>
      rintro ⟨on, missing⟩
      exact Option.isSome_iff_ne_none.mp (passes.probe on) missing
    case passes_target =>
      cases set : stage.probeTargetC with
      | none => simp
      | some celsius => simpa using passes.target celsius set
    case passes_preheat =>
      rintro ⟨preheats, timed | probed⟩
      · exact (passes.preheat preheats).1 timed
      · exact (passes.preheat preheats).2 probed
    case passes_last =>
      rintro ⟨on, notLast⟩
      rw [passes.last on] at notLast
      cases notLast
    case passes_turnOff =>
      rintro ⟨on, noTimer, noProbe⟩
      exact (passes.turnOff on).elim noTimer noProbe
    case passes_length =>
      cases set : trimPrompt stage.prompt with
      | none => simp
      | some text => simpa using (passes.prompt text set).1
    case passes_waits =>
      rintro ⟨isSome, noWait⟩
      obtain ⟨text, set⟩ := Option.isSome_iff_exists.mp isSome
      exact noWait (passes.prompt text set).2

/-- A stage that comes out of the loop body is accepted. -/
theorem normalizeStage_accepted {freshId : String} {isLast : Bool} {i : Nat} {stage out : Stage}
    (h : normalizeStage freshId isLast i stage = .ok out) : out.Accepted := by
  obtain ⟨passes, rfl⟩ := normalizeStage_ok_iff.mp h
  have limit : temperatureLimit stage ≤ 250 := by
    unfold temperatureLimit
    split <;> norm_num
  refine
    { kind := passes.kind
      temperature := ⟨passes.temperature.1, passes.temperature.2.trans limit⟩
      steam := passes.steam.1
      timer := passes.timer
      probe := passes.probe
      target := passes.target
      oneEnd := passes.oneEnd
      preheat := passes.preheat
      turnOff := fun on => passes.turnOff (Option.filter_eq_some_iff.mp on).1
      elements := passes.elements
      fan := normalizeFanSpeed_fan stage
      title := ?title }
  case title =>
    intro blank
    obtain ⟨_, kept⟩ := Option.filter_eq_some_iff.mp blank
    exact absurd kept (by decide)

/-- What a recipe must be: titled, of stages, each of which passes the checks. -/
structure Recipe.Passes (recipe : Recipe) : Prop where
  title : trim recipe.title ≠ ""
  stages : recipe.stages ≠ []
  each : ∀ (i : Nat) (stage : Stage), recipe.stages[i]? = some stage →
    stage.Passes (i + 1 = recipe.stages.length)

/-- A recipe as it is kept. -/
def Recipe.kept (fresh : Nat → String) (recipe : Recipe) : Recipe :=
  let stages := recipe.stages.mapIdx fun i stage => stage.kept (fresh i)
  { recipe with title := trim recipe.title, stages := stages, stageCount := cookStageCount stages }

/-- The stages of a kept recipe are the kept stages. -/
theorem Recipe.getElem?_kept (recipe : Recipe) (fresh : Nat → String) (i : Nat) :
    (recipe.kept fresh).stages[i]? = recipe.stages[i]?.map fun stage => stage.kept (fresh i) :=
  List.getElem?_mapIdx

/-- **Normalization** lets a recipe through exactly where it passes, and leaves it as it is kept. -/
theorem normalize_ok_iff {fresh : Nat → String} {recipe out : Recipe} :
    normalize fresh recipe = .ok out ↔ recipe.Passes ∧ out = recipe.kept fresh := by
  have loop (i : Nat) (stage kept : Stage) :
      normalizeStage (fresh i) (i = recipe.stages.length - 1) i stage = .ok kept ↔
        stage.Passes (i = recipe.stages.length - 1) ∧ kept = stage.kept (fresh i) :=
    normalizeStage_ok_iff
  have last {i : Nat} {stage : Stage} (at' : recipe.stages[i]? = some stage) :
      decide (i = recipe.stages.length - 1) = decide (i + 1 = recipe.stages.length) := by
    have inside := (List.getElem?_eq_some_iff.mp at').1
    exact decide_eq_decide.mpr (by omega)
  unfold normalize
  rw [refuseIf_bind_ok, refuseIf_bind_ok]
  simp only [except_bind_ok, traverseIdx_ok_iff loop]
  constructor
  · rintro ⟨title, stages, _, ⟨each, rfl⟩, done⟩
    cases done
    refine ⟨⟨title, stages, ?_⟩, rfl⟩
    intro i stage at'
    exact last at' ▸ each i stage at'
  · rintro ⟨⟨title, stages, each⟩, rfl⟩
    refine ⟨title, stages, _, ⟨?_, rfl⟩, rfl⟩
    intro i stage at'
    exact (last at').symm ▸ each i stage at'

/-- The stage at an index is the loop body's, on the stage there. -/
theorem normalize_getElem? {fresh : Nat → String} {recipe out : Recipe} {i : Nat} {stage : Stage}
    (h : normalize fresh recipe = .ok out) (at' : out.stages[i]? = some stage) :
    ∃ source, recipe.stages[i]? = some source ∧
      normalizeStage (fresh i) (i + 1 = out.stages.length) i source = .ok stage := by
  obtain ⟨passes, rfl⟩ := normalize_ok_iff.mp h
  have length : (recipe.kept fresh).stages.length = recipe.stages.length := List.length_mapIdx
  rw [recipe.getElem?_kept] at at'
  obtain ⟨source, before, kept⟩ := Option.map_eq_some_iff.mp at'
  rw [length]
  exact ⟨source, before, normalizeStage_ok_iff.mpr ⟨passes.each i source before, kept.symm⟩⟩

/-- **Accepted recipes.** Every stage of a recipe `normalize` accepts is an accepted stage. -/
theorem normalize_accepted {fresh : Nat → String} {recipe out : Recipe}
    (h : normalize fresh recipe = .ok out) : ∀ stage ∈ out.stages, stage.Accepted := by
  intro stage item
  obtain ⟨i, at'⟩ := List.mem_iff_getElem?.mp item
  obtain ⟨_, _, ok⟩ := normalize_getElem? h at'
  exact normalizeStage_accepted ok

/-- Only the last stage comes out set to turn the oven off. -/
theorem normalizeStage_turnOff {freshId : String} {isLast : Bool} {i : Nat} {stage out : Stage}
    (h : normalizeStage freshId isLast i stage = .ok out) :
    out.turnOffAtEnd = none ∨ out.turnOffAtEnd = some true ∧ isLast := by
  obtain ⟨passes, rfl⟩ := normalizeStage_ok_iff.mp h
  show stage.turnOffAtEnd.filter (fun on => on) = none ∨ _
  cases set : stage.turnOffAtEnd with
  | none => exact .inl rfl
  | some on =>
    cases on with
    | false => exact .inl rfl
    | true => exact .inr ⟨by simp [Stage.kept, set], passes.last set⟩

/-- A kept id is there, and isn't blank. -/
theorem keptId_given (freshId : String) (id : Option String) :
    ∃ kept, keptId freshId id = some kept ∧ kept ≠ "" := by
  unfold keptId
  split
  · exact ⟨_, rfl, by rw [ne_eq, String.append_eq_empty_iff]; simp⟩
  · rename_i given
    cases own : id with
    | none => simp [own] at given
    | some id => exact ⟨id, rfl, by simpa [own] using given⟩

/-- Every stage comes out with an id. -/
theorem normalizeStage_id {freshId : String} {isLast : Bool} {i : Nat} {stage out : Stage}
    (h : normalizeStage freshId isLast i stage = .ok out) : ∃ id, out.id = some id ∧ id ≠ "" := by
  obtain ⟨_, rfl⟩ := normalizeStage_ok_iff.mp h
  exact keptId_given freshId stage.id

/-! ## What is normalized stays -/

theorem toList_trim (s : String) : (trim s).toList = trimBy isWhitespace s.toList :=
  String.toList_ofList

/-- A trim leaves alone what neither begins nor ends with white space. -/
theorem trim_eq_self_iff {s : String} : trim s = s ↔ Neat isWhitespace s.toList := by
  rw [← trimBy_eq_self_iff, ← toList_trim, String.toList_inj]

theorem trim_trim (s : String) : trim (trim s) = trim s := by
  rw [trim_eq_self_iff, toList_trim]
  exact neat_trimBy _ _

theorem trimPrompt_trimPrompt (prompt : Option String) :
    trimPrompt (trimPrompt prompt) = trimPrompt prompt := by
  cases prompt with
  | none => rfl
  | some text =>
    by_cases blank : trim text = ""
    · simp [trimPrompt, Option.filter_some, blank]
    · simp [trimPrompt, Option.filter_some, blank, trim_trim]

theorem Stage.Passes.kept {isLast : Bool} {stage : Stage} (h : stage.Passes isLast)
    (freshId : String) : (stage.kept freshId).Passes isLast where
  kind := h.kind
  temperature := h.temperature
  steam := h.steam
  fan := by
    show stage.normalizeFanSpeed.fanSpeed ≤ 100
    rw [normalizeFanSpeed_fanSpeed]
    split
    · exact UInt8.le_refl _
    · exact h.fan
  rack := h.rack
  timer := h.timer
  probe := h.probe
  target := h.target
  oneEnd := h.oneEnd
  preheat := h.preheat
  last := fun on => h.last (Option.filter_eq_some_iff.mp on).1
  turnOff := fun on => h.turnOff (Option.filter_eq_some_iff.mp on).1
  prompt := by
    intro prompt set
    exact h.prompt prompt (trimPrompt_trimPrompt stage.prompt ▸ set)
  elements := h.elements

/-- A stage is kept as it was kept before. -/
theorem kept_kept (freshId freshId' : String) (stage : Stage) :
    (stage.kept freshId).kept freshId' = stage.kept freshId := by
  have fan : (stage.kept freshId).normalizeFanSpeed.fanSpeed =
      stage.normalizeFanSpeed.fanSpeed := by
    unfold Stage.kept Stage.normalizeFanSpeed
    dsimp only
    split <;> rfl
  have turnOff : (stage.turnOffAtEnd.filter fun on => on).filter (fun on => on) =
      stage.turnOffAtEnd.filter fun on => on := by
    rw [Option.filter_filter]
    simp
  have title : (stage.title.filter fun t => decide (trim t ≠ "")).filter
      (fun t => decide (trim t ≠ "")) = stage.title.filter fun t => decide (trim t ≠ "") := by
    rw [Option.filter_filter]
    simp
  have id : keptId freshId' (keptId freshId stage.id) = keptId freshId stage.id := by
    obtain ⟨id, named, given⟩ := keptId_given freshId stage.id
    rw [named]
    simp [keptId, given]
  unfold Stage.kept at fan ⊢
  dsimp only at fan ⊢
  rw [fan, turnOff, title, id, trimPrompt_trimPrompt]

/-- The title of a recipe that comes out. -/
theorem normalize_title {fresh : Nat → String} {recipe out : Recipe}
    (h : normalize fresh recipe = .ok out) : out.title = trim recipe.title := by
  obtain ⟨_, rfl⟩ := normalize_ok_iff.mp h
  rfl

theorem normalize_id {fresh : Nat → String} {recipe out : Recipe}
    (h : normalize fresh recipe = .ok out) : out.id = recipe.id := by
  obtain ⟨_, rfl⟩ := normalize_ok_iff.mp h
  rfl

/-- A stage that came out passes where it stands, and is kept as it is. -/
theorem normalize_settled {fresh : Nat → String} {recipe out : Recipe} {i : Nat} {stage : Stage}
    (h : normalize fresh recipe = .ok out) (at' : out.stages[i]? = some stage) :
    stage.Passes (i + 1 = out.stages.length) ∧ ∀ freshId, stage.kept freshId = stage := by
  obtain ⟨source, _, ok⟩ := normalize_getElem? h at'
  obtain ⟨passes, rfl⟩ := normalizeStage_ok_iff.mp ok
  exact ⟨passes.kept (fresh i), fun freshId => kept_kept (fresh i) freshId source⟩

/-- Every stage of a recipe that comes out has an id. -/
theorem normalize_stage_id {fresh : Nat → String} {recipe out : Recipe}
    (h : normalize fresh recipe = .ok out) :
    ∀ stage ∈ out.stages, ∃ id, stage.id = some id ∧ id ≠ "" := by
  intro stage item
  obtain ⟨i, at'⟩ := List.mem_iff_getElem?.mp item
  obtain ⟨_, _, ok⟩ := normalize_getElem? h at'
  exact normalizeStage_id ok

/-- A recipe that comes out has stages. -/
theorem normalize_nonempty {fresh : Nat → String} {recipe out : Recipe}
    (h : normalize fresh recipe = .ok out) : out.stages ≠ [] := by
  obtain ⟨passes, rfl⟩ := normalize_ok_iff.mp h
  intro empty
  exact passes.stages (List.mapIdx_eq_nil_iff.mp empty)

/-- Stages that came out are kept as they are. -/
theorem normalize_kept_stages {fresh : Nat → String} {recipe out : Recipe}
    (h : normalize fresh recipe = .ok out) (fresh' : Nat → String) :
    (out.stages.mapIdx fun i stage => stage.kept (fresh' i)) = out.stages := by
  apply List.ext_getElem?
  intro i
  rw [List.getElem?_mapIdx]
  cases at' : out.stages[i]? with
  | none => rfl
  | some stage => exact congrArg some ((normalize_settled h at').2 (fresh' i))

/-- **Idempotence.** A recipe that comes out goes through again, whatever ids are drawn, and comes out
the same. -/
theorem normalize_idempotent {fresh fresh' : Nat → String} {recipe out : Recipe}
    (h : normalize fresh recipe = .ok out) : normalize fresh' out = .ok out := by
  obtain ⟨passes, kept⟩ := normalize_ok_iff.mp h
  have title : trim out.title = out.title := by rw [kept]; exact trim_trim recipe.title
  have count : out.stageCount = cookStageCount out.stages := by rw [kept]; rfl
  apply normalize_ok_iff.mpr
  constructor
  · constructor
    · rw [title, kept]
      exact passes.title
    · exact normalize_nonempty h
    · intro i stage at'
      exact (normalize_settled h at').1
  · unfold Recipe.kept
    rw [title, normalize_kept_stages h fresh']
    dsimp only
    rw [← count]

/-- **Normalized stages** go through `normalize` unchanged, in whatever recipe they stand. -/
theorem normalize_stages_again {fresh fresh' : Nat → String} {recipe out other again : Recipe}
    (h : normalize fresh recipe = .ok out) (same : other.stages = out.stages)
    (h' : normalize fresh' other = .ok again) : again.stages = out.stages := by
  obtain ⟨_, rfl⟩ := normalize_ok_iff.mp h'
  show other.stages.mapIdx _ = _
  rw [same, normalize_kept_stages h fresh']

/-! ## An accepted recipe -/

namespace Kitchen

/-- A roast at 180 degrees, in one stage with no end. -/
def roast : Stage where
  id := some "roast"
  kind := "cook"
  temperatureC := 180
  temperatureBulbsMode := some "dry"
  durationSecs := none
  timerAdded := none
  probeAdded := none
  probeTargetC := none
  steamPct := 0
  fanSpeed := 100
  userActionRequired := none
  rackPosition := some 3
  heatingElementTop := some false
  heatingElementRear := some true
  heatingElementBottom := some false
  ventOpen := some false
  title := none
  turnOffAtEnd := none
  prompt := none

/-- A recipe of one stage. -/
def recipeOf (stage : Stage) : Recipe := ⟨"roast", "Roast", 1, [stage], .own⟩

/-- Half an hour of browning, once the oven is hot and the roast is in. -/
def browning : Stage :=
  { roast with
    id := some "brown"
    durationSecs := some 1800
    timerAdded := some true
    probeAdded := some false
    userActionRequired := some true
    title := some "Brown"
    prompt := some "Put the roast in" }

/-- What follows at 90 degrees, until the roast has 60 inside. -/
def resting : Stage :=
  { roast with
    id := some "rest"
    temperatureC := 90
    timerAdded := some false
    probeAdded := some true
    probeTargetC := some 60
    turnOffAtEnd := some true }

/-- A preheat, the browning and what follows, as they are saved. -/
def sundayRoast : Recipe where
  id := "sunday"
  title := "Sunday roast"
  stageCount := 2
  stages :=
    [{ roast with id := some "ios-0", kind := "preheat", timerAdded := some false, probeAdded := some false },
      browning, resting]
  source := .own

/-- The recipe as it is sent: its preheat without an id and with a slow fan, blanks around its title and its
note. -/
def sundayDraft : Recipe :=
  { sundayRoast with
    title := "  Sunday roast "
    stageCount := 0
    stages :=
      [{ roast with
          id := none
          kind := "preheat"
          fanSpeed := 60
          timerAdded := some false
          probeAdded := some false
          title := some " " },
        { browning with turnOffAtEnd := some false, prompt := some " Put the roast in " },
        resting] }

end Kitchen

/-- A recipe of the roast is accepted as it is. -/
example : normalize toString (Kitchen.recipeOf Kitchen.roast) =
    .ok (Kitchen.recipeOf Kitchen.roast) := by
  decide +kernel

/-- What a first run rewrites comes out the same of a second that draws other ids. -/
theorem sunday_idempotent : Kitchen.sundayDraft ≠ Kitchen.sundayRoast ∧
    normalize (fun _ => "again") Kitchen.sundayRoast = .ok Kitchen.sundayRoast :=
  ⟨by decide, @normalize_idempotent toString (fun _ => "again") Kitchen.sundayDraft Kitchen.sundayRoast
    (by decide +kernel)⟩

end AnovaOven
