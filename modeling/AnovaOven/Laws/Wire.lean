import AnovaOven.Laws.Normalize
import AnovaOven.Protocol.Stages

/-!
# Laws of the stages on the wire

What `startStagesJson` makes of the stages of an accepted recipe: **which heating elements and which
fan speed go out** (`startStages_safe_iff`) and **which end** (`startStages_end_iff`). The object of
a stage is read through one equation a field (`get_base`, `get_steam` and the four of the end).
-/

namespace AnovaOven

variable {fresh : String} {stage : Stage}

/-! ## Ids -/

/-- A prefixed id goes out as it is. -/
theorem normalizeStageIdForWs_prefixed {freshId id : String} (ios : "ios-".toList <+: id.toList) :
    normalizeStageIdForWs freshId (some id) = id :=
  if_pos (by simpa using ios)

/-- Every id goes out prefixed. -/
theorem prefixed_normalizeStageIdForWs (freshId : String) (id : Option String) :
    "ios-".toList <+: (normalizeStageIdForWs freshId id).toList := by
  have led (tail : String) : "ios-".toList <+: ("ios-" ++ tail).toList :=
    ⟨tail.toList, String.toList_append.symm⟩
  unfold normalizeStageIdForWs
  split
  · split
    · rename_i ios
      simpa using ios
    · split
      · exact led _
      · split <;> exact led _
  · exact led _

/-- An id that went out once goes out as it is. -/
theorem normalizeStageIdForWs_again (freshId freshId' : String) (id : Option String) :
    normalizeStageIdForWs freshId' (some (normalizeStageIdForWs freshId id)) =
      normalizeStageIdForWs freshId id :=
  normalizeStageIdForWs_prefixed (prefixed_normalizeStageIdForWs freshId id)

/-! ## Reading a stage object -/

/-- The fields of a stage object that not every stage sends. -/
def optionalFields : List String :=
  ["steamGenerators", "timerAdded", "probeAdded", "timerStartOnDetect", "timer", "temperatureProbe"]

theorem isObj_withSteam (object : Json) : (withSteam stage object).isObj = object.isObj := by
  unfold withSteam
  split
  · exact Json.isObj_set _ _ _
  · rfl

theorem isObj_startStageBase : (startStageBase fresh stage).isObj = true := rfl

theorem isObj_steamed : (withSteam stage (startStageBase fresh stage)).isObj = true :=
  isObj_withSteam _

/-- The end's fields are written over the stage's other ones, and touch none of them. -/
theorem get_withEnd {object : Json} (isObj : object.isObj) {key : String}
    (h : key ∉ ["timerAdded", "probeAdded", "timerStartOnDetect", "timer", "temperatureProbe"]) :
    (withEnd stage object).get key = object.get key := by
  simp only [List.mem_cons, List.not_mem_nil, or_false, not_or] at h
  obtain ⟨h1, h2, h3, h4, h5⟩ := h
  unfold withEnd
  split <;> simp only [Json.get_set, Json.isObj_set, isObj, h1, h2, h3, h4, h5, if_false]

theorem get_withSteam {object : Json} (isObj : object.isObj) {key : String}
    (h : key ≠ "steamGenerators") : (withSteam stage object).get key = object.get key := by
  unfold withSteam
  split
  · rw [Json.get_set isObj, if_neg h]
  · rfl

/-- A field every stage sends. -/
theorem get_base {key : String} (h : key ∉ optionalFields) :
    (startStageJson fresh stage).get key = (startStageBase fresh stage).get key := by
  obtain ⟨steam, ending⟩ := not_or.mp (fun member => h (List.mem_cons.mpr member))
  unfold startStageJson
  rw [get_withEnd isObj_steamed ending, get_withSteam isObj_startStageBase steam]

/-- The steam's field: sent with steam only. -/
theorem get_steam :
    (startStageJson fresh stage).get "steamGenerators" =
      if stage.steamPct > 0 then
        some (.obj [("mode", .str "steam-percentage"),
          ("steamPercentage", .obj [("setpoint", .float stage.steamPct)])])
      else none := by
  unfold startStageJson
  rw [get_withEnd isObj_steamed (by decide)]
  unfold withSteam
  split
  · rw [Json.get_set isObj_startStageBase, if_pos rfl]
  · rfl

/-- A field of the end in an object without one. -/
theorem get_steamed_end {key : String}
    (h : key ∈ ["timerAdded", "probeAdded", "timer", "temperatureProbe"]) :
    (withSteam stage (startStageBase fresh stage)).get key = none := by
  have absent : (startStageBase fresh stage).get key = none := by
    simp only [List.mem_cons, List.not_mem_nil, or_false] at h
    rcases h with rfl | rfl | rfl | rfl <;> rfl
  have notSteam : key ≠ "steamGenerators" := by
    rintro rfl
    revert h
    decide
  rw [get_withSteam isObj_startStageBase notSteam, absent]

/-- The timer's flag: true with a duration, false with a target alone. -/
theorem get_timerAdded :
    (startStageJson fresh stage).get "timerAdded" =
      match stage.durationSecs, stage.probeTargetC with
      | some _, _ => some (.bool true)
      | none, some _ => some (.bool false)
      | none, none => none := by
  have absent := @get_steamed_end fresh stage "timerAdded" (by decide)
  unfold startStageJson withEnd
  cases duration : stage.durationSecs <;> cases target : stage.probeTargetC <;>
    simp [Json.get_set, isObj_steamed, absent]

/-- The probe's flag: true with a target and no duration. -/
theorem get_probeAdded :
    (startStageJson fresh stage).get "probeAdded" =
      match stage.durationSecs, stage.probeTargetC with
      | some _, _ => some (.bool false)
      | none, some _ => some (.bool true)
      | none, none => none := by
  have absent := @get_steamed_end fresh stage "probeAdded" (by decide)
  unfold startStageJson withEnd
  cases duration : stage.durationSecs <;> cases target : stage.probeTargetC <;>
    simp [Json.get_set, isObj_steamed, absent]

/-- The timer: any duration. -/
theorem get_timer :
    (startStageJson fresh stage).get "timer" =
      stage.durationSecs.map fun duration => .obj [("initial", .int duration.toNat)] := by
  have absent := @get_steamed_end fresh stage "timer" (by decide)
  unfold startStageJson withEnd
  cases duration : stage.durationSecs <;> cases target : stage.probeTargetC <;>
    simp [Json.get_set, isObj_steamed, absent]

/-- The probe: a target with no duration. -/
theorem get_temperatureProbe :
    (startStageJson fresh stage).get "temperatureProbe" =
      match stage.durationSecs, stage.probeTargetC with
      | some _, _ => none
      | none, target => target.map fun target => .obj [("setpoint", setpointJson target)] := by
  have absent := @get_steamed_end fresh stage "temperatureProbe" (by decide)
  unfold startStageJson withEnd
  cases duration : stage.durationSecs <;> cases target : stage.probeTargetC <;>
    simp [Json.get_set, isObj_steamed, absent]

/-- The object at an index is the stage's there. -/
theorem startStagesJson_mem {fresh : Nat → String} {stages : List Stage} {object : Json} :
    object ∈ startStagesJson fresh stages ↔
      ∃ i stage, stages[i]? = some stage ∧ startStageJson (fresh i) stage = object := by
  rw [List.mem_iff_getElem?]
  simp [startStagesJson, List.getElem?_mapIdx, Option.map_eq_some_iff]

theorem startStagesJson_getElem? {fresh : Nat → String} {stages : List Stage} {i : Nat}
    {stage : Stage} (h : stages[i]? = some stage) :
    (startStagesJson fresh stages)[i]? = some (startStageJson (fresh i) stage) := by
  simp [startStagesJson, List.getElem?_mapIdx, h]

@[simp] theorem startStagesJson_length (fresh : Nat → String) (stages : List Stage) :
    (startStagesJson fresh stages).length = stages.length := List.length_mapIdx

/-! ## Elements and fan -/

/-- Whether a stage object has an element on. -/
def elementOn (object : Json) (element : String) : Bool :=
  ((((object.get "heatingElements").bind fun he => he.get element).bind fun e => e.get "on").bind
    Json.asBool) = some true

/-- How many of the three elements a stage object has on. -/
def elementsOn (object : Json) : Nat :=
  ["top", "bottom", "rear"].countP fun element => elementOn object element

/-- A stage object's steam setting: zero where it sends none. -/
def steamSetting (object : Json) : ℚ :=
  ((((object.get "steamGenerators").bind fun sg => sg.get "steamPercentage").bind
    fun sp => sp.get "setpoint").bind Json.asF64).getD 0

/-- A stage object's fan speed. -/
def fanSetting (object : Json) : Option UInt64 :=
  ((object.get "fan").bind fun fan => fan.get "speed").bind Json.asU64

/-- What the oven takes: one or two elements on, and the fan at 100 with the rear element or with
steam. -/
structure WireSafe (object : Json) : Prop where
  elements : elementsOn object = 1 ∨ elementsOn object = 2
  fan : elementOn object "rear" ∨ 0 < steamSetting object → fanSetting object = some 100

/-- The stages whose objects the oven takes: an element is set off, and the rear element is set, on
or off, or the fan is at 100. -/
structure FlagsSet (stage : Stage) : Prop where
  off : stage.heatingElementTop = some false ∨ stage.heatingElementRear = some false ∨
    stage.heatingElementBottom = some false
  rear : stage.heatingElementRear = none → stage.fanSpeed = 100

/-- An element goes out as its flag has it, and on where the flag is absent. -/
theorem elementOn_startStageJson :
    elementOn (startStageJson fresh stage) "top" = stage.heatingElementTop.getD true ∧
      elementOn (startStageJson fresh stage) "rear" = stage.heatingElementRear.getD true ∧
      elementOn (startStageJson fresh stage) "bottom" = stage.heatingElementBottom.getD true := by
  have sent : (startStageJson fresh stage).get "heatingElements" =
      some (heatingElementsJson stage) := get_base (by decide)
  unfold elementOn
  rw [sent]
  refine ⟨?_, ?_, ?_⟩ <;>
    simp [heatingElementsJson, List.lookup_cons]

/-- The steam setting is the stage's, where the stage has none below zero. -/
theorem steamSetting_startStageJson (h : 0 ≤ stage.steamPct) :
    steamSetting (startStageJson fresh stage) = stage.steamPct := by
  unfold steamSetting
  rw [get_steam]
  split
  · simp [List.lookup_cons]
  · rename_i none
    simpa using (le_antisymm (not_lt.mp none) h).symm

/-- The fan speed is the stage's. -/
theorem fanSetting_startStageJson :
    fanSetting (startStageJson fresh stage) = some (UInt64.ofNat stage.fanSpeed.toNat) := by
  have sent : (startStageJson fresh stage).get "fan" =
      some (.obj [("speed", .int stage.fanSpeed.toNat)]) := get_base (by decide)
  have read := Json.asU64_natCast (stage.fanSpeed.toNat_lt.trans (by decide))
  unfold fanSetting
  rw [sent, Option.bind_some, Json.get_obj, List.lookup_cons_self, Option.bind_some, read]

theorem fanSetting_eq_100_iff :
    fanSetting (startStageJson fresh stage) = some 100 ↔ stage.fanSpeed = 100 := by
  have small : stage.fanSpeed.toNat < 2 ^ 8 := stage.fanSpeed.toNat_lt
  rw [fanSetting_startStageJson, Option.some_inj, ← UInt64.toNat_inj, ← UInt8.toNat_inj]
  have : (UInt64.ofNat stage.fanSpeed.toNat).toNat = stage.fanSpeed.toNat := by
    rw [UInt64.toNat_ofNat']
    omega
  rw [this]
  rfl

/-- An accepted stage's object is one the oven takes exactly where its flags are set. -/
theorem startStageJson_safe_iff (h : stage.Accepted) :
    WireSafe (startStageJson fresh stage) ↔ FlagsSet stage := by
  obtain ⟨top, rear, bottom⟩ := @elementOn_startStageJson fresh stage
  have steam := @steamSetting_startStageJson fresh stage h.steam
  have fan := @fanSetting_eq_100_iff fresh stage
  have count : elementsOn (startStageJson fresh stage) =
      (if stage.heatingElementTop.getD true then 1 else 0) +
        (if stage.heatingElementBottom.getD true then 1 else 0) +
        (if stage.heatingElementRear.getD true then 1 else 0) := by
    simp only [elementsOn, List.countP_cons, List.countP_nil, top, rear, bottom]
    omega
  have setOn := h.elements
  have normalized := h.fan
  unfold elementsSetOn at setOn
  constructor
  · rintro ⟨elements, speed⟩
    rw [count] at elements
    rw [rear, steam, fan] at speed
    constructor
    · revert elements setOn
      rcases stage.heatingElementTop with _ | _ | _ <;>
        rcases stage.heatingElementRear with _ | _ | _ <;>
        rcases stage.heatingElementBottom with _ | _ | _ <;> simp
    · exact fun absent => speed (.inl (by rw [absent]; rfl))
  · rintro ⟨off, absent⟩
    constructor
    · rw [count]
      revert off setOn
      rcases stage.heatingElementTop with _ | _ | _ <;>
        rcases stage.heatingElementRear with _ | _ | _ <;>
        rcases stage.heatingElementBottom with _ | _ | _ <;> simp
    · rw [rear, steam, fan]
      rintro (on | on)
      · cases flag : stage.heatingElementRear with
        | none => exact absent flag
        | some on' =>
          rw [flag] at on
          exact normalized (.inl (by rw [flag]; exact congrArg some on))
      · exact normalized (.inr on)

/-- **Elements and fan.** The objects of an accepted recipe's stages are all ones the oven takes,
exactly where every stage sets an element off, and the rear one on or off or the fan to 100. -/
theorem startStages_safe_iff {fresh ids : Nat → String} {recipe accepted : Recipe}
    (h : normalize ids recipe = .ok accepted) :
    (∀ object ∈ startStagesJson fresh accepted.stages, WireSafe object) ↔
      ∀ stage ∈ accepted.stages, FlagsSet stage := by
  have each := normalize_accepted h
  constructor
  · intro safe stage item
    obtain ⟨i, at'⟩ := List.mem_iff_getElem?.mp item
    have sent : startStageJson (fresh i) stage ∈ startStagesJson fresh accepted.stages :=
      startStagesJson_mem.mpr ⟨i, stage, at', rfl⟩
    exact (startStageJson_safe_iff (each stage item)).mp (safe _ sent)
  · intro set object sent
    obtain ⟨i, stage, at', rfl⟩ := startStagesJson_mem.mp sent
    have item := List.mem_of_getElem? at'
    exact (startStageJson_safe_iff (each stage item)).mpr (set stage item)

/-- The roast sets all three flags, and its object is one the oven takes. -/
theorem startStages_safe_roast :
    (∀ object ∈ startStagesJson toString (Kitchen.recipeOf Kitchen.roast).stages,
        WireSafe object) ↔
      ∀ stage ∈ (Kitchen.recipeOf Kitchen.roast).stages, FlagsSet stage :=
  @startStages_safe_iff toString toString (Kitchen.recipeOf Kitchen.roast) _ (by decide +kernel)

/-- A roast with the top element on and the other two flags absent. -/
def Kitchen.topRoast : Stage :=
  { Kitchen.roast with
    fanSpeed := 60
    heatingElementTop := some true
    heatingElementRear := none
    heatingElementBottom := none }

/-- The roast with the top element on is accepted and goes out with all three on. -/
theorem startStages_unsafe :
    ¬ ∀ (fresh ids : Nat → String) (recipe accepted : Recipe),
      normalize ids recipe = .ok accepted →
        ∀ object ∈ startStagesJson fresh accepted.stages, WireSafe object := by
  intro always
  have safe := always toString toString (Kitchen.recipeOf Kitchen.topRoast)
    (Kitchen.recipeOf Kitchen.topRoast) (by decide +kernel) _ (List.mem_cons_self ..)
  exact absurd safe.elements (by decide +kernel)

/-! ## The end of a stage -/

/-- A stage object's flag, where it is true. -/
def flagOn (object : Json) (flag : String) : Bool := (object.get flag).bind Json.asBool = some true

/-- A stage object's timer. -/
def timerSetting (object : Json) : Option UInt64 :=
  ((object.get "timer").bind fun timer => timer.get "initial").bind Json.asU64

/-- A stage object's probe setpoint. -/
def probeSetting (object : Json) : Option Json :=
  (object.get "temperatureProbe").bind fun probe => probe.get "setpoint"

/-- A stage object ends the way its stage says: on the timer with its duration, on the probe with
its target as setpoints go out, not on what is cleared, and a preheat on neither. -/
structure EndsAsSaid (stage : Stage) (object : Json) : Prop where
  timer : stage.timerAdded = some true →
    flagOn object "timerAdded" ∧ timerSetting object = stage.durationSecs ∧
      ¬ flagOn object "probeAdded"
  probe : stage.probeAdded = some true →
    flagOn object "probeAdded" ∧ probeSetting object = stage.probeTargetC.map setpointJson ∧
      ¬ flagOn object "timerAdded"
  noTimer : stage.timerAdded = some false → ¬ flagOn object "timerAdded"
  noProbe : stage.probeAdded = some false → ¬ flagOn object "probeAdded"
  preheat : stage.kind = "preheat" →
    ¬ flagOn object "timerAdded" ∧ ¬ flagOn object "probeAdded"

/-- The stages that leave no value under a flag that is not set: no duration beside a probe, under a
cleared timer or on a preheat, no target on a preheat, nor under a cleared probe without a
duration. -/
structure NothingLeftOver (stage : Stage) : Prop where
  duration : stage.probeAdded = some true ∨ stage.timerAdded = some false ∨
    stage.kind = "preheat" → stage.durationSecs = none
  target : stage.kind = "preheat" ∨ (stage.probeAdded = some false ∧ stage.durationSecs = none) →
    stage.probeTargetC = none

theorem timerAdded_iff :
    flagOn (startStageJson fresh stage) "timerAdded" ↔ stage.durationSecs.isSome := by
  unfold flagOn
  rw [get_timerAdded]
  cases stage.durationSecs <;> cases stage.probeTargetC <;> simp

theorem probeAdded_iff :
    flagOn (startStageJson fresh stage) "probeAdded" ↔
      stage.durationSecs = none ∧ stage.probeTargetC.isSome := by
  unfold flagOn
  rw [get_probeAdded]
  cases stage.durationSecs <;> cases stage.probeTargetC <;> simp

/-- The timer of the object is the stage's duration. -/
theorem timerSetting_startStageJson :
    timerSetting (startStageJson fresh stage) = stage.durationSecs := by
  unfold timerSetting
  rw [get_timer]
  cases stage.durationSecs with
  | none => rfl
  | some duration =>
    rw [Option.map_some, Option.bind_some, Json.get_obj, List.lookup_cons_self, Option.bind_some,
      Json.asU64_toNat]

/-- Without a duration, the probe of the object is the stage's target. -/
theorem probeSetting_startStageJson (h : stage.durationSecs = none) :
    probeSetting (startStageJson fresh stage) = stage.probeTargetC.map setpointJson := by
  unfold probeSetting
  rw [get_temperatureProbe, h]
  cases stage.probeTargetC <;> rfl

/-- An accepted stage's object ends as the stage says exactly where nothing is left over. -/
theorem startStageJson_end_iff (h : stage.Accepted) :
    EndsAsSaid stage (startStageJson fresh stage) ↔ NothingLeftOver stage := by
  have timerOn := @timerAdded_iff fresh stage
  have probeOn := @probeAdded_iff fresh stage
  constructor
  · intro ends
    have duration : stage.probeAdded = some true ∨ stage.timerAdded = some false ∨
        stage.kind = "preheat" → stage.durationSecs = none := by
      intro said
      by_contra left
      have on := timerOn.mpr (Option.isSome_iff_ne_none.mpr left)
      rcases said with probe | cleared | preheat
      · exact (ends.probe probe).2.2 on
      · exact ends.noTimer cleared on
      · exact (ends.preheat preheat).1 on
    refine ⟨duration, ?_⟩
    intro said
    by_contra left
    have target := Option.isSome_iff_ne_none.mpr left
    rcases said with preheat | ⟨cleared, none⟩
    · exact (ends.preheat preheat).2 (probeOn.mpr ⟨duration (.inr (.inr preheat)), target⟩)
    · exact ends.noProbe cleared (probeOn.mpr ⟨none, target⟩)
  · intro nothing
    refine
      { timer := fun timer => ?timer, probe := fun probe => ?probe,
        noTimer := fun cleared on => ?noTimer, noProbe := fun cleared on => ?noProbe,
        preheat := fun preheat => ?preheat }
    case timer =>
      obtain ⟨secs, duration, _⟩ := h.timer timer
      refine ⟨timerOn.mpr (by rw [duration]; rfl), timerSetting_startStageJson, ?_⟩
      intro on
      rw [(probeOn.mp on).1] at duration
      cases duration
    case probe =>
      have none := nothing.duration (.inl probe)
      refine ⟨probeOn.mpr ⟨none, h.probe probe⟩, probeSetting_startStageJson none, ?_⟩
      intro on
      rw [none] at timerOn
      exact absurd (timerOn.mp on) (by simp)
    case noTimer =>
      rw [nothing.duration (.inr (.inl cleared))] at timerOn
      exact absurd (timerOn.mp on) (by simp)
    case noProbe =>
      obtain ⟨none, target⟩ := probeOn.mp on
      rw [nothing.target (.inr ⟨cleared, none⟩)] at target
      exact absurd target (by simp)
    case preheat =>
      rw [timerOn, probeOn, nothing.duration (.inr (.inr preheat)), nothing.target (.inl preheat)]
      simp

/-- Every object of a stage list ends as the stage at its index says. -/
def AllEndAsSaid (fresh : Nat → String) (stages : List Stage) : Prop :=
  ∀ (i : Nat) (stage : Stage) (object : Json), stages[i]? = some stage →
    (startStagesJson fresh stages)[i]? = some object → EndsAsSaid stage object

/-- **Ends.** The objects of an accepted recipe's stages all end as their stages say, exactly where
no stage has a value left over under a flag that is not set. -/
theorem startStages_end_iff {fresh ids : Nat → String} {recipe accepted : Recipe}
    (h : normalize ids recipe = .ok accepted) :
    AllEndAsSaid fresh accepted.stages ↔ ∀ stage ∈ accepted.stages, NothingLeftOver stage := by
  have each := normalize_accepted h
  constructor
  · intro ends stage item
    obtain ⟨i, at'⟩ := List.mem_iff_getElem?.mp item
    exact (startStageJson_end_iff (each stage item)).mp
      (ends i stage _ at' (startStagesJson_getElem? at'))
  · intro nothing i stage object at' sent
    have item := List.mem_of_getElem? at'
    rw [startStagesJson_getElem? at'] at sent
    cases sent
    exact (startStageJson_end_iff (each stage item)).mpr (nothing stage item)

/-- The Sunday roast has a preheat, a timer and a probe, and nothing left over: it ends as it says. -/
theorem startStages_end_sunday : AllEndAsSaid toString Kitchen.sundayRoast.stages :=
  (@startStages_end_iff toString toString Kitchen.sundayDraft _ (by decide +kernel)).mpr <|
    List.forall_mem_cons.mpr ⟨⟨fun _ => rfl, fun _ => rfl⟩,
      List.forall_mem_cons.mpr ⟨⟨by decide, fun _ => rfl⟩,
        List.forall_mem_singleton.mpr ⟨fun _ => rfl, by decide⟩⟩⟩

/-- A roast with a probe and a duration left over from a timer. -/
def Kitchen.probeRoast : Stage :=
  { Kitchen.roast with
    durationSecs := some 1800
    timerAdded := some false
    probeAdded := some true
    probeTargetC := some 60 }

/-- The probe roast is accepted and goes out ending on the timer left over. -/
theorem startStages_wrong_end :
    ¬ ∀ (fresh ids : Nat → String) (recipe accepted : Recipe),
      normalize ids recipe = .ok accepted → AllEndAsSaid fresh accepted.stages := by
  intro always
  have ends := always toString toString (Kitchen.recipeOf Kitchen.probeRoast)
    (Kitchen.recipeOf Kitchen.probeRoast) (by decide +kernel) 0 _ _ rfl rfl
  exact absurd (ends.probe rfl).1 (by decide +kernel)

end AnovaOven
