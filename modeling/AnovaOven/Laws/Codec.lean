import AnovaOven.Laws.Setpoints
import AnovaOven.Laws.Wire

/-!
# The stage codec's round trip

A stage sent to the oven, echoed without its end flags and read back, is the stage that was sent
(`stage_reads_back`): field by field what it was or the encoder's default, and its setpoints within
a third of a degree. The bound is the two roundings of a setpoint: half a degree Fahrenheit, then
half a tenth of a degree Celsius.
-/

namespace AnovaOven

variable {fresh : String} {stage : Stage}

/-! ## The oven's echo -/

/-- The flags the oven drops from a stage it was sent. -/
def endFlags : List String := ["timerAdded", "probeAdded"]

/-- A stage object as the oven echoes it. -/
def echo (object : Json) : Json := object.eraseAll endFlags

/-- A stage that was sent, echoed and read, with the end flags restored. -/
def readBack (object : Json) : Stage := restoreEndFlags (stageFromJson (echo object))

/-- The fields the oven may drop. -/
def lossyFields : List String :=
  ["description", "rackPosition", "stageTransitionType", "timerAdded", "probeAdded"]

/-- The bulb mode a stage goes out with. -/
def sentMode (stage : Stage) : String :=
  if stage.temperatureBulbsMode.getD "dry" = "wet" then "wet" else "dry"

/-- The target a stage goes out with: none beside a timer. -/
def sentTarget (stage : Stage) : Option ℚ :=
  if stage.durationSecs.isSome then none else stage.probeTargetC

/-- What reads back of a stage whose object loses some fields, the end flags among them: the encoder's
defaults for what is absent, and the setpoints in tenths of a degree. -/
def readFrom (fresh : String) (drops : List String) (stage : Stage) : Stage where
  id := some (normalizeStageIdForWs fresh stage.id)
  kind := stage.kind
  temperatureC := readCelsius stage.temperatureC
  temperatureBulbsMode := some (sentMode stage)
  durationSecs := stage.durationSecs
  timerAdded := none
  probeAdded := none
  probeTargetC := (sentTarget stage).map readCelsius
  steamPct := stage.steamPct
  fanSpeed := stage.fanSpeed
  userActionRequired := some (stage.userActionRequired.getD false)
  rackPosition := if "rackPosition" ∈ drops then none else some (stage.rackPosition.getD 3)
  heatingElementTop := some (stage.heatingElementTop.getD true)
  heatingElementRear := some (stage.heatingElementRear.getD true)
  heatingElementBottom := some (stage.heatingElementBottom.getD true)
  ventOpen := some (stage.ventOpen.getD false)
  title := stage.title
  turnOffAtEnd := none
  prompt := none

/-- An 8-bit value sent as a number reads back. -/
theorem toUInt8_ofNat (n : UInt8) : (UInt64.ofNat n.toNat).toUInt8 = n := by
  apply UInt8.toNat_inj.mp
  have small := n.toNat_lt
  rw [UInt64.toNat_toUInt8, UInt64.toNat_ofNat']
  omega

theorem asU64_uint8 (n : UInt8) : Json.asU64 (.int n.toNat) = some (UInt64.ofNat n.toNat) :=
  Json.asU64_natCast (n.toNat_lt.trans (by decide))

section

variable {drops : List String} (only : ∀ key ∈ drops, key ∈ lossyFields)

include only

/-- A field the oven keeps. -/
theorem get_kept {key : String} (kept : key ∉ lossyFields) :
    ((startStageJson fresh stage).eraseAll drops).get key = (startStageJson fresh stage).get key := by
  rw [Json.get_eraseAll, if_neg fun dropped => kept (only key dropped)]

/-- A field every stage sends and the oven keeps. -/
theorem get_kept_base {key : String} (kept : key ∉ lossyFields) (sent : key ∉ optionalFields) :
    ((startStageJson fresh stage).eraseAll drops).get key = (startStageBase fresh stage).get key :=
  (get_kept only kept).trans (get_base sent)

theorem read_id : ((((startStageJson fresh stage).eraseAll drops).get "id").bind Json.asStr).filter
    (fun t => t ≠ "") = some (normalizeStageIdForWs fresh stage.id) := by
  have named : normalizeStageIdForWs fresh stage.id ≠ "" := by
    intro blank
    have led := prefixed_normalizeStageIdForWs fresh stage.id
    rw [blank] at led
    exact absurd led (by decide)
  rw [get_kept_base only (by decide) (by decide)]
  show Option.filter _ (some _) = _
  simp [Option.filter, named]

theorem read_kind :
    ((((startStageJson fresh stage).eraseAll drops).get "type").bind Json.asStr).getD "cook" =
      stage.kind := by
  rw [get_kept_base only (by decide) (by decide)]
  rfl

theorem read_title (range : stage.Accepted) :
    ((((startStageJson fresh stage).eraseAll drops).get "title").bind Json.asStr).filter
      (fun t => t ≠ "") = stage.title := by
  rw [get_kept_base only (by decide) (by decide)]
  show Option.filter _ (some (stage.title.getD "")) = _
  have named := range.title
  cases title : stage.title with
  | none => rfl
  | some text =>
    rw [title] at named
    simpa [Option.filter] using fun blank : text = "" => named (congrArg some blank)

/-- The bulbs: the mode, and the setpoint under it. -/
theorem get_bulbs : ((startStageJson fresh stage).eraseAll drops).get "temperatureBulbs" =
    some (.obj [("mode", .str (sentMode stage)),
      (sentMode stage, .obj [("setpoint", setpointJson stage.temperatureC)])]) := by
  rw [get_kept_base only (by decide) (by decide)]
  show some (temperatureBulbsJson stage) = _
  unfold temperatureBulbsJson sentMode
  dsimp only
  split <;> rfl

theorem read_duration : ((((startStageJson fresh stage).eraseAll drops).get "timer").bind fun t =>
    t.get "initial").bind Json.asU64 = stage.durationSecs := by
  rw [get_kept only (by decide)]
  exact timerSetting_startStageJson

theorem read_target (range : stage.Accepted) :
    ((((startStageJson fresh stage).eraseAll drops).get "temperatureProbe").bind fun tp =>
      tp.get "setpoint").bind setpointCelsius = (sentTarget stage).map readCelsius := by
  rw [get_kept only (by decide), get_temperatureProbe, sentTarget]
  cases stage.durationSecs with
  | some secs => rfl
  | none =>
    cases target : stage.probeTargetC with
    | none => rfl
    | some celsius =>
      obtain ⟨lower, upper⟩ := range.target celsius target
      exact setpointCelsius_setpointJson_eq lower (by linarith)

theorem read_steam (range : stage.Accepted) :
    ((((startStageJson fresh stage).eraseAll drops).get "steamGenerators").bind fun sg => do
      let mode ← (← sg.get "mode").asStr
      if mode = "steam-percentage" then
        (← (← sg.get "steamPercentage").get "setpoint").asF64
      else if mode = "relative-humidity" then
        (← (← sg.get "relativeHumidity").get "setpoint").asF64
      else none).getD 0 = stage.steamPct := by
  rw [get_kept only (by decide), get_steam]
  split
  · simp [List.lookup_cons]
  · rename_i none
    simpa using (le_antisymm (not_lt.mp none) range.steam).symm

theorem read_fan : ((((((startStageJson fresh stage).eraseAll drops).get "fan").bind fun f =>
    f.get "speed").bind Json.asU64).getD 0).toUInt8 = stage.fanSpeed := by
  have sent : ((startStageJson fresh stage).eraseAll drops).get "fan" =
      some (.obj [("speed", .int stage.fanSpeed.toNat)]) :=
    get_kept_base only (by decide) (by decide)
  rw [sent, Option.bind_some, Json.get_obj, List.lookup_cons_self, Option.bind_some, asU64_uint8,
    Option.getD_some, toUInt8_ofNat]

theorem read_waits : (((startStageJson fresh stage).eraseAll drops).get "userActionRequired").bind
    Json.asBool = some (stage.userActionRequired.getD false) := by
  rw [get_kept_base only (by decide) (by decide)]
  rfl

theorem get_elements : ((startStageJson fresh stage).eraseAll drops).get "heatingElements" =
    some (heatingElementsJson stage) :=
  get_kept_base only (by decide) (by decide)

theorem read_vent : ((((startStageJson fresh stage).eraseAll drops).get "vent").bind fun v =>
    v.get "open").bind Json.asBool = some (stage.ventOpen.getD false) := by
  rw [get_kept_base only (by decide) (by decide)]
  rfl

omit only in
theorem read_rack : ((((startStageJson fresh stage).eraseAll drops).get "rackPosition").bind
    Json.asU64).map UInt64.toUInt8 =
      if "rackPosition" ∈ drops then none else some (stage.rackPosition.getD 3) := by
  rw [Json.get_eraseAll]
  split
  · rfl
  · have sent : (startStageJson fresh stage).get "rackPosition" =
        some (.int (stage.rackPosition.getD 3).toNat) := get_base (by decide)
    rw [sent, Option.bind_some, asU64_uint8, Option.map_some, toUInt8_ofNat]

/-- **What reads back** of an accepted stage that was sent. -/
theorem stageFromJson_eraseAll (flags : ∀ key ∈ endFlags, key ∈ drops) (range : stage.Accepted) :
    stageFromJson ((startStageJson fresh stage).eraseAll drops) = readFrom fresh drops stage := by
  have setpoint := setpointCelsius_setpointJson_eq (by linarith [range.temperature.1])
    range.temperature.2
  have dropped (key : String) (h : key ∈ endFlags) :
      ((startStageJson fresh stage).eraseAll drops).get key = none := by
    rw [Json.get_eraseAll, if_pos (flags key h)]
  have known : sentMode stage = "wet" ∨ sentMode stage = "dry" := by
    unfold sentMode
    split
    · exact .inl rfl
    · exact .inr rfl
  unfold stageFromJson readFrom
  rw [read_id only, read_kind only, read_title only range, read_duration only,
    read_target only range, read_steam only range, read_fan only, read_waits only, read_rack,
    get_elements only, read_vent only, get_bulbs only, dropped "timerAdded" (by decide),
    dropped "probeAdded" (by decide)]
  rcases known with mode | mode <;> simp [mode, List.lookup_cons, heatingElementsJson, setpoint]

end

/-! ## The round trip -/

/-- What the codec keeps of a stage: its fields, those absent at the encoder's default, and its
setpoints to within a third of a degree. -/
structure ReadsBack (stage read : Stage) : Prop where
  kind : read.kind = stage.kind
  mode : read.temperatureBulbsMode = stage.temperatureBulbsMode
  temperature : |read.temperatureC - stage.temperatureC| < 1 / 3
  timer : read.timerAdded = some true ↔ stage.timerAdded = some true
  duration : read.durationSecs = stage.durationSecs
  probe : read.probeAdded = some true ↔ stage.probeAdded = some true
  target : Option.Rel (fun read target => |read - target| < 1 / 3) read.probeTargetC
    stage.probeTargetC
  steam : read.steamPct = stage.steamPct
  fan : read.fanSpeed = stage.fanSpeed
  top : read.heatingElementTop = stage.heatingElementTop
  rear : read.heatingElementRear = stage.heatingElementRear
  bottom : read.heatingElementBottom = stage.heatingElementBottom
  title : read.title = stage.title
  waits : read.userActionRequired = some (stage.userActionRequired.getD false)
  rack : read.rackPosition = some (stage.rackPosition.getD 3)
  vent : read.ventOpen = some (stage.ventOpen.getD false)

/-- A stage that says all the encoder would otherwise fill in: a mode, the three elements, and no
duration or target but under its flag. -/
structure SaysAll (stage : Stage) : Prop where
  mode : stage.temperatureBulbsMode = some "dry" ∨ stage.temperatureBulbsMode = some "wet"
  top : stage.heatingElementTop.isSome
  rear : stage.heatingElementRear.isSome
  bottom : stage.heatingElementBottom.isSome
  duration : stage.durationSecs.isSome → stage.timerAdded = some true
  target : stage.probeTargetC.isSome → stage.probeAdded = some true

/-- Restoring the end flags changes nothing else. -/
theorem restoreEndFlags_frame (stage : Stage) :
    ∃ timer probe, restoreEndFlags stage =
      { stage with timerAdded := timer, probeAdded := probe } := by
  unfold restoreEndFlags
  split
  · exact ⟨stage.timerAdded, stage.probeAdded, rfl⟩
  · exact ⟨_, _, rfl⟩

/-- A preheat keeps its flags. -/
theorem restoreEndFlags_preheat (preheat : stage.kind = "preheat") : restoreEndFlags stage = stage :=
  if_pos (.inl preheat)

/-- A stage without flags that is no preheat gets them from its values. -/
theorem restoreEndFlags_bare (cooks : stage.kind ≠ "preheat") (noTimer : stage.timerAdded = none)
    (noProbe : stage.probeAdded = none) :
    restoreEndFlags stage =
      { stage with
        timerAdded := some (stage.durationSecs.any fun d => decide (d > 0))
        probeAdded := some (!(stage.durationSecs.any fun d => decide (d > 0)) &&
          stage.probeTargetC.isSome) } := by
  unfold restoreEndFlags
  rw [if_neg (by rw [noTimer, noProbe]; simpa using cooks)]

/-- A target goes out, since its stage has no duration. -/
theorem sentTarget_eq (h : SaysAll stage) (range : stage.Accepted) :
    sentTarget stage = stage.probeTargetC := by
  unfold sentTarget
  split
  · rename_i timed
    cases target : stage.probeTargetC with
    | none => rfl
    | some celsius =>
      exact absurd ⟨h.duration timed, h.target (by rw [target]; rfl)⟩ range.oneEnd
  · rfl

/-- The end flags of a stage read without them are restored: the timer's where the stage has it set,
and the probe's. -/
theorem restored_flags (h : SaysAll stage) (range : stage.Accepted) (read : Stage)
    (kind : read.kind = stage.kind) (noFlags : read.timerAdded = none ∧ read.probeAdded = none)
    (duration : read.durationSecs = stage.durationSecs)
    (target : read.probeTargetC.isSome = stage.probeTargetC.isSome) :
    ((restoreEndFlags read).timerAdded = some true ↔ stage.timerAdded = some true) ∧
      ((restoreEndFlags read).probeAdded = some true ↔ stage.probeAdded = some true) := by
  obtain ⟨noTimer, noProbe⟩ := noFlags
  have timerSet : stage.timerAdded = some true ↔
      (stage.durationSecs.any fun secs => decide (secs > 0)) = true := by
    constructor
    · intro set
      obtain ⟨secs, duration, positive⟩ := range.timer set
      simpa [duration] using positive
    · intro running
      exact h.duration (by cases duration : stage.durationSecs <;> simp_all)
  have probeSet : stage.probeAdded = some true ↔ stage.probeTargetC.isSome :=
    ⟨range.probe, h.target⟩
  by_cases preheat : stage.kind = "preheat"
  · obtain ⟨timerOff, probeOff⟩ := range.preheat preheat
    rw [restoreEndFlags_preheat (kind.trans preheat), noTimer, noProbe]
    simp [timerOff, probeOff]
  · rw [restoreEndFlags_bare (kind.trans_ne preheat) noTimer noProbe, duration, target]
    have oneEnd := range.oneEnd
    rw [timerSet, probeSet] at oneEnd ⊢
    dsimp only
    revert oneEnd
    generalize (stage.durationSecs.any fun secs => decide (secs > 0)) = timer
    generalize stage.probeTargetC.isSome = probe
    cases timer <;> cases probe <;> simp

/-- A stage that says all reads back as it is, but for its setpoints. -/
theorem readFrom_endFlags (h : SaysAll stage) (range : stage.Accepted) :
    ReadsBack stage (restoreEndFlags (readFrom fresh endFlags stage)) := by
  obtain ⟨timer, probe⟩ := restored_flags h range (readFrom fresh endFlags stage) rfl ⟨rfl, rfl⟩ rfl
    (by rw [readFrom, sentTarget_eq h range, Option.isSome_map])
  obtain ⟨_, _, frame⟩ := restoreEndFlags_frame (readFrom fresh endFlags stage)
  have mode : some (sentMode stage) = stage.temperatureBulbsMode := by
    unfold sentMode
    rcases h.mode with mode | mode <;> rw [mode] <;> rfl
  have set {flag : Option Bool} (isSet : flag.isSome) : some (flag.getD true) = flag := by
    obtain ⟨on, rfl⟩ := Option.isSome_iff_exists.mp isSet
    rfl
  have target : Option.Rel (fun read target => |read - target| < 1 / 3)
      ((sentTarget stage).map readCelsius) stage.probeTargetC := by
    rw [sentTarget_eq h range]
    cases stage.probeTargetC with
    | none => exact .none
    | some celsius => exact .some (readCelsius_near celsius)
  rw [frame] at timer probe ⊢
  exact
    { kind := rfl
      mode := mode
      temperature := readCelsius_near _
      timer := timer
      duration := rfl
      probe := probe
      target := target
      steam := rfl
      fan := rfl
      top := set h.top
      rear := set h.rear
      bottom := set h.bottom
      title := rfl
      waits := rfl
      rack := rfl
      vent := rfl }

/-- **The round trip.** Of an accepted recipe, the object of a stage that says all reads back as the
stage. -/
theorem stage_reads_back {fresh ids : Nat → String} {recipe accepted : Recipe}
    (h : normalize ids recipe = .ok accepted) {i : Nat} {object : Json}
    (at' : accepted.stages[i]? = some stage)
    (sent : (startStagesJson fresh accepted.stages)[i]? = some object) (all : SaysAll stage) :
    ReadsBack stage (readBack object) := by
  have range := normalize_accepted h stage (List.mem_of_getElem? at')
  rw [startStagesJson_getElem? at'] at sent
  cases sent
  rw [readBack, echo, stageFromJson_eraseAll (by decide) (by decide) range]
  exact readFrom_endFlags all range

/-- The browning says all, with a timer, a title and its wait, and reads back; so does the end on the probe. -/
theorem sunday_reads_back :
    ReadsBack Kitchen.browning (readBack (startStageJson (toString 1) Kitchen.browning)) ∧
      ReadsBack Kitchen.resting (readBack (startStageJson (toString 2) Kitchen.resting)) := by
  have accepted : normalize toString Kitchen.sundayDraft = .ok Kitchen.sundayRoast := by decide +kernel
  exact ⟨stage_reads_back (i := 1) accepted rfl rfl ⟨.inl rfl, rfl, rfl, rfl, fun _ => rfl, by decide⟩,
    stage_reads_back (i := 2) accepted rfl rfl ⟨.inl rfl, rfl, rfl, rfl, by decide, fun _ => rfl⟩⟩

end AnovaOven
