import AnovaOven.Api
import AnovaOven.Lib.Json
import AnovaOven.Lib.Rounding

/-!
# Stages on the wire (`protocol/stages.rs`)

The stage list of `CMD_APO_START` (`startStagesJson`), and the reader for a stage as the oven
reports it (`stageFromJson`). Floating point is exact: `* 1.8 + 32.0` and the roundings are taken
over rationals. `Uuid::new_v4` is the parameter `fresh`, one draw for each call that makes one.
-/

namespace AnovaOven

/-- `str::trim_start_matches`: drop the pattern as often as it leads, at most `fuel` times. -/
def trimStartMatches (pattern : List Char) : Nat → List Char → List Char
  | 0, s => s
  | fuel + 1, s =>
    if pattern.isPrefixOf s then trimStartMatches pattern fuel (s.drop pattern.length) else s

/-- `normalize_stage_id_for_ws`. -/
def normalizeStageIdForWs (fresh : String) (id : Option String) : String :=
  match id with
  | some raw =>
    if "ios-".toList.isPrefixOf raw.toList then raw
    else if "android-".toList.isPrefixOf raw.toList then
      "ios-" ++ String.ofList (trimStartMatches "android-".toList raw.length raw.toList)
    else if raw ≠ "" then "ios-" ++ raw
    else "ios-" ++ fresh
  | none => "ios-" ++ fresh

/-- `setpoint_json`: a setpoint rounded to whole degrees of both scales. -/
def setpointJson (celsius : ℚ) : Json :=
  .obj [("celsius", .int (asI32 (roundAway celsius))),
    ("fahrenheit", .int (asI32 (roundAway (celsius * 1.8 + 32))))]

/-- `temperature_bulbs_json`. Its setpoint is spelled out in the source, with the two roundings of
`setpoint_json`. Any mode but `"wet"` is sent as `"dry"`. -/
def temperatureBulbsJson (stage : Stage) : Json :=
  let temperatureBulbsMode := stage.temperatureBulbsMode.getD "dry"
  let setpoint := setpointJson stage.temperatureC
  if temperatureBulbsMode = "wet" then
    .obj [("mode", .str "wet"), ("wet", .obj [("setpoint", setpoint)])]
  else
    .obj [("mode", .str "dry"), ("dry", .obj [("setpoint", setpoint)])]

/-- `heating_elements_json`: an absent flag is sent as on. -/
def heatingElementsJson (stage : Stage) : Json :=
  .obj [("top", .obj [("on", .bool (stage.heatingElementTop.getD true))]),
    ("rear", .obj [("on", .bool (stage.heatingElementRear.getD true))]),
    ("bottom", .obj [("on", .bool (stage.heatingElementBottom.getD true))])]

/-- `setpoint_celsius`: the Fahrenheit value, to a tenth of a degree, where it agrees with the
Celsius one to within a degree, and the Celsius one otherwise. -/
def setpointCelsius (setpoint : Json) : Option ℚ := do
  let celsius ← (← setpoint.get "celsius").asF64
  let fromF := (((setpoint.get "fahrenheit").bind Json.asF64).map fun f =>
    (roundAway ((f - 32) / 1.8 * 10) : ℚ) / 10).filter fun c => |c - celsius| ≤ 1
  some (fromF.getD celsius)

/-- `stage_from_json`: missing fields fall back to defaults. -/
def stageFromJson (s : Json) : Stage where
  id := ((s.get "id").bind Json.asStr).filter fun t => t ≠ ""
  kind := ((s.get "type").bind Json.asStr).getD "cook"
  temperatureBulbsMode := ((s.get "temperatureBulbs").bind fun tb => tb.get "mode").bind Json.asStr
  temperatureC := ((s.get "temperatureBulbs").bind fun tb => do
    let mode ← (← tb.get "mode").asStr
    setpointCelsius (← (← tb.get mode).get "setpoint")).getD 0
  durationSecs := ((s.get "timer").bind fun t => t.get "initial").bind Json.asU64
  timerAdded := (s.get "timerAdded").bind Json.asBool
  probeAdded := (s.get "probeAdded").bind Json.asBool
  probeTargetC := ((s.get "temperatureProbe").bind fun tp => tp.get "setpoint").bind setpointCelsius
  steamPct := ((s.get "steamGenerators").bind fun sg => do
    let mode ← (← sg.get "mode").asStr
    if mode = "steam-percentage" then
      (← (← sg.get "steamPercentage").get "setpoint").asF64
    else if mode = "relative-humidity" then
      (← (← sg.get "relativeHumidity").get "setpoint").asF64
    else none).getD 0
  fanSpeed := ((((s.get "fan").bind fun f => f.get "speed").bind Json.asU64).getD 0).toUInt8
  userActionRequired := (s.get "userActionRequired").bind Json.asBool
  rackPosition := ((s.get "rackPosition").bind Json.asU64).map UInt64.toUInt8
  heatingElementTop :=
    (((s.get "heatingElements").bind fun he => he.get "top").bind fun t => t.get "on").bind
      Json.asBool
  heatingElementRear :=
    (((s.get "heatingElements").bind fun he => he.get "rear").bind fun r => r.get "on").bind
      Json.asBool
  heatingElementBottom :=
    (((s.get "heatingElements").bind fun he => he.get "bottom").bind fun b => b.get "on").bind
      Json.asBool
  ventOpen := ((s.get "vent").bind fun v => v.get "open").bind Json.asBool
  title := ((s.get "title").bind Json.asStr).filter fun t => t ≠ ""
  turnOffAtEnd := none
  prompt := none

/-- The fields `start_stages_json` writes for every stage. -/
def startStageBase (fresh : String) (stage : Stage) : Json :=
  .obj [("stepType", .str "stage"),
    ("id", .str (normalizeStageIdForWs fresh stage.id)),
    ("title", .str (stage.title.getD "")),
    ("description", .str ""),
    ("type", .str stage.kind),
    ("userActionRequired", .bool (stage.userActionRequired.getD false)),
    ("stageTransitionType", .str "automatic"),
    ("temperatureBulbs", temperatureBulbsJson stage),
    ("heatingElements", heatingElementsJson stage),
    ("fan", .obj [("speed", .int stage.fanSpeed.toNat)]),
    ("vent", .obj [("open", .bool (stage.ventOpen.getD false))]),
    ("rackPosition", .int (stage.rackPosition.getD 3).toNat)]

/-- `steamGenerators` is sent only by a stage that uses steam. -/
def withSteam (stage : Stage) (stageObj : Json) : Json :=
  if stage.steamPct > 0 then
    stageObj.set "steamGenerators" (.obj [("mode", .str "steam-percentage"),
      ("steamPercentage", .obj [("setpoint", .float stage.steamPct)])])
  else stageObj

/-- The end of a stage, chosen by its values: a timer if there is a duration, else a probe if there
is a target, else neither. -/
def withEnd (stage : Stage) (stageObj : Json) : Json :=
  match stage.durationSecs, stage.probeTargetC with
  | some duration, _ =>
    (((stageObj.set "timerAdded" (.bool true)).set "probeAdded" (.bool false)).set
      "timerStartOnDetect" (.bool false)).set "timer" (.obj [("initial", .int duration.toNat)])
  | none, some probeTargetC =>
    ((stageObj.set "timerAdded" (.bool false)).set "probeAdded" (.bool true)).set
      "temperatureProbe" (.obj [("setpoint", setpointJson probeTargetC)])
  | none, none => stageObj

/-- One stage object of `start_stages_json`. -/
def startStageJson (fresh : String) (stage : Stage) : Json :=
  withEnd stage (withSteam stage (startStageBase fresh stage))

/-- `start_stages_json`: the `stages` list of a `CMD_APO_START` payload. -/
def startStagesJson (fresh : Nat → String) (stages : List Stage) : List Json :=
  stages.mapIdx fun i stage => startStageJson (fresh i) stage

/-- `restore_end_flags`: read the end flags of a reported stage back from its values. Flags already
present, and preheats, are left alone. -/
def restoreEndFlags (stage : Stage) : Stage :=
  if stage.kind = "preheat" ∨ stage.timerAdded.isSome ∨ stage.probeAdded.isSome then stage
  else
    let timer := stage.durationSecs.any fun d => decide (d > 0)
    let probe := !timer && stage.probeTargetC.isSome
    { stage with timerAdded := some timer, probeAdded := some probe }

/-- `temperature_bulbs_payload`: the setpoint for a bulb mode. -/
def temperatureBulbsPayload (mode : String) (celsius : ℚ) : Json :=
  (Json.obj [("mode", .str mode)]).set mode (.obj [("setpoint", setpointJson celsius)])

/-- `for_update`: an oven stage ready to go back in `CMD_APO_UPDATE_COOK_STAGES`. -/
def forUpdate (raw : Json) : Json :=
  let stage := if (raw.get "stepType").isNone then raw.assign "stepType" (.str "stage") else raw
  if (stage.get "stageTransitionType").isNone then
    stage.assign "stageTransitionType" (.str "automatic")
  else stage

/-- `with_temperature`: an oven stage with its setpoint changed, in whichever bulb mode it uses. -/
def withTemperature (raw : Json) (celsius : ℚ) : Json :=
  let bulbs := raw.index "temperatureBulbs"
  let mode := (bulbs.index "mode").asStr.getD "dry"
  let bulbs := bulbs.assign "mode" (.str mode)
  raw.assign "temperatureBulbs"
    (bulbs.assign mode ((bulbs.index mode).assign "setpoint" (setpointJson celsius)))

/-- `with_timer`: an oven stage with its timer set. -/
def withTimer (raw : Json) (secs : UInt64) : Json :=
  raw.assign "timer" (.obj [("initial", .int secs.toNat)])

end AnovaOven
