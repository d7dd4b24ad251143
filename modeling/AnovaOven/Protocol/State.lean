import AnovaOven.Protocol.Stages
import AnovaOven.Runtime.Types

/-!
# The oven's state message (`protocol/mod.rs`)

`OvenState` as parsed from either side of the cloud, and its two readings: the status the server
serves (`toOvenStatus`) and the running cook (`toOvenCook`). A temperature is its Celsius value, an
exact rational. The nodes the modelled status leaves out are left out here.
-/

namespace AnovaOven

/-- `SetpointBulb`. -/
structure SetpointBulb where
  current : ℚ
  setpoint : Option ℚ
  deriving Repr, DecidableEq

/-- `TemperatureBulbs`. -/
structure TemperatureBulbs where
  dry : SetpointBulb
  wet : SetpointBulb
  mode : String
  deriving Repr, DecidableEq

/-- `TemperatureProbe`. -/
structure TemperatureProbe where
  connected : Bool
  current : Option ℚ
  setpoint : Option ℚ
  deriving Repr, DecidableEq

/-- `Timer`. -/
structure Timer where
  current : UInt64
  initial : UInt64
  mode : String
  deriving Repr, DecidableEq

/-- `RelativeHumidity`. -/
structure RelativeHumidity where
  current : ℚ
  setpoint : Option ℚ
  deriving Repr, DecidableEq

/-- `Nodes`. -/
structure Nodes where
  lampOn : Bool
  relativeHumidity : Option RelativeHumidity
  temperatureBulbs : TemperatureBulbs
  temperatureProbe : Option TemperatureProbe
  timer : Timer
  deriving Repr, DecidableEq

/-- `StateInfo`. -/
structure StateInfo where
  mode : String
  temperatureUnit : String
  /-- The last command ids the oven has handled. -/
  processedCommandIds : List String
  deriving Repr, DecidableEq

/-- `Cook`. -/
structure Cook where
  cookId : Option String
  activeStageIndex : Option Nat
  activeStageId : Option String
  stages : List Json
  stageTransitionPendingUserAction : Bool
  secondsElapsed : Option UInt64
  deriving Repr

/-- `OvenState`. -/
structure OvenState where
  nodes : Nodes
  state : StateInfo
  cook : Option Cook
  deriving Repr

/-- `to_oven_cook`: none when no cook is running or it has no `cookId`. -/
def toOvenCook (oven : OvenState) : Option OvenCook := do
  let cook ← oven.cook
  let cookId ← cook.cookId
  some {
    cookId := cookId
    stages := cook.stages.map stageFromJson
    rawStages := cook.stages
    secondsElapsed := cook.secondsElapsed.getD 0 }

/-- `cook_done`: the last stage's timer has run out and the oven waits for a stop. -/
def cookDone (oven : OvenState) : Bool :=
  match oven.cook with
  | none => false
  | some cook =>
    let onLastStage := cook.activeStageIndex.any fun i => i + 1 = cook.stages.length
    cook.stageTransitionPendingUserAction && oven.nodes.timer.mode = "idle" && onLastStage

/-- `to_oven_status`. -/
def toOvenStatus (oven : OvenState) : OvenStatus :=
  let nodes := oven.nodes
  let tb := nodes.temperatureBulbs
  let probe := nodes.temperatureProbe.filter fun p => p.connected
  { mode := oven.state.mode
    temperatureUnit := oven.state.temperatureUnit
    temperatureC := tb.dry.current
    targetTemperatureC := tb.dry.setpoint
    wetTargetTemperatureC := tb.wet.setpoint
    temperatureBulbsMode := tb.mode
    wetBulbTemperatureC := tb.wet.current
    probeTemperatureC := probe.bind fun p => p.current
    probeTargetTemperatureC := probe.bind fun p => p.setpoint
    timerCurrentSecs := nodes.timer.current
    timerTotalSecs := nodes.timer.initial
    timerMode := nodes.timer.mode
    steamPct := (nodes.relativeHumidity.map fun rh => rh.current).getD 0
    steamTargetPct := nodes.relativeHumidity.bind fun rh => rh.setpoint
    lampOn := nodes.lampOn
    activeStageIndex := oven.cook.bind fun cook => cook.activeStageIndex
    activeStageId := oven.cook.bind fun cook => cook.activeStageId
    cookDone := cookDone oven
    cookId := oven.cook.bind fun cook => cook.cookId
    stageTransitionPendingUserAction := oven.cook.any fun cook =>
      cook.stageTransitionPendingUserAction }

end AnovaOven
