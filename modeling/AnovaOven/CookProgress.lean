import AnovaOven.Api
import AnovaOven.Lib.Machine
import Mathlib.Algebra.Order.Group.Unbundled.Abs
import Mathlib.Data.Rat.Floor

/-!
# Cook progress (`cook_progress.rs`)

The task that tracks which stage of the cook is running and whether the next one waits for the user.
In local mode the oven says both; in cloud mode they are inferred from the readings. Instants are in
milliseconds. Log lines are left out.
-/

namespace AnovaOven

/-- `PREHEAT_STABILITY_WINDOW`, in milliseconds. -/
def preheatStabilityWindow : Nat := 10000

/-- `PREHEAT_HYSTERESIS_C`. -/
def preheatHysteresisC : ℚ := 2

/-! ## The API's part -/

/-- `CookProgress`: the task's public view. -/
structure CookProgress where
  recipeTitle : String
  currentStageIndex : Nat
  totalStageCount : Nat
  currentStageDescription : String
  currentStageKind : String
  nextStageReady : Bool
  nextStageDescription : Option String
  nextStagePrompt : Option String
  deriving Repr, DecidableEq

/-- `UpstreamHealth`: the server's own link to Anova, as it was when the status was served. -/
structure UpstreamHealth where
  connected : Bool
  disconnectedSecs : UInt64
  ovenOfflineSecs : Option UInt64
  deriving Repr, DecidableEq

/-- `OvenStatus`, with what the server adds as it serves it. -/
structure ServedStatus extends OvenStatus where
  cookProgress : Option CookProgress
  upstream : Option UpstreamHealth
  deriving Repr, DecidableEq

/-- A number as `{:.0}` writes it: rounded to a whole number, a half to the even one. -/
def formatWhole (x : ℚ) : String :=
  let whole := |x|.floor
  let rest := |x| - whole
  let up := rest > 1 / 2 || (rest = 1 / 2 && whole % 2 = 1)
  (if x < 0 then "-" else "") ++ toString (if up then whole + 1 else whole)

/-- `Stage::short_description`. -/
def Stage.shortDescription (stage : Stage) : String :=
  match stage.title.filter fun title => title ≠ "" with
  | some title => title
  | none =>
    let parts :=
      (if stage.kind = "preheat" then ["Preheat"] else []) ++
      (if stage.temperatureC > 0 then [formatWhole stage.temperatureC ++ "°"] else []) ++
      (if stage.steamPct > 0 then [formatWhole stage.steamPct ++ "% steam"] else []) ++
      (match stage.probeTargetC with
        | some target => ["probe " ++ formatWhole target ++ "°"]
        | none => []) ++
      (match stage.durationSecs.filter fun secs => secs > 0 with
        | some secs => [toString ((secs + 30) / 60) ++ "m"]
        | none => [])
    if parts.isEmpty then "Next stage" else String.intercalate " · " parts

/-- `OvenStatus::stage_kind`. -/
def OvenStatus.stageKind (status : OvenStatus) : String :=
  if status.mode = "cook" && status.timerMode = "idle" && status.timerCurrentSecs = 0 then "preheat"
  else "cook"

/-! ## The tracker -/

/-- `Tracker`. -/
structure Tracker where
  cookKey : String
  recipeTitle : String
  stages : List Stage
  currentStageIndex : Nat
  preheatCrossSince : Option Nat
  nextStageReady : Bool
  warnedNoCriterion : Bool
  timerHasRun : Bool
  deriving Repr, DecidableEq

namespace Tracker

/-- A tracker of a cook at a stage, with nothing seen of it yet. -/
def begin (cookKey recipeTitle : String) (stages : List Stage) (index : Nat) : Tracker :=
  ⟨cookKey, recipeTitle, stages, index, none, false, false, false⟩

/-- `Tracker::current_stage`. -/
def currentStage (t : Tracker) : Option Stage := t.stages[t.currentStageIndex]?

/-- `Tracker::next_stage`. -/
def nextStage (t : Tracker) : Option Stage := t.stages[t.currentStageIndex + 1]?

/-- `Tracker::advance_to`. -/
def advanceTo (t : Tracker) (index : Nat) : Tracker :=
  { t with
    currentStageIndex := index
    preheatCrossSince := none
    nextStageReady := false
    warnedNoCriterion := false
    timerHasRun := false }

end Tracker

/-- The oven's own stage, where it is one of a list. -/
def ovenStage (stages : List Stage) (status : OvenStatus) : Option Nat :=
  status.activeStageIndex.filter fun i => i < stages.length

/-- The tracker at the stage the oven reports. -/
def atOvenStage (t : Tracker) (status : OvenStatus) : Tracker :=
  match ovenStage t.stages status with
  | some index => if index ≠ t.currentStageIndex then t.advanceTo index else t
  | none => t

/-- `follow_oven`: the tracker, and whether anything changed. -/
def followOven (t : Tracker) (status : OvenStatus) : Tracker × Bool :=
  let moved := atOvenStage t status
  let ready := status.stageTransitionPendingUserAction && moved.nextStage.isSome
  let followed := { moved with nextStageReady := ready }
  (followed, (t.currentStageIndex, t.nextStageReady) ≠ (followed.currentStageIndex, ready))

/-- `build_cook_progress`. -/
def buildCookProgress (t : Tracker) : CookProgress :=
  let next := if t.nextStageReady then t.nextStage else none
  { recipeTitle := t.recipeTitle
    currentStageIndex := t.currentStageIndex
    totalStageCount := t.stages.length
    currentStageDescription := (t.currentStage.map Stage.shortDescription).getD "Unknown stage"
    currentStageKind := (t.currentStage.map fun stage => stage.kind).getD "cook"
    nextStageReady := t.nextStageReady
    nextStageDescription := next.map Stage.shortDescription
    nextStagePrompt := next.bind fun stage => stage.prompt }

/-! ## Inference -/

/-- A stage's part, where a flag that says whether it is on is there. -/
def flagged (added : Option Bool) (present : Bool) : Bool :=
  match added with
  | some added => added && present
  | none => present

/-- The preheat's part of `evaluate_stage_completion`: since when the target is reached, and whether
it has been for long enough. -/
def preheatStable (stage : Stage) (status : OvenStatus) (crossed : Option Nat) (toleranceC : ℚ)
    (now : Nat) : Option Nat × Bool :=
  let target := stage.temperatureC
  let current := status.currentTemperatureC
  match crossed with
  | none => (if current ≥ target - toleranceC then some now else none, false)
  | some since =>
    if current < target - max toleranceC preheatHysteresisC then (none, false)
    else (some since, now - since ≥ preheatStabilityWindow)

/-- Whether a stage ends on its timer, and the oven has parked it after it ran. -/
def timerExpired (stage : Stage) (status : OvenStatus) (hasRun : Bool) : Bool :=
  flagged stage.timerAdded (stage.durationSecs.getD 0 > 0) && hasRun &&
    status.timerTotalSecs > 0 && status.timerCurrentSecs ≥ status.timerTotalSecs &&
    status.timerMode ≠ "running"

/-- Whether a stage ends on its probe, and the reading is at the target. -/
def probeReached (stage : Stage) (status : OvenStatus) : Bool :=
  flagged stage.probeAdded stage.probeTargetC.isSome &&
    match stage.probeTargetC, status.probeTemperatureC with
    | some target, some current => current ≥ target
    | _, _ => false

/-- Whether a stage ends on its timer or on its probe. -/
def hasCriterion (stage : Stage) : Bool :=
  flagged stage.timerAdded (stage.durationSecs.getD 0 > 0) ||
    flagged stage.probeAdded stage.probeTargetC.isSome

/-- `evaluate_stage_completion`, with what it notes of the stage left in the tracker. -/
def evaluateStageCompletion (t : Tracker) (stage : Stage) (status : OvenStatus) (toleranceC : ℚ)
    (now : Nat) : Tracker × Bool :=
  let t := { t with timerHasRun := t.timerHasRun || status.timerMode = "running" }
  if timerExpired stage status t.timerHasRun || probeReached stage status then (t, true)
  else if hasCriterion stage then (t, false)
  else if stage.kind = "preheat" then
    let (crossed, stable) := preheatStable stage status t.preheatCrossSince toleranceC now
    ({ t with preheatCrossSince := crossed }, stable)
  else ({ t with warnedNoCriterion := true }, false)

/-- Whether a stage is one the status may be reporting on: its kind, its target to a degree, and its
timer. -/
def matchesStage (status : OvenStatus) (stage : Stage) : Bool :=
  stage.kind = status.stageKind &&
    (status.targetTemperatureC.all fun target => |stage.temperatureC - target| ≤ 1) &&
    (!(status.timerTotalSecs > 0) ||
      stage.durationSecs.all fun secs => secs = status.timerTotalSecs)

/-- `infer_stage_index`: the one stage that matches, or the first of the kind. -/
def inferStageIndex (stages : List Stage) (status : OvenStatus) : Nat :=
  match stages.zipIdx.filter fun entry => matchesStage status entry.1 with
  | [(_, index)] => index
  | _ => (stages.findIdx? fun stage => stage.kind = status.stageKind).getD 0

/-! ## The task -/

/-- `CookProgressTask`, with the value its channel holds. -/
structure CookProgressTask where
  tracker : Option Tracker
  published : Option CookProgress
  followOven : Bool
  preheatToleranceC : ℚ
  deriving Repr, DecidableEq

namespace CookProgressTask

/-- `CookProgressTask::new`, on a channel that holds no progress. -/
def new (followOven : Bool) (preheatToleranceC : ℚ) : CookProgressTask :=
  ⟨none, none, followOven, preheatToleranceC⟩

/-- A tracker, kept and published. -/
def track (task : CookProgressTask) (t : Option Tracker) : CookProgressTask :=
  { task with tracker := t, published := t.map buildCookProgress }

/-- A tracker, kept and not published. -/
def keep (task : CookProgressTask) (t : Tracker) : CookProgressTask :=
  { task with tracker := some t }

/-- `on_started_from_recipe`. -/
def onStartedFromRecipe (task : CookProgressTask) (recipeTitle : String) (stages : List Stage) :
    CookProgressTask :=
  if stages.isEmpty then task
  else task.track (some (Tracker.begin ("pending-" ++ recipeTitle ++ "-" ++ toString stages.length)
    recipeTitle stages 0))

/-- The tracker as the oven has it, in local mode and where there is a status. -/
def followed (task : CookProgressTask) (t : Tracker) (status : Option OvenStatus) : Tracker :=
  match status with
  | some status => if task.followOven then (AnovaOven.followOven t status).1 else t
  | none => t

/-- The tracker of a cook that was refreshed: its title and its stages are the new ones, and its stage
one of them. -/
def refreshed (t : Tracker) (cook : CurrentCook) : Tracker :=
  { t with
    recipeTitle := cook.recipeTitle
    stages := cook.stages
    currentStageIndex :=
      if t.currentStageIndex ≥ cook.stages.length && !cook.stages.isEmpty then
        cook.stages.length - 1
      else t.currentStageIndex }

/-- The stage a new cook is at: the oven's own, or the one inferred from the status. -/
def startingStage (stages : List Stage) (status : Option OvenStatus) : Nat :=
  match status.filter OvenStatus.isCooking with
  | some status => (ovenStage stages status).getD (inferStageIndex stages status)
  | none => 0

/-- `on_current_cook`. -/
def onCurrentCook (task : CookProgressTask) (cook : Option CurrentCook)
    (status : Option OvenStatus) : CookProgressTask :=
  match cook with
  | none => task.track none
  | some cook =>
    if status.any fun s => !s.isCooking then
      if task.tracker.isSome then task.track none else task
    else match task.tracker.filter fun t => t.cookKey = cook.startedAt with
      | some t => task.track (some (task.followed (refreshed t cook) status))
      | none =>
        let t := Tracker.begin cook.startedAt cook.recipeTitle cook.stages
          (startingStage cook.stages status)
        task.track (some (task.followed t status))

/-- Whether a stage the user was to start has been: its timer runs, or, where it doesn't wait for the
user, the oven is at it. -/
def manualStageStarted (t : Tracker) (next : Stage) (status : OvenStatus) : Bool :=
  let observed := (ovenStage t.stages status).getD (inferStageIndex t.stages status)
  let timerStarted := decide (next.durationSecs.getD 0 > 0) && decide (status.timerMode = "running")
  if next.userActionRequired = some true then timerStarted
  else timerStarted || observed = t.currentStageIndex + 1

/-- `on_status`'s inference, on a status of a cooking oven. -/
def inferred (task : CookProgressTask) (t : Tracker) (status : OvenStatus) (now : Nat) :
    CookProgressTask :=
  if t.nextStageReady then
    match t.nextStage with
    | some next =>
      if manualStageStarted t next status then
        task.track (some (t.advanceTo (t.currentStageIndex + 1)))
      else task
    | none => task
  else match t.currentStage with
    | none => task
    | some stage =>
      let (t, complete) := evaluateStageCompletion t stage status task.preheatToleranceC now
      if complete && t.nextStage.isSome then task.track (some { t with nextStageReady := true })
      else task.keep t

/-- `on_status`. -/
def onStatus (task : CookProgressTask) (status : Option OvenStatus) (now : Nat) :
    CookProgressTask :=
  match status with
  | none => task
  | some status =>
    if !status.isCooking then if task.tracker.isSome then task.track none else task
    else match task.tracker with
      | none => task
      | some t =>
        if task.followOven then
          let (t, changed) := AnovaOven.followOven t status
          if changed then task.track (some t) else task.keep t
        else task.inferred t status now

end CookProgressTask

/-- What reaches the task: a status, a current cook with the status there is at that moment, or the
start of a recipe. -/
inductive CookProgressInput where
  | status (status : Option OvenStatus) (now : Nat)
  | currentCook (cook : Option CurrentCook) (status : Option OvenStatus)
  | startedFromRecipe (recipeTitle : String) (stages : List Stage)

/-- One turn of `CookProgressTask::run`. -/
def CookProgressTask.turn (task : CookProgressTask) : CookProgressInput → CookProgressTask
  | .status status now => task.onStatus status now
  | .currentCook cook status => task.onCurrentCook cook status
  | .startedFromRecipe recipeTitle stages => task.onStartedFromRecipe recipeTitle stages

/-- The task as a machine: its runs are the orders its inputs may come in. What it says is the value
its channel holds, which the state has. -/
def cookProgress : Machine CookProgressTask CookProgressInput Empty :=
  ⟨fun task i => (task.turn i, [])⟩

end AnovaOven
