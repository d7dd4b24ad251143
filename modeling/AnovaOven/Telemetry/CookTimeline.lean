import AnovaOven.CookProgress
import AnovaOven.Lib.Exposition
import AnovaOven.Lib.Machine

/-!
# The cook's timeline (`telemetry.rs`)

The running cook as series that exist only while it runs: its recipe, how many stages it has and which one it is
at, and when each stage was first seen. The times are the readings that `f64` holds, as exact rationals.
-/

namespace AnovaOven

/-- `COOK_INFO`. -/
def cookInfo : String := "anova_cook_info"

/-- `COOK_STAGE_COUNT`. -/
def cookStageCountName : String := "anova_cook_stage_count"

/-- `COOK_CURRENT_STAGE`. -/
def cookCurrentStage : String := "anova_cook_current_stage"

/-- `COOK_STAGE_START_TIME`. -/
def cookStageStartTime : String := "anova_cook_stage_start_time_seconds"

/-- `COOK_NEXT_STAGE_READY`. -/
def cookNextStageReady : String := "anova_cook_next_stage_ready"

/-- `stage_kind_label`. -/
def stageKindLabel : String → String
  | "preheat" => "preheat"
  | "cook" => "cook"
  | _ => "other"

/-- `StageStart`. -/
structure StageStart where
  index : Nat
  kind : String
  unixSecs : ℚ
  deriving Repr, DecidableEq

/-- `CookRecord`. -/
structure CookRecord where
  recipeTitle : String
  stageCount : Nat
  stages : List StageStart
  nextStageReady : Bool
  deriving Repr, DecidableEq

/-- An update of the progress, with the time it is seen at. -/
abbrev ProgressSeen := Option CookProgress × ℚ

/-- The stage that an update is at. -/
def StageStart.of (progress : CookProgress) (nowUnixSecs : ℚ) : StageStart :=
  ⟨progress.currentStageIndex, stageKindLabel progress.currentStageKind, nowUnixSecs⟩

/-- `CookTimeline::observe`. A lower index is another cook. -/
def CookRecord.observe (cook : Option CookRecord) : ProgressSeen → Option CookRecord
  | (none, _) => none
  | (some progress, nowUnixSecs) =>
    let index := progress.currentStageIndex
    let cook := if (cook.bind fun c => c.stages.getLast?).any fun last => last.index > index then none else cook
    let record : CookRecord := { cook.getD ⟨"", 0, [], false⟩ with
      recipeTitle := progress.recipeTitle
      stageCount := progress.totalStageCount
      nextStageReady := progress.nextStageReady }
    if record.stages.getLast?.any fun last => last.index = index then some record
    else some { record with stages := record.stages ++ [.of progress nowUnixSecs] }

/-- The timeline as a machine: its runs are the updates of the progress. -/
def cookTimeline : Machine (Option CookRecord) ProgressSeen Empty := ⟨fun cook seen => (CookRecord.observe cook seen, [])⟩

/-! ## The series -/

/-- A number as `{:.3}` writes it, of a time: rounded to thousandths, a half to the even one. -/
def formatMillis (x : ℚ) : String :=
  let whole := (|x| * 1000).floor.toNat
  let rest := |x| * 1000 - whole
  let millis := if rest > 1 / 2 || (rest = 1 / 2 && whole % 2 = 1) then whole + 1 else whole
  (if x < 0 then "-" else "") ++ toString (millis / 1000) ++ "." ++ toString (millis % 1000 / 100) ++
    toString (millis % 100 / 10) ++ toString (millis % 10)

namespace CookRecord

open Exposition

/-- The labels of a stage. -/
def stageLabels (stage : StageStart) : List (String × String) :=
  [("index", toString stage.index), ("kind", stage.kind)]

/-- The lines that tell what a series is. -/
def describe (name help : String) : List Line :=
  [.comment ("HELP " ++ name ++ " " ++ help), .comment ("TYPE " ++ name ++ " gauge")]

/-- `CookTimeline::render`'s lines, for the cook there is. -/
def lines (cook : CookRecord) : List Line :=
  describe cookInfo "The running cook's recipe, as a label. Absent outside a cook." ++
  [.sample ⟨cookInfo, [("recipe", cook.recipeTitle)], "1"⟩] ++
  describe cookStageCountName "Stages in the running cook, preheat included." ++
  [.sample ⟨cookStageCountName, [], toString cook.stageCount⟩] ++
  describe cookNextStageReady "1 while the oven waits for the user to start the next stage." ++
  [.sample ⟨cookNextStageReady, [], if cook.nextStageReady then "1" else "0"⟩] ++
  (match cook.stages.getLast? with
    | some current => describe cookCurrentStage "The running cook's current stage, as labels." ++
        [.sample ⟨cookCurrentStage, stageLabels current, "1"⟩]
    | none => []) ++
  describe cookStageStartTime "Unix time each stage of the running cook started, as first seen by this server." ++
  cook.stages.map fun stage => .sample ⟨cookStageStartTime, stageLabels stage, formatMillis stage.unixSecs⟩

/-- `CookTimeline::render`: nothing outside a cook. -/
def render : Option CookRecord → List Char
  | none => []
  | some cook => write cook.lines

end CookRecord

end AnovaOven
