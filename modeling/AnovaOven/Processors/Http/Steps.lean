import AnovaOven.Api

/-!
# The stage editor's steps (`processors/http/ui/steps.js`)

The web editor works in steps, a cook stage that a preheat may lead into, and keeps the flat list of
stages by `toSteps` and `toStages`. A field that is undefined is none, a flag is set where it is true,
and a number is the one the page has. The fields are edited in place: what `toStages` assigns to a
preheat stays in its step.
-/

namespace AnovaOven

/-- A step. -/
structure EditorStep where
  preheat : Option Stage
  cook : Option Stage
  deriving Repr, DecidableEq

/-- A stage in a step of its own. -/
def EditorStep.alone (stage : Stage) : EditorStep :=
  if stage.kind = "preheat" then ⟨some stage, none⟩ else ⟨none, some stage⟩

/-- `toSteps`: a preheat leads into the stage after it, unless that is a preheat too. -/
def toSteps : List Stage → List EditorStep
  | stage :: next :: rest =>
    if stage.kind = "preheat" ∧ next.kind ≠ "preheat" then ⟨some stage, some next⟩ :: toSteps rest
    else EditorStep.alone stage :: toSteps (next :: rest)
  | [stage] => [EditorStep.alone stage]
  | [] => []

/-- The `SHARED` settings of a stage, on another. -/
def shareSettings (cook stage : Stage) : Stage :=
  { stage with
    temperatureC := cook.temperatureC
    temperatureBulbsMode := cook.temperatureBulbsMode
    steamPct := cook.steamPct
    fanSpeed := cook.fanSpeed
    heatingElementTop := cook.heatingElementTop
    heatingElementRear := cook.heatingElementRear
    heatingElementBottom := cook.heatingElementBottom
    ventOpen := cook.ventOpen
    rackPosition := cook.rackPosition }

/-- A step whose preheat has the settings of its cook stage. -/
def EditorStep.share (step : EditorStep) : EditorStep :=
  match step.preheat, step.cook with
  | some preheat, some cook => ⟨some (shareSettings cook preheat), some cook⟩
  | _, _ => step

/-- The characters `String.prototype.trim` trims: white space and line terminators. -/
def isJsSpace (c : Char) : Bool :=
  let n := c.toNat
  (9 ≤ n ∧ n ≤ 13) ∨ n = 0x20 ∨ n = 0xA0 ∨ n = 0x1680 ∨ (0x2000 ≤ n ∧ n ≤ 0x200A) ∨ n = 0x2028 ∨
    n = 0x2029 ∨ n = 0x202F ∨ n = 0x205F ∨ n = 0x3000 ∨ n = 0xFEFF

/-- `String.prototype.trim`. -/
def jsTrim (s : String) : String :=
  String.ofList (((s.toList.dropWhile isJsSpace).reverse.dropWhile isJsSpace).reverse)

/-- A stage's note as it is saved: of a stage that waits, trimmed, and none where nothing is left. -/
def savedPrompt (stage : Stage) : Option String :=
  if stage.userActionRequired = some true then (stage.prompt.map jsTrim).filter fun p => p ≠ ""
  else none

/-- The copy of a stage that is saved: an end without its flag is left out, and so is a note no one
reads. -/
def savedCopy (stage : Stage) : Stage :=
  { stage with
    durationSecs := if stage.timerAdded = some true then stage.durationSecs else none
    probeTargetC := if stage.probeAdded = some true then stage.probeTargetC else none
    prompt := savedPrompt stage }

/-- Whether a stage turns the oven off: only the last one does, and only once it ends on its own. -/
def savedTurnOff (isLast : Bool) (stage : Stage) : Stage :=
  if stage.turnOffAtEnd = some true ∧ isLast ∧
      (stage.timerAdded = some true ∨ stage.probeAdded = some true) then stage
  else { stage with turnOffAtEnd := none }

/-- `toStages`. -/
def toStages (steps : List EditorStep) : List Stage :=
  let stages := (steps.map EditorStep.share).flatMap fun step =>
    (step.preheat.toList ++ step.cook.toList).map savedCopy
  stages.mapIdx fun i stage => savedTurnOff (i + 1 = stages.length) stage

end AnovaOven
