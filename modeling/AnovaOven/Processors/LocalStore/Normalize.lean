import AnovaOven.Lib.Checks
import AnovaOven.Runtime.Types

/-!
# Recipes the store accepts (`normalize` in `processors/local_store.rs`)

`normalize` checks a recipe stage by stage, gives new stages ids and recounts the cook stages. A
recipe that comes out of it is one the store writes and the state machine starts. The ids are the
parameter `fresh`, by the stage's index.
-/

namespace AnovaOven

/-- `PROMPT_MAX_CHARS`. -/
def promptMaxChars : Nat := 100

/-- `RecipeError`. -/
inductive RecipeError where
  | notFound
  | invalid (detail : String)
  | store (error : StoreError)
  deriving Repr, DecidableEq

/-- `char::is_whitespace`: the Unicode property White_Space. -/
def isWhitespace (c : Char) : Bool :=
  let n := c.toNat
  (9 ≤ n ∧ n ≤ 13) ∨ n = 0x20 ∨ n = 0x85 ∨ n = 0xA0 ∨ n = 0x1680 ∨ (0x2000 ≤ n ∧ n ≤ 0x200A) ∨
    n = 0x2028 ∨ n = 0x2029 ∨ n = 0x202F ∨ n = 0x205F ∨ n = 0x3000

/-- `str::trim`. -/
def trim (s : String) : String :=
  String.ofList
    (((s.toList.dropWhile isWhitespace).reverse.dropWhile isWhitespace).reverse)

/-- Refuse a stage, by its number, with a message. -/
def invalidStage (n : Nat) (c : Prop) [Decidable c] (message : String) : Except RecipeError Unit :=
  refuseIf c (.invalid s!"stage {n}: {message}")

/-- How many of a stage's elements are set on. -/
def elementsSetOn (stage : Stage) : Nat :=
  [stage.heatingElementTop, stage.heatingElementRear, stage.heatingElementBottom].countP
    fun e => e = some true

/-- A prompt as it is kept: trimmed, and none where nothing is left. -/
def trimPrompt (prompt : Option String) : Option String :=
  (prompt.map trim).filter fun p => p ≠ ""

/-- The hottest a stage may be. Sous vide tops out at 100 degrees. -/
def temperatureLimit (stage : Stage) : ℚ :=
  if stage.temperatureBulbsMode = some "wet" then 100 else 250

/-- The message for a temperature out of range. -/
def temperatureMessage (stage : Stage) : String :=
  if stage.temperatureBulbsMode = some "wet" then
    "sous vide temperature must be within 25–100 °C"
  else "temperature must be within 25–250 °C"

/-- A stage's id as it is kept: a stage without one gets a new one. -/
def keptId (freshId : String) (id : Option String) : Option String :=
  if id.all fun id => id = "" then some ("ios-" ++ freshId) else id

/-- The loop body of `normalize`, on the stage at an index; `isLast` says whether it is the last. The
source assigns the fields the last lines replace between the checks, none of which reads one of them
but the prompt's. -/
def normalizeStage (freshId : String) (isLast : Bool) (i : Nat) (stage : Stage) :
    Except RecipeError Stage := do
  let n := i + 1
  invalidStage n (stage.kind ≠ "preheat" ∧ stage.kind ≠ "cook") "kind must be preheat or cook"
  invalidStage n (¬ (25 ≤ stage.temperatureC ∧ stage.temperatureC ≤ temperatureLimit stage))
    (temperatureMessage stage)
  invalidStage n (¬ (0 ≤ stage.steamPct ∧ stage.steamPct ≤ 100)) "steam must be within 0–100 %"
  invalidStage n (stage.fanSpeed > 100) "fan must be within 0–100 %"
  invalidStage n (stage.rackPosition.any fun r => !(1 ≤ r ∧ r ≤ 5)) "rack must be within 1–5"
  invalidStage n (stage.timerAdded = some true ∧ ¬ stage.durationSecs.any fun d => d > 0)
    "a timer needs a duration"
  invalidStage n (stage.probeAdded = some true ∧ stage.probeTargetC = none)
    "a probe stage needs a target"
  invalidStage n (stage.probeTargetC.any fun t => !(1 ≤ t ∧ t ≤ 100))
    "the probe target must be within 1–100 °C"
  invalidStage n (stage.timerAdded = some true ∧ stage.probeAdded = some true)
    "a stage takes a timer or a probe, not both"
  invalidStage n
    (stage.kind = "preheat" ∧ (stage.timerAdded = some true ∨ stage.probeAdded = some true))
    "a preheat ends at temperature, without a timer or probe"
  invalidStage n (stage.turnOffAtEnd = some true ∧ !isLast)
    "only the last stage can turn the oven off"
  invalidStage n
    (stage.turnOffAtEnd = some true ∧ stage.timerAdded ≠ some true ∧ stage.probeAdded ≠ some true)
    "turning the oven off needs a timer or probe to end on"
  let prompt := trimPrompt stage.prompt
  invalidStage n (prompt.any fun p => p.length > promptMaxChars)
    s!"the note for when it waits must be at most {promptMaxChars} characters"
  invalidStage n (prompt.isSome ∧ stage.userActionRequired ≠ some true)
    "only a stage that waits for you can have a note for when it waits"
  invalidStage n (¬ (1 ≤ elementsSetOn stage ∧ elementsSetOn stage ≤ 2))
    "use one or two heating elements"
  .ok { stage.normalizeFanSpeed with
    turnOffAtEnd := stage.turnOffAtEnd.filter fun on => on
    prompt := prompt
    title := stage.title.filter fun t => trim t ≠ ""
    id := keptId freshId stage.id }

/-- `normalize`. -/
def normalize (fresh : Nat → String) (recipe : Recipe) : Except RecipeError Recipe := do
  let title := trim recipe.title
  refuseIf (title = "") (.invalid "title can't be empty")
  refuseIf (recipe.stages = []) (.invalid "a recipe needs at least one stage")
  let last := recipe.stages.length - 1
  let stages ← traverseIdx (fun i stage => normalizeStage (fresh i) (i = last) i stage) 0
    recipe.stages
  .ok { recipe with title := title, stages := stages, stageCount := cookStageCount stages }

end AnovaOven
