import Mathlib.Data.Rat.Defs

/-!
# The API types (`anova-oven-api`)

The records the server's processors exchange: the oven's status, recipes and their stages, the
current cook and history entries. Temperatures and percentages (`f32`) are exact rationals; counts
(`usize`) are naturals; `u8` and `u64` fields keep their width. The status keeps the fields the
modelled processors read or publish; its heater, boiler and vent readings are left out.
-/

namespace AnovaOven

/-- `OvenStatus`: the state of the oven, as served by `GET /status`. -/
structure OvenStatus where
  mode : String
  temperatureUnit : String
  temperatureC : ℚ
  targetTemperatureC : Option ℚ
  wetTargetTemperatureC : Option ℚ
  temperatureBulbsMode : String
  wetBulbTemperatureC : ℚ
  probeTemperatureC : Option ℚ
  probeTargetTemperatureC : Option ℚ
  timerCurrentSecs : UInt64
  timerTotalSecs : UInt64
  timerMode : String
  steamPct : ℚ
  steamTargetPct : Option ℚ
  lampOn : Bool
  activeStageIndex : Option Nat
  activeStageId : Option String
  cookDone : Bool
  cookId : Option String
  stageTransitionPendingUserAction : Bool
  deriving Repr, DecidableEq

namespace OvenStatus

/-- The temperature the app shows: the wet bulb's in sous vide, the dry bulb's otherwise. -/
def currentTemperatureC (status : OvenStatus) : ℚ :=
  if status.temperatureBulbsMode = "wet" then status.wetBulbTemperatureC else status.temperatureC

/-- Whether the oven is cooking, that is, not idle. -/
def isCooking (status : OvenStatus) : Bool := status.mode ≠ "idle"

end OvenStatus

/-- `Stage`: one stage of a recipe or a cook. -/
structure Stage where
  id : Option String
  kind : String
  temperatureC : ℚ
  temperatureBulbsMode : Option String
  durationSecs : Option UInt64
  timerAdded : Option Bool
  probeAdded : Option Bool
  probeTargetC : Option ℚ
  steamPct : ℚ
  fanSpeed : UInt8
  userActionRequired : Option Bool
  rackPosition : Option UInt8
  heatingElementTop : Option Bool
  heatingElementRear : Option Bool
  heatingElementBottom : Option Bool
  ventOpen : Option Bool
  title : Option String
  turnOffAtEnd : Option Bool
  prompt : Option String
  deriving Repr, DecidableEq

/-- `Stage::normalize_fan_speed`: the fan runs at 100 with the rear element or with steam. -/
def Stage.normalizeFanSpeed (stage : Stage) : Stage :=
  let hasRearHeat := stage.heatingElementRear.getD false
  let hasSteam := decide (stage.steamPct > 0)
  if hasRearHeat || hasSteam then { stage with fanSpeed := 100 } else stage

inductive RecipeSource where
  | own
  | bookmarked
  deriving Repr, DecidableEq

/-- `Recipe`: a saved recipe, as served by `GET /recipes`. -/
structure Recipe where
  id : String
  title : String
  stageCount : Nat
  stages : List Stage
  source : RecipeSource
  deriving Repr, DecidableEq

/-- `Recipe::normalize`: the fan's speed, in every stage. -/
def Recipe.normalize (recipe : Recipe) : Recipe :=
  { recipe with stages := recipe.stages.map Stage.normalizeFanSpeed }

/-- `HistoryEntry`: a completed cook, as served by `GET /history`. -/
structure HistoryEntry where
  recipeTitle : String
  endedAt : String
  stageCount : Nat
  deriving Repr, DecidableEq

/-- `CurrentCook`: the cook in progress, as served by `GET /current-cook`. -/
structure CurrentCook where
  recipeTitle : String
  recipeId : Option String
  startedAt : String
  stages : List Stage
  cookStageCount : Nat
  totalStageCount : Nat
  deriving Repr, DecidableEq

/-- `MANUAL_TITLE`. -/
def manualTitle : String := "[manual]"

/-- `CurrentCook::display_name`. -/
def CurrentCook.displayName (cook : CurrentCook) : String :=
  if cook.recipeTitle = manualTitle then "Manual cook" else cook.recipeTitle

/-- Cook stages of a list, not counting preheats. -/
def cookStageCount (stages : List Stage) : Nat :=
  (stages.filter fun stage => stage.kind ≠ "preheat").length

end AnovaOven
