import AnovaOven.Api
import AnovaOven.Lib.Json

/-!
# Messages between the processors (`runtime/types.rs`)

The commands and events of the state machine, the oven side and the store. A command's reply
channel is left out: the reducer's answer is part of its outcome.
-/

namespace AnovaOven

/-- `SmError`. -/
inductive SmError where
  | notCooking
  | disconnected
  | recipeNotFound (id : String)
  | unsupported (detail : String)
  | conflict (detail : String)
  deriving Repr, DecidableEq

/-- `StoreError`. -/
inductive StoreError where
  | unauthorized
  | timeout
  | unsupported
  | other (detail : String)
  deriving Repr, DecidableEq

/-- `ControlRequest`: what a client asks of the running cook. -/
inductive ControlRequest where
  | nextStage
  | timer (secs : UInt64)
  | temperature (celsius : ℚ)
  | lamp (on : Bool)
  | temperatureUnit (unit : String)
  deriving Repr, DecidableEq

/-- `ControlRequest::name`. -/
def ControlRequest.name : ControlRequest → String
  | nextStage => "next_stage"
  | timer _ => "timer"
  | temperature _ => "temperature"
  | lamp _ => "lamp"
  | temperatureUnit _ => "temperature_unit"

/-- `OvenControl`: a command for the oven itself. -/
inductive OvenControl where
  | startStage (stageId : String)
  | setTimer (secs : UInt64)
  | setTemperatureBulbs (mode : String) (celsius : ℚ)
  | setLamp (on : Bool)
  | setTemperatureUnit (unit : String)
  | updateCookStages (stages : List Json)
  deriving Repr

/-- `StateMachineCommand`. -/
inductive StateMachineCommand where
  | getStatus
  | getCurrentCook
  | getRecipes
  | getHistory
  | refreshRecipes
  | startCook (recipeId : String)
  | startManualCook (title : String) (stages : List Stage)
  | stopCook
  | linkCurrentCook (recipeId title : String)
  | control (request : ControlRequest)
  deriving Repr, DecidableEq

/-- `WsCommand`. -/
inductive WsCommand where
  | sendStop (requestId : String)
  | sendStart (requestId cookId recipeId : String) (stages : List Stage)
  | control (requestId : String) (control : OvenControl)
  deriving Repr

/-- The request id a command carries. -/
def WsCommand.requestId : WsCommand → String
  | sendStop requestId => requestId
  | sendStart requestId _ _ _ => requestId
  | control requestId _ => requestId

/-- `OvenCook`: the running cook as the oven reports it. -/
structure OvenCook where
  cookId : String
  stages : List Stage
  rawStages : List Json
  secondsElapsed : UInt64
  deriving Repr

/-- `WsEvent`. -/
inductive WsEvent where
  | connected
  | disconnected
  | apoState (status : OvenStatus) (cook : Option OvenCook)
  | cookerDiscovered (cookerId : String)
  | commandAck (requestId status : String)
  | parseError (detail : String)
  deriving Repr

inductive HistoryReason where
  | periodic
  | startup
  | wsIdleToCooking
  | wsCookToIdle
  | wsStageTransition
  deriving Repr, DecidableEq

inductive CurrentCookReason where
  | periodic
  | startup
  | wsIdleToCooking
  | wsConnectedCookingState
  | wsStageTransition
  | startCommandAccepted
  deriving Repr, DecidableEq

/-- `CookExtras`: what a cook asks of the server beyond what the oven keeps of its stages. The
prompts are an association list with distinct keys, in insertion order (`BTreeMap`). -/
structure CookExtras where
  turnOffAtEnd : Bool
  prompts : List (String × String)
  deriving Repr, DecidableEq

namespace CookExtras

/-- `CookExtras::default`. -/
def empty : CookExtras := ⟨false, []⟩

/-- Collect pairs into a map: a later value replaces an earlier one under its key. -/
def collect (pairs : List (String × String)) : List (String × String) :=
  pairs.foldl (fun map pair => (map.filter fun entry => entry.1 ≠ pair.1) ++ [pair]) []

/-- `CookExtras::from_stages`: from the stages as sent to the oven, ids and all. -/
def fromStages (stages : List Stage) : CookExtras where
  turnOffAtEnd := stages.getLast?.any fun s => s.turnOffAtEnd = some true
  prompts := collect (stages.filterMap fun s => do
    let id ← s.id
    let prompt ← s.prompt
    some (id, prompt))

/-- Set the last stage's turn-off flag, whatever it was. -/
def applyTurnOff (extras : CookExtras) : List Stage → List Stage
  | [] => []
  | [last] => [{ last with turnOffAtEnd := if extras.turnOffAtEnd then some true else none }]
  | stage :: next :: rest => stage :: extras.applyTurnOff (next :: rest)

/-- `CookExtras::apply`: lay these over the oven's copy of the stages. -/
def apply (extras : CookExtras) (stages : List Stage) : List Stage :=
  (extras.applyTurnOff stages).map fun stage =>
    { stage with prompt := stage.id.bind fun id => extras.prompts.lookup id }

end CookExtras

/-- `StartedFrom`: what a cook the server started was made from. -/
inductive StartedFrom where
  | recipe (id : String)
  | manual (title : String) (cookStageCount : Nat)
  deriving Repr, DecidableEq

/-- `StartedFrom::recipe_id`. -/
def StartedFrom.recipeId : StartedFrom → Option String
  | recipe id => some id
  | manual _ _ => none

/-- `StoreCommand`. -/
inductive StoreCommand where
  | refreshRecipes
  | refreshHistory (reason : HistoryReason)
  | fetchCurrentCook (reason : CurrentCookReason) (ovenCook : Option OvenCook)
  | ovenReported (ovenCook : Option OvenCook)
  | patchCookRecipeRef (cookId : String) (started : StartedFrom) (extras : CookExtras)
  | resolveManualCookTitle (cook : CurrentCook)
  | linkCookToRecipe (recipeId title : String)
  deriving Repr

/-- `StoreEvent`. -/
inductive StoreEvent where
  | recipesRefreshed (result : Except StoreError (List Recipe))
  | historyRefreshed (result : Except StoreError (List HistoryEntry))
  | currentCookFetched (reason : CurrentCookReason)
      (result : Except StoreError (Option CurrentCook))
  | recipeRefPatched (cookId : String) (recipeId : Option String) (result : Except StoreError Unit)
  | manualCookTitleResolved (cookKey : String)
      (result : Except StoreError (Option (String × String)))

inductive TickKind where
  | currentCookRefresh
  | recipesRefresh
  | historyRefresh
  | pendingTimeout
  deriving Repr, DecidableEq

/-- `StateMachineEvent`. -/
inductive StateMachineEvent where
  | ws (event : WsEvent)
  | store (event : StoreEvent)
  | tick (kind : TickKind)

/-- `CommandFailure`: a command the oven didn't carry out. -/
structure CommandFailure where
  command : String
  reason : String
  deriving Repr, DecidableEq

inductive TransitionOrigin where
  | localCommand
  | wsExternal
  | wsReconciliation
  | ackConfirmed
  | timeoutRecovery
  | startupSync
  deriving Repr, DecidableEq

end AnovaOven
