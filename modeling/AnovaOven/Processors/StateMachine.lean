import AnovaOven.Lib.Machine
import AnovaOven.Protocol.Stages
import AnovaOven.Recipe
import AnovaOven.Runtime.Types

/-!
# The state machine processor (`processors/state_machine.rs`)

The server's canonical state and its two reducers, `reduceCommand` and `reduceEvent`. A reducer is
pure: it maps the state and a message to the next state and the effects the processor's loop then
carries out, in order. What the source draws from outside is an argument (`Env`): the monotonic
clock, the wall clock and the random ids.

Left out of the state is `cook_progress`, which no reducer reads or writes. Log lines are left out.
-/

namespace AnovaOven

/-! ## State -/

/-- `Connectivity`: connected with or without a known cooker, or not connected. -/
inductive Connectivity where
  | disconnected
  | connected (cookerId : Option String)
  deriving Repr, DecidableEq

/-- `Connectivity::cooker_id`. -/
def Connectivity.cookerId : Connectivity → Option String
  | connected (some id) => some id
  | _ => none

inductive Lifecycle where
  | idle
  | startPending
  | cooking
  | stopPending
  deriving Repr, DecidableEq

structure PendingStart where
  requestId : String
  firstStageId : Option String
  deriving Repr, DecidableEq

structure PendingStop where
  requestId : String
  deriving Repr, DecidableEq

/-- `PendingTracker`: at most one start and one stop, and the controls sent and not yet acked, as
(request id, name). -/
structure PendingTracker where
  start : Option PendingStart
  stop : Option PendingStop
  controls : List (String × String)
  deriving Repr, DecidableEq

/-- `MAX_PENDING_CONTROLS`. -/
def maxPendingControls : Nat := 16

/-- `PREHEAT_SETTLE_WINDOW`, in milliseconds. -/
def preheatSettleWindow : Nat := 10000

/-- `PreheatWatch`: a preheat the server is watching, by the oven's stage id. -/
structure PreheatWatch where
  stageId : String
  nearSince : Option Nat
  reached : Bool
  deriving Repr, DecidableEq

/-- `SmState`. -/
structure SmState where
  connectivity : Connectivity
  lifecycle : Lifecycle
  lastOrigin : Option TransitionOrigin
  pending : PendingTracker
  status : Option OvenStatus
  ovenCook : Option OvenCook
  currentCook : Option CurrentCook
  recipes : List Recipe
  history : List HistoryEntry
  localMode : Bool
  preheatToleranceC : ℚ
  preheatWatch : Option PreheatWatch
  turnedOff : Option String
  deriving Repr

/-- `ReadModel`. -/
structure ReadModel where
  status : Option OvenStatus
  currentCook : Option CurrentCook
  recipes : List Recipe
  history : List HistoryEntry
  lastTransitionOrigin : Option TransitionOrigin
  deriving Repr, DecidableEq

namespace SmState

/-- `SmState::new`: the default state. -/
def new : SmState where
  connectivity := .disconnected
  lifecycle := .idle
  lastOrigin := none
  pending := ⟨none, none, []⟩
  status := none
  ovenCook := none
  currentCook := none
  recipes := []
  history := []
  localMode := false
  preheatToleranceC := 0
  preheatWatch := none
  turnedOff := none

/-- The state `StateMachineProcessor::new` starts from. `SmState::new` is the one of cloud mode
with no tolerance. -/
def init (localMode : Bool) (preheatToleranceC : ℚ) : SmState :=
  { new with localMode := localMode, preheatToleranceC := preheatToleranceC }

/-- `SmState::to_read_model`. -/
def toReadModel (s : SmState) : ReadModel where
  status := s.status
  currentCook := s.currentCook
  recipes := s.recipes
  history := s.history
  lastTransitionOrigin := s.lastOrigin

/-- `SmState::set_lifecycle`. -/
def setLifecycle (s : SmState) (next : Lifecycle) (origin : TransitionOrigin) : SmState :=
  { s with lifecycle := next, lastOrigin := some origin }

/-- Whether the last status received reports the oven cooking. -/
def reportsCooking (s : SmState) : Bool := s.status.any OvenStatus.isCooking

def setPendingStart (s : SmState) (start : Option PendingStart) : SmState :=
  { s with pending := { s.pending with start := start } }

def setPendingStop (s : SmState) (stop : Option PendingStop) : SmState :=
  { s with pending := { s.pending with stop := stop } }

def setPendingControls (s : SmState) (controls : List (String × String)) : SmState :=
  { s with pending := { s.pending with controls := controls } }

end SmState

/-! ## Effects -/

/-- `SmEffect`. -/
inductive SmEffect where
  | ws (cmd : WsCommand)
  | store (cmd : StoreCommand)
  | publishReadModel
  | commandFailed (failure : CommandFailure)
  deriving Repr

/-- The random ids one reduction draws (`Uuid::new_v4`), named by their use. No reduction draws one
of them twice. -/
structure Fresh where
  /-- The request id of a start, a stop or a client's control. -/
  requestId : String
  /-- The request id of a lamp control sent along with a cook's start or stop. -/
  lampId : String
  /-- The request id of the control that ends a settled preheat. -/
  settleId : String
  cookId : String
  manualId : String
  /-- The id of the stage at an index, when it has none. -/
  stageId : Nat → String

/-- What a reduction reads from outside: the monotonic clock in milliseconds, the wall clock in
seconds since the epoch (none before it), and the random ids. -/
structure Env where
  now : Nat
  unixSecs : Option Nat
  fresh : Fresh

/-- What a client command does: the reducer's answer beside the state and the effects. -/
structure Outcome where
  state : SmState
  result : Except SmError Unit
  effects : List SmEffect

/-- A refused command: the state as it was, and no effects. -/
def refuse (s : SmState) (e : SmError) : Outcome := ⟨s, .error e, []⟩

/-- `fetch_current_cook`: while a start is pending the oven's cook is held back. -/
def fetchCurrentCook (s : SmState) (reason : CurrentCookReason) : SmEffect :=
  .store (.fetchCurrentCook reason (if s.lifecycle = .startPending then none else s.ovenCook))

/-! ## Client-command transitions -/

/-- `link_current_cook`. -/
def linkCurrentCook (s : SmState) (recipeId title : String) : Outcome :=
  match s.currentCook with
  | none => refuse s .notCooking
  | some cook =>
    ⟨{ s with currentCook := some { cook with recipeId := some recipeId, recipeTitle := title } },
      .ok (), [.store (.linkCookToRecipe recipeId title), .publishReadModel]⟩

/-- The stages as `start` sends them: preheats renamed after their successors, then every id as
the oven will report it. -/
def startedStages (fresh : Fresh) (stages : List Stage) : List Stage :=
  (rewritePreheatStageIds stages).mapIdx fun i stage =>
    { stage with id := some (normalizeStageIdForWs (fresh.stageId i) stage.id) }

/-- The cook id a start mints. -/
def mintedCookId (fresh : Fresh) : String := "ios-" ++ fresh.cookId

/-- `start`. -/
def start (env : Env) (s : SmState) (recipe : Recipe) (started : StartedFrom) : Outcome :=
  let stages := startedStages env.fresh recipe.stages
  let requestId := env.fresh.requestId
  let pending := { requestId := requestId, firstStageId := stages.head?.bind (·.id) }
  let s := (s.setPendingStart (some pending)).setLifecycle .startPending .localCommand
  let currentCook := {
    recipeTitle := recipe.title
    recipeId := started.recipeId
    startedAt := match env.unixSecs with
      | some secs => "local-" ++ toString secs
      | none => "local"
    stages := stages
    cookStageCount := recipe.stageCount
    totalStageCount := stages.length }
  let cookId := mintedCookId env.fresh
  ⟨{ s with currentCook := some currentCook }, .ok (),
    [.ws (.sendStart requestId cookId recipe.id stages),
      .store (.patchCookRecipeRef cookId started (CookExtras.fromStages stages))]⟩

/-- `start_cook`. -/
def startCook (env : Env) (s : SmState) (recipeId : String) : Outcome :=
  if s.connectivity.cookerId.isNone then refuse s .disconnected
  else match s.recipes.find? fun r => r.id = recipeId with
    | none => refuse s (.recipeNotFound recipeId)
    | some recipe => start env s recipe (.recipe recipe.id)

/-- `start_manual_cook`: start a cook from stages given with the request. -/
def startManualCook (env : Env) (s : SmState) (title : String) (stages : List Stage) : Outcome :=
  if s.connectivity.cookerId.isNone then refuse s .disconnected
  else
    let recipe := {
      id := "manual-" ++ env.fresh.manualId
      title := title
      stageCount := cookStageCount stages
      stages := stages
      source := .own }
    start env s recipe (.manual title (cookStageCount stages))

/-- The guards `control` puts before a control of the running cook: a cooking status, the oven's
cook, and an active stage within it. -/
def activeStage (s : SmState) : Except SmError (OvenStatus × OvenCook × Nat) :=
  match s.status.filter OvenStatus.isCooking with
  | none => .error .notCooking
  | some status => match s.ovenCook with
    | none => .error .notCooking
    | some cook => match status.activeStageIndex.filter fun i => i < cook.rawStages.length with
      | none => .error (.conflict "the oven hasn't reported its active stage")
      | some active => .ok (status, cook, active)

/-- `update_cook_stages`. -/
def updateCookStages (raw : List Json) : OvenControl := .updateCookStages (raw.map forUpdate)

/-- `control`: turn a client's control request into a command for the oven. While a preheat runs,
changes to the stages go out as an update of the whole stage list. -/
def control (s : SmState) (request : ControlRequest) : Except SmError OvenControl :=
  if !s.localMode then
    .error (.unsupported
      "only available in local mode; Anova's cloud refuses or doesn't relay it")
  else if s.connectivity.cookerId.isNone then .error .disconnected
  else match request with
    | .lamp on => .ok (.setLamp on)
    | .temperatureUnit unit => .ok (.setTemperatureUnit unit)
    | .nextStage => do
      let (_, cook, active) ← activeStage s
      match cook.stages[active + 1]? with
      | none => .error (.conflict "the active stage is the last one")
      | some next => match next.id with
        | none => .error (.conflict "the next stage has no id")
        | some stageId => .ok (.startStage stageId)
    | .temperature celsius => do
      let (status, cook, active) ← activeStage s
      if cook.stages[active]?.any fun stage => stage.kind = "preheat" then
        .ok (updateCookStages (cook.rawStages.modify active fun raw => withTemperature raw celsius))
      else .ok (.setTemperatureBulbs status.temperatureBulbsMode celsius)
    | .timer secs => do
      let (_, cook, active) ← activeStage s
      if cook.stages[active]?.any fun stage => stage.kind = "preheat" then
        if active + 1 ≥ cook.rawStages.length then
          .error (.conflict "a preheat with no stage after it has no timer to set")
        else
          .ok (updateCookStages (cook.rawStages.modify (active + 1) fun raw => withTimer raw secs))
      else .ok (.setTimer secs)

/-- The controls after one more: past the bound the oldest is dropped. -/
def pushControl (controls : List (String × String)) (entry : String × String) :
    List (String × String) :=
  let pushed := controls ++ [entry]
  if pushed.length > maxPendingControls then pushed.drop 1 else pushed

/-- `send_control`: send a control to the oven, tracked under a name until it's acked. -/
def sendControl (s : SmState) (requestId name : String) (control : OvenControl) :
    SmState × SmEffect :=
  (s.setPendingControls (pushControl s.pending.controls (requestId, name)),
    .ws (.control requestId control))

/-- The lamp goes off with the oven, before the stop. -/
def lampOff (fresh : Fresh) (s : SmState) : SmState × List SmEffect :=
  if s.localMode && s.status.any fun st => st.lampOn then
    let (s, effect) := sendControl s fresh.lampId "lamp" (.setLamp false)
    (s, [effect])
  else (s, [])

/-- `stop_cook`. -/
def stopCook (fresh : Fresh) (s : SmState) : Outcome :=
  if s.lifecycle = .idle then refuse s .notCooking
  else if s.status.any fun st => !st.isCooking then refuse s .notCooking
  else if s.connectivity.cookerId.isNone then refuse s .disconnected
  else
    let (s, lamp) := lampOff fresh s
    let s := s.setPendingStop (some ⟨fresh.requestId⟩)
    ⟨s.setLifecycle .stopPending .localCommand, .ok (), lamp ++ [.ws (.sendStop fresh.requestId)]⟩

/-- Whether the last stage of the running cook has ended on its probe: the stage is one that ends on
a probe, and the reading is at the target. -/
def probeDone (status : OvenStatus) (stage : Stage) : Bool :=
  stage.probeAdded = some true &&
    match status.probeTemperatureC, status.probeTargetTemperatureC.or stage.probeTargetC with
    | some current, some target => current ≥ target
    | _, _ => false

/-- The cook `turn_off_when_done` stops: the running one, in local mode, once the last stage of a
cook set to turn the oven off has ended, unless it was stopped already. -/
def cookToTurnOff (s : SmState) : Option String :=
  if !s.localMode || s.lifecycle ≠ .cooking then none
  else match s.status, s.ovenCook, s.currentCook with
    | some status, some ovenCook, some cook =>
      if !(cook.stages.getLast?.any fun st => st.turnOffAtEnd = some true) ||
          s.turnedOff = some ovenCook.cookId then none
      else match ovenCook.stages.getLast? with
        | none => none
        | some stage =>
          if status.activeStageIndex ≠ some (ovenCook.stages.length - 1) then none
          else if !status.cookDone && !probeDone status stage then none
          else some ovenCook.cookId
    | _, _, _ => none

/-- `turn_off_when_done`. -/
def turnOffWhenDone (fresh : Fresh) (s : SmState) : SmState × List SmEffect :=
  match cookToTurnOff s with
  | none => (s, [])
  | some cookId =>
    let stopped := stopCook fresh { s with turnedOff := some cookId }
    match stopped.result with
    | .ok () => (stopped.state, stopped.effects)
    | .error _ => (stopped.state, [])

/-! ## External-event transitions -/

/-- The lamp comes on with a cook the server saw start, unless it's on. -/
def lampOn (fresh : Fresh) (s : SmState) (seenBefore : Bool) (status : OvenStatus) :
    SmState × List SmEffect :=
  if s.localMode && seenBefore && !status.lampOn then
    let (s, effect) := sendControl s fresh.lampId "lamp" (.setLamp true)
    (s, [effect])
  else (s, [])

/-- The idle → cooking block of `apply_apo_state`: a local start confirmed, or an external one. -/
def startedCooking (fresh : Fresh) (s : SmState) (status : OvenStatus) :
    SmState × List SmEffect :=
  let seenBefore := s.status.isSome
  let reason := if seenBefore then CurrentCookReason.wsIdleToCooking else .wsConnectedCookingState
  let origin := match s.lifecycle with
    | .startPending => TransitionOrigin.ackConfirmed
    | _ => if seenBefore then .wsExternal else .startupSync
  let s := (s.setPendingStart none).setLifecycle .cooking origin
  let (s, lamp) := lampOn fresh s seenBefore status
  (s, lamp ++ [fetchCurrentCook s reason, .store (.refreshHistory .wsIdleToCooking)])

/-- The cooking → idle block of `apply_apo_state`. -/
def stoppedCooking (s : SmState) : SmState × List SmEffect :=
  let origin := match s.lifecycle with
    | .stopPending => TransitionOrigin.ackConfirmed
    | _ => .wsExternal
  let s := s.setPendingStop none
  let s := { s with currentCook := none }
  (s.setLifecycle .idle origin, [.store (.refreshHistory .wsCookToIdle)])

/-- The two reconciles of `apply_apo_state` on an idle report: a lingering start is rolled back, and
a settled-idle oven carries no current cook. -/
def reconcileIdle (s : SmState) : SmState :=
  let s := if s.lifecycle = .startPending then
      (s.setPendingStart none).setLifecycle .idle .timeoutRecovery
    else s
  if s.lifecycle = .idle then { s with currentCook := none } else s

/-- `apply_apo_state` up to the assignment of `state.status`: the two edges, the stage transition and
the reconciles. -/
def recordStatus (fresh : Fresh) (s : SmState) (status : OvenStatus) : SmState × List SmEffect :=
  let prevCooking := s.reportsCooking
  let prevTimer := s.status.map fun st => st.timerTotalSecs
  let isCooking := status.isCooking
  let (s, started) := if isCooking && !prevCooking then startedCooking fresh s status else (s, [])
  let (s, stopped) := if !isCooking && prevCooking then stoppedCooking s else (s, [])
  let transition :=
    if isCooking && prevCooking && prevTimer.any fun prev => prev ≠ status.timerTotalSecs then
      [fetchCurrentCook s .wsStageTransition]
    else []
  let s := if !isCooking then reconcileIdle s else s
  ({ s with status := some status }, started ++ stopped ++ transition)

/-- `apply_apo_state`. -/
def applyApoState (fresh : Fresh) (s : SmState) (status : OvenStatus) : SmState × List SmEffect :=
  let (s, effects) := recordStatus fresh s status
  let (s, turnedOff) := turnOffWhenDone fresh s
  (s, effects ++ turnedOff ++ [.publishReadModel])

/-- The preheat `settle_preheat` watches: the active stage of a local cook, with its id and its
setpoint, and the stage after it. -/
def watchedPreheat (s : SmState) (status : OvenStatus) : Option (String × ℚ × Stage) :=
  match s.ovenCook, status.activeStageIndex with
  | some cook, some i =>
    if s.localMode && status.isCooking then do
      let preheat ← cook.stages[i]?.filter fun stage => stage.kind = "preheat"
      let next ← cook.stages[i + 1]?
      let stageId ← preheat.id
      some (stageId, preheat.temperatureC, next)
    else none
  | _, _ => none

/-- The watch of a stage: the one kept, where it is of that stage, or a new one. -/
def watchOf (kept : Option PreheatWatch) (stageId : String) : PreheatWatch :=
  match kept.filter fun watch => watch.stageId = stageId with
  | some watch => watch
  | none => ⟨stageId, none, false⟩

/-- `settle_preheat`: the state, the status as it goes on, and the effects. -/
def settlePreheat (env : Env) (s : SmState) (status : OvenStatus) :
    SmState × OvenStatus × List SmEffect :=
  match watchedPreheat s status with
  | none => ({ s with preheatWatch := none }, status, [])
  | some (stageId, target, next) =>
    let nextWaits := next.userActionRequired = some true
    let watch := watchOf s.preheatWatch stageId
    let keep (watch : PreheatWatch) : SmState := { s with preheatWatch := some watch }
    let waiting := { status with stageTransitionPendingUserAction := true }
    if status.stageTransitionPendingUserAction then
      (keep { watch with reached := true }, status, [])
    else if watch.reached then
      (keep watch, if nextWaits then waiting else status, [])
    else if status.currentTemperatureC < target - s.preheatToleranceC then
      (keep { watch with nearSince := none }, status, [])
    else
      let since := watch.nearSince.getD env.now
      let watch := { watch with nearSince := some since }
      if env.now - since < preheatSettleWindow then (keep watch, status, [])
      else
        let watch := { watch with reached := true }
        if nextWaits then (keep watch, waiting, [])
        else match next.id with
          | none => (keep watch, status, [])
          | some nextId =>
            let (s, effect) :=
              sendControl (keep watch) env.fresh.settleId "next_stage" (.startStage nextId)
            (s, status, [effect])

/-- `str::eq_ignore_ascii_case`. -/
def eqIgnoreAsciiCase (a b : String) : Bool :=
  a.toList.map Char.toLower = b.toList.map Char.toLower

/-- Whether an ack's status is `ok`. -/
def ackOk (status : String) : Bool := eqIgnoreAsciiCase status "ok"

/-- `command_failed`. -/
def commandFailed (command reason : String) : SmEffect := .commandFailed ⟨command, reason⟩

/-- The controls' part of `apply_command_ack`: the entry goes, and a failure is announced. -/
def ackControl (s : SmState) (requestId status : String) : SmState × List SmEffect :=
  match s.pending.controls.find? fun entry => entry.1 = requestId with
  | none => (s, [])
  | some (_, name) =>
    (s.setPendingControls (s.pending.controls.eraseP fun entry => entry.1 = requestId),
      if ackOk status then [] else [commandFailed name status])

/-- Whether an ack is the pending start's. -/
def SmState.awaitsStart (s : SmState) (requestId : String) : Bool :=
  s.pending.start.any fun pending => pending.requestId = requestId

/-- Whether an ack is the pending stop's. -/
def SmState.awaitsStop (s : SmState) (requestId : String) : Bool :=
  s.pending.stop.any fun pending => pending.requestId = requestId

/-- `apply_command_ack`. -/
def applyCommandAck (s : SmState) (requestId status : String) : SmState × List SmEffect :=
  if s.awaitsStart requestId then
    if ackOk status then
      let s := { s with lastOrigin := some .ackConfirmed }
      let s := if s.localMode && s.reportsCooking then
          (s.setPendingStart none).setLifecycle .cooking .ackConfirmed
        else s
      (s, [fetchCurrentCook s .startCommandAccepted])
    else
      ((s.setPendingStart none).setLifecycle .idle .timeoutRecovery,
        [commandFailed "start" status])
  else if s.awaitsStop requestId && !ackOk status then
    ((s.setPendingStop none).setLifecycle .cooking .timeoutRecovery, [commandFailed "stop" status])
  else ackControl s requestId status

/-- `reduce_ws_event`. On a report, the store hears of it before anything else, but not while a
start is pending. -/
def reduceWsEvent (env : Env) (s : SmState) : WsEvent → SmState × List SmEffect
  | .connected =>
    let cooker := match s.connectivity with
      | .connected cookerId => cookerId
      | .disconnected => none
    ({ s with connectivity := .connected cooker }, [])
  | .disconnected => ({ s with connectivity := .disconnected }, [])
  | .cookerDiscovered cookerId => ({ s with connectivity := .connected (some cookerId) }, [])
  | .apoState status cook =>
    let report : List SmEffect :=
      if s.lifecycle ≠ .startPending then [.store (.ovenReported cook)] else []
    let (s, status, settled) := settlePreheat env { s with ovenCook := cook } status
    let (s, effects) := applyApoState env.fresh s status
    (s, report ++ effects ++ settled)
  | .commandAck requestId status => applyCommandAck s requestId status
  | .parseError _ => (s, [])

/-- `reduce_store_event`. -/
def reduceStoreEvent (s : SmState) : StoreEvent → SmState × List SmEffect
  | .recipesRefreshed (.ok recipes) => ({ s with recipes := recipes }, [.publishReadModel])
  | .recipesRefreshed (.error _) => (s, [])
  | .historyRefreshed (.ok history) => ({ s with history := history }, [.publishReadModel])
  | .historyRefreshed (.error _) => (s, [])
  | .currentCookFetched _ (.ok cook) => ({ s with currentCook := cook }, [.publishReadModel])
  | .currentCookFetched _ (.error _) => (s, [])
  | .recipeRefPatched _ _ (.ok ()) => (s, [fetchCurrentCook s .startCommandAccepted])
  | .recipeRefPatched _ _ (.error _) => (s, [])
  | .manualCookTitleResolved cookKey (.ok (some (title, id))) =>
    let currentCook := s.currentCook.map fun cook =>
      if cook.startedAt = cookKey ∧ cook.recipeTitle = "[manual]" then
        { cook with recipeTitle := title, recipeId := cook.recipeId.or (some id) }
      else cook
    ({ s with currentCook := currentCook }, [.publishReadModel])
  | .manualCookTitleResolved _ _ => (s, [])

/-- The tick arms of `reduce_event`. -/
def reduceTick (s : SmState) : TickKind → List SmEffect
  | .currentCookRefresh =>
    if s.lifecycle = .cooking ∨ s.lifecycle = .startPending then [fetchCurrentCook s .periodic]
    else []
  | .recipesRefresh => [.store .refreshRecipes]
  | .historyRefresh => [.store (.refreshHistory .periodic)]
  | .pendingTimeout => []

/-! ## Reducers -/

/-- `reduce_event`. -/
def reduceEvent (env : Env) (s : SmState) : StateMachineEvent → SmState × List SmEffect
  | .ws event => reduceWsEvent env s event
  | .store event => reduceStoreEvent s event
  | .tick kind => (s, reduceTick s kind)

/-- `ReplyChannel`: the answer to a command, by its type. -/
inductive Reply where
  | status (result : Except SmError OvenStatus)
  | currentCook (result : Except SmError (Option CurrentCook))
  | recipes (result : Except SmError (List Recipe))
  | history (result : Except SmError (List HistoryEntry))
  | unit (result : Except SmError Unit)

/-- `CommandOutcome`, with the state after the command. -/
structure CommandOutcome where
  state : SmState
  reply : Reply
  effects : List SmEffect

/-- `CommandOutcome::reply_unit_with_effects`. -/
def Outcome.reply (o : Outcome) : CommandOutcome := ⟨o.state, .unit o.result, o.effects⟩

/-- `reduce_command`. -/
def reduceCommand (env : Env) (s : SmState) : StateMachineCommand → CommandOutcome
  | .getStatus => ⟨s, .status (match s.status with
      | some status => .ok status
      | none => .error .disconnected), []⟩
  | .getCurrentCook => ⟨s, .currentCook (.ok s.currentCook), []⟩
  | .getRecipes => ⟨s, .recipes (.ok s.recipes), []⟩
  | .getHistory => ⟨s, .history (.ok s.history), []⟩
  | .refreshRecipes => ⟨s, .recipes (.ok s.recipes), [.store .refreshRecipes]⟩
  | .startCook recipeId => (startCook env s recipeId).reply
  | .startManualCook title stages => (startManualCook env s title stages).reply
  | .stopCook => (stopCook env.fresh s).reply
  | .linkCurrentCook recipeId title => (linkCurrentCook s recipeId title).reply
  | .control request => match control s request with
    | .error e => (refuse s e).reply
    | .ok ctl =>
      let (s, effect) := sendControl s env.fresh.requestId request.name ctl
      ⟨s, .unit (.ok ()), [effect]⟩

/-- A message to the state machine: a client's command or an event. -/
inductive Input where
  | command (cmd : StateMachineCommand)
  | event (evt : StateMachineEvent)

/-- One turn of `StateMachineProcessor::run`. -/
def reduce (s : SmState) (i : Env × Input) : SmState × List SmEffect :=
  match i.2 with
  | .command cmd =>
    let outcome := reduceCommand i.1 s cmd
    (outcome.state, outcome.effects)
  | .event evt => reduceEvent i.1 s evt

/-- The state machine as a machine: its runs are the sequences of messages it may be sent. -/
def stateMachine : Machine SmState (Env × Input) SmEffect := ⟨reduce⟩

/-- `ReadModel::default`. -/
def ReadModel.empty : ReadModel := ⟨none, none, [], [], none⟩

/-- What `dispatch` leaves published: it publishes the state as it is once the reduction is over. -/
def dispatchReadModel (s : SmState) (published : ReadModel) (effects : List SmEffect) : ReadModel :=
  effects.foldl (fun published effect => match effect with
    | .publishReadModel => s.toReadModel
    | _ => published) published

/-- `StateMachineProcessor`: the state machine with the read model it last published. -/
def stateMachineProcessor : Machine (SmState × ReadModel) (Env × Input) SmEffect :=
  stateMachine.noting fun s published i =>
    dispatchReadModel (stateMachine.next s i) published (stateMachine.effects s i)

end AnovaOven
