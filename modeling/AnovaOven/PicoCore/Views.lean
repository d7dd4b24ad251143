import AnovaOven.CookProgress
import AnovaOven.PicoCore.Fsm
import AnovaOven.PicoCore.Scheduler

/-!
# What the pico's screens show (`anova-oven-pico-core/src/fsm.rs`)

The snapshot with all that the screens read of a status, the views they render and the decisions that are
made of a snapshot alone: whether it is stale, the state to come back to, the prompt for the next stage, and
the views of the idle and the cooking screen. Instants are ticks since boot.
-/

namespace AnovaOven

/-! ## The snapshot -/

/-- `ApiSnapshot`, with all of its status. -/
structure ScreenSnapshot where
  status : Option ServedStatus
  currentCook : Option CurrentCook
  recipes : List Recipe
  failCount : Nat
  lastSuccessAt : Option Nat
  timerAnchor : Option Nat
  ovenMissingSince : Option Nat
  deriving Repr, DecidableEq

/-- `UPSTREAM_STALE_GRACE_SECS`. -/
def upstreamStaleGraceSecs : Nat := 60

/-- `StaleCause`. -/
inductive StaleCause where
  | anovaLink
  | ovenOffline
  | noOvenState
  deriving Repr, DecidableEq

/-- `saturating_duration_since`, in whole seconds. -/
def secsSince (now since : Nat) : Nat := (now - since) / 1000000

namespace ScreenSnapshot

/-- `ApiSnapshot::default`. -/
def empty : ScreenSnapshot := ⟨none, none, [], 0, none, none, none⟩

/-- The snapshot as the API task knows it. -/
def api (s : ScreenSnapshot) : ApiSnapshot :=
  ⟨s.status.map ServedStatus.toOvenStatus, s.currentCook, s.recipes, s.failCount, s.lastSuccessAt,
    s.timerAnchor, s.ovenMissingSince⟩

/-- `ApiSnapshot::is_offline`. -/
def isOffline (s : ScreenSnapshot) : Bool := s.api.isOffline

/-- `ApiSnapshot::is_cooking`. -/
def isCooking (s : ScreenSnapshot) : Bool := s.api.isCooking

/-- `ApiSnapshot::has_first_data`. -/
def hasFirstData (s : ScreenSnapshot) : Bool := s.lastSuccessAt.isSome

/-- What `upstream_stale` makes of the server's word about its link. -/
def linkStale (upstream : UpstreamHealth) : Option (StaleCause × Nat) :=
  if upstream.connected || upstream.disconnectedSecs.toNat < upstreamStaleGraceSecs then none
  else match upstream.ovenOfflineSecs with
    | some secs => some (.ovenOffline, secs.toNat)
    | none => some (.anovaLink, upstream.disconnectedSecs.toNat)

/-- `ApiSnapshot::upstream_stale`. -/
def upstreamStale (s : ScreenSnapshot) (now : Nat) : Option (StaleCause × Nat) :=
  match s.ovenMissingSince with
  | some since =>
    let secs := secsSince now since
    if secs ≥ upstreamStaleGraceSecs then some (.noOvenState, secs) else none
  | none => (s.status.bind ServedStatus.upstream).bind linkStale

end ScreenSnapshot

/-! ## States -/

namespace AppState

/-- `AppState::discriminant`. -/
def discriminant : AppState → Nat
  | .offline => 1
  | .idle => 2
  | .cooking _ => 3
  | .browseRecipes _ => 4
  | .startPending _ _ _ => 5
  | .confirmStop => 6
  | .stopPending _ => 7
  | .awaitNextStage _ => 8
  | .upstreamStale => 9

end AppState

/-- `BacklightPolicy`. Delays are in ticks. -/
inductive BacklightPolicy where
  | full
  | dim
  | fullThenDimAfter (delay : Nat)
  deriving Repr, DecidableEq

/-- `AppState::backlight_policy`. -/
def AppState.backlightPolicy : AppState → BacklightPolicy
  | .idle | .cooking _ => .fullThenDimAfter (ticksOfSecs 5)
  | _ => .full

/-- `AppState::idle_dim_delay`. -/
def AppState.idleDimDelay (state : AppState) : Nat :=
  match state.backlightPolicy with
  | .fullThenDimAfter delay => delay
  | .full | .dim => ticksOfSecs 5

/-! ## Views -/

/-- `ViewSpec`. -/
inductive ViewSpec where
  | wifiInit
  | dhcpInit
  | connecting
  | serverOffline
  | upstreamStale (cause : StaleCause) (secs : Nat)
  | status (status : Option ServedStatus) (cook : Option CurrentCook) (timerAnchor : Option Nat)
  | recipeBrowser (browser : BrowserView)
  | stopConfirmation (status : Option ServedStatus) (cook : Option CurrentCook)
  | startingCook (recipeTitle : String)
  | nextStagePrompt (recipeTitle : String)
  | recovery (resetCount panicCount : Nat) (message : Option String)
  deriving Repr, DecidableEq

/-- `baseline_state_for`. -/
def baselineStateFor (snap : ScreenSnapshot) : AppState :=
  if snap.isCooking then .cooking none else .idle

/-- `idle_view`. -/
def idleView (snap : ScreenSnapshot) : ViewSpec :=
  if !snap.hasFirstData || snap.ovenMissingSince.isSome then .connecting
  else .status snap.status snap.currentCook snap.timerAnchor

/-- The cook that stands in for one the server hasn't told of yet. -/
def pendingCook (title : String) : CurrentCook where
  recipeTitle := title
  recipeId := none
  startedAt := "pending"
  stages := []
  cookStageCount := 0
  totalStageCount := 0

/-- `cooking_view`. -/
def cookingView (snap : ScreenSnapshot) (optimisticRecipeTitle : Option String) : ViewSpec :=
  let cook :=
    if snap.currentCook.isSome then snap.currentCook
    else if snap.status.any fun status => status.isCooking then optimisticRecipeTitle.map pendingCook
    else none
  .status snap.status cook snap.timerAnchor

/-- A status as it will be once the oven has stopped. -/
def ServedStatus.stopped (status : ServedStatus) : ServedStatus :=
  { status with
    mode := "idle"
    timerMode := "idle"
    timerCurrentSecs := 0
    targetTemperatureC := none
    steamTargetPct := none }

/-- `optimistic_idle_view`. -/
def optimisticIdleView (snap : ScreenSnapshot) : ViewSpec :=
  .status (snap.status.map ServedStatus.stopped) none snap.timerAnchor

/-- `next_stage_prompt`. -/
def nextStagePrompt (snap : ScreenSnapshot) : Option String :=
  match snap.status.bind ServedStatus.cookProgress with
  | none => none
  | some progress =>
    if !progress.nextStageReady then none
    else some (progress.nextStageDescription.getD "Next stage")

/-- `active_recipe_title`. -/
def activeRecipeTitle (snap : ScreenSnapshot) : String :=
  match snap.currentCook with
  | some cook => cook.displayName
  | none =>
    match snap.status.bind ServedStatus.cookProgress with
    | some progress =>
      if progress.recipeTitle ≠ "" && progress.recipeTitle ≠ "[manual]" then progress.recipeTitle
      else "Active cook"
    | none => "Active cook"

end AnovaOven
