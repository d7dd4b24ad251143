import AnovaOven.PicoCore.Fsm
import AnovaOven.PicoCore.Scheduler

/-!
# The pico's API task (`anova-oven-pico/src/api_client.rs`)

The task that polls the server and sends it the user's commands, one turn at a time: a command taken
from its channel, or an event popped from its queue and handled. What a turn reads from outside, the
clock and the server's answers, is an argument. Left out are the log lines, the connection, and the
failure count kept across resets.
-/

namespace AnovaOven

def postActionCookRefreshDelaySecs : Nat := 1
def postStartCurrentCookRefreshDelaySecs : Nat := 3
def cookPollIntervalSecs : Nat := 10
def recipePollIntervalSecs : Nat := 3600
def normalPollIntervalSecs : Nat := 1

/-- `POLL_BACKOFF_TIER1_FAILS` and its kin. -/
def pollBackoffTiers : List (Nat × Nat) := [(15, 30), (10, 15), (5, 5)]

/-- `ApiCommand`: what the user asks for. -/
inductive ApiCommand where
  | start (recipeId : String)
  | stop
  | nextStage
  deriving Repr, DecidableEq

/-- What the task asks of the server. -/
inductive ApiRequest where
  | postStart (recipeId : String)
  | postStop
  | postNextStage
  | getStatus
  | getCurrentCook
  | getRecipes
  deriving Repr, DecidableEq

/-- What a turn does: the requests it sends, and the snapshots it publishes. -/
inductive ApiEffect where
  | request (request : ApiRequest)
  | publish (snapshot : ApiSnapshot)
  deriving Repr, DecidableEq

/-- Why a request has no answer: its status code, another error, or the five seconds are over. -/
inductive ApiFailure where
  | http (code : UInt16)
  | other
  | timedOut
  deriving Repr, DecidableEq

/-- What a handled event reads from outside: the clock when the event is popped, then reading by
reading, and the server's answer to each request. -/
structure ApiTurn where
  now : Nat
  clock : Nat → Nat
  status : Except ApiFailure OvenStatus
  currentCook : Except ApiFailure (Option CurrentCook)
  recipes : Except ApiFailure (List Recipe)

/-- `ApiRuntime`. -/
structure ApiRuntime where
  snapshot : ApiSnapshot
  eventQueue : EventQueue
  pendingStartRecipeId : Option String

namespace ApiRuntime

/-- `ApiRuntime::enqueue`: an overflow is logged, and the event dropped. -/
def enqueue (r : ApiRuntime) (kind : EventKind) (executionTime : Nat) (mode : EnqueueMode) :
    ApiRuntime :=
  { r with eventQueue := (r.eventQueue.enqueue kind executionTime mode).2 }

/-- `ApiRuntime::new`: the three polls, staggered. -/
def new (now : Nat) : ApiRuntime :=
  ((ApiRuntime.enqueue ⟨.empty, .new, none⟩ .pollStatus now .preferEarlier).enqueue
    .pollCurrentCook (now + ticksOfMillis 250) .preferEarlier).enqueue
    .pollRecipes (now + ticksOfMillis 500) .preferEarlier

/-- `next_poll_interval_secs`. -/
def nextPollIntervalSecs (r : ApiRuntime) : Nat :=
  match pollBackoffTiers.find? fun tier => tier.1 ≤ r.snapshot.failCount with
  | some (_, secs) => secs
  | none => normalPollIntervalSecs

/-- `record_fast_poll_success`. -/
def recordFastPollSuccess (r : ApiRuntime) (now : Nat) : ApiRuntime :=
  { r with snapshot := { r.snapshot with failCount := 0, lastSuccessAt := some now } }

/-- `record_fast_poll_failure`: the count stays at the largest `u64`. -/
def recordFastPollFailure (r : ApiRuntime) : ApiRuntime :=
  let failCount := min (r.snapshot.failCount + 1) (UInt64.size - 1)
  { r with snapshot := { r.snapshot with failCount } }

/-- `queue_post_action_refresh`. -/
def queuePostActionRefresh (r : ApiRuntime) (now : Nat) : ApiRuntime :=
  let refreshAt := now + ticksOfSecs postActionCookRefreshDelaySecs
  (r.enqueue .pollStatus refreshAt .preferEarlier).enqueue .pollCurrentCook refreshAt .preferEarlier

/-- `poll_action_in_flight`. -/
def pollActionInFlight (r : ApiRuntime) : Bool :=
  r.pendingStartRecipeId.isSome || r.eventQueue.hasPending .apiStart ||
    r.eventQueue.hasPending .apiStop || r.eventQueue.hasPending .apiNextStage

/-- `reconcile_current_cook_recipe_title`. -/
def reconcileCurrentCookRecipeTitle (r : ApiRuntime) : ApiRuntime :=
  match r.snapshot.currentCook with
  | none => r
  | some cook => match cook.recipeId with
    | none => r
    | some recipeId => match r.snapshot.recipes.find? fun recipe => recipe.id = recipeId with
      | none => r
      | some recipe =>
        { r with snapshot :=
          { r.snapshot with currentCook := some { cook with recipeTitle := recipe.title } } }

/-- `handle_api_start`. -/
def handleApiStart (r : ApiRuntime) (turn : ApiTurn) : ApiRuntime × List ApiEffect :=
  match r.pendingStartRecipeId with
  | none => (r, [])
  | some recipeId =>
    let r := { r with pendingStartRecipeId := none }
    let now := turn.clock 0
    ((r.enqueue .pollStatus (now + ticksOfSecs postActionCookRefreshDelaySecs)
        .preferEarlier).enqueue .pollCurrentCook
        (now + ticksOfSecs postStartCurrentCookRefreshDelaySecs) .preferEarlier,
      [.request (.postStart recipeId)])

/-- `handle_api_stop`. -/
def handleApiStop (r : ApiRuntime) : ApiRuntime × List ApiEffect := (r, [.request .postStop])

/-- `handle_api_next_stage`. -/
def handleApiNextStage (r : ApiRuntime) : ApiRuntime × List ApiEffect :=
  (r, [.request .postNextStage])

/-- What a status poll makes of the answer. -/
def installAnswer (r : ApiRuntime) (turn : ApiTurn) : ApiRuntime :=
  match turn.status with
  | .ok status =>
    let r := { r with snapshot := r.snapshot.installStatus status (turn.clock 0) }
    r.recordFastPollSuccess (turn.clock 1)
  | .error (.http 503) =>
    let r := { r with snapshot := r.snapshot.markOvenMissing (turn.clock 0) }
    r.recordFastPollSuccess (turn.clock 1)
  | .error _ => r.recordFastPollFailure

/-- `handle_poll_status`. -/
def handlePollStatus (r : ApiRuntime) (turn : ApiTurn) : ApiRuntime × List ApiEffect :=
  if r.pollActionInFlight then
    (r.enqueue .pollStatus (turn.clock 0 + ticksOfSecs postActionCookRefreshDelaySecs)
      .preferEarlier, [])
  else
    let r := r.installAnswer turn
    let interval := max r.nextPollIntervalSecs normalPollIntervalSecs
    let r := r.enqueue .pollStatus (turn.clock 2 + ticksOfSecs interval) .preferEarlier
    (r, [.request .getStatus, .publish r.snapshot])

/-- `handle_poll_current_cook`. -/
def handlePollCurrentCook (r : ApiRuntime) (turn : ApiTurn) : ApiRuntime × List ApiEffect :=
  if r.pollActionInFlight then
    (r.enqueue .pollCurrentCook (turn.clock 0 + ticksOfSecs postActionCookRefreshDelaySecs)
      .preferEarlier, [])
  else
    let r := match turn.currentCook with
      | .ok (some cook) =>
        let r := { r with snapshot := { r.snapshot with currentCook := some cook } }
        r.reconcileCurrentCookRecipeTitle
      | .ok none => { r with snapshot := { r.snapshot with currentCook := none } }
      | .error _ => r
    let interval := max r.nextPollIntervalSecs cookPollIntervalSecs
    let r := r.enqueue .pollCurrentCook (turn.clock 0 + ticksOfSecs interval) .preferEarlier
    (r, [.request .getCurrentCook, .publish r.snapshot])

/-- `handle_poll_recipes`. -/
def handlePollRecipes (r : ApiRuntime) (turn : ApiTurn) : ApiRuntime × List ApiEffect :=
  let r := match turn.recipes with
    | .ok recipes => { r with snapshot := { r.snapshot with recipes := recipes } }
    | .error _ => r
  let r := r.reconcileCurrentCookRecipeTitle
  let interval := max r.nextPollIntervalSecs recipePollIntervalSecs
  let r := r.enqueue .pollRecipes (turn.clock 0 + ticksOfSecs interval) .preferEarlier
  (r, [.request .getRecipes, .publish r.snapshot])

/-- `handle_event`. -/
def handleEvent (r : ApiRuntime) (turn : ApiTurn) : EventKind → ApiRuntime × List ApiEffect
  | .pollStatus => r.handlePollStatus turn
  | .pollCurrentCook => r.handlePollCurrentCook turn
  | .pollRecipes => r.handlePollRecipes turn
  | .apiStart => r.handleApiStart turn
  | .apiStop => r.handleApiStop
  | .apiNextStage => r.handleApiNextStage

/-- `handle_command`. -/
def handleCommand (r : ApiRuntime) (now : Nat) : ApiCommand → ApiRuntime
  | .start recipeId =>
    let r := { r with pendingStartRecipeId := some recipeId }
    r.enqueue .apiStart now .preferEarlier
  | .stop => (r.enqueue .apiStop now .preferEarlier).queuePostActionRefresh now
  | .nextStage => (r.enqueue .apiNextStage now .preferEarlier).queuePostActionRefresh now

/-- One pop of the drain loop, with the event it gives handled. -/
def drain (r : ApiRuntime) (turn : ApiTurn) : ApiRuntime × List ApiEffect :=
  let (popped, eventQueue) := r.eventQueue.popDue turn.now
  let r := { r with eventQueue := eventQueue }
  match popped with
  | none => (r, [])
  | some event => r.handleEvent turn event.kind

end ApiRuntime

/-- What the task does next: it takes a command, or pops an event. -/
inductive ApiInput where
  | command (cmd : ApiCommand) (now : Nat)
  | drain (turn : ApiTurn)

/-- One turn of `api_client_task`. -/
def ApiRuntime.turn (r : ApiRuntime) : ApiInput → ApiRuntime × List ApiEffect
  | .command cmd now => (r.handleCommand now cmd, [])
  | .drain turn => r.drain turn

/-- The API task as a machine: its runs are the orders its turns may come in. -/
def apiClient : Machine ApiRuntime ApiInput ApiEffect := ⟨ApiRuntime.turn⟩

end AnovaOven
