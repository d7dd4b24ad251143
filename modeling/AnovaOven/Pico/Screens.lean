import AnovaOven.Pico.ApiClient
import AnovaOven.Pico.Browse
import AnovaOven.PicoCore.Views

/-!
# The pico's screens (`anova-oven-pico/src/state.rs`)

The main task: `execute` dispatches a state to its handler, the handler renders what the API task last
published and waits at its `select`, and what it returns is dispatched in turn. A step is one wake: the arm
that wakes it, and all the handlers that are gone through until one waits again. Nothing else runs in
between, as only a `select` gives way to another task, so one snapshot serves the whole of a wake.

Each reading of the clock is an argument. `execute_browse` is the one of `Pico.Browse`, here with the
snapshot the other screens read. Log lines are left out.
-/

namespace AnovaOven

/-- `STOP_CONFIRM_TIMEOUT_SECS`. -/
def stopConfirmTimeoutSecs : Nat := 5

/-- `START_STOP_CONFIRM_TIMEOUT_SECS`. -/
def startStopConfirmTimeoutSecs : Nat := 10

/-- What the backlight's controller is told: `set_full` or `set_dim`. -/
inductive BacklightCall where
  | setFull
  | setDim
  deriving Repr, DecidableEq

/-- `BacklightController::apply`: what a state asks for as it is entered. -/
def BacklightPolicy.applied : BacklightPolicy → BacklightCall
  | .full => .setFull
  | .dim => .setDim
  | .fullThenDimAfter _ => .setFull

/-- What the handlers do. -/
inductive ScreenEffect where
  | recordAppState (discriminant : Nat)
  | backlight (call : BacklightCall)
  | displayBacklight (policy : BacklightPolicy)
  | render (view : ViewSpec)
  | command (command : ApiCommand)
  deriving Repr, DecidableEq

/-- Where a handler waits, with what its loop keeps. -/
inductive Screen where
  | offline
  | upstreamStale
  | idle (snap : ScreenSnapshot) (dimAt : Nat) (dimmed : Bool)
  | cooking (optimisticRecipeTitle : Option String)
  | browse (snap : ScreenSnapshot) (index deadline : Nat)
  | startPending (recipeTitle : String) (deadline : Nat)
  | confirmStop (deadline : Nat)
  | stopPending (deadline : Nat)
  | awaitNextStage
  deriving Repr, DecidableEq

/-- How a handler gets on: it waits, returns the next state, or stops at an index out of range. -/
inductive Pass where
  | waits (screen : Screen)
  | returns (next : AppState)
  | panicked
  deriving Repr, DecidableEq

/-- A handler's part of a wake. -/
abbrev Handled := Pass × List ScreenEffect

/-! ## The loops, from their tops to their selects -/

namespace Screen

/-- `execute_upstream_stale`. -/
def upstreamStaleTop (snap : ScreenSnapshot) (now : Nat) : Handled :=
  if snap.isOffline then (.returns .offline, [])
  else match snap.upstreamStale now with
    | none => (.returns (baselineStateFor snap), [])
    | some (cause, secs) => (.waits .upstreamStale, [.render (.upstreamStale cause secs)])

/-- `execute_idle`. -/
def idleTop (dimAt : Nat) (dimmed : Bool) (snap : ScreenSnapshot) (now : Nat) : Handled :=
  if snap.isOffline then (.returns .offline, [])
  else if (snap.upstreamStale now).isSome then (.returns .upstreamStale, [])
  else if snap.isCooking then (.returns (.cooking none), [])
  else (.waits (.idle snap dimAt dimmed), [.render (idleView snap)])

/-- `execute_cooking`. -/
def cookingTop (optimisticRecipeTitle : Option String) (snap : ScreenSnapshot) (now : Nat) : Handled :=
  if snap.isOffline then (.returns .offline, [])
  else if (snap.upstreamStale now).isSome then (.returns .upstreamStale, [])
  else if !snap.isCooking then (.returns .idle, [])
  else match nextStagePrompt snap with
    | some description => (.returns (.awaitNextStage description), [])
    | none =>
      let optimisticRecipeTitle := if snap.currentCook.isSome then none else optimisticRecipeTitle
      (.waits (.cooking optimisticRecipeTitle), [.render (cookingView snap optimisticRecipeTitle)])

/-- `execute_await_next_stage`. -/
def awaitNextStageTop (snap : ScreenSnapshot) (now : Nat) : Handled :=
  if snap.isOffline then (.returns .offline, [])
  else if (snap.upstreamStale now).isSome then (.returns .upstreamStale, [])
  else if !snap.isCooking then (.returns .idle, [])
  else if (nextStagePrompt snap).isNone then (.returns (.cooking none), [])
  else (.waits .awaitNextStage, [.render (.nextStagePrompt (activeRecipeTitle snap))])

/-- `execute_browse`. -/
def browseTop (index deadline : Nat) (snap : ScreenSnapshot) : Handled :=
  if snap.isOffline then (.returns .offline, [])
  else if snap.isCooking then (.returns (.cooking none), [])
  else if snap.recipes.isEmpty then (.returns .idle, [])
  else
    let index := min index (snap.recipes.length - 1)
    match recipeBrowserView snap.recipes index with
    | none => (.panicked, [])
    | some browser => (.waits (.browse snap index deadline), [.render (.recipeBrowser browser)])

/-- `execute_confirm_stop`. -/
def confirmStopTop (deadline : Nat) (snap : ScreenSnapshot) : Handled :=
  if snap.isOffline then (.returns .offline, [])
  else if !snap.isCooking then (.returns .idle, [])
  else (.waits (.confirmStop deadline), [.render (.stopConfirmation snap.status snap.currentCook)])

/-- When the idle screen dims, from a touch or from when it is entered. -/
def dimAtAfter (now : Nat) : Nat := now + AppState.idle.idleDimDelay

/-- When the browser is left, from a touch or from when it is entered. -/
def menuDeadline (now : Nat) : Nat := now + ticksOfSecs menuInactivityTimeoutSecs

/-- When the question whether to stop is taken back. -/
def confirmDeadline (now : Nat) : Nat := now + ticksOfSecs stopConfirmTimeoutSecs

/-- When a start or a stop that the server doesn't confirm is given up. -/
def pendingDeadline (since : Nat) : Nat := since + ticksOfSecs startStopConfirmTimeoutSecs

end Screen

namespace AppState

/-- A handler, up to where it first waits or returns. It may read the clock for a deadline, at `start`, and
at `now` for what is stale. -/
def handler (snap : ScreenSnapshot) (start now : Nat) : AppState → Handled
  | .offline => (.waits .offline, [.render .serverOffline])
  | .upstreamStale => Screen.upstreamStaleTop snap now
  | .idle => Screen.idleTop (Screen.dimAtAfter start) false snap now
  | .cooking optimisticRecipeTitle => Screen.cookingTop optimisticRecipeTitle snap now
  | .browseRecipes index => Screen.browseTop index (Screen.menuDeadline start) snap
  | .startPending recipeTitle recipeId since =>
    (.waits (.startPending recipeTitle (Screen.pendingDeadline since)),
      [.command (.start recipeId), .render (.startingCook recipeTitle)])
  | .confirmStop => Screen.confirmStopTop (Screen.confirmDeadline start) snap
  | .stopPending since =>
    (.waits (.stopPending (Screen.pendingDeadline since)),
      [.command .stop, .render (optimisticIdleView snap)])
  | .awaitNextStage _ => Screen.awaitNextStageTop snap now

/-- What `execute` does before its handler. -/
def onEntry (state : AppState) : List ScreenEffect :=
  [.recordAppState state.discriminant, .backlight state.backlightPolicy.applied,
    .displayBacklight state.backlightPolicy]

/-- `execute`. -/
def execute (snap : ScreenSnapshot) (start now : Nat) (state : AppState) : Handled :=
  let (pass, effects) := state.handler snap start now
  (pass, state.onEntry ++ effects)

end AppState

/-! ## The main loop -/

/-- Where the main task is: before its loop, at a handler's `select`, stopped, or still going from handler
to handler. -/
inductive Front where
  | booting
  | waits (screen : Screen)
  | panicked
  | spinning
  deriving Repr, DecidableEq

/-- So many handlers one wake goes through at most. -/
def maxPasses : Nat := 4

/-- Readings of the clock, without the first two. -/
def later (clock : Nat → Nat) : Nat → Nat := fun i => clock (i + 2)

/-- `main`'s loop from a state until a handler waits. -/
def settle (snap : ScreenSnapshot) : Nat → (Nat → Nat) → AppState → Front × List ScreenEffect
  | 0, _, _ => (.spinning, [])
  | passes + 1, clock, state =>
    match state.execute snap (clock 0) (clock 1) with
    | (.waits screen, effects) => (.waits screen, effects)
    | (.panicked, effects) => (.panicked, effects)
    | (.returns next, effects) =>
      let (front, more) := settle snap passes (later clock) next
      (front, effects ++ more)

/-- The rest of a wake, after the arm that woke it. -/
def resume (snap : ScreenSnapshot) (clock : Nat → Nat) : Handled → Front × List ScreenEffect
  | (.waits screen, effects) => (.waits screen, effects)
  | (.panicked, effects) => (.panicked, effects)
  | (.returns next, effects) =>
    let (front, more) := settle snap maxPasses (later clock) next
    (front, effects ++ more)

/-! ## The arms of the selects -/

namespace Screen

/-- A touch of the idle screen. -/
def brighten : List ScreenEffect := [.backlight .setFull, .displayBacklight .full]

/-- An arm that does something before the loop goes on. -/
def doing (effects : List ScreenEffect) (handled : Handled) : Handled :=
  (handled.1, effects ++ handled.2)

/-- An event that is taken from the input channel, at each `select`. -/
def onEvent (published : ScreenSnapshot) (event : InputEvent) (clock : Nat → Nat) : Screen → Handled
  | .offline => (.waits .offline, [])
  | .upstreamStale => upstreamStaleTop published (clock 1)
  | .idle snap _ _ =>
    if event = .encoderCw && !snap.recipes.isEmpty then (.returns (.browseRecipes 0), brighten)
    else doing brighten (idleTop (dimAtAfter (clock 0)) false published (clock 1))
  | .cooking optimisticRecipeTitle =>
    if event = .encoderCcw then (.returns .confirmStop, [])
    else cookingTop optimisticRecipeTitle published (clock 1)
  | .awaitNextStage =>
    match event with
    | .encoderCcw => (.returns .confirmStop, [])
    | .encoderButton => doing [.command .nextStage] (awaitNextStageTop published (clock 1))
    | .encoderCw => awaitNextStageTop published (clock 1)
  | .browse snap index deadline =>
    match event with
    | .encoderCw => browseTop (min (index + 1) (snap.recipes.length - 1)) (menuDeadline (clock 0)) published
    | .encoderCcw =>
      if index = 0 then (.returns .idle, [])
      else browseTop (index - 1) (menuDeadline (clock 0)) published
    | .encoderButton =>
      match snap.recipes[index]? with
      | some recipe => (.returns (.startPending recipe.title recipe.id (clock 0)), [])
      | none => browseTop index deadline published
  | .startPending recipeTitle deadline => (.waits (.startPending recipeTitle deadline), [])
  | .confirmStop _ =>
    match event with
    | .encoderButton => (.returns (.stopPending (clock 0)), [])
    | .encoderCw => (.returns (.cooking none), [])
    | .encoderCcw => confirmStopTop (confirmDeadline (clock 0)) published
  | .stopPending deadline => (.waits (.stopPending deadline), [])

/-- Something new was published, at each `select`. -/
def onChanged (published : ScreenSnapshot) (clock : Nat → Nat) : Screen → Handled
  | .offline =>
    if !published.isOffline then (.returns (baselineStateFor published), []) else (.waits .offline, [])
  | .upstreamStale => upstreamStaleTop published (clock 1)
  | .idle _ dimAt dimmed => idleTop dimAt dimmed published (clock 1)
  | .cooking optimisticRecipeTitle => cookingTop optimisticRecipeTitle published (clock 1)
  | .awaitNextStage => awaitNextStageTop published (clock 1)
  | .browse _ index deadline => browseTop index deadline published
  | .startPending recipeTitle deadline =>
    if published.isOffline then (.returns .offline, [])
    else if published.isCooking then (.returns (.cooking (some recipeTitle)), [])
    else (.waits (.startPending recipeTitle deadline), [])
  | .confirmStop deadline => confirmStopTop deadline published
  | .stopPending deadline =>
    if published.isOffline then (.returns .offline, [])
    else if !published.isCooking then (.returns .idle, [])
    else (.waits (.stopPending deadline), [])

/-- The timer a `select` waits for, where it waits for one. -/
def timer : Screen → Option Nat
  | .idle _ dimAt false => some dimAt
  | .browse _ _ deadline => some deadline
  | .startPending _ deadline => some deadline
  | .confirmStop deadline => some deadline
  | .stopPending deadline => some deadline
  | _ => none

/-- The timer's arm. -/
def onTimer (published : ScreenSnapshot) (clock : Nat → Nat) : Screen → Handled
  | .idle _ dimAt _ =>
    doing [.backlight .setDim, .displayBacklight .dim] (idleTop dimAt true published (clock 1))
  | .browse _ _ _ => (.returns .idle, [])
  | .startPending _ _ => (.returns .idle, [])
  | .confirmStop _ => (.returns (.cooking none), [])
  | .stopPending _ => (.returns (.cooking none), [])
  | screen => (.waits screen, [])

end Screen

/-! ## The machine -/

/-- The main task, what the API task last published, and whether the task has yet to notice it. -/
structure Screens where
  published : ScreenSnapshot
  unseen : Bool
  front : Front
  deriving Repr, DecidableEq

/-- What happens: the main loop begins, something is published, or the `select` is woken, by an event, by
something new or by its timer. What is published is noticed once. -/
inductive ScreenInput where
  | boot (clock : Nat → Nat)
  | publish (snapshot : ScreenSnapshot)
  | event (event : InputEvent) (clock : Nat → Nat)
  | apiChanged (clock : Nat → Nat)
  | timeout (clock : Nat → Nat)

namespace Screens

/-- Before the main loop, and before anything was published. -/
def start : Screens := ⟨.empty, false, .booting⟩

/-- A wake of the handler that waits, with what is left to notice of what is published. -/
def woken (s : Screens) (clock : Nat → Nat) (unseen : Bool) (handled : Handled) :
    Screens × List ScreenEffect :=
  let (front, effects) := resume s.published clock handled
  (⟨s.published, unseen, front⟩, effects)

/-- One step. -/
def step (s : Screens) (input : ScreenInput) : Screens × List ScreenEffect :=
  match s.front, input with
  | _, .publish snapshot => (⟨snapshot, true, s.front⟩, [])
  | .booting, .boot clock => s.woken clock s.unseen (.returns .idle, [])
  | .waits screen, .event event clock => s.woken clock s.unseen (screen.onEvent s.published event clock)
  | .waits screen, .apiChanged clock =>
    if s.unseen then s.woken clock false (screen.onChanged s.published clock) else (s, [])
  | .waits screen, .timeout clock =>
    if screen.timer.any fun deadline => deadline ≤ clock 0 then
      s.woken clock s.unseen (screen.onTimer s.published clock)
    else (s, [])
  | _, _ => (s, [])

end Screens

/-- The main task as a machine. -/
def screens : Machine Screens ScreenInput ScreenEffect := ⟨Screens.step⟩

end AnovaOven
