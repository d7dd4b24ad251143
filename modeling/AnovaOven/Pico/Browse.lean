import AnovaOven.PicoCore.Fsm
import AnovaOven.PicoCore.Scheduler

/-!
# Browsing recipes (`anova-oven-pico/src/state.rs`)

The handler of the browser's screen, `execute_browse`: a loop that takes what the API task last published,
renders the recipe at its index, and waits for the knob, for something new or for its deadline. While it
waits anything may be published. The other screens' handlers are left out, but for what
`execute_start_pending` does first.
-/

namespace AnovaOven

/-- `MENU_INACTIVITY_TIMEOUT_SECS`. -/
def menuInactivityTimeoutSecs : Nat := 15

/-- `InputEvent`. -/
inductive InputEvent where
  | encoderCw
  | encoderCcw
  | encoderButton
  deriving Repr, DecidableEq

/-- A recipe that is rendered: `recipe_browser_view` is given the list and the index. -/
structure ShownRecipe where
  recipes : List Recipe
  index : Nat
  deriving Repr, DecidableEq

/-- What it looks like. -/
def ShownRecipe.view (shown : ShownRecipe) : Option BrowserView := recipeBrowserView shown.recipes shown.index

/-- What the handlers ask for: a view to render, or a recipe to start. -/
inductive BrowseEffect where
  | render (shown : ShownRecipe)
  | start (recipeId : String)
  | renderStarting (recipeTitle : String)
  deriving Repr, DecidableEq

/-- Where `execute_browse` is: at its `select3`, with the snapshot it took, its index and its deadline, or
back, or stopped by an index out of range. -/
inductive Browsing where
  | waiting (snap : ApiSnapshot) (index deadline : Nat)
  | returned (next : AppState)
  | panicked
  deriving Repr, DecidableEq

/-- What the next state's handler does first: `execute_start_pending` starts its recipe. -/
def AppState.entered : AppState → List BrowseEffect
  | .startPending recipeTitle recipeId _ => [.start recipeId, .renderStarting recipeTitle]
  | _ => []

namespace Browsing

/-- The handler returns. -/
def leave (next : AppState) : Browsing × List BrowseEffect := (.returned next, next.entered)

/-- The loop from its top, with what `snapshot` gives, to the `select3`. -/
def top (snap : ApiSnapshot) (index deadline : Nat) : Browsing × List BrowseEffect :=
  if snap.isOffline then leave .offline
  else if snap.isCooking then leave (.cooking none)
  else if snap.recipes.isEmpty then leave .idle
  else
    let index := min index (snap.recipes.length - 1)
    match recipeBrowserView snap.recipes index with
    | none => (.panicked, [])
    | some _ => (.waiting snap index deadline, [.render ⟨snap.recipes, index⟩])

/-- The deadline that an event moves. -/
def deadlineAfter (now : Nat) : Nat := now + ticksOfSecs menuInactivityTimeoutSecs

/-- The arms of the `select3` for an event: what is published then is what the loop takes next. -/
def onEvent (published snap : ApiSnapshot) (index deadline now : Nat) :
    InputEvent → Browsing × List BrowseEffect
  | .encoderCw => top published (min (index + 1) (snap.recipes.length - 1)) (deadlineAfter now)
  | .encoderCcw => if index = 0 then leave .idle else top published (index - 1) (deadlineAfter now)
  | .encoderButton =>
    match snap.recipes[index]? with
    | some recipe => leave (.startPending recipe.title recipe.id now)
    | none => top published index deadline

end Browsing

/-- The handler, and what the API task last published. -/
structure Browser where
  published : ApiSnapshot
  loop : Browsing
  deriving Repr, DecidableEq

/-- What happens: the browser is opened at an index, something is published, or the `select3` is woken, by an
event that it takes from its channel, by something new or by the time. -/
inductive BrowseInput where
  | execute (index now : Nat)
  | publish (snapshot : ApiSnapshot)
  | event (event : InputEvent) (now : Nat)
  | apiChanged
  | timeout (now : Nat)
  deriving Repr, DecidableEq

namespace Browser

/-- `execute_browse`, up to where it waits or returns. -/
def handle (b : Browser) : BrowseInput → Browsing × List BrowseEffect
  | .publish _ => (b.loop, [])
  | .execute index now =>
    match b.loop with
    | .returned _ => Browsing.top b.published index (Browsing.deadlineAfter now)
    | _ => (b.loop, [])
  | .event event now =>
    match b.loop with
    | .waiting snap index deadline => Browsing.onEvent b.published snap index deadline now event
    | _ => (b.loop, [])
  | .apiChanged =>
    match b.loop with
    | .waiting _ index deadline => Browsing.top b.published index deadline
    | _ => (b.loop, [])
  | .timeout now =>
    match b.loop with
    | .waiting _ _ deadline => if deadline ≤ now then Browsing.leave .idle else (b.loop, [])
    | _ => (b.loop, [])

/-- What is published after an input. -/
def publishes (b : Browser) : BrowseInput → ApiSnapshot
  | .publish snapshot => snapshot
  | _ => b.published

end Browser

/-- Browsing as a machine. -/
def browser : Machine Browser BrowseInput BrowseEffect where
  step b input :=
    let (loop, effects) := b.handle input
    (⟨b.publishes input, loop⟩, effects)

/-- Before anything was published. -/
def Browser.start : Browser := ⟨.empty, .returned .idle⟩

end AnovaOven
