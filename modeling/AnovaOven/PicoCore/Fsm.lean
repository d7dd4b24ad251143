import AnovaOven.Api
import AnovaOven.Lib.Machine

/-!
# The pico's snapshot (`anova-oven-pico-core/src/fsm.rs`)

What the API task knows of the server, the two ways a status reaches it, and what the screens make of it:
their states, and the view of a recipe that is browsed. The other views are left out.
-/

namespace AnovaOven

/-- `ApiSnapshot`. Instants are ticks since boot. -/
structure ApiSnapshot where
  status : Option OvenStatus
  currentCook : Option CurrentCook
  recipes : List Recipe
  failCount : Nat
  lastSuccessAt : Option Nat
  timerAnchor : Option Nat
  ovenMissingSince : Option Nat
  deriving Repr, DecidableEq

namespace ApiSnapshot

/-- `ApiSnapshot::default`. -/
def empty : ApiSnapshot := ⟨none, none, [], 0, none, none, none⟩

/-- Two statuses with one timer reading. -/
def sameTimer (prev status : OvenStatus) : Bool :=
  prev.timerMode = status.timerMode && prev.timerCurrentSecs = status.timerCurrentSecs &&
    prev.timerTotalSecs = status.timerTotalSecs

/-- `ApiSnapshot::install_status`: the anchor moves with the timer's reading. -/
def installStatus (s : ApiSnapshot) (status : OvenStatus) (now : Nat) : ApiSnapshot :=
  let moved := s.timerAnchor.isNone || !(s.status.any fun prev => sameTimer prev status)
  { s with
    timerAnchor := if moved then some now else s.timerAnchor
    status := some status
    ovenMissingSince := none }

/-- `ApiSnapshot::mark_oven_missing`. -/
def markOvenMissing (s : ApiSnapshot) (now : Nat) : ApiSnapshot :=
  { s with
    status := none
    timerAnchor := none
    ovenMissingSince := some (s.ovenMissingSince.getD now) }

/-- `OFFLINE_THRESHOLD`. -/
def offlineThreshold : Nat := 3

/-- `ApiSnapshot::is_offline`. -/
def isOffline (s : ApiSnapshot) : Bool := s.failCount ≥ offlineThreshold

/-- `ApiSnapshot::is_cooking`. -/
def isCooking (s : ApiSnapshot) : Bool := s.currentCook.isSome || s.status.any OvenStatus.isCooking

end ApiSnapshot

/-- What an answer to `GET /status` does to the snapshot: a status, or the word that the server has none. -/
inductive SnapshotCall where
  | install (status : OvenStatus) (now : Nat)
  | missing (now : Nat)

/-- The snapshot as a machine of its calls, which says nothing. -/
def snapshots : Machine ApiSnapshot SnapshotCall Empty where
  step s
    | .install status now => (s.installStatus status now, [])
    | .missing now => (s.markOvenMissing now, [])

/-- `AppState`. -/
inductive AppState where
  | offline
  | upstreamStale
  | idle
  | cooking (optimisticRecipeTitle : Option String)
  | browseRecipes (index : Nat)
  | startPending (recipeTitle recipeId : String) (since : Nat)
  | confirmStop
  | stopPending (since : Nat)
  | awaitNextStage (nextDescription : String)
  deriving Repr, DecidableEq

/-- `ViewSpec::RecipeBrowser`. -/
structure BrowserView where
  source : RecipeSource
  count : Nat
  index : Nat
  title : String
  deriving Repr, DecidableEq

/-- `recipe_browser_view`. It panics where there is no recipe at the index, which is `none` here. -/
def recipeBrowserView (recipes : List Recipe) (index : Nat) : Option BrowserView :=
  recipes[index]?.map fun recipe =>
    { source := recipe.source
      count := (recipes.filter fun r => r.source = recipe.source).length
      index := ((recipes.take index).filter fun r => r.source = recipe.source).length
      title := recipe.title }

end AnovaOven
