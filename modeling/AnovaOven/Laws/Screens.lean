import AnovaOven.Pico.Screens
import Mathlib.Order.Monotone.Basic

/-!
# Laws of the pico's screens

Each handler's loop looks at the snapshot from its top, and there it leaves for another screen or renders and
waits (`Topped`). What a screen that waits has rendered (`Shows`) and what it takes the snapshot to be
(`Fits`) are read off that, and kept by every wake (`Knows.step`). A view is taken with the snapshot it was
rendered of and with the time of that look (`Rendering`).

**Seen is shown** (`seen_fits`): while nothing that was published is left to notice, the view rendered last is
the one that the screen's handler renders for it, and the snapshot passes the guards of that screen.
**Commands are pressed for** (`command_asked`): a command is sent by a press only, at a view that asks for
it. **A stop is asked for twice** (`stop_confirmed`).
-/

namespace AnovaOven

/-! ## What a screen takes the snapshot to be -/

/-- A view as it is rendered: the snapshot it is a view of, and the clock's reading at that look. -/
structure Rendering where
  view : ViewSpec
  taken : ScreenSnapshot
  now : Nat

/-- **A screen fits a snapshot** that passes the guards of its handler, with what was rendered for it. A guard
that reads the clock is passed as the clock was read for the view. The views of what is pending are of the
snapshot they were rendered of, and the others are of this one. -/
inductive Fits (snap : ScreenSnapshot) : Screen → Rendering → Prop
  | offline (taken : ScreenSnapshot) (now : Nat) (down : snap.isOffline = true) :
    Fits snap .offline ⟨.serverOffline, taken, now⟩
  | upstreamStale {now secs : Nat} {cause : StaleCause} (up : snap.isOffline = false)
    (stale : snap.upstreamStale now = some (cause, secs)) :
    Fits snap .upstreamStale ⟨.upstreamStale cause secs, snap, now⟩
  | idle {now dimAt : Nat} {dimmed : Bool} (up : snap.isOffline = false)
    (fresh : snap.upstreamStale now = none) (resting : snap.isCooking = false) :
    Fits snap (.idle snap dimAt dimmed) ⟨idleView snap, snap, now⟩
  | cooking {now : Nat} {title : Option String} (up : snap.isOffline = false)
    (fresh : snap.upstreamStale now = none) (cooks : snap.isCooking = true)
    (going : nextStagePrompt snap = none) : Fits snap (.cooking title) ⟨cookingView snap title, snap, now⟩
  | browse {now index deadline : Nat} {browser : BrowserView} (up : snap.isOffline = false)
    (resting : snap.isCooking = false) (item : recipeBrowserView snap.recipes index = some browser) :
    Fits snap (.browse snap index deadline) ⟨.recipeBrowser browser, snap, now⟩
  | startPending {title : String} {deadline : Nat} (taken : ScreenSnapshot) (now : Nat)
    (up : snap.isOffline = false) (resting : snap.isCooking = false) :
    Fits snap (.startPending title deadline) ⟨.startingCook title, taken, now⟩
  | confirmStop {now deadline : Nat} (up : snap.isOffline = false) (cooks : snap.isCooking = true) :
    Fits snap (.confirmStop deadline) ⟨.stopConfirmation snap.status snap.currentCook, snap, now⟩
  | stopPending {deadline : Nat} (taken : ScreenSnapshot) (now : Nat) (up : snap.isOffline = false)
    (cooks : snap.isCooking = true) :
    Fits snap (.stopPending deadline) ⟨optimisticIdleView taken, taken, now⟩
  | awaitNextStage {now : Nat} {description : String} (up : snap.isOffline = false)
    (fresh : snap.upstreamStale now = none) (cooks : snap.isCooking = true)
    (prompts : nextStagePrompt snap = some description) :
    Fits snap .awaitNextStage ⟨.nextStagePrompt (activeRecipeTitle snap), snap, now⟩

/-- **What a screen shows**, whatever has been published since. -/
inductive Shows : Screen → Rendering → Prop
  | offline (taken : ScreenSnapshot) (now : Nat) : Shows .offline ⟨.serverOffline, taken, now⟩
  | upstreamStale (cause : StaleCause) (secs : Nat) (taken : ScreenSnapshot) (now : Nat) :
    Shows .upstreamStale ⟨.upstreamStale cause secs, taken, now⟩
  | idle (dimAt : Nat) (dimmed : Bool) (taken : ScreenSnapshot) (now : Nat) :
    Shows (.idle taken dimAt dimmed) ⟨idleView taken, taken, now⟩
  | cooking (title : Option String) (taken : ScreenSnapshot) (now : Nat) :
    Shows (.cooking title) ⟨cookingView taken title, taken, now⟩
  | browse {taken : ScreenSnapshot} {index : Nat} {browser : BrowserView} (deadline now : Nat)
    (item : recipeBrowserView taken.recipes index = some browser) :
    Shows (.browse taken index deadline) ⟨.recipeBrowser browser, taken, now⟩
  | startPending (title : String) (deadline : Nat) (taken : ScreenSnapshot) (now : Nat) :
    Shows (.startPending title deadline) ⟨.startingCook title, taken, now⟩
  | confirmStop (deadline : Nat) (taken : ScreenSnapshot) (now : Nat) :
    Shows (.confirmStop deadline) ⟨.stopConfirmation taken.status taken.currentCook, taken, now⟩
  | stopPending (deadline : Nat) (taken : ScreenSnapshot) (now : Nat) :
    Shows (.stopPending deadline) ⟨optimisticIdleView taken, taken, now⟩
  | awaitNextStage (taken : ScreenSnapshot) (now : Nat) :
    Shows .awaitNextStage ⟨.nextStagePrompt (activeRecipeTitle taken), taken, now⟩

theorem Fits.shows {snap : ScreenSnapshot} {screen : Screen} {last : Rendering} (fits : Fits snap screen last) :
    Shows screen last := by
  cases fits with
  | offline taken now => exact .offline taken now
  | upstreamStale => exact .upstreamStale _ _ _ _
  | idle => exact .idle _ _ _ _
  | cooking => exact .cooking _ _ _
  | browse _ _ item => exact .browse _ _ item
  | startPending taken now => exact .startPending _ _ taken now
  | confirmStop => exact .confirmStop _ _ _
  | stopPending taken now => exact .stopPending _ taken now
  | awaitNextStage => exact .awaitNextStage _ _

/-- A question whether to stop is asked of a cook. -/
theorem Fits.cooks {snap : ScreenSnapshot} {deadline : Nat} {last : Rendering}
    (fits : Fits snap (.confirmStop deadline) last) : snap.isOffline = false ∧ snap.isCooking = true := by
  cases fits with
  | confirmStop up cooks => exact ⟨up, cooks⟩

/-- The state a screen is of, by its discriminant. -/
def Screen.discriminant : Screen → Nat
  | .offline => 1
  | .idle _ _ _ => 2
  | .cooking _ => 3
  | .browse _ _ _ => 4
  | .startPending _ _ => 5
  | .confirmStop _ => 6
  | .stopPending _ => 7
  | .awaitNextStage => 8
  | .upstreamStale => 9

/-! ## The tops of the loops -/

/-- The states that the top of a loop leaves for. -/
inductive AppState.Base (snap : ScreenSnapshot) : AppState → Prop
  | offline (down : snap.isOffline = true) : Base snap .offline
  | upstreamStale : Base snap .upstreamStale
  | idle : Base snap .idle
  | cooking : Base snap (.cooking none)
  | awaitNextStage (description : String) : Base snap (.awaitNextStage description)

/-- **The top of a loop** leaves for another screen without a word, or renders what it waits at, by one reading
of the clock. The screen it may wait at is told by its discriminant. -/
inductive Topped (snap : ScreenSnapshot) (now of : Nat) : Handled → Prop
  | leaves {next : AppState} (base : next.Base snap) : Topped snap now of (.returns next, [])
  | renders {screen : Screen} {view : ViewSpec} (fits : Fits snap screen ⟨view, snap, now⟩)
    (own : screen.discriminant = of) : Topped snap now of (.waits screen, [.render view])

section Tops

variable (snap : ScreenSnapshot) (now : Nat)

theorem base_baseline : (baselineStateFor snap).Base snap := by
  unfold baselineStateFor
  split
  · exact .cooking
  · exact .idle

theorem upstreamStaleTop_topped : Topped snap now 9 (Screen.upstreamStaleTop snap now) := by
  unfold Screen.upstreamStaleTop
  split
  case isTrue down => exact .leaves (.offline down)
  case isFalse up =>
    split
    case h_1 => exact .leaves (base_baseline snap)
    case h_2 stale => exact .renders (.upstreamStale (Bool.eq_false_iff.mpr up) stale) rfl

theorem idleTop_topped (dimAt : Nat) (dimmed : Bool) :
    Topped snap now 2 (Screen.idleTop dimAt dimmed snap now) := by
  unfold Screen.idleTop
  split_ifs with down stale cooks
  · exact .leaves (.offline down)
  · exact .leaves .upstreamStale
  · exact .leaves .cooking
  · have fresh : snap.upstreamStale now = none := Option.not_isSome_iff_eq_none.mp stale
    exact .renders (.idle (Bool.eq_false_iff.mpr down) fresh (Bool.eq_false_iff.mpr cooks)) rfl

theorem cookingTop_topped (title : Option String) : Topped snap now 3 (Screen.cookingTop title snap now) := by
  unfold Screen.cookingTop
  by_cases down : snap.isOffline = true
  · rw [if_pos down]
    exact .leaves (.offline down)
  rw [if_neg down]
  split
  case isTrue stale => exact .leaves .upstreamStale
  case isFalse fresh =>
    split
    case isTrue rests => exact .leaves .idle
    case isFalse busy =>
      have cooks : snap.isCooking = true := by simpa using busy
      have fresh : snap.upstreamStale now = none := Option.not_isSome_iff_eq_none.mp fresh
      split
      case h_1 description _ => exact .leaves (.awaitNextStage description)
      case h_2 going => exact .renders (.cooking (Bool.eq_false_iff.mpr down) fresh cooks going) rfl

theorem awaitNextStageTop_topped : Topped snap now 8 (Screen.awaitNextStageTop snap now) := by
  unfold Screen.awaitNextStageTop
  split_ifs with down stale rests silent
  · exact .leaves (.offline down)
  · exact .leaves .upstreamStale
  · exact .leaves .idle
  · exact .leaves .cooking
  · have cooks : snap.isCooking = true := by simpa using rests
    have asks : nextStagePrompt snap ≠ none := by simpa using silent
    have fresh : snap.upstreamStale now = none := Option.not_isSome_iff_eq_none.mp stale
    obtain ⟨description, prompts⟩ := Option.ne_none_iff_exists'.mp asks
    exact .renders (.awaitNextStage (Bool.eq_false_iff.mpr down) fresh cooks prompts) rfl

/-- There is a recipe to view at an index in range. -/
theorem recipeBrowserView_inside {recipes : List Recipe} {index : Nat} (inside : index < recipes.length) :
    ∃ browser, recipeBrowserView recipes index = some browser := by
  unfold recipeBrowserView
  rw [List.getElem?_eq_getElem inside]
  exact ⟨_, rfl⟩

theorem browseTop_topped (index deadline : Nat) : Topped snap now 4 (Screen.browseTop index deadline snap) := by
  unfold Screen.browseTop
  split_ifs with down cooks empty
  · exact .leaves (.offline down)
  · exact .leaves .cooking
  · exact .leaves .idle
  · have some : 0 < snap.recipes.length :=
      List.length_pos_of_ne_nil fun none => empty (List.isEmpty_iff.mpr none)
    have inside : min index (snap.recipes.length - 1) < snap.recipes.length := by omega
    obtain ⟨browser, item⟩ := recipeBrowserView_inside inside
    simp only [item]
    exact .renders (.browse (Bool.eq_false_iff.mpr down) (Bool.eq_false_iff.mpr cooks) item) rfl

theorem confirmStopTop_topped (deadline : Nat) : Topped snap now 6 (Screen.confirmStopTop deadline snap) := by
  unfold Screen.confirmStopTop
  split_ifs with down rests
  · exact .leaves (.offline down)
  · exact .leaves .idle
  · have cooks : snap.isCooking = true := by simpa using rests
    exact .renders (.confirmStop (Bool.eq_false_iff.mpr down) cooks) rfl

end Tops

/-! ## Handlers -/

/-- The view of an effect that renders one. -/
def ScreenEffect.view : ScreenEffect → Option ViewSpec
  | .render view => some view
  | _ => none

/-- The view rendered last. -/
def lastView (effects : List ScreenEffect) : Option ViewSpec := (effects.filterMap ScreenEffect.view).getLast?

theorem lastView_append (said effects : List ScreenEffect) :
    lastView (said ++ effects) = (lastView effects).or (lastView said) := by
  unfold lastView
  rw [List.filterMap_append, List.getLast?_append]

theorem lastView_of_said {said effects : List ScreenEffect} {view : ViewSpec}
    (rendered : lastView effects = some view) : lastView (said ++ effects) = some view := by
  rw [lastView_append, rendered, Option.some_or]

/-- A state whose handler fits the snapshot from where it first waits. Most look at it themselves. -/
def AppState.Enters (snap : ScreenSnapshot) : AppState → Prop
  | .offline => snap.isOffline = true
  | .startPending _ _ _ => snap.isOffline = false ∧ snap.isCooking = false
  | .stopPending _ => snap.isOffline = false ∧ snap.isCooking = true
  | _ => True

theorem AppState.Base.enters {snap : ScreenSnapshot} {state : AppState} (base : state.Base snap) :
    state.Enters snap := by
  cases base with
  | offline down => exact down
  | _ => trivial

/-- A state whose handler looks at the snapshot before it waits. -/
def AppState.Looks : AppState → Prop
  | .offline | .startPending _ _ _ | .stopPending _ => False
  | _ => True

theorem handler_topped (snap : ScreenSnapshot) (start now : Nat) {state : AppState} (looks : state.Looks) :
    Topped snap now state.discriminant (state.handler snap start now) := by
  cases state with
  | offline | startPending | stopPending => exact looks.elim
  | upstreamStale => exact upstreamStaleTop_topped snap now
  | idle => exact idleTop_topped snap now _ _
  | cooking title => exact cookingTop_topped snap now title
  | browseRecipes index => exact browseTop_topped snap now index _
  | confirmStop => exact confirmStopTop_topped snap now _
  | awaitNextStage description => exact awaitNextStageTop_topped snap now

/-- **A handler** leaves for another screen without a view, or waits at its own and shows it. -/
inductive Passed (snap : ScreenSnapshot) (now : Nat) (state : AppState) : Handled → Prop
  | leaves {next : AppState} {effects : List ScreenEffect} (base : next.Base snap)
    (silent : lastView effects = none) : Passed snap now state (.returns next, effects)
  | waits {screen : Screen} {effects : List ScreenEffect} {view : ViewSpec}
    (own : screen.discriminant = state.discriminant) (rendered : lastView effects = some view)
    (shows : Shows screen ⟨view, snap, now⟩) (fits : state.Enters snap → Fits snap screen ⟨view, snap, now⟩) :
    Passed snap now state (.waits screen, effects)

theorem Topped.passed {snap : ScreenSnapshot} {now : Nat} {state : AppState} {handled : Handled}
    (topped : Topped snap now state.discriminant handled) :
    Passed snap now state (handled.1, state.onEntry ++ handled.2) := by
  cases topped with
  | leaves base => exact .leaves base (by rw [List.append_nil]; rfl)
  | renders fits own => exact .waits own (lastView_of_said rfl) fits.shows fun _ => fits

theorem execute_passed (snap : ScreenSnapshot) (start now : Nat) (state : AppState) :
    Passed snap now state (state.execute snap start now) := by
  cases state with
  | offline => exact .waits rfl rfl (.offline snap now) fun down => .offline snap now down
  | startPending title id since =>
    exact .waits rfl rfl (.startPending _ _ snap now) fun ⟨up, resting⟩ => .startPending snap now up resting
  | stopPending since =>
    exact .waits rfl rfl (.stopPending _ snap now) fun ⟨up, cooks⟩ => .stopPending snap now up cooks
  | _ => exact (handler_topped snap start now (by trivial)).passed

/-- **From a state to a screen**: wherever the handlers come to wait, the screen shows what was rendered
last, by one of the clock's readings. -/
theorem settle_shows {snap : ScreenSnapshot} {passes : Nat} {clock : Nat → Nat} {state : AppState}
    {screen : Screen} (waits : (settle snap passes clock state).1 = .waits screen) :
    ∃ view i, lastView (settle snap passes clock state).2 = some view ∧
      Shows screen ⟨view, snap, clock i⟩ ∧
      (state.Enters snap → Fits snap screen ⟨view, snap, clock i⟩) := by
  induction passes generalizing clock state with
  | zero => cases waits
  | succ passes ih =>
    have passed := execute_passed snap (clock 0) (clock 1) state
    unfold settle at waits ⊢
    cases pass : state.execute snap (clock 0) (clock 1) with
    | mk handled effects =>
      rw [pass] at passed waits
      cases passed with
      | leaves base silent =>
        obtain ⟨view, i, rendered, shows, fits⟩ := ih waits
        exact ⟨view, i + 2, lastView_of_said rendered, shows, fun _ => fits base.enters⟩
      | waits own rendered shows fits =>
        cases waits
        exact ⟨_, 1, rendered, shows, fits⟩

/-- The state that the handlers come to wait at is the one they are entered at, or one that a loop left for. -/
theorem settle_lands {snap : ScreenSnapshot} {passes : Nat} {clock : Nat → Nat} {state : AppState}
    {screen : Screen} (waits : (settle snap passes clock state).1 = .waits screen) :
    ∃ landed : AppState, (landed = state ∨ landed.Base snap) ∧ screen.discriminant = landed.discriminant := by
  induction passes generalizing clock state with
  | zero => cases waits
  | succ passes ih =>
    have passed := execute_passed snap (clock 0) (clock 1) state
    unfold settle at waits
    cases pass : state.execute snap (clock 0) (clock 1) with
    | mk handled effects =>
      rw [pass] at passed waits
      cases passed with
      | @leaves next _ base silent =>
        obtain ⟨landed, from', at'⟩ := ih waits
        refine ⟨landed, .inr ?_, at'⟩
        rcases from' with rfl | base'
        · exact base
        · exact base'
      | waits own =>
        cases waits
        exact ⟨state, .inl rfl, own⟩

/-! ## Wakes -/

/-- **The arm of a wake** at a screen with what it rendered: it waits on, goes round its loop, or returns.
Whether the snapshot must fit is a parameter. -/
inductive Arm (snap : ScreenSnapshot) (clock : Nat → Nat) (screen : Screen) (last : Rendering) (fit : Prop) :
    Handled → Prop
  | stays (fits : fit → Fits snap screen last) : Arm snap clock screen last fit (.waits screen, [])
  | tops {effects : List ScreenEffect} {handled : Handled} (i : Nat) (silent : lastView effects = none)
    (topped : Topped snap (clock i) screen.discriminant handled) :
    Arm snap clock screen last fit (Screen.doing effects handled)
  | leaves {next : AppState} {effects : List ScreenEffect} (silent : lastView effects = none)
    (enters : fit → next.Enters snap) : Arm snap clock screen last fit (.returns next, effects)

section Arms

variable {snap : ScreenSnapshot} {clock : Nat → Nat} {screen : Screen} {last : Rendering} {fit : Prop}

/-- A loop that goes round at once. -/
theorem Topped.arm {handled : Handled} (topped : Topped snap (clock 1) screen.discriminant handled) :
    Arm snap clock screen last fit handled :=
  @Arm.tops snap clock screen last fit [] handled 1 rfl topped

/-- A return to a state that looks at the snapshot itself. -/
theorem arm_base {next : AppState} (base : next.Base snap) :
    Arm snap clock screen last fit (.returns next, []) := .leaves rfl fun _ => base.enters

/-- A press on a recipe leaves for its start. -/
theorem onEvent_picked {taken : ScreenSnapshot} {index deadline : Nat} {clock : Nat → Nat} {recipe : Recipe}
    (picked : taken.recipes[index]? = some recipe) :
    (Screen.browse taken index deadline).onEvent snap .encoderButton clock =
      (.returns (.startPending recipe.title recipe.id (clock 0)), []) := by
  simp only [Screen.onEvent, picked]

/-- A press on none goes on browsing. -/
theorem onEvent_unpicked {taken : ScreenSnapshot} {index deadline : Nat} {clock : Nat → Nat}
    (unpicked : taken.recipes[index]? = none) :
    (Screen.browse taken index deadline).onEvent snap .encoderButton clock =
      Screen.browseTop index deadline snap := by
  simp only [Screen.onEvent, unpicked]

/-- **An event** keeps a screen that fits fitting. -/
theorem onEvent_arm (shows : Shows screen last) (event : InputEvent) (clock : Nat → Nat) :
    Arm snap clock screen last (Fits snap screen last) (screen.onEvent snap event clock) := by
  cases shows with
  | offline | startPending | stopPending => exact .stays id
  | upstreamStale => exact (upstreamStaleTop_topped snap _).arm
  | idle dimAt dimmed taken =>
    show Arm _ _ _ _ _ (if _ then _ else _)
    split
    · exact .leaves rfl fun _ => trivial
    · exact .tops 1 rfl (idleTop_topped snap _ _ _)
  | cooking title =>
    show Arm _ _ _ _ _ (if _ then _ else _)
    split
    · exact .leaves rfl fun _ => trivial
    · exact (cookingTop_topped snap _ title).arm
  | awaitNextStage =>
    cases event with
    | encoderCw => exact (awaitNextStageTop_topped snap _).arm
    | encoderCcw => exact .leaves rfl fun _ => trivial
    | encoderButton => exact .tops 1 rfl (awaitNextStageTop_topped snap _)
  | @browse taken index browser deadline now item =>
    cases event with
    | encoderCw => exact (browseTop_topped snap (clock 1) _ _).arm
    | encoderCcw =>
      show Arm _ _ _ _ _ (if _ then _ else _)
      split
      · exact arm_base .idle
      · exact (browseTop_topped snap (clock 1) _ _).arm
    | encoderButton =>
      cases picked : taken.recipes[index]? with
      | some recipe =>
        rw [onEvent_picked picked]
        refine .leaves rfl fun fits => ?_
        cases fits with
        | browse up resting => exact ⟨up, resting⟩
      | none =>
        rw [onEvent_unpicked picked]
        exact (browseTop_topped snap (clock 1) _ _).arm
  | confirmStop =>
    cases event with
    | encoderCw => exact arm_base .cooking
    | encoderCcw => exact (confirmStopTop_topped snap (clock 1) _).arm
    | encoderButton =>
      exact .leaves rfl fun fits => fits.cooks

/-- **Something new** leaves a screen that fits it. -/
theorem onChanged_arm (shows : Shows screen last) (clock : Nat → Nat) :
    Arm snap clock screen last True (screen.onChanged snap clock) := by
  cases shows with
  | offline taken now =>
    show Arm _ _ _ _ _ (if _ then _ else _)
    split
    · exact arm_base (base_baseline snap)
    case isFalse down => exact .stays fun _ => .offline taken now (by simpa using down)
  | upstreamStale => exact (upstreamStaleTop_topped snap _).arm
  | idle => exact (idleTop_topped snap _ _ _).arm
  | cooking title => exact (cookingTop_topped snap _ title).arm
  | awaitNextStage => exact (awaitNextStageTop_topped snap _).arm
  | browse => exact (browseTop_topped snap (clock 1) _ _).arm
  | confirmStop => exact (confirmStopTop_topped snap (clock 1) _).arm
  | startPending title deadline taken now =>
    show Arm _ _ _ _ _ (if _ then _ else if _ then _ else _)
    split
    case isTrue down => exact arm_base (.offline down)
    case isFalse up =>
      split
      · exact .leaves rfl fun _ => trivial
      case isFalse rests =>
        exact .stays fun _ => .startPending taken now (Bool.eq_false_iff.mpr up) (Bool.eq_false_iff.mpr rests)
  | stopPending deadline taken now =>
    show Arm _ _ _ _ _ (if _ then _ else if _ then _ else _)
    split
    case isTrue down => exact arm_base (.offline down)
    case isFalse up =>
      split
      · exact arm_base .idle
      case isFalse cooks =>
        exact .stays fun _ => .stopPending taken now (Bool.eq_false_iff.mpr up) (by simpa using cooks)

/-- **A timer** keeps a screen that fits fitting. -/
theorem onTimer_arm (shows : Shows screen last) (clock : Nat → Nat) :
    Arm snap clock screen last (Fits snap screen last) (screen.onTimer snap clock) := by
  cases shows with
  | idle => exact .tops 1 rfl (idleTop_topped snap _ _ _)
  | browse | startPending => exact arm_base .idle
  | confirmStop | stopPending => exact arm_base .cooking
  | offline | upstreamStale | cooking | awaitNextStage => exact .stays id

/-- **Where a wake ends**: it rendered nothing and its screen is as it was, or the screen shows what it
rendered last, by one of the clock's readings. It fits if it must. -/
inductive Woke (snap : ScreenSnapshot) (clock : Nat → Nat) (last : Rendering) (fit : Prop) (after : Screen)
    (effects : List ScreenEffect) : Prop
  | silent (silent : lastView effects = none) (shows : Shows after last) (fits : fit → Fits snap after last)
  | rendered {view : ViewSpec} (i : Nat) (rendered : lastView effects = some view)
    (shows : Shows after ⟨view, snap, clock i⟩) (fits : fit → Fits snap after ⟨view, snap, clock i⟩)

/-- **A wake** ends so wherever the task comes to wait. -/
theorem Arm.resume {handled : Handled} (arm : Arm snap clock screen last fit handled)
    (shows : Shows screen last) {after : Screen}
    (waits : (resume snap clock handled).1 = .waits after) :
    Woke snap clock last fit after (AnovaOven.resume snap clock handled).2 := by
  cases arm with
  | stays fits =>
    cases waits
    exact .silent rfl shows fits
  | tops i silent topped =>
    cases topped with
    | @leaves next base =>
      have settled : (settle snap maxPasses (later clock) next).1 = .waits after := waits
      obtain ⟨view, j, rendered, shows, fits⟩ := settle_shows settled
      exact .rendered (j + 2) (lastView_of_said rendered) shows fun _ => fits base.enters
    | renders fits =>
      cases waits
      exact .rendered i (lastView_of_said rfl) fits.shows fun _ => fits
  | @leaves next _ silent enters =>
    have settled : (settle snap maxPasses (later clock) next).1 = .waits after := waits
    obtain ⟨view, j, rendered, shows, fits⟩ := settle_shows settled
    exact .rendered (j + 2) (lastView_of_said rendered) shows fun fit => fits (enters fit)

end Arms

/-! ## Runs -/

/-- A reading of the clock that an input comes with. -/
def ScreenInput.Reads (input : ScreenInput) (now : Nat) : Prop :=
  match input with
  | .publish _ => False
  | .boot clock | .event _ clock | .apiChanged clock | .timeout clock => ∃ i, clock i = now

namespace Screens

/-- **What a step does**: something is published, the task boots, one of the arms wakes it, or nothing. -/
inductive Stepped (s : Screens) : ScreenInput → Screens × List ScreenEffect → Prop
  | publishes (snapshot : ScreenSnapshot) : Stepped s (.publish snapshot) (⟨snapshot, true, s.front⟩, [])
  | boots (clock : Nat → Nat) (at' : s.front = .booting) :
    Stepped s (.boot clock) (s.woken clock s.unseen (.returns .idle, []))
  | event {screen : Screen} (event : InputEvent) (clock : Nat → Nat) (at' : s.front = .waits screen) :
    Stepped s (.event event clock) (s.woken clock s.unseen (screen.onEvent s.published event clock))
  | changed {screen : Screen} (clock : Nat → Nat) (at' : s.front = .waits screen) (news : s.unseen = true) :
    Stepped s (.apiChanged clock) (s.woken clock false (screen.onChanged s.published clock))
  | timeout {screen : Screen} {deadline : Nat} (clock : Nat → Nat) (at' : s.front = .waits screen)
    (armed : screen.timer = some deadline) (due : deadline ≤ clock 0) :
    Stepped s (.timeout clock) (s.woken clock s.unseen (screen.onTimer s.published clock))
  | ignored {input : ScreenInput}
    (deaf : ∀ screen event clock, s.front = .waits screen → input ≠ .event event clock) :
    Stepped s input (s, [])

theorem step_stepped (s : Screens) (input : ScreenInput) : Stepped s input (s.step input) := by
  obtain ⟨published, unseen, front⟩ := s
  cases input with
  | publish snapshot => cases front <;> exact .publishes snapshot
  | boot clock =>
    cases front with
    | booting => exact .boots clock rfl
    | waits | panicked | spinning => exact .ignored fun _ _ _ _ eq => nomatch eq
  | event event clock =>
    cases front with
    | waits screen => exact .event event clock rfl
    | booting | panicked | spinning => exact .ignored fun _ _ _ eq => nomatch eq
  | apiChanged clock =>
    cases front with
    | waits screen =>
      show Stepped _ _ (if unseen then _ else _)
      split
      case isTrue news => exact .changed clock rfl news
      case isFalse => exact .ignored fun _ _ _ _ eq => nomatch eq
    | booting | panicked | spinning => exact .ignored fun _ _ _ _ eq => nomatch eq
  | timeout clock =>
    cases front with
    | waits screen =>
      show Stepped _ _ (if screen.timer.any fun deadline => decide (deadline ≤ clock 0) then _ else _)
      split
      case isTrue fires =>
        obtain ⟨deadline, armed, due⟩ := (Option.any_eq_true _ _).mp fires
        exact .timeout clock rfl armed (of_decide_eq_true due)
      case isFalse => exact .ignored fun _ _ _ _ eq => nomatch eq
    | booting | panicked | spinning => exact .ignored fun _ _ _ _ eq => nomatch eq

/-- **What the task knows** while it waits: its screen shows what was rendered last, and fits what is published
where there is nothing to notice. -/
def Knows (s : Screens) (isLast : Rendering → Prop) : Prop :=
  ∀ screen, s.front = .waits screen →
    ∃ last, isLast last ∧ Shows screen last ∧ (s.unseen = false → Fits s.published screen last)

variable {isLast isLast' : Rendering → Prop} {s : Screens}

/-- What is rendered last, after an input: as before where it rendered nothing, and else what it rendered. -/
structure Follows (s : Screens) (input : ScreenInput) (isLast isLast' : Rendering → Prop) : Prop where
  silent : lastView (s.step input).2 = none → ∀ last, isLast last → isLast' last
  rendered : ∀ view now, lastView (s.step input).2 = some view → input.Reads now →
    isLast' ⟨view, s.published, now⟩

/-- A wake keeps what the task knows. -/
theorem Knows.woken {screen : Screen} {last : Rendering} {handled : Handled} {fit : Prop}
    {clock : Nat → Nat} (arm : Arm s.published clock screen last fit handled) (shows : Shows screen last)
    {unseen : Bool} (must : unseen = false → fit)
    (silent : lastView (s.woken clock unseen handled).2 = none → isLast' last)
    (rendered : ∀ view i, lastView (s.woken clock unseen handled).2 = some view →
      isLast' ⟨view, s.published, clock i⟩) :
    (s.woken clock unseen handled).1.Knows isLast' := by
  intro after waits
  cases arm.resume shows waits with
  | silent quiet shows fits => exact ⟨last, silent quiet, shows, fun seen => fits (must seen)⟩
  | rendered i said shows fits => exact ⟨_, rendered _ i said, shows, fun seen => fits (must seen)⟩

/-- A step keeps what the task knows. -/
theorem Knows.step (knows : s.Knows isLast) {input : ScreenInput} (follows : s.Follows input isLast isLast') :
    (s.step input).1.Knows isLast' := by
  obtain ⟨silent, rendered⟩ := follows
  have stepped := step_stepped s input
  generalize s.step input = out at stepped silent rendered ⊢
  cases stepped with
  | publishes snapshot =>
    intro screen waits
    obtain ⟨last, isLast, shows, _⟩ := knows screen waits
    exact ⟨last, silent rfl last isLast, shows, fun seen => nomatch seen⟩
  | boots clock =>
    intro screen waits
    have settled : (settle s.published maxPasses (later clock) .idle).1 = .waits screen := waits
    obtain ⟨view, i, said, shows, fits⟩ := settle_shows settled
    exact ⟨_, rendered view _ said ⟨i + 2, rfl⟩, shows, fun _ => fits trivial⟩
  | event event clock at' =>
    obtain ⟨last, isLast, shows, fits⟩ := knows _ at'
    exact .woken (onEvent_arm shows event clock) shows fits (fun quiet => silent quiet last isLast)
      fun view i said => rendered view _ said ⟨i, rfl⟩
  | changed clock at' =>
    obtain ⟨last, isLast, shows, _⟩ := knows _ at'
    exact .woken (onChanged_arm shows clock) shows (fun _ => trivial)
      (fun quiet => silent quiet last isLast) fun view i said => rendered view _ said ⟨i, rfl⟩
  | timeout clock at' =>
    obtain ⟨last, isLast, shows, fits⟩ := knows _ at'
    exact .woken (onTimer_arm shows clock) shows fits (fun quiet => silent quiet last isLast)
      fun view i said => rendered view _ said ⟨i, rfl⟩
  | ignored =>
    intro screen waits
    obtain ⟨last, isLast, shows, fits⟩ := knows screen waits
    exact ⟨last, silent rfl last isLast, shows, fits⟩

/-- **What a run rendered last**: one of its inputs rendered the view, of what was published then and by a
reading of its clock, and none since rendered any. -/
def Rendered (inputs : List ScreenInput) (last : Rendering) : Prop :=
  ∃ before input after, inputs = before ++ input :: after ∧
    lastView (screens.effects (screens.run .start before) input) = some last.view ∧
    (screens.run .start before).published = last.taken ∧ input.Reads last.now ∧
    lastView (screens.trace (screens.run .start (before ++ [input])) after) = none

theorem Rendered.lastView {inputs : List ScreenInput} {last : Rendering} (rendered : Rendered inputs last) :
    lastView (screens.trace .start inputs) = some last.view := by
  obtain ⟨before, input, after, rfl, said, _, _, since⟩ := rendered
  rw [Machine.run_append, Machine.run_cons, Machine.run_nil] at since
  rw [Machine.trace_append, Machine.trace_cons, lastView_append, lastView_append, since, said]
  rfl

/-- An input that renders nothing leaves what was rendered last. -/
theorem Rendered.silent {inputs : List ScreenInput} {last : Rendering} (rendered : Rendered inputs last)
    {input : ScreenInput}
    (quiet : AnovaOven.lastView (screens.effects (screens.run .start inputs) input) = none) :
    Rendered (inputs ++ [input]) last := by
  obtain ⟨before, own, after, rfl, said, taken, reads, since⟩ := rendered
  refine ⟨before, own, after ++ [input], List.append_assoc before (own :: after) [input], said, taken, reads, ?_⟩
  rw [List.append_cons, Machine.run_append] at quiet
  rw [Machine.trace_append, Machine.trace_cons, Machine.trace_nil, List.append_nil, lastView_append, since,
    quiet]
  rfl

/-- One more input. -/
theorem rendered_follows (inputs : List ScreenInput) (input : ScreenInput) :
    (screens.run .start inputs).Follows input (Rendered inputs) (Rendered (inputs ++ [input])) where
  silent quiet _ rendered := rendered.silent quiet
  rendered _ _ said reads := ⟨inputs, input, [], rfl, said, rfl, reads, rfl⟩

theorem run_knows (inputs : List ScreenInput) :
    (screens.run .start inputs).Knows (Rendered inputs) := by
  induction inputs using List.reverseRecOn with
  | nil => exact fun _ waits => nomatch waits
  | append_singleton inputs input ih =>
    rw [Machine.run_append]
    exact ih.step (rendered_follows inputs input)

/-- **Seen is shown.** Over any run, while nothing that was published is left to notice, what is published
passes the guards of the screen the task waits at, those that read the clock as it was read for the view
rendered last, and that view is the screen's view of what is published. Where a start or a stop is pending it
is that of the snapshot it was sent at. -/
theorem seen_fits (inputs : List ScreenInput) {screen : Screen}
    (waits : (screens.run .start inputs).front = .waits screen)
    (seen : (screens.run .start inputs).unseen = false) :
    ∃ last, Rendered inputs last ∧ lastView (screens.trace .start inputs) = some last.view ∧
      Fits (screens.run .start inputs).published screen last := by
  obtain ⟨last, rendered, _, fits⟩ := run_knows inputs screen waits
  exact ⟨last, rendered, rendered.lastView, fits seen⟩

end Screens

namespace Kitchen

/-- A loaf in the oven, as the server has it. -/
def loafSnapshot : ScreenSnapshot :=
  { ScreenSnapshot.empty with
    currentCook := some ⟨"Loaf", none, "2024-05-01T12:00:00Z", [], 0, 0⟩
    lastSuccessAt := some 1 }

/-- A clock that shows one time. -/
def stopped (now : Nat) : Nat → Nat := fun _ => now

/-- The pico learns of the loaf, and the knob is turned back. -/
def loafQuestion : List ScreenInput :=
  [.boot (stopped 0), .publish loafSnapshot, .apiChanged (stopped 1), .event .encoderCcw (stopped 2)]

/-- The pico learns of the loaf. -/
def loafCook : List ScreenInput := [.boot (stopped 0), .publish loafSnapshot, .apiChanged (stopped 1)]

/-- The loaf as it is published again. -/
def loafStill : ScreenSnapshot := { loafSnapshot with lastSuccessAt := some 4 }

/-- A stop is sent, and the loaf is still there. -/
def loafStopping : List ScreenInput :=
  loafQuestion ++ [.event .encoderButton (stopped 3), .publish loafStill, .apiChanged (stopped 5)]

end Kitchen

open Kitchen in
/-- The loaf's cook fits it, and so does the stop that waits for the server. -/
theorem seen_fits_loaf :
    (∃ last, Screens.Rendered loafCook last ∧ lastView (screens.trace .start loafCook) = some last.view ∧
      Fits loafSnapshot (.cooking none) last) ∧
    ∃ last, Screens.Rendered loafStopping last ∧ lastView (screens.trace .start loafStopping) = some last.view ∧
      Fits loafStill (.stopPending (Screen.pendingDeadline 3)) last :=
  ⟨Screens.seen_fits loafCook (by decide) (by decide), Screens.seen_fits loafStopping (by decide) (by decide)⟩

/-! ## Commands -/

/-- The command of an effect that sends one. -/
def ScreenEffect.command? : ScreenEffect → Option ApiCommand
  | .command cmd => some cmd
  | _ => none

/-- The commands that were sent, in order. -/
def commandsOf (effects : List ScreenEffect) : List ApiCommand := effects.filterMap ScreenEffect.command?

theorem commandsOf_append (a b : List ScreenEffect) : commandsOf (a ++ b) = commandsOf a ++ commandsOf b :=
  List.filterMap_append

theorem commandsOf_onEntry (state : AppState) : commandsOf state.onEntry = [] := rfl

/-- What a state's handler sends as it is entered. -/
def AppState.sends : AppState → List ApiCommand
  | .startPending _ recipeId _ => [.start recipeId]
  | .stopPending _ => [.stop]
  | _ => []

theorem AppState.Base.sends {snap : ScreenSnapshot} {state : AppState} (base : state.Base snap) :
    state.sends = [] := by cases base <;> rfl

theorem Topped.quiet {snap : ScreenSnapshot} {now of : Nat} {handled : Handled}
    (topped : Topped snap now of handled) :
    commandsOf handled.2 = [] := by cases topped <;> rfl

theorem execute_sends (snap : ScreenSnapshot) (start now : Nat) (state : AppState) :
    commandsOf (state.execute snap start now).2 = state.sends := by
  show commandsOf (state.onEntry ++ (state.handler snap start now).2) = _
  rw [commandsOf_append, commandsOf_onEntry, List.nil_append]
  cases state with
  | offline | startPending | stopPending => rfl
  | _ => exact (handler_topped snap start now (by trivial)).quiet

/-- Whatever handlers a wake goes through, only the first may send. -/
theorem settle_sends (snap : ScreenSnapshot) (passes : Nat) (clock : Nat → Nat) (state : AppState) :
    commandsOf (settle snap (passes + 1) clock state).2 = state.sends := by
  have sent := execute_sends snap (clock 0) (clock 1) state
  have passed := execute_passed snap (clock 0) (clock 1) state
  unfold settle
  cases pass : state.execute snap (clock 0) (clock 1) with
  | mk handled effects =>
    rw [pass] at passed sent
    cases passed with
    | waits => exact sent
    | @leaves next _ base silent =>
      show commandsOf (effects ++ (settle snap passes (later clock) next).2) = _
      rw [commandsOf_append, sent]
      cases passes with
      | zero => exact List.append_nil _
      | succ passes => rw [settle_sends snap passes (later clock) next, base.sends, List.append_nil]

/-- What a wake sends, after its arm. -/
theorem resume_sends (snap : ScreenSnapshot) (clock : Nat → Nat) (handled : Handled) :
    commandsOf (resume snap clock handled).2 =
      commandsOf handled.2 ++ match handled.1 with
        | .returns next => next.sends
        | _ => [] := by
  obtain ⟨pass, effects⟩ := handled
  cases pass with
  | waits | panicked => exact (List.append_nil _).symm
  | returns next =>
    show commandsOf (effects ++ (settle snap 4 (later clock) next).2) = _
    rw [commandsOf_append, settle_sends]

/-- A loop that goes round sends nothing more. -/
theorem Topped.sends {snap : ScreenSnapshot} {now of : Nat} {handled : Handled}
    (topped : Topped snap now of handled)
    (clock : Nat → Nat) (effects : List ScreenEffect) :
    commandsOf (resume snap clock (Screen.doing effects handled)).2 = commandsOf effects := by
  rw [resume_sends]
  cases topped with
  | @leaves next base =>
    show commandsOf (effects ++ []) ++ next.sends = _
    rw [List.append_nil, base.sends, List.append_nil]
  | renders => rw [Screen.doing, commandsOf_append]; exact (List.append_nil _).trans (List.append_nil _)

namespace Screen

/-- What a press asks for at a screen. -/
def asks : Screen → List ApiCommand
  | .browse snap index _ => (snap.recipes[index]?.map fun recipe => .start recipe.id).toList
  | .confirmStop _ => [.stop]
  | .awaitNextStage => [.nextStage]
  | _ => []

/-- **A press** sends what the screen asks for, and no other event sends anything. -/
theorem onEvent_sends (snap : ScreenSnapshot) (screen : Screen) (event : InputEvent) (clock : Nat → Nat) :
    commandsOf (resume snap clock (screen.onEvent snap event clock)).2 =
      if event = .encoderButton then screen.asks else [] := by
  cases screen with
  | offline | startPending | stopPending => cases event <;> rfl
  | upstreamStale =>
    refine ((upstreamStaleTop_topped snap (clock 1)).sends clock []).trans ?_
    cases event <;> rfl
  | idle taken dimAt dimmed =>
    have none : (if event = .encoderButton then asks (.idle taken dimAt dimmed) else []) = [] := by
      cases event <;> rfl
    rw [none]
    show commandsOf (resume snap clock (if _ then _ else _)).2 = _
    split
    · exact resume_sends snap clock (.returns (.browseRecipes 0), brighten)
    · exact (idleTop_topped snap (clock 1) _ _).sends clock brighten
  | cooking title =>
    cases event with
    | encoderCcw => exact resume_sends snap clock (.returns .confirmStop, [])
    | encoderCw => exact (cookingTop_topped snap (clock 1) title).sends clock []
    | encoderButton => exact (cookingTop_topped snap (clock 1) title).sends clock []
  | awaitNextStage =>
    cases event with
    | encoderCcw => exact resume_sends snap clock (.returns .confirmStop, [])
    | encoderCw => exact (awaitNextStageTop_topped snap (clock 1)).sends clock []
    | encoderButton => exact (awaitNextStageTop_topped snap (clock 1)).sends clock [.command .nextStage]
  | browse taken index deadline =>
    cases event with
    | encoderCw => exact (browseTop_topped snap (clock 1) _ _).sends clock []
    | encoderCcw =>
      show commandsOf (resume snap clock (if _ then _ else _)).2 = []
      split
      · exact resume_sends snap clock (.returns .idle, [])
      · exact (browseTop_topped snap (clock 1) _ _).sends clock []
    | encoderButton =>
      show commandsOf _ = (taken.recipes[index]?.map fun recipe => .start recipe.id).toList
      cases picked : taken.recipes[index]? with
      | some recipe =>
        rw [onEvent_picked picked]
        exact resume_sends snap clock (.returns (.startPending recipe.title recipe.id _), [])
      | none =>
        rw [onEvent_unpicked picked]
        exact (browseTop_topped snap (clock 1) _ _).sends clock []
  | confirmStop deadline =>
    cases event with
    | encoderButton => exact resume_sends snap clock (.returns (.stopPending _), [])
    | encoderCw => exact resume_sends snap clock (.returns (.cooking none), [])
    | encoderCcw => exact (confirmStopTop_topped snap (clock 1) _).sends clock []

/-- Nothing new sends anything. -/
theorem onChanged_sends (snap : ScreenSnapshot) (screen : Screen) (clock : Nat → Nat) :
    commandsOf (resume snap clock (screen.onChanged snap clock)).2 = [] := by
  cases screen with
  | offline =>
    show commandsOf (resume snap clock (if _ then _ else _)).2 = []
    split
    · rw [resume_sends]
      exact (base_baseline snap).sends
    · rfl
  | upstreamStale => exact (upstreamStaleTop_topped snap (clock 1)).sends clock []
  | idle taken dimAt dimmed => exact (idleTop_topped snap (clock 1) _ _).sends clock []
  | cooking title => exact (cookingTop_topped snap (clock 1) title).sends clock []
  | awaitNextStage => exact (awaitNextStageTop_topped snap (clock 1)).sends clock []
  | browse taken index deadline => exact (browseTop_topped snap (clock 1) _ _).sends clock []
  | confirmStop deadline => exact (confirmStopTop_topped snap (clock 1) _).sends clock []
  | startPending title deadline =>
    show commandsOf (resume snap clock (if _ then _ else if _ then _ else _)).2 = []
    split_ifs
    · exact resume_sends snap clock (.returns .offline, [])
    · exact resume_sends snap clock (.returns (.cooking (some title)), [])
    · rfl
  | stopPending deadline =>
    show commandsOf (resume snap clock (if _ then _ else if _ then _ else _)).2 = []
    split_ifs
    · exact resume_sends snap clock (.returns .offline, [])
    · exact resume_sends snap clock (.returns .idle, [])
    · rfl

/-- No timer sends anything. -/
theorem onTimer_sends (snap : ScreenSnapshot) (screen : Screen) (clock : Nat → Nat) :
    commandsOf (resume snap clock (screen.onTimer snap clock)).2 = [] := by
  cases screen with
  | idle taken dimAt dimmed => exact (idleTop_topped snap (clock 1) _ _).sends clock _
  | browse | startPending => exact resume_sends snap clock (.returns .idle, [])
  | confirmStop | stopPending => exact resume_sends snap clock (.returns (.cooking none), [])
  | offline | upstreamStale | cooking | awaitNextStage => rfl

end Screen

namespace Screens

/-- What an input asks for: a press, what the screen asks for it. -/
def asked (s : Screens) : ScreenInput → List ApiCommand
  | .event .encoderButton _ => match s.front with
    | .waits screen => screen.asks
    | _ => []
  | _ => []

/-- **A step sends** what it is asked for. -/
theorem step_sends (s : Screens) (input : ScreenInput) : commandsOf (s.step input).2 = s.asked input := by
  have stepped := step_stepped s input
  generalize s.step input = out at stepped ⊢
  cases stepped with
  | publishes => rfl
  | boots clock => exact resume_sends s.published clock (.returns .idle, [])
  | @event screen event clock at' =>
    refine (Screen.onEvent_sends s.published screen event clock).trans ?_
    cases event with
    | encoderButton =>
      unfold asked
      rw [at']
      rfl
    | encoderCw | encoderCcw => rfl
  | changed clock => exact Screen.onChanged_sends _ _ clock
  | timeout clock => exact Screen.onTimer_sends _ _ clock
  | ignored deaf =>
    unfold asked
    split
    · split
      case h_1 screen at' => exact absurd rfl (deaf screen _ _ at')
      case h_2 => rfl
    · rfl

end Screens

/-- **What was rendered asks** for what a press at it sends: a view of the recipe browser, for the start of the
recipe that it is the view of, in the list it was rendered of. -/
inductive Asks : Rendering → List ApiCommand → Prop
  | recipeBrowser {taken : ScreenSnapshot} {index now : Nat} {browser : BrowserView} {recipe : Recipe}
    (viewed : recipeBrowserView taken.recipes index = some browser)
    (item : taken.recipes[index]? = some recipe) :
    Asks ⟨.recipeBrowser browser, taken, now⟩ [.start recipe.id]
  | stopConfirmation (status : Option ServedStatus) (cook : Option CurrentCook) (taken : ScreenSnapshot)
    (now : Nat) : Asks ⟨.stopConfirmation status cook, taken, now⟩ [.stop]
  | nextStagePrompt (title : String) (taken : ScreenSnapshot) (now : Nat) :
    Asks ⟨.nextStagePrompt title, taken, now⟩ [.nextStage]

/-- Further down the list, a recipe of the same source has a later position. -/
theorem recipeBrowserView_lt {recipes : List Recipe} {i j : Nat} {a b : BrowserView} (lt : i < j)
    (viewed : recipeBrowserView recipes i = some a) (later : recipeBrowserView recipes j = some b)
    (same : a.source = b.source) : a.index < b.index := by
  obtain ⟨recipe, item, rfl⟩ := Option.map_eq_some_iff.mp viewed
  obtain ⟨other, _, rfl⟩ := Option.map_eq_some_iff.mp later
  change recipe.source = other.source at same
  show ((recipes.take i).filter fun r => r.source = recipe.source).length <
    ((recipes.take j).filter fun r => r.source = other.source).length
  rw [← same]
  have upTo : (recipes.take (i + 1)).filter (fun r => r.source = recipe.source) =
      (recipes.take i).filter (fun r => r.source = recipe.source) ++ [recipe] := by
    rw [List.take_add_one, item, List.filter_append]
    simp
  have within : recipes.take (i + 1) <+: recipes.take j := List.take_prefix_take_left lt
  have := (within.filter fun r => r.source = recipe.source).length_le
  rw [upTo, List.length_append] at this
  exact this

/-- A list has one recipe that a view is of. -/
theorem recipeBrowserView_inj {recipes : List Recipe} {i j : Nat} {browser : BrowserView}
    (viewed : recipeBrowserView recipes i = some browser)
    (again : recipeBrowserView recipes j = some browser) : i = j := by
  rcases Nat.lt_trichotomy i j with lt | same | gt
  · exact absurd (recipeBrowserView_lt lt viewed again rfl) (Nat.lt_irrefl _)
  · exact same
  · exact absurd (recipeBrowserView_lt gt again viewed rfl) (Nat.lt_irrefl _)

/-- What was rendered asks for one thing. -/
theorem Asks.unique {last : Rendering} {a b : List ApiCommand} (asks : Asks last a) (again : Asks last b) :
    b = a := by
  cases asks with
  | recipeBrowser viewed item =>
    cases again with
    | recipeBrowser viewed' item' =>
      obtain rfl := recipeBrowserView_inj viewed viewed'
      obtain rfl := Option.some.inj (item.symm.trans item')
      rfl
  | stopConfirmation | nextStagePrompt =>
    cases again
    rfl

/-- What a screen asks for, what was rendered for it asks for. -/
theorem Shows.asks {screen : Screen} {last : Rendering} (shows : Shows screen last) :
    screen.asks = [] ∨ Asks last screen.asks := by
  cases shows with
  | @browse taken index browser deadline now viewed =>
    right
    obtain ⟨recipe, item, _⟩ := Option.map_eq_some_iff.mp viewed
    have started : (Screen.browse taken index deadline).asks = [.start recipe.id] := by
      simp only [Screen.asks, item, Option.map_some, Option.toList_some]
    rw [started]
    exact .recipeBrowser viewed item
  | confirmStop => exact .inr (.stopConfirmation _ _ _ _)
  | awaitNextStage => exact .inr (.nextStagePrompt _ _ _)
  | _ => exact .inl rfl

/-- **Commands are pressed for.** Over any run, a step that sends a command is a press, it sends no other, and
it is the one that what was rendered last asks for: one command, and of a recipe browser the start of the
recipe that is shown. -/
theorem command_asked (inputs : List ScreenInput) {input : ScreenInput}
    (sends : commandsOf (screens.effects (screens.run .start inputs) input) ≠ []) :
    (∃ clock, input = .event .encoderButton clock) ∧
      ∃ last, Screens.Rendered inputs last ∧ lastView (screens.trace .start inputs) = some last.view ∧
        Asks last (commandsOf (screens.effects (screens.run .start inputs) input)) ∧
        ∀ other, Asks last other →
          other = commandsOf (screens.effects (screens.run .start inputs) input) := by
  have law := Screens.step_sends (screens.run .start inputs) input
  have knows := Screens.run_knows inputs
  generalize screens.run .start inputs = s at law knows sends ⊢
  change commandsOf (screens.effects s input) = s.asked input at law
  rw [law] at sends ⊢
  unfold Screens.asked at sends ⊢
  split at sends
  case h_2 => exact absurd rfl sends
  case h_1 clock =>
    refine ⟨⟨clock, rfl⟩, ?_⟩
    split at sends
    case h_2 => exact absurd rfl sends
    case h_1 screen at' =>
      obtain ⟨last, rendered, shows, _⟩ := knows screen at'
      have asks := shows.asks.resolve_left sends
      exact ⟨last, rendered, rendered.lastView, asks, fun _ other => asks.unique other⟩

namespace Kitchen

/-- Two recipes of the user's and a bookmarked one. -/
def menu : ScreenSnapshot :=
  { ScreenSnapshot.empty with
    recipes :=
      [⟨"loaf", "Loaf", 0, [], .own⟩, ⟨"tart", "Tart", 0, [], .bookmarked⟩, ⟨"bun", "Bun", 0, [], .own⟩]
    lastSuccessAt := some 1 }

/-- The knob is turned to the third recipe. -/
def menuTurned : List ScreenInput :=
  [.boot (stopped 0), .publish menu, .apiChanged (stopped 1), .event .encoderCw (stopped 2),
    .event .encoderCw (stopped 3), .event .encoderCw (stopped 4)]

end Kitchen

open Kitchen in
/-- A press at the loaf's question stops it, and one at the third recipe starts that. -/
theorem command_asked_loaf :
    (∃ last, Screens.Rendered loafQuestion last ∧
      lastView (screens.trace .start loafQuestion) = some last.view ∧ Asks last [.stop] ∧
      ∀ other, Asks last other → other = [.stop]) ∧
    ∃ last, Screens.Rendered menuTurned last ∧
      lastView (screens.trace .start menuTurned) = some last.view ∧ Asks last [.start "bun"] ∧
      ∀ other, Asks last other → other = [.start "bun"] := by
  have stop := (@command_asked loafQuestion (.event .encoderButton (stopped 3)) (by decide)).2
  have start := (@command_asked menuTurned (.event .encoderButton (stopped 5)) (by decide)).2
  exact ⟨stop, start⟩

/-! ## A stop is asked for twice -/

/-- The task waits at the question whether to stop. -/
def Screens.Confirms (s : Screens) : Prop := ∃ deadline, s.front = .waits (.confirmStop deadline)

/-- The task waits at a cook: its screen, or the prompt for its next stage. -/
def Screens.AtCook (s : Screens) : Prop :=
  (∃ title, s.front = .waits (.cooking title)) ∨ s.front = .waits .awaitNextStage

theorem discriminant_confirmStop {screen : Screen} (at' : screen.discriminant = 6) :
    ∃ deadline, screen = .confirmStop deadline := by
  cases screen with
  | confirmStop deadline => exact ⟨deadline, rfl⟩
  | _ => cases at'

/-- Handlers that are gone through come to the question only where they are entered at it. -/
theorem settle_confirms {snap : ScreenSnapshot} {passes : Nat} {clock : Nat → Nat} {state : AppState}
    {deadline : Nat} (waits : (settle snap passes clock state).1 = .waits (.confirmStop deadline)) :
    state = .confirmStop := by
  obtain ⟨landed, from', at'⟩ := settle_lands waits
  rcases from' with rfl | base
  · cases landed <;> first | rfl | cases at'
  · cases base <;> cases at'

/-- What an arm returns, and what its loop goes round to, come to the question from the question only. -/
theorem Arm.confirms {snap : ScreenSnapshot} {clock : Nat → Nat} {screen : Screen} {last : Rendering}
    {fit : Prop} {handled : Handled} (arm : Arm snap clock screen last fit handled) {deadline : Nat}
    (waits : (AnovaOven.resume snap clock handled).1 = .waits (.confirmStop deadline)) :
    (∃ deadline, screen = .confirmStop deadline) ∨ handled.1 = .returns .confirmStop := by
  cases arm with
  | stays =>
    cases waits
    exact .inl ⟨deadline, rfl⟩
  | tops _ silent topped =>
    cases topped with
    | @leaves next base =>
      have settled : (settle snap maxPasses (later clock) next).1 = .waits (.confirmStop deadline) := waits
      obtain rfl := settle_confirms settled
      cases base
    | renders fits own =>
      cases waits
      exact .inl (discriminant_confirmStop own.symm)
  | @leaves next =>
    have settled : (settle snap maxPasses (later clock) next).1 = .waits (.confirmStop deadline) := waits
    obtain rfl := settle_confirms settled
    exact .inr rfl

theorem Topped.not_question {snap : ScreenSnapshot} {now of : Nat} {handled : Handled}
    (topped : Topped snap now of handled) : handled.1 ≠ .returns .confirmStop := by
  cases topped with
  | leaves base =>
    intro eq
    cases eq
    cases base
  | renders => exact fun eq => nomatch eq

/-- The event that leads to the question. -/
theorem onEvent_question {snap : ScreenSnapshot} {screen : Screen} {event : InputEvent} {clock : Nat → Nat}
    (returns : (screen.onEvent snap event clock).1 = .returns .confirmStop) :
    event = .encoderCcw ∧ ((∃ title, screen = .cooking title) ∨ screen = .awaitNextStage) := by
  cases screen with
  | offline | startPending | stopPending => cases returns
  | upstreamStale => exact absurd returns (upstreamStaleTop_topped snap _).not_question
  | idle taken dimAt dimmed =>
    change (if _ then _ else _ : Handled).1 = _ at returns
    split at returns
    · cases returns
    · exact absurd returns (idleTop_topped snap (clock 1) _ _).not_question
  | cooking title =>
    cases event with
    | encoderCcw => exact ⟨rfl, .inl ⟨title, rfl⟩⟩
    | _ => exact absurd returns (cookingTop_topped snap (clock 1) title).not_question
  | awaitNextStage =>
    cases event with
    | encoderCcw => exact ⟨rfl, .inr rfl⟩
    | _ => exact absurd returns (awaitNextStageTop_topped snap (clock 1)).not_question
  | browse taken index deadline =>
    cases event with
    | encoderCw => exact absurd returns (browseTop_topped snap (clock 1) _ _).not_question
    | encoderCcw =>
      change (if _ then _ else _ : Handled).1 = _ at returns
      split at returns
      · cases returns
      · exact absurd returns (browseTop_topped snap (clock 1) _ _).not_question
    | encoderButton =>
      cases picked : taken.recipes[index]? with
      | some recipe =>
        rw [onEvent_picked picked] at returns
        cases returns
      | none =>
        rw [onEvent_unpicked picked] at returns
        exact absurd returns (browseTop_topped snap (clock 1) _ _).not_question
  | confirmStop deadline =>
    cases event with
    | encoderCcw => exact absurd returns (confirmStopTop_topped snap (clock 1) _).not_question
    | _ => cases returns

/-- Nothing new leads to the question. -/
theorem onChanged_question (snap : ScreenSnapshot) (screen : Screen) (clock : Nat → Nat) :
    (screen.onChanged snap clock).1 ≠ .returns .confirmStop := by
  cases screen with
  | offline =>
    show (if _ then _ else _ : Handled).1 ≠ _
    split
    · unfold baselineStateFor
      split <;> exact fun eq => nomatch eq
    · exact fun eq => nomatch eq
  | upstreamStale => exact (upstreamStaleTop_topped snap _).not_question
  | idle taken dimAt dimmed => exact (idleTop_topped snap _ _ _).not_question
  | cooking title => exact (cookingTop_topped snap _ title).not_question
  | awaitNextStage => exact (awaitNextStageTop_topped snap _).not_question
  | browse taken index deadline => exact (browseTop_topped snap (clock 1) _ _).not_question
  | confirmStop deadline => exact (confirmStopTop_topped snap (clock 1) _).not_question
  | startPending | stopPending =>
    show (if _ then _ else if _ then _ else _ : Handled).1 ≠ _
    split_ifs <;> exact fun eq => nomatch eq

/-- No timer leads to the question. -/
theorem onTimer_question (snap : ScreenSnapshot) (screen : Screen) (clock : Nat → Nat) :
    (screen.onTimer snap clock).1 ≠ .returns .confirmStop := by
  cases screen with
  | idle taken dimAt dimmed => exact (idleTop_topped snap (clock 1) _ _).not_question
  | _ => exact fun eq => nomatch eq

namespace Screens

/-- **The way to the question** is from the question, or by a turn back at a cook. -/
theorem step_confirms {s : Screens} {isLast : Rendering → Prop} (knows : s.Knows isLast) {input : ScreenInput}
    (confirms : (s.step input).1.Confirms) :
    s.Confirms ∨ s.AtCook ∧ ∃ clock, input = .event .encoderCcw clock := by
  have stepped := step_stepped s input
  generalize s.step input = out at stepped confirms
  obtain ⟨deadline, waits⟩ := confirms
  cases stepped with
  | publishes | ignored => exact .inl ⟨deadline, waits⟩
  | boots clock =>
    have settled : (settle s.published maxPasses (later clock) .idle).1 = .waits (.confirmStop deadline) := waits
    cases settle_confirms settled
  | @event screen event clock at' =>
    obtain ⟨_, _, shows, _⟩ := knows _ at'
    rcases (onEvent_arm shows event clock).confirms waits with ⟨deadline, rfl⟩ | returns
    · exact .inl ⟨deadline, at'⟩
    · obtain ⟨rfl, ⟨title, rfl⟩ | rfl⟩ := onEvent_question returns
      · exact .inr ⟨.inl ⟨title, at'⟩, clock, rfl⟩
      · exact .inr ⟨.inr at', clock, rfl⟩
  | changed clock at' =>
    obtain ⟨_, _, shows, _⟩ := knows _ at'
    rcases (onChanged_arm shows clock).confirms waits with ⟨deadline, rfl⟩ | returns
    · exact .inl ⟨deadline, at'⟩
    · exact absurd returns (onChanged_question _ _ clock)
  | timeout clock at' =>
    obtain ⟨_, _, shows, _⟩ := knows _ at'
    rcases (onTimer_arm shows clock).confirms waits with ⟨deadline, rfl⟩ | returns
    · exact .inl ⟨deadline, at'⟩
    · exact absurd returns (onTimer_question _ _ clock)

/-- The task has been at the question since a turn back at a cook. -/
def Questioned (inputs : List ScreenInput) : Prop :=
  ∃ before turnedAt rest, inputs = before ++ .event .encoderCcw turnedAt :: rest ∧
    (screens.run .start before).AtCook ∧
    ∀ more, more <+: rest → (screens.run .start (before ++ .event .encoderCcw turnedAt :: more)).Confirms

/-- Wherever the task is at the question, it has been there since a turn back at a cook. -/
theorem confirms_questioned (inputs : List ScreenInput) :
    (screens.run .start inputs).Confirms → Questioned inputs := by
  induction inputs using List.reverseRecOn with
  | nil => rintro ⟨deadline, waits⟩; cases waits
  | append_singleton inputs input ih =>
    intro confirms
    have last : screens.run .start (inputs ++ [input]) = ((screens.run .start inputs).step input).1 := by
      rw [Machine.run_append]
      rfl
    rw [last] at confirms
    rcases step_confirms (run_knows inputs) confirms with before | ⟨atCook, clock, rfl⟩
    · obtain ⟨past, turnedAt, rest, rfl, atCook, since⟩ := ih before
      refine ⟨past, turnedAt, rest ++ [input], by rw [List.append_assoc]; rfl, atCook, ?_⟩
      intro more within
      rcases List.prefix_concat_iff.mp within with rfl | within
      · rw [← List.cons_append, ← List.append_assoc, last]
        exact confirms
      · exact since more within
    · refine ⟨inputs, clock, [], rfl, atCook, ?_⟩
      intro more within
      obtain rfl := List.prefix_nil.mp within
      rw [last]
      exact confirms

/-- **A stop is asked for twice.** Over any run, the input that sends a stop is a press, and before it the knob
was turned back at a cook: from that turn on, whatever came in between, the task was at the question. -/
theorem stop_confirmed (inputs : List ScreenInput) {input : ScreenInput}
    (stops : .stop ∈ commandsOf (screens.effects (screens.run .start inputs) input)) :
    (∃ clock, input = .event .encoderButton clock) ∧ Questioned inputs := by
  have law := step_sends (screens.run .start inputs) input
  change commandsOf (screens.effects _ input) = _ at law
  rw [law] at stops
  unfold asked at stops
  split at stops
  case h_2 => cases stops
  case h_1 clock =>
    refine ⟨⟨clock, rfl⟩, confirms_questioned inputs ?_⟩
    split at stops
    case h_2 => cases stops
    case h_1 screen at' =>
      cases screen with
      | confirmStop deadline => exact ⟨deadline, at'⟩
      | browse snap index deadline =>
        obtain ⟨recipe, _, eq⟩ := Option.map_eq_some_iff.mp (Option.mem_toList.mp stops)
        cases eq
      | awaitNextStage => cases List.mem_singleton.mp stops
      | _ => cases stops

end Screens

theorem stop_confirmed_loaf : Screens.Questioned Kitchen.loafQuestion :=
  (@Screens.stop_confirmed Kitchen.loafQuestion (.event .encoderButton (Kitchen.stopped 3)) (by decide)).2

end AnovaOven
