import AnovaOven.Laws.Screens

/-!
# Laws of the screens' clocks

**A wake comes to rest** (`wakes_rest`): whatever state a handler returns, the task waits again within four
handlers, so no snapshot sends it round for ever. A snapshot that is stale stays so as the clock goes on,
which is why the warning isn't left again (`upstreamStale_grows`).

**A timer that fires isn't armed in the past** (`fired_later`), **what is published never puts off a timer**
(`quiet_timer`), and **a screen dims five seconds after the last touch at the earliest** (`dims_untouched`),
and is dim only then (`run_lit`).
-/

namespace AnovaOven

/-! ## Staleness -/

/-- A snapshot that is stale stays so. -/
theorem upstreamStale_grows {snap : ScreenSnapshot} {now then' : Nat} (stale : (snap.upstreamStale now).isSome)
    (since : now ≤ then') : (snap.upstreamStale then').isSome := by
  unfold ScreenSnapshot.upstreamStale at stale ⊢
  split at stale
  case h_2 => exact stale
  case h_1 first _ =>
    have longer : secsSince now first ≤ secsSince then' first := by
      unfold secsSince
      omega
    simp only at stale ⊢
    split at stale
    case isFalse => cases stale
    case isTrue grace =>
      rw [if_pos (Nat.le_trans grace longer)]
      rfl

/-! ## Coming to rest -/

section Rest

variable (snap : ScreenSnapshot)

/-- From a time on, a state comes to a screen within so many handlers. -/
def Settles (since passes : Nat) (state : AppState) : Prop :=
  ∀ clock, Monotone clock → since ≤ clock 0 → ∃ screen, (settle snap passes clock state).1 = .waits screen

/-- What a handler does leads to a screen within so many handlers more. -/
def Pass.Settles (now passes : Nat) : Pass → Prop
  | .waits _ => True
  | .returns next => AnovaOven.Settles snap now passes next
  | .panicked => False

variable {snap}

theorem settles_of_pass {since passes : Nat} {state : AppState}
    (pass : ∀ start now, since ≤ now → (state.handler snap start now).1.Settles snap now passes) :
    Settles snap since (passes + 1) state := by
  intro clock monotone from'
  have before : clock 0 ≤ clock 1 := monotone (Nat.zero_le 1)
  have goes := pass (clock 0) (clock 1) (Nat.le_trans from' before)
  unfold settle AppState.execute
  cases handled : state.handler snap (clock 0) (clock 1) with
  | mk pass effects =>
    rw [handled] at goes
    cases pass with
    | waits screen => exact ⟨screen, rfl⟩
    | panicked => exact goes.elim
    | returns next =>
      exact goes (later clock) (fun _ _ le => monotone (Nat.add_le_add_right le 2)) (monotone (by omega))

theorem settle_more {passes : Nat} {clock : Nat → Nat} {state : AppState} {screen : Screen}
    (waits : (settle snap passes clock state).1 = .waits screen) :
    (settle snap (passes + 1) clock state).1 = .waits screen := by
  induction passes generalizing clock state with
  | zero => cases waits
  | succ passes ih =>
    rw [settle] at waits ⊢
    cases handled : state.execute snap (clock 0) (clock 1) with
    | mk pass effects =>
      rw [handled] at waits
      cases pass with
      | waits | panicked => exact waits
      | returns next => exact ih waits

/-- More handlers do no harm. -/
theorem Settles.more {since passes more : Nat} {state : AppState} (settles : Settles snap since passes state)
    (le : passes ≤ more) : Settles snap since more state := by
  intro clock monotone from'
  obtain ⟨screen, waits⟩ := settles clock monotone from'
  refine ⟨screen, ?_⟩
  induction le with
  | refl => exact waits
  | step _ ih => exact settle_more ih

theorem offline_settles (since : Nat) : Settles snap since 1 .offline := settles_of_pass fun _ _ _ => trivial

/-- A handler that looks at a snapshot that is offline leaves for that screen. -/
theorem handler_offline (down : snap.isOffline = true) {state : AppState} (looks : state.Looks)
    (start now : Nat) : state.handler snap start now = (.returns .offline, []) := by
  cases state with
  | offline | startPending | stopPending => exact looks.elim
  | _ => exact if_pos down

theorem down_settles (down : snap.isOffline = true) (since : Nat) (state : AppState) :
    Settles snap since 2 state := by
  refine settles_of_pass fun start now _ => ?_
  cases state with
  | offline | startPending | stopPending => trivial
  | _ =>
    rw [handler_offline down (by trivial)]
    exact offline_settles now

section Up

variable (up : ¬ snap.isOffline = true)
include up

/-- The warning of a snapshot that is stale isn't left again. -/
theorem stale_settles {since : Nat} (stale : (snap.upstreamStale since).isSome) :
    Settles snap since 1 .upstreamStale := by
  refine settles_of_pass fun start now later => ?_
  obtain ⟨told, stale⟩ := Option.isSome_iff_exists.mp (upstreamStale_grows stale later)
  show (Screen.upstreamStaleTop snap now).1.Settles snap now 0
  unfold Screen.upstreamStaleTop
  rw [if_neg up, stale]
  trivial

theorem idle_settles (rests : ¬ snap.isCooking = true) (since : Nat) : Settles snap since 2 .idle := by
  refine settles_of_pass fun start now _ => ?_
  show (Screen.idleTop _ _ snap now).1.Settles snap now 1
  unfold Screen.idleTop
  rw [if_neg up]
  split
  case isTrue stale => exact stale_settles up stale
  case isFalse => trivial

theorem prompt_settles (cooks : snap.isCooking = true) (prompts : (nextStagePrompt snap).isSome)
    (since : Nat) (description : String) : Settles snap since 2 (.awaitNextStage description) := by
  refine settles_of_pass fun start now _ => ?_
  show (Screen.awaitNextStageTop snap now).1.Settles snap now 1
  unfold Screen.awaitNextStageTop
  rw [if_neg up]
  split
  case isTrue stale => exact stale_settles up stale
  case isFalse =>
    rw [if_neg (by simp [cooks]), if_neg (by simpa [Option.isSome_iff_ne_none] using prompts)]
    trivial

theorem cooking_settles (cooks : snap.isCooking = true) (since : Nat) (title : Option String) :
    Settles snap since 3 (.cooking title) := by
  refine settles_of_pass fun start now _ => ?_
  show (Screen.cookingTop title snap now).1.Settles snap now 2
  unfold Screen.cookingTop
  rw [if_neg up]
  split
  case isTrue stale => exact (stale_settles up stale).more (by decide)
  case isFalse =>
    rw [if_neg (by simp [cooks])]
    split
    case h_1 description prompts => exact prompt_settles up cooks (by rw [prompts]; rfl) now description
    case h_2 => trivial

theorem up_settles (since : Nat) (state : AppState) : Settles snap since 4 state := by
  -- A cook is come to in three handlers, and the idle screen, where there is none, in two.
  have cook (cooks : snap.isCooking = true) (now : Nat) : Settles snap now 3 (.cooking none) :=
    cooking_settles up cooks now none
  have idle (rests : ¬ snap.isCooking = true) (now : Nat) : Settles snap now 3 .idle :=
    (idle_settles up rests now).more (by decide)
  refine settles_of_pass fun start now _ => ?_
  cases state with
  | offline | startPending | stopPending => trivial
  | upstreamStale =>
    show (Screen.upstreamStaleTop snap now).1.Settles snap now 3
    unfold Screen.upstreamStaleTop baselineStateFor
    rw [if_neg up]
    split
    case h_2 => trivial
    case h_1 =>
      show Settles snap now 3 (if _ then _ else _)
      split
      case isTrue cooks => exact cook cooks now
      case isFalse rests => exact idle rests now
  | idle =>
    show (Screen.idleTop _ _ snap now).1.Settles snap now 3
    unfold Screen.idleTop
    rw [if_neg up]
    split
    case isTrue stale => exact (stale_settles up stale).more (by decide)
    case isFalse =>
      split
      case isTrue cooks => exact cook cooks now
      case isFalse => trivial
  | cooking title =>
    show (Screen.cookingTop title snap now).1.Settles snap now 3
    unfold Screen.cookingTop
    rw [if_neg up]
    split
    case isTrue stale => exact (stale_settles up stale).more (by decide)
    case isFalse =>
      split
      case isTrue rests => exact idle (by simpa using rests) now
      case isFalse busy =>
        have cooks : snap.isCooking = true := by simpa using busy
        split
        case h_1 description prompts =>
          exact (prompt_settles up cooks (by rw [prompts]; rfl) now description).more (by decide)
        case h_2 => trivial
  | browseRecipes index =>
    show (Screen.browseTop index _ snap).1.Settles snap now 3
    unfold Screen.browseTop
    rw [if_neg up]
    split
    case isTrue cooks => exact cook cooks now
    case isFalse rests =>
      split
      case isTrue => exact idle rests now
      case isFalse full =>
        have some : 0 < snap.recipes.length :=
          List.length_pos_of_ne_nil fun none => full (List.isEmpty_iff.mpr none)
        have inside : min index (snap.recipes.length - 1) < snap.recipes.length := by omega
        obtain ⟨browser, item⟩ := recipeBrowserView_inside inside
        simp only [item]
        trivial
  | confirmStop =>
    show (Screen.confirmStopTop _ snap).1.Settles snap now 3
    unfold Screen.confirmStopTop
    rw [if_neg up]
    split
    case isTrue rests => exact idle (by simpa using rests) now
    case isFalse => trivial
  | awaitNextStage description =>
    show (Screen.awaitNextStageTop snap now).1.Settles snap now 3
    unfold Screen.awaitNextStageTop
    rw [if_neg up]
    split
    case isTrue stale => exact (stale_settles up stale).more (by decide)
    case isFalse =>
      split
      case isTrue rests => exact idle (by simpa using rests) now
      case isFalse busy =>
        have cooks : snap.isCooking = true := by simpa using busy
        split
        case isTrue => exact cook cooks now
        case isFalse => trivial

end Up

/-- **From any state**, the handlers come to a screen within four of them. -/
theorem settle_waits (snap : ScreenSnapshot) {clock : Nat → Nat} (monotone : Monotone clock) (state : AppState) :
    ∃ screen, (settle snap maxPasses clock state).1 = .waits screen := by
  by_cases down : snap.isOffline = true
  · exact (down_settles down 0 state).more (by decide) clock monotone (Nat.zero_le _)
  · exact up_settles down 0 state clock monotone (Nat.zero_le _)

end Rest

/-- A reading of the clock that goes on, where an input comes with one. -/
def ScreenInput.Ticks : ScreenInput → Prop
  | .publish _ => True
  | .boot clock | .event _ clock | .apiChanged clock | .timeout clock => Monotone clock

theorem monotone_later {clock : Nat → Nat} (monotone : Monotone clock) : Monotone (later clock) :=
  fun _ _ le => monotone (Nat.add_le_add_right le 2)

/-- The task waits, or hasn't begun. -/
def Screens.AtRest (s : Screens) : Prop := s.front = .booting ∨ ∃ screen, s.front = .waits screen

theorem Arm.rests {snap : ScreenSnapshot} {clock : Nat → Nat} {screen : Screen} {last : Rendering} {fit : Prop}
    {handled : Handled} (arm : Arm snap clock screen last fit handled) (monotone : Monotone clock) :
    ∃ after, (AnovaOven.resume snap clock handled).1 = .waits after := by
  cases arm with
  | stays => exact ⟨_, rfl⟩
  | tops _ silent topped =>
    cases topped with
    | renders => exact ⟨_, rfl⟩
    | @leaves next => exact settle_waits snap (monotone_later monotone) next
  | @leaves next => exact settle_waits snap (monotone_later monotone) next

theorem step_rests {s : Screens} {isLast : Rendering → Prop} (knows : s.Knows isLast) {input : ScreenInput}
    (ticks : input.Ticks) (rests : s.AtRest) : (s.step input).1.AtRest := by
  have stepped := Screens.step_stepped s input
  generalize s.step input = out at stepped ⊢
  cases stepped with
  | publishes | ignored => exact rests
  | boots clock => exact .inr (settle_waits s.published (monotone_later ticks) .idle)
  | event event clock at' =>
    obtain ⟨_, _, shows, _⟩ := knows _ at'
    exact .inr ((onEvent_arm shows event clock).rests ticks)
  | changed clock at' =>
    obtain ⟨_, _, shows, _⟩ := knows _ at'
    exact .inr ((onChanged_arm shows clock).rests ticks)
  | timeout clock at' =>
    obtain ⟨_, _, shows, _⟩ := knows _ at'
    exact .inr ((onTimer_arm shows clock).rests ticks)

/-! ## Timers -/

/-- A wake ends at the screen its arm waits at, or at the one that the handlers after it come to. -/
inductive Rested (snap : ScreenSnapshot) (clock : Nat → Nat) (handled : Handled) (after : Screen) : Prop
  | stayed (waits : handled.1 = .waits after) (said : (resume snap clock handled).2 = handled.2)
  | went {next : AppState} (returns : handled.1 = .returns next)
    (settled : (settle snap maxPasses (later clock) next).1 = .waits after)
    (said : (resume snap clock handled).2 = handled.2 ++ (settle snap maxPasses (later clock) next).2)

theorem resume_rested {snap : ScreenSnapshot} {clock : Nat → Nat} {handled : Handled} {after : Screen}
    (waits : (resume snap clock handled).1 = .waits after) : Rested snap clock handled after := by
  obtain ⟨pass, effects⟩ := handled
  cases pass with
  | waits screen =>
    cases waits
    exact .stayed rfl rfl
  | panicked => cases waits
  | returns next => exact .went rfl waits rfl

/-- A start or a stop that waits for the server. -/
def Screen.Pending : Screen → Prop
  | .startPending _ _ | .stopPending _ => True
  | _ => False

/-- The idle screen keeps the time it dims at, and whether it has dimmed. -/
theorem idleTop_waits {dimAt now : Nat} {dimmed : Bool} {snap : ScreenSnapshot} {after : Screen}
    (waits : (Screen.idleTop dimAt dimmed snap now).1 = .waits after) : after = .idle snap dimAt dimmed := by
  unfold Screen.idleTop at waits
  split_ifs at waits
  exact (Pass.waits.inj waits).symm

theorem browseTop_waits {index deadline : Nat} {snap : ScreenSnapshot} {after : Screen}
    (waits : (Screen.browseTop index deadline snap).1 = .waits after) : after.timer = some deadline := by
  unfold Screen.browseTop at waits
  split_ifs at waits
  dsimp only at waits
  split at waits
  · cases waits
  · cases waits
    rfl

theorem confirmStopTop_waits {deadline : Nat} {snap : ScreenSnapshot} {after : Screen}
    (waits : (Screen.confirmStopTop deadline snap).1 = .waits after) : after = .confirmStop deadline := by
  unfold Screen.confirmStopTop at waits
  split_ifs at waits
  exact (Pass.waits.inj waits).symm

/-- The screens without a timer. -/
theorem timer_none {screen : Screen}
    (at' : screen.discriminant = 3 ∨ screen.discriminant = 8 ∨ screen.discriminant = 9) : screen.timer = none := by
  cases screen with
  | cooking | awaitNextStage | upstreamStale => rfl
  | _ => rcases at' with at' | at' | at' <;> cases at'

theorem Topped.own {snap : ScreenSnapshot} {now of : Nat} {handled : Handled}
    (topped : Topped snap now of handled)
    {after : Screen} (waits : handled.1 = .waits after) : after.discriminant = of := by
  cases topped with
  | leaves => cases waits
  | renders _ own =>
    cases waits
    exact own

theorem Topped.base {snap : ScreenSnapshot} {now of : Nat} {handled : Handled}
    (topped : Topped snap now of handled)
    {next : AppState} (returns : handled.1 = .returns next) : next.Base snap := by
  cases topped with
  | leaves base =>
    cases returns
    exact base
  | renders => cases returns

/-- A handler arms no timer that is less than five seconds off, but for the start or the stop it sends. -/
theorem execute_timer {snap : ScreenSnapshot} {start now : Nat} {state : AppState} {screen : Screen} {d : Nat}
    (waits : (state.execute snap start now).1 = .waits screen) (armed : screen.timer = some d) :
    start + ticksOfSecs 5 ≤ d ∨ screen.Pending := by
  change (state.handler snap start now).1 = _ at waits
  cases state with
  | offline =>
    cases waits
    cases armed
  | startPending | stopPending =>
    cases waits
    exact .inr trivial
  | idle =>
    obtain rfl := idleTop_waits waits
    exact .inl (Nat.le_of_eq (Option.some.inj armed))
  | browseRecipes index =>
    have eq := (browseTop_waits waits).symm.trans armed
    refine .inl (Nat.le_trans ?_ (Nat.le_of_eq (Option.some.inj eq)))
    exact Nat.add_le_add_left (by decide) start
  | confirmStop =>
    obtain rfl := confirmStopTop_waits waits
    exact .inl (Nat.le_of_eq (Option.some.inj armed))
  | upstreamStale =>
    rw [timer_none (.inr (.inr ((upstreamStaleTop_topped snap now).own waits)))] at armed
    cases armed
  | cooking title =>
    rw [timer_none (.inl ((cookingTop_topped snap now title).own waits))] at armed
    cases armed
  | awaitNextStage =>
    rw [timer_none (.inr (.inl ((awaitNextStageTop_topped snap now).own waits)))] at armed
    cases armed

theorem settle_timer {snap : ScreenSnapshot} {passes : Nat} {clock : Nat → Nat} {state : AppState}
    {screen : Screen} {d : Nat} (monotone : Monotone clock)
    (waits : (settle snap passes clock state).1 = .waits screen) (armed : screen.timer = some d) :
    clock 0 + ticksOfSecs 5 ≤ d ∨ screen.Pending := by
  induction passes generalizing clock state with
  | zero => cases waits
  | succ passes ih =>
    unfold settle at waits
    cases pass : state.execute snap (clock 0) (clock 1) with
    | mk handled effects =>
      rw [pass] at waits
      cases handled with
      | panicked => cases waits
      | waits screen' =>
        cases waits
        exact execute_timer (congrArg Prod.fst pass) armed
      | returns next =>
        have before : clock 0 ≤ later clock 0 := monotone (Nat.zero_le 2)
        exact (ih (monotone_later monotone) waits).imp (fun le => by omega) id

theorem AppState.Base.not_pending {snap : ScreenSnapshot} {state : AppState} (base : state.Base snap) :
    state.discriminant ≠ 5 ∧ state.discriminant ≠ 7 := by
  cases base <;> simp [AppState.discriminant]

/-- Of a state that isn't pending no handler leads to one that is. -/
theorem settle_not_pending {snap : ScreenSnapshot} {passes : Nat} {clock : Nat → Nat} {state : AppState}
    {screen : Screen} (waits : (settle snap passes clock state).1 = .waits screen)
    (base : state.discriminant ≠ 5 ∧ state.discriminant ≠ 7) : ¬ screen.Pending := by
  obtain ⟨landed, from', at'⟩ := settle_lands waits
  have neither : landed.discriminant ≠ 5 ∧ landed.discriminant ≠ 7 := by
    rcases from' with rfl | base
    · exact base
    · exact base.not_pending
  intro pending
  cases screen with
  | startPending => exact neither.1 at'.symm
  | stopPending => exact neither.2 at'.symm
  | _ => exact pending

/-- What a timer that fires leads to waits for a later one, if for any. -/
theorem onTimer_later {snap : ScreenSnapshot} {screen after : Screen} {clock : Nat → Nat} {deadline d : Nat}
    (monotone : Monotone clock) (armed : screen.timer = some deadline)
    (waits : (resume snap clock (screen.onTimer snap clock)).1 = .waits after) (again : after.timer = some d) :
    clock 0 < d := by
  have went {next : AppState} (base : next.discriminant ≠ 5 ∧ next.discriminant ≠ 7)
      (settled : (settle snap maxPasses (later clock) next).1 = .waits after) : clock 0 < d := by
    have before : clock 0 ≤ later clock 0 := monotone (Nat.zero_le 2)
    have five : 0 < ticksOfSecs 5 := by decide
    have off := (settle_timer (monotone_later monotone) settled again).resolve_right
      (settle_not_pending settled base)
    omega
  cases screen with
  | offline | upstreamStale | cooking | awaitNextStage => cases armed
  | browse | startPending => exact @went .idle (by decide) waits
  | confirmStop | stopPending => exact @went (.cooking none) (by decide) waits
  | idle taken dimAt dimmed =>
    cases resume_rested waits with
    | stayed waits =>
      obtain rfl := idleTop_waits waits
      cases again
    | went returns settled =>
      have topped := idleTop_topped snap (clock 1) dimAt true
      exact went (topped.base returns).not_pending settled

namespace Screens

/-- The task's timer has run out. -/
def Due (s : Screens) (now : Nat) : Prop :=
  ∃ screen deadline, s.front = .waits screen ∧ screen.timer = some deadline ∧ deadline ≤ now

/-- **A timer that fires isn't armed in the past.** -/
theorem fired_later {s : Screens} {clock : Nat → Nat} (monotone : Monotone clock) (due : s.Due (clock 0))
    {after : Screen} (waits : (s.step (.timeout clock)).1.front = .waits after) {d : Nat}
    (again : after.timer = some d) : clock 0 < d := by
  obtain ⟨screen, deadline, at', armed, ripe⟩ := due
  obtain ⟨published, unseen, front⟩ := s
  obtain rfl : front = .waits screen := at'
  have fires : (screen.timer.any fun deadline => decide (deadline ≤ clock 0)) = true :=
    (Option.any_eq_true _ _).mpr ⟨deadline, armed, decide_eq_true ripe⟩
  have wakes : (Screens.mk published unseen (.waits screen)).step (.timeout clock) =
      Screens.woken ⟨published, unseen, .waits screen⟩ clock unseen (screen.onTimer published clock) := if_pos fires
  rw [wakes] at waits
  exact onTimer_later monotone armed waits again

theorem run_rests (inputs : List ScreenInput) :
    (∀ input ∈ inputs, input.Ticks) → (screens.run .start inputs).AtRest := by
  induction inputs using List.reverseRecOn with
  | nil => exact fun _ => .inl rfl
  | append_singleton inputs input ih =>
    intro ticks
    rw [Machine.run_append]
    have rests := ih fun input item => ticks input (List.mem_append_left _ item)
    exact step_rests (run_knows inputs) (ticks input (List.mem_append_right _ List.mem_cons_self)) rests

/-- **A wake comes to rest.** Over any run on a clock that goes on, the task is never stopped, nor sent from
handler to handler without an end, and a timer that fires leaves none armed that has run out. -/
theorem wakes_rest (inputs : List ScreenInput) (ticks : ∀ input ∈ inputs, input.Ticks) :
    (screens.run .start inputs).AtRest ∧
      ∀ clock, Monotone clock → (screens.run .start inputs).Due (clock 0) →
        ¬ (screens.next (screens.run .start inputs) (.timeout clock)).Due (clock 0) := by
  refine ⟨run_rests inputs ticks, ?_⟩
  rintro clock monotone due ⟨after, d, waits, again, ripe⟩
  have later := fired_later monotone due waits again
  omega

end Screens

theorem loafQuestion_ticks : ∀ input ∈ Kitchen.loafQuestion, input.Ticks := by
  intro input item
  simp only [Kitchen.loafQuestion, List.mem_cons, List.not_mem_nil, or_false] at item
  rcases item with rfl | rfl | rfl | rfl
  · exact monotone_const
  · trivial
  · exact monotone_const
  · exact monotone_const

theorem wakes_rest_loaf : (screens.run .start Kitchen.loafQuestion).AtRest :=
  (Screens.wakes_rest Kitchen.loafQuestion loafQuestion_ticks).1

/-! ## What is published -/

/-- An input that comes from the API task. -/
def ScreenInput.FromApi : ScreenInput → Prop
  | .publish _ | .apiChanged _ => True
  | _ => False

/-- A handler that is entered. -/
def ScreenEffect.enters : ScreenEffect → Bool
  | .recordAppState _ => true
  | _ => false

/-- None is entered. -/
def Undisturbed (effects : List ScreenEffect) : Prop := effects.all (fun effect => !effect.enters) = true

theorem settle_disturbs (snap : ScreenSnapshot) (passes : Nat) (clock : Nat → Nat) (state : AppState) :
    ¬ Undisturbed (settle snap (passes + 1) clock state).2 := by
  unfold settle
  cases pass : state.execute snap (clock 0) (clock 1) with
  | mk handled effects =>
    obtain ⟨more, rfl⟩ : ∃ more, effects = .recordAppState state.discriminant :: more :=
      ⟨_, (congrArg Prod.snd pass).symm⟩
    cases handled <;> exact Bool.false_ne_true

/-- Something new leaves the timer of a screen that it doesn't leave. -/
theorem onChanged_timer {snap : ScreenSnapshot} {screen after : Screen} {clock : Nat → Nat}
    (waits : (screen.onChanged snap clock).1 = .waits after) :
    after.timer = screen.timer ∧ after.discriminant = screen.discriminant := by
  cases screen with
  | offline =>
    change (if _ then _ else _ : Handled).1 = _ at waits
    split_ifs at waits
    cases waits
    exact ⟨rfl, rfl⟩
  | upstreamStale =>
    have own := (upstreamStaleTop_topped snap (clock 1)).own waits
    exact ⟨timer_none (.inr (.inr own)), own⟩
  | idle taken dimAt dimmed =>
    obtain rfl := idleTop_waits waits
    cases dimmed <;> exact ⟨rfl, rfl⟩
  | cooking title =>
    have own := (cookingTop_topped snap (clock 1) title).own waits
    exact ⟨timer_none (.inl own), own⟩
  | awaitNextStage =>
    have own := (awaitNextStageTop_topped snap (clock 1)).own waits
    exact ⟨timer_none (.inr (.inl own)), own⟩
  | browse taken index deadline =>
    exact ⟨browseTop_waits waits, (browseTop_topped snap (clock 1) index deadline).own waits⟩
  | confirmStop deadline =>
    obtain rfl := confirmStopTop_waits waits
    exact ⟨rfl, rfl⟩
  | startPending | stopPending =>
    change (if _ then _ else if _ then _ else _ : Handled).1 = _ at waits
    split_ifs at waits
    cases waits
    exact ⟨rfl, rfl⟩

namespace Screens

/-- Where a task waits. -/
def WaitsAs (s : Screens) (kind : Nat) (timer : Option Nat) : Prop :=
  ∃ screen, s.front = .waits screen ∧ screen.discriminant = kind ∧ screen.timer = timer

theorem undisturbed_append {a b : List ScreenEffect} :
    Undisturbed (a ++ b) ↔ Undisturbed a ∧ Undisturbed b := by
  unfold Undisturbed
  rw [List.all_append, Bool.and_eq_true]

/-- What comes from the API task keeps the timer of a screen that isn't left. -/
theorem step_quiet {s : Screens} {isLast : Rendering → Prop} (knows : s.Knows isLast) {kind : Nat}
    {timer : Option Nat} (waits : s.WaitsAs kind timer) {input : ScreenInput} (ticks : input.Ticks)
    (api : input.FromApi) (still : Undisturbed (s.step input).2) : (s.step input).1.WaitsAs kind timer := by
  have stepped := step_stepped s input
  generalize s.step input = out at stepped still ⊢
  cases stepped with
  | publishes | ignored => exact waits
  | boots | event | timeout => exact api.elim
  | @changed screen clock at' =>
    obtain ⟨screen', at'', rfl, rfl⟩ := waits
    cases at'.symm.trans at''
    obtain ⟨_, _, shows, _⟩ := knows _ at'
    have arm : Arm s.published clock screen _ True (screen.onChanged s.published clock) :=
      onChanged_arm shows clock
    obtain ⟨after, waits⟩ := arm.rests ticks
    change Undisturbed (resume s.published clock _).2 at still
    refine ⟨after, waits, ?_⟩
    cases resume_rested waits with
    | stayed waits => exact (onChanged_timer waits).symm
    | went returns settled said =>
      rw [said] at still
      exact absurd (undisturbed_append.mp still).2 (settle_disturbs _ _ _ _)

/-- **What is published never puts off a timer.** After any run, while the API task publishes whatever it
will, and however often, a screen that isn't left keeps the timer it had. -/
theorem quiet_timer (inputs more : List ScreenInput) (ticks : ∀ input ∈ inputs ++ more, input.Ticks)
    (api : ∀ input ∈ more, input.FromApi) {screen : Screen}
    (waits : (screens.run .start inputs).front = .waits screen)
    (still : Undisturbed (screens.trace (screens.run .start inputs) more)) :
    (screens.run .start (inputs ++ more)).WaitsAs screen.discriminant screen.timer := by
  induction more using List.reverseRecOn with
  | nil =>
    rw [List.append_nil]
    exact ⟨screen, waits, rfl, rfl⟩
  | append_singleton more input ih =>
    rw [← List.append_assoc] at ticks ⊢
    rw [Machine.trace_append, undisturbed_append, ← Machine.run_append] at still
    have before := ih (fun input item => ticks input (List.mem_append_left _ item))
      (fun input item => api input (List.mem_append_left _ item)) still.1
    have last : input ∈ inputs ++ more ++ [input] := List.mem_append_right _ List.mem_cons_self
    have now : Undisturbed (screens.effects (screens.run .start (inputs ++ more)) input) := by
      simpa only [Machine.trace_cons, Machine.trace_nil, List.append_nil] using still.2
    rw [Machine.run_append]
    exact step_quiet (run_knows _) before (ticks input last)
      (api input (List.mem_append_right _ List.mem_cons_self)) now

end Screens

/-- The loaf's question has its time, however often the loaf is published. -/
theorem quiet_timer_loaf :
    (screens.run .start (Kitchen.loafQuestion ++
      [.publish Kitchen.loafSnapshot, .apiChanged (Kitchen.stopped 3)])).WaitsAs 6 (some (2 + ticksOfSecs 5)) := by
  have api : ∀ input ∈ [ScreenInput.publish Kitchen.loafSnapshot, .apiChanged (Kitchen.stopped 3)],
      input.FromApi := by
    intro input item
    simp only [List.mem_cons, List.not_mem_nil, or_false] at item
    rcases item with rfl | rfl <;> trivial
  have ticks : ∀ input ∈ Kitchen.loafQuestion ++
      [.publish Kitchen.loafSnapshot, .apiChanged (Kitchen.stopped 3)], input.Ticks := by
    intro input item
    rcases List.mem_append.mp item with item | item
    · exact loafQuestion_ticks input item
    · simp only [List.mem_cons, List.not_mem_nil, or_false] at item
      rcases item with rfl | rfl
      · trivial
      · exact monotone_const
  have waits : (screens.run .start Kitchen.loafQuestion).front =
      .waits (.confirmStop (Screen.confirmDeadline 2)) := by decide
  exact Screens.quiet_timer Kitchen.loafQuestion _ ticks api waits (by unfold Undisturbed; decide)

/-! ## Brightness -/

/-- What the backlight was told. -/
def ScreenEffect.backlight? : ScreenEffect → Option BacklightCall
  | .backlight call => some call
  | _ => none

/-- What the backlight was told last. -/
def lastCall (effects : List ScreenEffect) : Option BacklightCall :=
  (effects.filterMap ScreenEffect.backlight?).getLast?

theorem lastCall_append (said effects : List ScreenEffect) :
    lastCall (said ++ effects) = (lastCall effects).or (lastCall said) := by
  unfold lastCall
  rw [List.filterMap_append, List.getLast?_append]

/-- How bright a screen is: the idle one may have dimmed. -/
def Screen.lit : Screen → BacklightCall
  | .idle _ _ true => .setDim
  | _ => .setFull

/-- A screen other than the idle one is bright. -/
theorem lit_full {screen : Screen} (at' : screen.discriminant ≠ 2) : screen.lit = .setFull := by
  cases screen with
  | idle => exact absurd rfl at'
  | _ => rfl

theorem Topped.dark {snap : ScreenSnapshot} {now of : Nat} {handled : Handled}
    (topped : Topped snap now of handled) :
    lastCall handled.2 = none := by cases topped <;> rfl

/-- Every handler is entered with the backlight full. -/
theorem execute_lit (snap : ScreenSnapshot) (start now : Nat) (state : AppState) :
    lastCall (state.execute snap start now).2 = some .setFull := by
  have full : lastCall state.onEntry = some .setFull := by cases state <;> rfl
  have handler : lastCall (state.handler snap start now).2 = none := by
    cases state with
    | offline | startPending | stopPending => rfl
    | _ => exact (handler_topped snap start now (by trivial)).dark
  show lastCall (state.onEntry ++ (state.handler snap start now).2) = _
  rw [lastCall_append, handler, full, Option.none_or]

/-- Handlers that are gone through leave the backlight full, at a screen that is. -/
theorem settle_lit {snap : ScreenSnapshot} {passes : Nat} {clock : Nat → Nat} {state : AppState}
    {screen : Screen} (waits : (settle snap passes clock state).1 = .waits screen) :
    lastCall (settle snap passes clock state).2 = some .setFull ∧ screen.lit = .setFull := by
  induction passes generalizing clock state with
  | zero => cases waits
  | succ passes ih =>
    have full := execute_lit snap (clock 0) (clock 1) state
    have passed := execute_passed snap (clock 0) (clock 1) state
    unfold settle at waits ⊢
    cases pass : state.execute snap (clock 0) (clock 1) with
    | mk handled effects =>
      rw [pass] at waits full passed
      cases passed with
      | leaves =>
        obtain ⟨after, lit⟩ := ih waits
        refine ⟨?_, lit⟩
        show lastCall (effects ++ _) = _
        rw [lastCall_append, after, Option.some_or]
      | waits own =>
        cases waits
        refine ⟨full, ?_⟩
        by_cases idle : state = .idle
        · subst idle
          obtain rfl := idleTop_waits (congrArg Prod.fst pass)
          rfl
        · refine lit_full fun at' => idle ?_
          have same := own.symm.trans at'
          cases state <;> first | rfl | cases same

section Light

variable {snap : ScreenSnapshot} {screen after : Screen} {said : List ScreenEffect}

/-- A loop that goes round leaves the backlight, at a screen that is bright. -/
theorem Topped.lit {now : Nat} {handled : Handled} (topped : Topped snap now screen.discriminant handled)
    (bright : screen.discriminant ≠ 2) (waits : handled.1 = .waits after)
    (lit : lastCall said = some screen.lit) (effects : List ScreenEffect) (dark : lastCall effects = none) :
    lastCall (said ++ (effects ++ handled.2)) = some after.lit := by
  have own := topped.own waits
  rw [lastCall_append, lastCall_append, topped.dark, dark, Option.none_or, Option.none_or, lit,
    lit_full bright, lit_full (by rwa [own])]

/-- A loop that goes round at once. -/
theorem Topped.lit' {now : Nat} {handled : Handled} (topped : Topped snap now screen.discriminant handled)
    (bright : screen.discriminant ≠ 2) (waits : handled.1 = .waits after)
    (lit : lastCall said = some screen.lit) : lastCall (said ++ handled.2) = some after.lit :=
  topped.lit bright waits lit [] rfl

/-- The idle screen's loop, after it was told to be as bright as it is. -/
theorem idleTop_lit {dimAt now : Nat} {dimmed : Bool} (effects : List ScreenEffect)
    (waits : (Screen.idleTop dimAt dimmed snap now).1 = .waits after)
    (told : lastCall (said ++ effects) = some (Screen.idle snap dimAt dimmed).lit) :
    lastCall (said ++ (effects ++ (Screen.idleTop dimAt dimmed snap now).2)) = some after.lit := by
  obtain rfl := idleTop_waits waits
  rw [← List.append_assoc, lastCall_append, (idleTop_topped snap now dimAt dimmed).dark, Option.none_or, told]

theorem onEvent_lit {event : InputEvent} {clock : Nat → Nat}
    (waits : (screen.onEvent snap event clock).1 = .waits after) (lit : lastCall said = some screen.lit) :
    lastCall (said ++ (screen.onEvent snap event clock).2) = some after.lit := by
  cases screen with
  | offline | startPending | stopPending =>
    cases waits
    rw [lastCall_append]
    exact lit
  | upstreamStale => exact (upstreamStaleTop_topped snap (clock 1)).lit' (Nat.ne_of_beq_eq_false rfl) waits lit
  | idle taken dimAt dimmed =>
    change (if _ then _ else _ : Handled).1 = _ at waits
    show lastCall (said ++ (if _ then _ else _ : Handled).2) = _
    split_ifs at waits ⊢
    exact idleTop_lit Screen.brighten waits (by rw [lastCall_append]; rfl)
  | cooking title =>
    cases event with
    | encoderCcw => cases waits
    | _ => exact (cookingTop_topped snap (clock 1) title).lit' (Nat.ne_of_beq_eq_false rfl) waits lit
  | awaitNextStage =>
    have topped := awaitNextStageTop_topped snap (clock 1)
    cases event with
    | encoderCcw => cases waits
    | encoderCw => exact topped.lit' (Nat.ne_of_beq_eq_false rfl) waits lit
    | encoderButton =>
      change (Screen.awaitNextStageTop snap (clock 1)).1 = _ at waits
      exact topped.lit (Nat.ne_of_beq_eq_false rfl) waits lit [.command .nextStage] rfl
  | browse taken index deadline =>
    cases event with
    | encoderCw => exact (browseTop_topped snap (clock 1) _ _).lit' (Nat.ne_of_beq_eq_false rfl) waits lit
    | encoderCcw =>
      change (if _ then _ else _ : Handled).1 = _ at waits
      show lastCall (said ++ (if _ then _ else _ : Handled).2) = _
      split_ifs at waits ⊢
      exact (browseTop_topped snap (clock 1) _ _).lit' (Nat.ne_of_beq_eq_false rfl) waits lit
    | encoderButton =>
      cases picked : taken.recipes[index]? with
      | some recipe =>
        rw [onEvent_picked picked] at waits
        cases waits
      | none =>
        rw [onEvent_unpicked picked] at waits ⊢
        exact (browseTop_topped snap (clock 1) _ _).lit' (Nat.ne_of_beq_eq_false rfl) waits lit
  | confirmStop deadline =>
    cases event with
    | encoderCcw => exact (confirmStopTop_topped snap (clock 1) _).lit' (Nat.ne_of_beq_eq_false rfl) waits lit
    | _ => cases waits

theorem onChanged_lit {clock : Nat → Nat} (waits : (screen.onChanged snap clock).1 = .waits after)
    (lit : lastCall said = some screen.lit) :
    lastCall (said ++ (screen.onChanged snap clock).2) = some after.lit := by
  cases screen with
  | offline =>
    change (if _ then _ else _ : Handled).1 = _ at waits
    show lastCall (said ++ (if _ then _ else _ : Handled).2) = _
    split_ifs at waits ⊢
    cases waits
    rw [lastCall_append]
    exact lit
  | upstreamStale => exact (upstreamStaleTop_topped snap (clock 1)).lit' (Nat.ne_of_beq_eq_false rfl) waits lit
  | idle taken dimAt dimmed =>
    refine idleTop_lit [] waits ?_
    rw [List.append_nil, lit]
    cases dimmed <;> rfl
  | cooking title => exact (cookingTop_topped snap (clock 1) title).lit' (Nat.ne_of_beq_eq_false rfl) waits lit
  | awaitNextStage => exact (awaitNextStageTop_topped snap (clock 1)).lit' (Nat.ne_of_beq_eq_false rfl) waits lit
  | browse taken index deadline =>
    exact (browseTop_topped snap (clock 1) _ _).lit' (Nat.ne_of_beq_eq_false rfl) waits lit
  | confirmStop deadline =>
    exact (confirmStopTop_topped snap (clock 1) _).lit' (Nat.ne_of_beq_eq_false rfl) waits lit
  | startPending | stopPending =>
    change (if _ then _ else if _ then _ else _ : Handled).1 = _ at waits
    show lastCall (said ++ (if _ then _ else if _ then _ else _ : Handled).2) = _
    split_ifs at waits ⊢
    cases waits
    rw [lastCall_append]
    exact lit

theorem onTimer_lit {clock : Nat → Nat} (waits : (screen.onTimer snap clock).1 = .waits after)
    (lit : lastCall said = some screen.lit) :
    lastCall (said ++ (screen.onTimer snap clock).2) = some after.lit := by
  cases screen with
  | idle taken dimAt dimmed => exact idleTop_lit _ waits (by rw [lastCall_append]; rfl)
  | browse | startPending | confirmStop | stopPending => cases waits
  | offline | upstreamStale | cooking | awaitNextStage =>
    cases waits
    rw [lastCall_append]
    exact lit

/-- A wake ends at a screen that is as bright as the backlight was told. -/
theorem resume_lit {clock : Nat → Nat} {handled : Handled} (waits : (resume snap clock handled).1 = .waits after)
    (arm : handled.1 = .waits after → lastCall (said ++ handled.2) = some after.lit) :
    lastCall (said ++ (resume snap clock handled).2) = some after.lit := by
  cases resume_rested waits with
  | stayed waits same =>
    rw [same]
    exact arm waits
  | went returns settled same =>
    obtain ⟨full, bright⟩ := settle_lit settled
    rw [same, lastCall_append, lastCall_append, full, Option.some_or, Option.some_or, bright]

end Light

namespace Screens

/-- The backlight is as its screen has it, and wasn't told anything before there is one. -/
structure Lit (s : Screens) (said : List ScreenEffect) : Prop where
  waits : ∀ screen, s.front = .waits screen → lastCall said = some screen.lit
  booting : s.front = .booting → lastCall said = none

/-- A wake ends somewhere. -/
theorem resume_not_booting (snap : ScreenSnapshot) (clock : Nat → Nat) (handled : Handled) :
    (resume snap clock handled).1 ≠ .booting := by
  have settled (passes : Nat) : ∀ (clock : Nat → Nat) (state : AppState),
      (settle snap passes clock state).1 ≠ .booting := by
    induction passes with
    | zero =>
      intro clock state eq
      cases eq
    | succ passes ih =>
      intro clock state
      unfold settle
      cases state.execute snap (clock 0) (clock 1) with
      | mk pass effects =>
        cases pass with
        | waits | panicked =>
          intro eq
          cases eq
        | returns next => exact ih (later clock) next
  obtain ⟨pass, effects⟩ := handled
  cases pass with
  | waits | panicked =>
    intro eq
    cases eq
  | returns next => exact settled maxPasses (later clock) next

theorem Lit.woken {s : Screens} {said : List ScreenEffect} {clock : Nat → Nat} {unseen : Bool}
    {handled : Handled}
    (arm : ∀ after, handled.1 = .waits after → lastCall (said ++ handled.2) = some after.lit) :
    (s.woken clock unseen handled).1.Lit (said ++ (s.woken clock unseen handled).2) where
  waits after waits := resume_lit waits (arm after)
  booting booting := absurd booting (resume_not_booting s.published clock handled)

theorem Lit.step {s : Screens} {said : List ScreenEffect} (lit : s.Lit said) (input : ScreenInput) :
    (s.step input).1.Lit (said ++ (s.step input).2) := by
  have stepped := step_stepped s input
  generalize s.step input = out at stepped ⊢
  cases stepped with
  | publishes | ignored =>
    rw [List.append_nil]
    exact ⟨lit.waits, lit.booting⟩
  | boots clock => exact .woken fun _ stays => nomatch stays
  | event event clock at' => exact .woken fun _ stays => onEvent_lit stays (lit.waits _ at')
  | changed clock at' => exact .woken fun _ stays => onChanged_lit stays (lit.waits _ at')
  | timeout clock at' => exact .woken fun _ stays => onTimer_lit stays (lit.waits _ at')

/-- **The backlight** was told last to be as bright as the screen that waits: dim at an idle screen that has
dimmed, and full at any other. -/
theorem run_lit (inputs : List ScreenInput) :
    (screens.run .start inputs).Lit (screens.trace .start inputs) := by
  have nothing : Screens.start.Lit [] := ⟨fun _ waits => (nomatch waits), fun _ => rfl⟩
  exact @Machine.run_told _ _ _ screens .start Lit nothing (fun _ _ input lit => lit.step input) inputs

end Screens

/-! ## Touches -/

namespace ScreenInput

/-- The clock of an input that comes with one. -/
def clock? : ScreenInput → Option (Nat → Nat)
  | .publish _ => none
  | .boot clock | .event _ clock | .apiChanged clock | .timeout clock => some clock

/-- When an input is a touch. -/
def touch : ScreenInput → Option Nat
  | .event _ clock => some (clock 0)
  | _ => none

/-- A touch comes before an input that is read later. -/
def Before (a b : ScreenInput) : Prop := ∀ t ∈ a.touch, ∀ clock ∈ b.clock?, t ≤ clock 0

end ScreenInput

/-- The touches among the inputs. -/
def touches (inputs : List ScreenInput) : List Nat := inputs.filterMap ScreenInput.touch

section Dims

variable {snap taken : ScreenSnapshot} {screen : Screen} {clock : Nat → Nat} {d : Nat} {dimmed : Bool}

theorem onEvent_idle {event : InputEvent}
    (waits : (screen.onEvent snap event clock).1 = .waits (.idle taken d dimmed)) :
    d = Screen.dimAtAfter (clock 0) ∧ dimmed = false := by
  cases screen with
  | offline | startPending | stopPending => cases waits
  | upstreamStale => cases (upstreamStaleTop_topped snap (clock 1)).own waits
  | idle snap' dimAt before =>
    change (if _ then _ else _ : Handled).1 = _ at waits
    split_ifs at waits
    cases idleTop_waits waits
    exact ⟨rfl, rfl⟩
  | cooking title =>
    cases event with
    | encoderCcw => cases waits
    | _ => cases (cookingTop_topped snap (clock 1) title).own waits
  | awaitNextStage =>
    cases event with
    | encoderCcw => cases waits
    | _ => cases (awaitNextStageTop_topped snap (clock 1)).own waits
  | browse snap' index deadline =>
    cases event with
    | encoderCw => cases (browseTop_topped snap (clock 1) _ _).own waits
    | encoderCcw =>
      change (if _ then _ else _ : Handled).1 = _ at waits
      split_ifs at waits
      cases (browseTop_topped snap (clock 1) _ _).own waits
    | encoderButton =>
      cases picked : snap'.recipes[index]? with
      | some recipe =>
        rw [onEvent_picked picked] at waits
        cases waits
      | none =>
        rw [onEvent_unpicked picked] at waits
        cases (browseTop_topped snap (clock 1) _ _).own waits
  | confirmStop deadline =>
    cases event with
    | encoderCcw => cases (confirmStopTop_topped snap (clock 1) _).own waits
    | _ => cases waits

theorem onChanged_idle (waits : (screen.onChanged snap clock).1 = .waits (.idle taken d dimmed)) :
    ∃ before, screen = .idle before d dimmed := by
  have kind := (onChanged_timer waits).2
  cases screen with
  | idle before =>
    cases idleTop_waits waits
    exact ⟨before, rfl⟩
  | _ => cases kind

theorem onTimer_idle (waits : (screen.onTimer snap clock).1 = .waits (.idle taken d dimmed))
    (armed : screen.timer.isSome) : dimmed = true ∧ ∃ before, screen = .idle before d false := by
  cases screen with
  | idle before dimAt dims =>
    cases idleTop_waits waits
    cases dims with
    | true => cases armed
    | false => exact ⟨rfl, before, rfl⟩
  | _ => cases waits

end Dims

namespace Screens

/-- **When the idle screen will dim**: five seconds after the input at the earliest, unless that leaves it as it
was, and isn't a touch. -/
theorem step_dimAt {s : Screens} {input : ScreenInput} (ticks : input.Ticks) {snap : ScreenSnapshot} {d : Nat}
    (waits : (s.step input).1.front = .waits (.idle snap d false)) :
    (∃ clock, input.clock? = some clock ∧ clock 0 + ticksOfSecs 5 ≤ d) ∨
      input.touch = none ∧ ∃ before, s.front = .waits (.idle before d false) := by
  have settled {clock : Nat → Nat} {next : AppState} (monotone : Monotone clock)
      (lands : (settle s.published maxPasses (later clock) next).1 = .waits (.idle snap d false)) :
      clock 0 + ticksOfSecs 5 ≤ d := by
    have before : clock 0 ≤ later clock 0 := monotone (Nat.zero_le 2)
    have off := (settle_timer (monotone_later monotone) lands rfl).resolve_right id
    omega
  have stepped := step_stepped s input
  generalize s.step input = out at stepped waits
  cases stepped with
  | publishes => exact .inr ⟨rfl, snap, waits⟩
  | ignored deaf =>
    refine .inr ⟨?_, snap, waits⟩
    cases input with
    | event event clock => exact absurd rfl (deaf _ event clock waits)
    | _ => rfl
  | boots clock => exact .inl ⟨clock, rfl, settled ticks waits⟩
  | event event clock at' =>
    refine .inl ⟨clock, rfl, ?_⟩
    cases resume_rested waits with
    | stayed stays => exact Nat.le_of_eq (onEvent_idle stays).1.symm
    | went _ lands => exact settled ticks lands
  | changed clock at' =>
    cases resume_rested waits with
    | stayed stays =>
      obtain ⟨before, rfl⟩ := onChanged_idle stays
      exact .inr ⟨rfl, before, at'⟩
    | went _ lands => exact .inl ⟨clock, rfl, settled ticks lands⟩
  | timeout clock at' armed =>
    cases resume_rested waits with
    | stayed stays => cases (onTimer_idle stays (by rw [armed]; rfl)).1
    | went _ lands => exact .inl ⟨clock, rfl, settled ticks lands⟩

/-- The idle screen waits to dim until five seconds after the last touch. -/
theorem run_untouched (inputs : List ScreenInput) (ticks : ∀ input ∈ inputs, input.Ticks)
    (inTime : inputs.Pairwise ScreenInput.Before) {snap : ScreenSnapshot} {d : Nat}
    (waits : (screens.run .start inputs).front = .waits (.idle snap d false)) :
    ∀ t ∈ touches inputs, t + ticksOfSecs 5 ≤ d := by
  induction inputs using List.reverseRecOn generalizing snap with
  | nil => cases waits
  | append_singleton inputs input ih =>
    obtain ⟨before, _, order⟩ := List.pairwise_append.mp inTime
    rw [Machine.run_append] at waits
    intro t touched
    obtain ⟨touch, item, at'⟩ := List.mem_filterMap.mp touched
    rcases step_dimAt (ticks input (List.mem_append_right _ List.mem_cons_self)) waits with
      ⟨clock, read, off⟩ | ⟨untouched, past, was⟩
    · rcases List.mem_append.mp item with earlier | now
      · have le := order touch earlier input List.mem_cons_self t at' clock read
        omega
      · cases List.mem_singleton.mp now
        cases input with
        | event event clock' =>
          cases read
          cases at'
          exact off
        | _ => cases at'
    · rcases List.mem_append.mp item with earlier | now
      · exact ih (fun input item => ticks input (List.mem_append_left _ item)) before was t
          (List.mem_filterMap.mpr ⟨touch, earlier, at'⟩)
      · cases List.mem_singleton.mp now
        exact nomatch untouched.symm.trans at'

/-- **How an idle screen comes to be dim**: it was, and isn't touched, or its timer fires. -/
theorem step_dimmed {s : Screens} {input : ScreenInput} {snap : ScreenSnapshot} {d : Nat}
    (waits : (s.step input).1.front = .waits (.idle snap d true)) :
    (input.touch = none ∧ ∃ before, s.front = .waits (.idle before d true)) ∨
      ∃ clock before, input = .timeout clock ∧ s.front = .waits (.idle before d false) ∧ d ≤ clock 0 := by
  have settled {clock : Nat → Nat} {next : AppState}
      (lands : (settle s.published maxPasses clock next).1 = .waits (.idle snap d true)) : False := by
    cases (settle_lit lands).2
  have stepped := step_stepped s input
  generalize s.step input = out at stepped waits
  cases stepped with
  | publishes => exact .inl ⟨rfl, snap, waits⟩
  | ignored deaf =>
    refine .inl ⟨?_, snap, waits⟩
    cases input with
    | event event clock => exact absurd rfl (deaf _ event clock waits)
    | _ => rfl
  | boots clock => exact (settled waits).elim
  | event event clock at' =>
    cases resume_rested waits with
    | went _ lands => exact (settled lands).elim
    | stayed stays => cases (onEvent_idle stays).2
  | changed clock at' =>
    cases resume_rested waits with
    | went _ lands => exact (settled lands).elim
    | stayed stays =>
      obtain ⟨before, rfl⟩ := onChanged_idle stays
      exact .inl ⟨rfl, before, at'⟩
  | timeout clock at' armed due =>
    cases resume_rested waits with
    | went _ lands => exact (settled lands).elim
    | stayed stays =>
      obtain ⟨_, before, rfl⟩ := onTimer_idle stays (by rw [armed]; rfl)
      cases armed
      exact .inr ⟨clock, before, rfl, at', due⟩

theorem run_dimmed (inputs : List ScreenInput) (ticks : ∀ input ∈ inputs, input.Ticks)
    (inTime : inputs.Pairwise ScreenInput.Before) {snap : ScreenSnapshot} {d : Nat}
    (waits : (screens.run .start inputs).front = .waits (.idle snap d true)) :
    ∃ past clock rest, inputs = past ++ .timeout clock :: rest ∧
      (∀ t ∈ touches past, t + ticksOfSecs 5 ≤ clock 0) ∧ touches rest = [] := by
  induction inputs using List.reverseRecOn generalizing snap with
  | nil => cases waits
  | append_singleton inputs input ih =>
    have earlier := (List.pairwise_append.mp inTime).1
    have ticks' : ∀ input ∈ inputs, input.Ticks := fun input item => ticks input (List.mem_append_left _ item)
    rw [Machine.run_append] at waits
    rcases step_dimmed waits with ⟨untouched, before, was⟩ | ⟨clock, before, rfl, was, due⟩
    · obtain ⟨past, clock, rest, rfl, touched, since⟩ := ih ticks' earlier was
      refine ⟨past, clock, rest ++ [input], by rw [List.append_assoc]; rfl, touched, ?_⟩
      unfold touches at since ⊢
      rw [List.filterMap_append, since, List.filterMap_cons_none untouched]
      rfl
    · refine ⟨inputs, clock, [], rfl, fun t touched => ?_, rfl⟩
      have off := run_untouched inputs ticks' earlier was t touched
      omega

/-- **Dim means untouched.** Over any run on a clock that goes on, where the backlight was last told to be dim a
timer fired that came five seconds or more after every touch until then, and there was no touch since. -/
theorem dim_untouched (inputs : List ScreenInput) (ticks : ∀ input ∈ inputs, input.Ticks)
    (inTime : inputs.Pairwise ScreenInput.Before) (dim : lastCall (screens.trace .start inputs) = some .setDim) :
    ∃ past clock rest, inputs = past ++ .timeout clock :: rest ∧
      (∀ t ∈ touches past, t + ticksOfSecs 5 ≤ clock 0) ∧ touches rest = [] := by
  have lit := run_lit inputs
  rcases run_rests inputs ticks with booting | ⟨screen, waits⟩
  · cases (lit.booting booting).symm.trans dim
  · have dims : screen.lit = .setDim := Option.some.inj ((lit.waits screen waits).symm.trans dim)
    cases screen with
    | idle snap d dimmed =>
      cases dimmed with
      | true => exact run_dimmed inputs ticks inTime waits
      | false => cases dims
    | _ => cases dims

end Screens

namespace Kitchen

/-- The idle screen is touched a second after it boots. Five seconds after the boot its timer isn't due, and five
after the touch it is. -/
def leftAlone : List ScreenInput :=
  [.boot (stopped 0), .event .encoderCcw (stopped (ticksOfSecs 1)), .timeout (stopped (ticksOfSecs 5)),
    .timeout (stopped (ticksOfSecs 6)), .publish .empty, .apiChanged (stopped (ticksOfSecs 7))]

end Kitchen

theorem dim_untouched_alone :
    ∃ past clock rest, Kitchen.leftAlone = past ++ .timeout clock :: rest ∧
      (∀ t ∈ touches past, t + ticksOfSecs 5 ≤ clock 0) ∧ touches rest = [] := by
  have ticks : ∀ input ∈ Kitchen.leftAlone, input.Ticks := by
    intro input item
    simp only [Kitchen.leftAlone, List.mem_cons, List.not_mem_nil, or_false] at item
    rcases item with rfl | rfl | rfl | rfl | rfl | rfl <;> first | exact monotone_const | trivial
  have inTime : Kitchen.leftAlone.Pairwise ScreenInput.Before := by
    simp [Kitchen.leftAlone, Kitchen.stopped, ScreenInput.Before, ScreenInput.touch, ScreenInput.clock?,
      ticksOfSecs]
  exact Screens.dim_untouched Kitchen.leftAlone ticks inTime (by decide)

end AnovaOven
