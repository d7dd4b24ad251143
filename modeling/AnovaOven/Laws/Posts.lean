import AnovaOven.Laws.ApiClient
import AnovaOven.Laws.Screens
import AnovaOven.Pico.Main
import Mathlib.Data.List.Count

/-!
# Laws of the firmware's requests

**Nothing is posted that wasn't pressed for, nor more often** (`posted_pressed`): over any interleaving of the
two tasks, a command is posted to the server at most as often as the screens sent it. On its way it is in the
channel, or it waits at the API task, which keeps one of a kind and the recipe of the last start only: both
may lose a command, and neither makes one.
-/

namespace AnovaOven

/-- The request a command stands for. -/
def ApiCommand.posts : ApiCommand → ApiRequest
  | .start recipeId => .postStart recipeId
  | .stop => .postStop
  | .nextStage => .postNextStage

/-- The kinds that post. -/
def EventKind.Acts : EventKind → Prop
  | .apiStart | .apiStop | .apiNextStage => True
  | .pollStatus | .pollCurrentCook | .pollRecipes => False

namespace ApiRuntime

/-- So many of a kind are queued. -/
def queued (r : ApiRuntime) (kind : EventKind) : Nat := if (r.due kind).isSome then 1 else 0

/-- So many of a command wait at the task. -/
def waiting (r : ApiRuntime) : ApiCommand → Nat
  | .start recipeId => if r.pendingStartRecipeId = some recipeId then 1 else 0
  | .stop => r.queued .apiStop
  | .nextStage => r.queued .apiNextStage

/-- What leaves all that waits to be posted. -/
structure Leaves (r r' : ApiRuntime) : Prop where
  tidy : r'.eventQueue.Tidy
  due : ∀ kind, kind.Acts → r'.due kind = r.due kind
  pending : r'.pendingStartRecipeId = r.pendingStartRecipeId

variable {r r' : ApiRuntime}

theorem Leaves.refl (tidy : r.eventQueue.Tidy) : Leaves r r := ⟨tidy, fun _ _ => rfl, rfl⟩

theorem Leaves.waiting (leaves : Leaves r r') (cmd : ApiCommand) : r'.waiting cmd = r.waiting cmd := by
  cases cmd with
  | start recipeId =>
    unfold ApiRuntime.waiting
    rw [leaves.pending]
  | stop =>
    unfold ApiRuntime.waiting queued
    rw [leaves.due .apiStop trivial]
  | nextStage =>
    unfold ApiRuntime.waiting queued
    rw [leaves.due .apiNextStage trivial]

theorem Leaves.enqueue (leaves : Leaves r r') (kind : EventKind) (poll : ¬ kind.Acts) (time : Nat)
    (mode : EnqueueMode) : Leaves r (r'.enqueue kind time mode) := by
  refine ⟨(leaves.tidy.enqueue kind time mode).2.1, ?_, leaves.pending⟩
  intro wanted acts
  rw [due_enqueue leaves.tidy, Function.update_of_ne, leaves.due wanted acts]
  rintro rfl
  exact poll acts

theorem Leaves.withSnapshot (leaves : Leaves r r') (snapshot : ApiSnapshot) :
    Leaves r { r' with snapshot := snapshot } := ⟨leaves.tidy, leaves.due, leaves.pending⟩

theorem Leaves.reconcile (leaves : Leaves r r') : Leaves r r'.reconcileCurrentCookRecipeTitle := by
  unfold reconcileCurrentCookRecipeTitle
  split
  · exact leaves
  · split
    · exact leaves
    · split
      · exact leaves
      · exact leaves.withSnapshot _

theorem Leaves.installAnswer (leaves : Leaves r r') (turn : ApiTurn) : Leaves r (r'.installAnswer turn) := by
  unfold ApiRuntime.installAnswer
  split
  · exact (leaves.withSnapshot _).withSnapshot _
  · exact (leaves.withSnapshot _).withSnapshot _
  · exact leaves.withSnapshot _

theorem Leaves.queuePostActionRefresh (leaves : Leaves r r') (now : Nat) :
    Leaves r (r'.queuePostActionRefresh now) := (leaves.enqueue _ id _ _).enqueue _ id _ _

/-! ## A command -/

/-- A kind that is asked for waits once, and the others do as they did. -/
theorem enqueue_queued (tidy : r.eventQueue.Tidy) (kind wanted : EventKind) (time : Nat) (mode : EnqueueMode) :
    (r.enqueue kind time mode).queued wanted ≤ r.queued wanted + if wanted = kind then 1 else 0 := by
  unfold queued
  rw [due_enqueue tidy]
  by_cases same : wanted = kind
  · subst same
    simp
  · simp [same]

/-- A kind asked for adds itself to what waits, at most. -/
theorem enqueue_waiting (tidy : r.eventQueue.Tidy) (kind : EventKind) (time : Nat) (mode : EnqueueMode)
    (cmd : ApiCommand) : (r.enqueue kind time mode).waiting cmd ≤
      r.waiting cmd + if (cmd = .stop ∧ kind = .apiStop) ∨ (cmd = .nextStage ∧ kind = .apiNextStage) then 1 else 0 := by
  cases cmd with
  | start recipeId => exact Nat.le_add_right _ _
  | stop => simpa [waiting, eq_comm] using enqueue_queued tidy kind .apiStop time mode
  | nextStage => simpa [waiting, eq_comm] using enqueue_queued tidy kind .apiNextStage time mode

/-- A command that is taken waits once at most. -/
theorem handleCommand_waiting (tidy : r.eventQueue.Tidy) (now : Nat) (taken cmd : ApiCommand) :
    (r.handleCommand now taken).eventQueue.Tidy ∧
      (r.handleCommand now taken).waiting cmd ≤ r.waiting cmd + if taken = cmd then 1 else 0 := by
  cases taken with
  | start recipeId =>
    refine ⟨(tidy.enqueue .apiStart now .preferEarlier).2.1, ?_⟩
    have staged : ({ r with pendingStartRecipeId := some recipeId } : ApiRuntime).waiting cmd ≤
        r.waiting cmd + if ApiCommand.start recipeId = cmd then 1 else 0 := by
      cases cmd with
      | start other =>
        by_cases same : recipeId = other
        · simp [waiting, same]
        · simp [waiting, same]
      | stop | nextStage => exact Nat.le_add_right _ _
    refine Nat.le_trans (enqueue_waiting (r := { r with pendingStartRecipeId := some recipeId }) tidy .apiStart now
      .preferEarlier cmd) ?_
    simpa using staged
  | stop =>
    have queued := (tidy.enqueue .apiStop now .preferEarlier).2.1
    have leaves := (Leaves.refl (r := r.enqueue .apiStop now .preferEarlier) queued).queuePostActionRefresh now
    refine ⟨leaves.tidy, ?_⟩
    show (ApiRuntime.queuePostActionRefresh _ now).waiting cmd ≤ _
    rw [leaves.waiting]
    refine Nat.le_trans (enqueue_waiting tidy .apiStop now .preferEarlier cmd) ?_
    simp [eq_comm]
  | nextStage =>
    have queued := (tidy.enqueue .apiNextStage now .preferEarlier).2.1
    have leaves := (Leaves.refl (r := r.enqueue .apiNextStage now .preferEarlier) queued).queuePostActionRefresh now
    refine ⟨leaves.tidy, ?_⟩
    show (ApiRuntime.queuePostActionRefresh _ now).waiting cmd ≤ _
    rw [leaves.waiting]
    refine Nat.le_trans (enqueue_waiting tidy .apiNextStage now .preferEarlier cmd) ?_
    simp [eq_comm]

/-! ## An event -/

/-- A poll leaves what waits, and posts nothing. -/
theorem handlePoll_leaves {kind : EventKind} (tidy : r.eventQueue.Tidy) (poll : ¬ kind.Acts) (turn : ApiTurn) :
    Leaves r (r.handleEvent turn kind).1 ∧
      ∀ cmd : ApiCommand, ApiEffect.request cmd.posts ∉ (r.handleEvent turn kind).2 := by
  cases kind with
  | apiStart | apiStop | apiNextStage => exact absurd trivial poll
  | pollStatus =>
    show Leaves r (r.handlePollStatus turn).1 ∧ _
    unfold handleEvent handlePollStatus
    split
    · exact ⟨(Leaves.refl tidy).enqueue _ id _ _, fun cmd => by cases cmd <;> simp⟩
    · exact ⟨((Leaves.refl tidy).installAnswer turn).enqueue _ id _ _,
        fun cmd => by cases cmd <;> simp [ApiCommand.posts]⟩
  | pollCurrentCook =>
    show Leaves r (r.handlePollCurrentCook turn).1 ∧ _
    unfold handleEvent handlePollCurrentCook
    split
    · exact ⟨(Leaves.refl tidy).enqueue _ id _ _, fun cmd => by cases cmd <;> simp⟩
    · refine ⟨Leaves.enqueue ?_ _ id _ _, fun cmd => by cases cmd <;> simp [ApiCommand.posts]⟩
      split
      · exact ((Leaves.refl tidy).withSnapshot _).reconcile
      · exact (Leaves.refl tidy).withSnapshot _
      · exact Leaves.refl tidy
  | pollRecipes =>
    show Leaves r (r.handlePollRecipes turn).1 ∧ _
    unfold handleEvent handlePollRecipes
    refine ⟨Leaves.enqueue (Leaves.reconcile ?_) _ id _ _, fun cmd => by cases cmd <;> simp [ApiCommand.posts]⟩
    split
    · exact (Leaves.refl tidy).withSnapshot _
    · exact Leaves.refl tidy

/-- A pop takes the kind it gives off what is queued. -/
theorem Pops.queued_left {now : Nat} {event : ScheduledEvent} {q : EventQueue} (pops : r.Pops now event q)
    (kind : EventKind) :
    ApiRuntime.queued { r with eventQueue := q } kind + (if event.kind = kind then 1 else 0) = r.queued kind := by
  have left : due { r with eventQueue := q } kind = Function.update r.due event.kind none kind :=
    congrFun pops.left kind
  unfold ApiRuntime.queued
  rw [left]
  by_cases popped : event.kind = kind
  · subst popped
    simp [pops.queued]
  · simp [popped, Ne.symm popped]

/-- What waits when a pop has given an event. -/
theorem Pops.waiting_left {now : Nat} {event : ScheduledEvent} {q : EventQueue} (pops : r.Pops now event q)
    (cmd : ApiCommand) : ApiRuntime.waiting { r with eventQueue := q } cmd +
      (if (cmd = .stop ∧ event.kind = .apiStop) ∨ (cmd = .nextStage ∧ event.kind = .apiNextStage) then 1 else 0) =
        r.waiting cmd := by
  cases cmd with
  | start recipeId => simp [ApiRuntime.waiting]
  | stop => simpa [ApiRuntime.waiting] using pops.queued_left .apiStop
  | nextStage => simpa [ApiRuntime.waiting] using pops.queued_left .apiNextStage

/-- A start that is popped posts the recipe that waits. -/
theorem handleApiStart_posts (tidy : r.eventQueue.Tidy) (turn : ApiTurn) (cmd : ApiCommand) :
    (r.handleApiStart turn).1.eventQueue.Tidy ∧
      (r.handleApiStart turn).2.count (.request cmd.posts) + (r.handleApiStart turn).1.waiting cmd ≤
        r.waiting cmd := by
  unfold handleApiStart
  cases staged : r.pendingStartRecipeId with
  | none => exact ⟨tidy, by simp⟩
  | some recipeId =>
    have leaves := ((Leaves.refl (r := { r with pendingStartRecipeId := none }) tidy).enqueue
      .pollStatus id (turn.clock 0 + ticksOfSecs postActionCookRefreshDelaySecs) .preferEarlier).enqueue
      .pollCurrentCook id (turn.clock 0 + ticksOfSecs postStartCurrentCookRefreshDelaySecs) .preferEarlier
    refine ⟨leaves.tidy, ?_⟩
    rw [leaves.waiting]
    cases cmd with
    | start other => simp [ApiCommand.posts, waiting, staged, List.count_singleton]
    | stop | nextStage =>
      rw [List.count_eq_zero.mpr (by simp [ApiCommand.posts]), Nat.zero_add]
      exact Nat.le_refl _

/-- **A turn posts** what waited, and no more of it. -/
theorem drain_posts (tidy : r.eventQueue.Tidy) (turn : ApiTurn) (cmd : ApiCommand) :
    (r.drain turn).1.eventQueue.Tidy ∧
      (r.drain turn).2.count (.request cmd.posts) + (r.drain turn).1.waiting cmd ≤ r.waiting cmd := by
  unfold drain
  rcases popDue_pops tidy turn.now with found | ⟨event, q, found, pops⟩
  · rw [found]
    exact ⟨tidy, by simp⟩
  · rw [found]
    have left := pops.waiting_left cmd
    dsimp only
    by_cases acts : event.kind.Acts
    · cases isKind : event.kind with
      | pollStatus | pollCurrentCook | pollRecipes =>
        rw [isKind] at acts
        exact acts.elim
      | apiStart =>
        obtain ⟨kept, posted⟩ := handleApiStart_posts (r := { r with eventQueue := q }) pops.tidy turn cmd
        refine ⟨kept, Nat.le_trans posted ?_⟩
        rw [← left]
        exact Nat.le_add_right _ _
      | apiStop =>
        refine ⟨pops.tidy, ?_⟩
        rw [isKind] at left
        rw [← left, Nat.add_comm]
        cases cmd <;> simp [handleEvent, handleApiStop, ApiCommand.posts]
      | apiNextStage =>
        refine ⟨pops.tidy, ?_⟩
        rw [isKind] at left
        rw [← left, Nat.add_comm]
        cases cmd <;> simp [handleEvent, handleApiNextStage, ApiCommand.posts]
    · obtain ⟨leaves, quiet⟩ := handlePoll_leaves (r := { r with eventQueue := q }) pops.tidy acts turn
      refine ⟨leaves.tidy, ?_⟩
      rw [leaves.waiting, List.count_eq_zero.mpr (quiet cmd), Nat.zero_add, ← left]
      exact Nat.le_add_right _ _

end ApiRuntime

/-! ## The tasks -/

namespace Pico

/-- So many of a command are on their way: in the channel, or waiting at the API task. -/
def outstanding (p : Pico) (cmd : ApiCommand) : Nat := p.commands.queue.count cmd + p.api.waiting cmd

variable {p : Pico}

/-- Of a command, the channel takes no more than is sent. -/
theorem sendCommand_count (effects : List ScreenEffect) (commands : Channel ApiCommand commandCapacity)
    (cmd : ApiCommand) : (effects.foldl sendCommand commands).queue.count cmd ≤
      commands.queue.count cmd + effects.count (.command cmd) := by
  induction effects generalizing commands with
  | nil => exact Nat.le_refl _
  | cons effect effects ih =>
    refine Nat.le_trans (ih (sendCommand commands effect)) ?_
    rw [List.count_cons]
    cases effect with
    | command sent =>
      have taken : (commands.trySend sent).queue.count cmd ≤
          commands.queue.count cmd + if sent = cmd then 1 else 0 := by
        rcases commands.queue_trySend sent with queued | lost
        · simp [queued, List.count_append, List.count_singleton]
        · simp [lost]
      have same : ((ScreenEffect.command sent == .command cmd) : Bool) = (sent == cmd) := by
        simp
      simp only [sendCommand, same, beq_iff_eq]
      omega
    | _ => simp [sendCommand]

/-- What the screens send goes into the channel. -/
theorem wake_spends (p : Pico) (input : ScreenInput) (cmd : ApiCommand) :
    (p.wake input).1.api = p.api ∧
      (p.wake input).2.count (.request cmd.posts) + (p.wake input).1.outstanding cmd ≤
        p.outstanding cmd + (p.wake input).2.count (.screen (.command cmd)) := by
  have sends : ∀ step : Screens × List ScreenEffect,
      (step.2.map PicoEffect.screen).count (.request cmd.posts) +
        outstanding { p with screens := step.1, commands := step.2.foldl sendCommand p.commands } cmd ≤
          p.outstanding cmd + (step.2.map PicoEffect.screen).count (.screen (.command cmd)) := by
    intro step
    have none' : (step.2.map PicoEffect.screen).count (.request cmd.posts) = 0 :=
      List.count_eq_zero.mpr (by simp)
    rw [none', List.count_map_of_injective _ _ fun _ _ => PicoEffect.screen.inj]
    have queued := sendCommand_count step.2 p.commands cmd
    unfold outstanding
    dsimp only
    omega
  cases input with
  | publish snapshot => exact ⟨rfl, by simp [wake]⟩
  | _ => exact ⟨rfl, sends _⟩

/-- What the API task asks of the server. -/
theorem count_requests (effects : List ApiEffect) (asked : ApiRequest) :
    ((effects.filterMap ApiEffect.request?).map PicoEffect.request).count (.request asked) =
      effects.count (.request asked) := by
  rw [List.count_map_of_injective _ _ fun _ _ => PicoEffect.request.inj]
  induction effects with
  | nil => rfl
  | cons effect effects ih =>
    cases effect with
    | request other => simpa [ApiEffect.request?, List.count_cons] using ih
    | publish snapshot =>
      rw [List.filterMap_cons_none rfl]
      simpa [List.count_cons] using ih

/-- A step posts what was on its way, and sends on its way what was pressed for. -/
theorem step_spends (p : Pico) (input : PicoInput) (tidy : p.api.eventQueue.Tidy) (cmd : ApiCommand) :
    (p.step input).1.api.eventQueue.Tidy ∧
      (p.step input).2.count (.request cmd.posts) + (p.step input).1.outstanding cmd ≤
        p.outstanding cmd + (p.step input).2.count (.screen (.command cmd)) := by
  have idle : ([] : List PicoEffect).count (.request cmd.posts) + p.outstanding cmd ≤
      p.outstanding cmd + ([] : List PicoEffect).count (.screen (.command cmd)) := by
    simp
  cases input with
  | screens input =>
    obtain ⟨same, spends⟩ := p.wake_spends input cmd
    refine ⟨?_, spends⟩
    rw [show (p.step (.screens input)).1.api = p.api from same]
    exact tidy
  | takeCommand now =>
    unfold step
    dsimp only
    split
    · rename_i command commands _ taken
      obtain ⟨kept, waits⟩ := ApiRuntime.handleCommand_waiting tidy now command cmd
      refine ⟨kept, ?_⟩
      have queue := Channel.queue_receive taken
      unfold outstanding
      rw [queue, List.count_cons]
      simp only [List.count_nil, beq_iff_eq]
      omega
    · exact ⟨tidy, idle⟩
  | drain turn given =>
    unfold step
    dsimp only
    split
    · obtain ⟨kept, posts⟩ := ApiRuntime.drain_posts tidy turn cmd
      refine ⟨kept, ?_⟩
      unfold drain outstanding
      dsimp only
      rw [count_requests]
      omega
    · exact ⟨tidy, idle⟩
  | publish =>
    unfold step
    dsimp only
    split
    · exact ⟨tidy, idle⟩
    · exact ⟨tidy, idle⟩

end Pico

/-- **Nothing is posted that wasn't pressed for, nor more often.** Whatever order the tasks take their turns
in, a command is posted at most as often as the screens sent it. -/
theorem posted_pressed (boot : Nat) (is : List PicoInput) (cmd : ApiCommand) :
    (pico.trace (.boot boot) is).count (.request cmd.posts) ≤
      (pico.trace (.boot boot) is).count (.screen (.command cmd)) := by
  have start : (Pico.boot boot).api.eventQueue.Tidy := (ApiRuntime.new_follows boot).toStaged.tidy
  have none' : (Pico.boot boot).outstanding cmd = 0 := by
    cases cmd <;> rfl
  have spent := pico.run_spends (I := fun p => p.api.eventQueue.Tidy) (fun p => p.outstanding cmd)
    (fun p i tidy => (p.step_spends i tidy cmd).1) (fun p i tidy => (p.step_spends i tidy cmd).2) start is
  rw [none', Nat.zero_add] at spent
  exact Nat.le_trans (Nat.le_add_right _ _) spent

end AnovaOven
