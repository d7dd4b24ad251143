import AnovaOven.Laws.Scheduler
import AnovaOven.Pico.ApiClient

/-!
# Laws of the pico's commands

**What is sent last** (`lastSent_lastIssued`): once no start and no stop waits, the last one sent is
the last one the user asked for, where every command was to go after the other kind that waited when
it was given, and no pop turned two that are due at one tick around.

A command folded into an entry that already waits keeps that entry's earlier time, so a start given
after a stop goes out before it where an older start still waits (`commands_reordered`).
-/

namespace AnovaOven

open ApiRuntime

/-! ## Commands given and sent -/

/-- The start or stop a turn takes from the user, as the request it stands for. -/
def ApiInput.issues : ApiInput → Option ApiRequest
  | .command (.start recipeId) _ => some (.postStart recipeId)
  | .command .stop _ => some .postStop
  | _ => none

/-- The start or stop an effect sends. -/
def ApiEffect.sends : ApiEffect → Option ApiRequest
  | .request (.postStart recipeId) => some (.postStart recipeId)
  | .request .postStop => some .postStop
  | _ => none

/-- The last start or stop the user asked for. -/
def lastIssued (is : List ApiInput) : Option ApiRequest := (is.filterMap ApiInput.issues).getLast?

/-- The last start or stop sent. -/
def lastSent (effects : List ApiEffect) : Option ApiRequest :=
  (effects.filterMap ApiEffect.sends).getLast?

theorem lastIssued_append (is : List ApiInput) (i : ApiInput) :
    lastIssued (is ++ [i]) = i.issues.or (lastIssued is) := by
  unfold lastIssued
  rw [List.filterMap_append, List.getLast?_append]
  cases h : i.issues <;> simp [h]

theorem lastSent_append (said now : List ApiEffect) :
    lastSent (said ++ now) = (lastSent now).or (lastSent said) := by
  unfold lastSent
  rw [List.filterMap_append, List.getLast?_append]

namespace ApiRuntime

variable {r r' : ApiRuntime} {turn : ApiTurn} {now : Nat}

/-- When an event of a kind is due. -/
def due (r : ApiRuntime) (kind : EventKind) : Option Nat := r.eventQueue.timetable kind

/-- A start or a stop. -/
def steers (kind : EventKind) : Prop := kind = .apiStart ∨ kind = .apiStop

theorem priority_of_steers {kind : EventKind} (h : steers kind) : kind.priority = 0 := by
  rcases h with rfl | rfl <;> rfl

/-- Of two kinds that wait, the one is popped before the other: it is due sooner, or at the same tick
and stands ahead. -/
def GoesFirst (r : ApiRuntime) (kind kind' : EventKind) : Prop :=
  ∃ time time', r.due kind = some time ∧ r.due kind' = some time' ∧
    (time < time' ∨ time = time' ∧ Unordered.Ahead r.eventQueue.order kind kind')

theorem GoesFirst.ne {kind kind' : EventKind} (tidy : r.eventQueue.Tidy)
    (h : r.GoesFirst kind kind') : kind ≠ kind' := by
  rintro rfl
  obtain ⟨time, time', isTime, isTime', order⟩ := h
  obtain rfl := Option.some.inj (isTime.symm.trans isTime')
  rcases order with sooner | ⟨_, ahead⟩
  · exact Nat.lt_irrefl _ sooner
  · exact absurd (tidy.nodup_order.sublist ahead) (by simp)

/-- What a turn does that is about neither a start nor a stop. -/
structure Keeps (r r' : ApiRuntime) : Prop where
  tidy : r'.eventQueue.Tidy
  due : ∀ kind, steers kind → r'.due kind = r.due kind
  pending : r'.pendingStartRecipeId = r.pendingStartRecipeId
  first : ∀ kind kind', steers kind → steers kind' → r.GoesFirst kind kind' → r'.GoesFirst kind kind'

theorem Keeps.refl (tidy : r.eventQueue.Tidy) : Keeps r r :=
  ⟨tidy, fun _ _ => rfl, rfl, fun _ _ _ _ => id⟩

/-- A kind asked for is due then, or earlier where it already was. -/
theorem due_enqueue (tidy : r.eventQueue.Tidy) (kind : EventKind) (time : Nat) (mode : EnqueueMode) :
    (r.enqueue kind time mode).due =
      Function.update r.due kind (some (Timetable.merge mode (r.due kind) time)) :=
  (tidy.enqueue kind time mode).2.2

/-- What stands ahead of what isn't changed by a kind asked for. -/
theorem ahead_enqueue {kind kind' : EventKind} (tidy : r.eventQueue.Tidy)
    (ahead : Unordered.Ahead r.eventQueue.order kind kind') (asked : EventKind) (time : Nat)
    (mode : EnqueueMode) :
    Unordered.Ahead (r.enqueue asked time mode).eventQueue.order kind kind' := by
  show Unordered.Ahead (r.eventQueue.enqueue asked time mode).2.order kind kind'
  rw [tidy.order_enqueue]
  split
  · exact ahead
  · exact ahead.append [asked]

theorem Keeps.enqueue {kind : EventKind} (h : Keeps r r') (other : ¬ steers kind) (time : Nat)
    (mode : EnqueueMode) : Keeps r (r'.enqueue kind time mode) := by
  have due : ∀ wanted, steers wanted → (r'.enqueue kind time mode).due wanted = r'.due wanted := by
    intro wanted isWanted
    rw [due_enqueue h.tidy, Function.update_of_ne]
    rintro rfl
    exact other isWanted
  refine ⟨(h.tidy.enqueue kind time mode).2.1, ?_, h.pending, ?_⟩
  · intro wanted isWanted
    rw [due wanted isWanted, h.due wanted isWanted]
  · intro first second isFirst isSecond goesFirst
    obtain ⟨time₁, time₂, isTime₁, isTime₂, order⟩ := h.first first second isFirst isSecond goesFirst
    refine ⟨time₁, time₂, (due first isFirst).trans isTime₁, (due second isSecond).trans isTime₂, ?_⟩
    exact order.imp id fun ⟨same, ahead⟩ => ⟨same, ahead_enqueue h.tidy ahead kind time mode⟩

theorem Keeps.withSnapshot (h : Keeps r r') (snapshot : ApiSnapshot) :
    Keeps r { r' with snapshot := snapshot } :=
  ⟨h.tidy, h.due, h.pending, h.first⟩

theorem not_steers_pollStatus : ¬ steers .pollStatus := by simp [steers]
theorem not_steers_pollCurrentCook : ¬ steers .pollCurrentCook := by simp [steers]
theorem not_steers_pollRecipes : ¬ steers .pollRecipes := by simp [steers]
theorem not_steers_apiNextStage : ¬ steers .apiNextStage := by simp [steers]

theorem Keeps.reconcile (h : Keeps r r') : Keeps r r'.reconcileCurrentCookRecipeTitle := by
  unfold reconcileCurrentCookRecipeTitle
  split
  · exact h
  · split
    · exact h
    · split
      · exact h
      · exact h.withSnapshot _

theorem Keeps.installAnswer (h : Keeps r r') (turn : ApiTurn) : Keeps r (r'.installAnswer turn) := by
  unfold ApiRuntime.installAnswer
  split
  · exact (h.withSnapshot _).withSnapshot _
  · exact (h.withSnapshot _).withSnapshot _
  · exact h.withSnapshot _

theorem Keeps.queuePostActionRefresh (h : Keeps r r') (now : Nat) :
    Keeps r (r'.queuePostActionRefresh now) :=
  (h.enqueue not_steers_pollStatus _ _).enqueue not_steers_pollCurrentCook _ _

/-! ## Handling an event -/

theorem handlePollStatus_keeps (tidy : r.eventQueue.Tidy) (turn : ApiTurn) :
    Keeps r (r.handlePollStatus turn).1 ∧ lastSent (r.handlePollStatus turn).2 = none := by
  unfold handlePollStatus
  split
  · exact ⟨(Keeps.refl tidy).enqueue not_steers_pollStatus _ _, rfl⟩
  · exact ⟨((Keeps.refl tidy).installAnswer turn).enqueue not_steers_pollStatus _ _, rfl⟩

theorem handlePollCurrentCook_keeps (tidy : r.eventQueue.Tidy) (turn : ApiTurn) :
    Keeps r (r.handlePollCurrentCook turn).1 ∧ lastSent (r.handlePollCurrentCook turn).2 = none := by
  unfold handlePollCurrentCook
  split
  · exact ⟨(Keeps.refl tidy).enqueue not_steers_pollCurrentCook _ _, rfl⟩
  · refine ⟨Keeps.enqueue ?_ not_steers_pollCurrentCook _ _, rfl⟩
    split
    · exact ((Keeps.refl tidy).withSnapshot _).reconcile
    · exact (Keeps.refl tidy).withSnapshot _
    · exact Keeps.refl tidy

theorem handlePollRecipes_keeps (tidy : r.eventQueue.Tidy) (turn : ApiTurn) :
    Keeps r (r.handlePollRecipes turn).1 ∧ lastSent (r.handlePollRecipes turn).2 = none := by
  unfold handlePollRecipes
  refine ⟨Keeps.enqueue (Keeps.reconcile ?_) not_steers_pollRecipes _ _, rfl⟩
  split
  · exact (Keeps.refl tidy).withSnapshot _
  · exact Keeps.refl tidy

/-- An event that is neither a start nor a stop leaves both, and sends neither. -/
theorem handleEvent_keeps {kind : EventKind} (tidy : r.eventQueue.Tidy) (other : ¬ steers kind)
    (turn : ApiTurn) :
    Keeps r (r.handleEvent turn kind).1 ∧ lastSent (r.handleEvent turn kind).2 = none := by
  cases kind with
  | pollStatus => exact handlePollStatus_keeps tidy turn
  | pollCurrentCook => exact handlePollCurrentCook_keeps tidy turn
  | pollRecipes => exact handlePollRecipes_keeps tidy turn
  | apiNextStage => exact ⟨Keeps.refl tidy, rfl⟩
  | apiStart => exact absurd (.inl rfl) other
  | apiStop => exact absurd (.inr rfl) other

/-- A start handled with its recipe staged is sent, and its recipe is staged no more. -/
theorem handleApiStart_sends {recipeId : String} (tidy : r.eventQueue.Tidy)
    (staged : r.pendingStartRecipeId = some recipeId) (turn : ApiTurn) :
    Keeps { r with pendingStartRecipeId := none } (r.handleApiStart turn).1 ∧
      lastSent (r.handleApiStart turn).2 = some (.postStart recipeId) := by
  unfold handleApiStart
  rw [staged]
  have kept : Keeps { r with pendingStartRecipeId := none } { r with pendingStartRecipeId := none } :=
    Keeps.refl tidy
  exact ⟨(kept.enqueue not_steers_pollStatus _ _).enqueue not_steers_pollCurrentCook _ _, rfl⟩

/-! ## The staged recipe -/

/-- A recipe is staged exactly while a start waits. -/
structure Staged (r : ApiRuntime) : Prop where
  tidy : r.eventQueue.Tidy
  staged : r.pendingStartRecipeId.isSome ↔ (r.due .apiStart).isSome

theorem Staged.keeps (h : r.Staged) (kept : Keeps r r') : r'.Staged where
  tidy := kept.tidy
  staged := by
    rw [kept.due .apiStart (.inl rfl), kept.pending]
    exact h.staged

/-- A start is due when it is asked for, or when it already was. -/
theorem due_start (tidy : r.eventQueue.Tidy) (now : Nat) (recipeId : String) :
    (r.handleCommand now (.start recipeId)).due = Function.update r.due .apiStart
      (some (Timetable.merge .preferEarlier (r.due .apiStart) now)) :=
  (tidy.enqueue .apiStart now .preferEarlier).2.2

/-- A stop is one more thing to do, and what it refreshes is neither a start nor a stop. -/
theorem stop_keeps (tidy : r.eventQueue.Tidy) (now : Nat) :
    Keeps (r.enqueue .apiStop now .preferEarlier) (r.handleCommand now .stop) :=
  (Keeps.refl (tidy.enqueue .apiStop now .preferEarlier).2.1).queuePostActionRefresh now

/-- The same of the next stage, which is neither itself. -/
theorem nextStage_keeps (tidy : r.eventQueue.Tidy) (now : Nat) :
    Keeps r (r.handleCommand now .nextStage) :=
  ((Keeps.refl tidy).enqueue not_steers_apiNextStage now _).queuePostActionRefresh now

theorem handleCommand_staged (h : r.Staged) (now : Nat) (cmd : ApiCommand) :
    (r.handleCommand now cmd).Staged := by
  cases cmd with
  | start recipeId =>
    refine ⟨(h.tidy.enqueue .apiStart now .preferEarlier).2.1, ?_⟩
    rw [due_start h.tidy, Function.update_self]
    exact Iff.rfl
  | stop =>
    refine Staged.keeps ?_ (stop_keeps h.tidy now)
    refine ⟨(h.tidy.enqueue .apiStop now .preferEarlier).2.1, ?_⟩
    rw [due_enqueue h.tidy, Function.update_of_ne (by decide)]
    exact h.staged
  | nextStage => exact h.keeps (nextStage_keeps h.tidy now)

/-- An entry taken out turns two others around that are due at one tick: it stands ahead of the first
of them, and the other is the last, which takes its place. -/
def TurnsAround (q : EventQueue) (out kind kind' : EventKind) : Prop :=
  q.timetable kind = q.timetable kind' ∧ Unordered.Ahead q.order out kind ∧
    q.order.getLast? = some kind'

instance TurnsAround.decidable (q : EventQueue) (out kind kind' : EventKind) :
    Decidable (TurnsAround q out kind kind') :=
  inferInstanceAs (Decidable (_ ∧ _))

/-- A pop that gives an entry, and leaves a queue: the soonest is taken out. -/
structure Pops (r : ApiRuntime) (now : Nat) (event : ScheduledEvent) (q : EventQueue) : Prop where
  soonest : ∃ i, r.eventQueue.soonest = some (event, i) ∧ r.eventQueue.order[i]? = some event.kind ∧
    q.order = Unordered.swapRemove r.eventQueue.order i
  isDue : event.executionTime ≤ now
  tidy : q.Tidy
  queued : r.due event.kind = some event.executionTime
  left : q.timetable = Function.update r.due event.kind none
  least : ∀ kind time, r.due kind = some time → ¬ time < event.executionTime

/-- A pop gives nothing and leaves the queue as it is, or gives an entry. -/
theorem popDue_pops (tidy : r.eventQueue.Tidy) (now : Nat) :
    r.eventQueue.popDue now = (none, r.eventQueue) ∨
      ∃ event q, r.eventQueue.popDue now = (some event, q) ∧ r.Pops now event q := by
  rcases r.eventQueue.popDue_cases now with kept | ⟨event, i, soonest, isDue, popped⟩
  · exact .inl kept
  · refine .inr ⟨event, r.eventQueue.swapRemove i, popped, ?_⟩
    obtain ⟨tidy', step⟩ := tidy.popDue now
    rw [popped] at tidy' step
    dsimp only at tidy' step
    have place : r.eventQueue.order[i]? = some event.kind := by
      unfold EventQueue.order
      rw [List.getElem?_map, (EventQueue.soonest_spec soonest).1]
      rfl
    generalize isTable : (r.eventQueue.swapRemove i).timetable = table at step
    cases step with
    | pop _ event queued priority _ least =>
      refine ⟨⟨i, soonest, place, EventQueue.order_swapRemove _ i⟩, isDue, tidy', queued, isTable, ?_⟩
      intro kind time isTime before
      exact least kind time isTime (.inl before)

namespace Pops

variable {event : ScheduledEvent} {q : EventQueue}

/-- Of a start and a stop that wait, the one that goes first is popped. -/
theorem goes_first (h : r.Pops now event q) (tidy : r.eventQueue.Tidy) {kind : EventKind}
    (isSteering : steers kind) (popsSteering : steers event.kind) :
    ¬ r.GoesFirst kind event.kind := by
  rintro ⟨time, time', isTime, isTime', order⟩
  obtain rfl := Option.some.inj (h.queued.symm.trans isTime')
  rcases order with sooner | ⟨rfl, ahead⟩
  · exact h.least kind time isTime sooner
  · obtain ⟨i, soonest, _, _⟩ := h.soonest
    refine tidy.soonest_first soonest isTime ?_ ahead
    rw [priority_of_steers isSteering, priority_of_steers popsSteering]

/-- Two that aren't popped, and aren't turned around, go in the order they did. -/
theorem keeps_first (h : r.Pops now event q) {kind kind' : EventKind} (notKind : kind ≠ event.kind)
    (notKind' : kind' ≠ event.kind) (kept : ¬ TurnsAround r.eventQueue event.kind kind kind')
    (first : r.GoesFirst kind kind') : { r with eventQueue := q }.GoesFirst kind kind' := by
  obtain ⟨time, time', isTime, isTime', order⟩ := first
  have left : ∀ other, other ≠ event.kind → q.timetable other = r.due other := by
    intro other differs
    rw [h.left, Function.update_of_ne differs]
  refine ⟨time, time', (left kind notKind).trans isTime, (left kind' notKind').trans isTime', ?_⟩
  apply order.imp id
  rintro ⟨same, ahead⟩
  refine ⟨same, ?_⟩
  obtain ⟨i, _, place, isOrder⟩ := h.soonest
  show Unordered.Ahead q.order kind kind'
  rw [isOrder]
  apply (ahead.swapRemove place notKind notKind').resolve_right
  rintro ⟨behind, isLast⟩
  exact kept ⟨isTime.trans ((congrArg some same).trans isTime'.symm), behind, isLast⟩

end Pops

theorem popStart_staged {event : ScheduledEvent} {q : EventQueue} (h : r.Staged)
    (pops : r.Pops now event q) (isStart : event.kind = .apiStart) (turn : ApiTurn) :
    ∃ recipeId, r.pendingStartRecipeId = some recipeId ∧
      Keeps { r with eventQueue := q, pendingStartRecipeId := none }
        (handleApiStart { r with eventQueue := q } turn).1 ∧
      lastSent (handleApiStart { r with eventQueue := q } turn).2 = some (.postStart recipeId) ∧
      Staged { r with eventQueue := q, pendingStartRecipeId := none } := by
  have queued := pops.queued
  have left := pops.left
  rw [isStart] at queued left
  obtain ⟨recipeId, staged⟩ := Option.isSome_iff_exists.mp
    (h.staged.mpr (Option.isSome_iff_exists.mpr ⟨event.executionTime, queued⟩))
  obtain ⟨kept, isSent⟩ := handleApiStart_sends (r := { r with eventQueue := q }) pops.tidy staged turn
  refine ⟨recipeId, staged, kept, isSent, pops.tidy, ?_⟩
  show none.isSome = true ↔ (q.timetable .apiStart).isSome
  rw [left, Function.update_self]
  exact Iff.rfl

/-- A pop of anything but a start leaves the start and its recipe. -/
theorem pop_staged {event : ScheduledEvent} {q : EventQueue} (h : r.Staged)
    (pops : r.Pops now event q) (notStart : event.kind ≠ .apiStart) :
    Staged { r with eventQueue := q } := by
  refine ⟨pops.tidy, ?_⟩
  show _ ↔ (q.timetable .apiStart).isSome
  rw [pops.left, Function.update_of_ne (Ne.symm notStart)]
  exact h.staged

theorem drain_staged (h : r.Staged) (turn : ApiTurn) : (r.drain turn).1.Staged := by
  unfold drain
  rcases popDue_pops h.tidy turn.now with found | ⟨event, q, found, pops⟩
  · rw [found]
    exact h.keeps (Keeps.refl h.tidy)
  · rw [found]
    dsimp only
    by_cases isSteering : steers event.kind
    · rcases isSteering with isStart | isStop
      · rw [isStart]
        obtain ⟨_, _, kept, _, staged⟩ := popStart_staged h pops isStart turn
        exact staged.keeps kept
      · rw [isStop]
        exact pop_staged h pops (by rw [isStop]; decide)
    · have staged := pop_staged h pops fun isStart => isSteering (.inl isStart)
      exact staged.keeps (handleEvent_keeps staged.tidy isSteering turn).1

/-- A turn of any kind keeps the staged recipe with its start. -/
theorem turn_staged (r : ApiRuntime) (i : ApiInput) (h : r.Staged) : (apiClient.next r i).Staged := by
  cases i with
  | command cmd now => exact handleCommand_staged h now cmd
  | drain turn => exact drain_staged h turn

/-! ## What waits, what was asked for and what was sent -/

/-- The two ends of the queue agree: what waits alone or goes last is what was asked for last, and
once nothing waits that was sent last. -/
structure Follows (r : ApiRuntime) (issued sent : Option ApiRequest) : Prop extends Staged r where
  done : r.due .apiStart = none → r.due .apiStop = none → sent = issued
  start : (r.due .apiStart).isSome → ¬ r.GoesFirst .apiStart .apiStop →
    issued = r.pendingStartRecipeId.map .postStart
  stop : (r.due .apiStop).isSome → ¬ r.GoesFirst .apiStop .apiStart → issued = some .postStop

/-- Where a turn is about neither a start nor a stop, they agree after it as before. -/
theorem Follows.keeps {issued sent : Option ApiRequest} (h : r.Follows issued sent)
    (kept : Keeps r r') : r'.Follows issued sent := by
  have start := kept.due .apiStart (.inl rfl)
  have stop := kept.due .apiStop (.inr rfl)
  refine { h.toStaged.keeps kept with done := ?_, start := ?_, stop := ?_ }
  · rw [start, stop]
    exact h.done
  · rw [start, kept.pending]
    intro waits last
    exact h.start waits fun first => last (kept.first _ _ (.inl rfl) (.inr rfl) first)
  · rw [stop]
    intro waits last
    exact h.stop waits fun first => last (kept.first _ _ (.inr rfl) (.inl rfl) first)

/-- A kind asked for comes to go after another, where that one waits: it will be due later, or at the
same tick and doesn't stand ahead. -/
def Behind (r : ApiRuntime) (kind other : EventKind) (now : Nat) : Prop :=
  ∀ time, r.due other = some time →
    time < Timetable.merge .preferEarlier (r.due kind) now ∨
      time = Timetable.merge .preferEarlier (r.due kind) now ∧
        ¬ Unordered.Ahead r.eventQueue.order kind other

instance Behind.decidable (r : ApiRuntime) (kind other : EventKind) (now : Nat) :
    Decidable (r.Behind kind other now) :=
  inferInstanceAs (Decidable (∀ time, time ∈ r.due other → _))

/-- A command goes after the other kind, where that one waits; and a pop doesn't turn a start and a
stop around. -/
def InOrder (r : ApiRuntime) : ApiInput → Prop
  | .command (.start _) now => r.Behind .apiStart .apiStop now
  | .command .stop now => r.Behind .apiStop .apiStart now
  | .command .nextStage _ => True
  | .drain turn => ∀ found ∈ r.eventQueue.soonest, found.1.executionTime ≤ turn.now →
      ¬ TurnsAround r.eventQueue found.1.kind .apiStart .apiStop ∧
        ¬ TurnsAround r.eventQueue found.1.kind .apiStop .apiStart

instance InOrder.decidable (r : ApiRuntime) : ∀ i, Decidable (r.InOrder i)
  | .command (.start _) _ => Behind.decidable _ _ _ _
  | .command .stop _ => Behind.decidable _ _ _ _
  | .command .nextStage _ => isTrue trivial
  | .drain _ => inferInstanceAs (Decidable (∀ found ∈ _, _))

/-- Asked for behind another, a kind goes after it. -/
theorem Behind.goesFirst {kind other : EventKind} (tidy : r.eventQueue.Tidy)
    (behind : r.Behind kind other now) (differ : other ≠ kind) (waits : (r.due other).isSome) :
    (r.enqueue kind now .preferEarlier).GoesFirst other kind := by
  obtain ⟨time, isTime⟩ := Option.isSome_iff_exists.mp waits
  have due := due_enqueue tidy kind now .preferEarlier
  have isOther : (r.enqueue kind now .preferEarlier).due other = some time :=
    (congrFun due other).trans ((Function.update_of_ne differ _ _).trans isTime)
  have isKind := (congrFun due kind).trans (Function.update_self _ _ _)
  refine ⟨time, _, isOther, isKind, (behind time isTime).imp id ?_⟩
  rintro ⟨same, notAhead⟩
  refine ⟨same, ?_⟩
  have standing : other ∈ r.eventQueue.order := EventQueue.mem_order_iff.mpr waits
  show Unordered.Ahead (r.eventQueue.enqueue kind now .preferEarlier).2.order other kind
  rw [tidy.order_enqueue]
  split
  · rename_i queued
    exact (Unordered.ahead_total standing queued differ).resolve_right notAhead
  · exact Unordered.ahead_concat standing kind

theorem handleCommand_follows {issued sent : Option ApiRequest} (h : r.Follows issued sent)
    (cmd : ApiCommand) (inOrder : r.InOrder (.command cmd now)) :
    (r.handleCommand now cmd).Follows ((ApiInput.command cmd now).issues.or issued) sent := by
  cases cmd with
  | start recipeId =>
    refine { handleCommand_staged h.toStaged now (.start recipeId) with
      done := ?_, start := ?_, stop := ?_ }
    · intro noStart
      rw [due_start h.tidy, Function.update_self] at noStart
      cases noStart
    · intro _ _
      rfl
    · intro waits last
      rw [due_start h.tidy, Function.update_of_ne (by decide)] at waits
      exact absurd (Behind.goesFirst (r := { r with pendingStartRecipeId := some recipeId }) h.tidy
        inOrder (by decide) waits) last
  | stop =>
    refine Follows.keeps ?_ (stop_keeps h.tidy now)
    have due := due_enqueue h.tidy .apiStop now .preferEarlier
    refine { tidy := (h.tidy.enqueue .apiStop now .preferEarlier).2.1, staged := ?_, done := ?_,
             start := ?_, stop := ?_ }
    · rw [due, Function.update_of_ne (by decide)]
      exact h.staged
    · intro _ noStop
      rw [due, Function.update_self] at noStop
      cases noStop
    · intro waits last
      rw [due, Function.update_of_ne (by decide)] at waits
      exact absurd (Behind.goesFirst h.tidy inOrder (by decide) waits) last
    · intro _ _
      rfl
  | nextStage => exact h.keeps (nextStage_keeps h.tidy now)

/-- A popped start is the last asked for where no stop waits. -/
theorem popStart_follows {issued sent : Option ApiRequest} (h : r.Follows issued sent)
    {event : ScheduledEvent} {q : EventQueue} (pops : r.Pops now event q)
    (isStart : event.kind = .apiStart) (turn : ApiTurn) :
    (handleApiStart { r with eventQueue := q } turn).1.Follows issued
      ((lastSent (handleApiStart { r with eventQueue := q } turn).2).or sent) := by
  obtain ⟨recipeId, isStaged, kept, isSent, staged⟩ := popStart_staged h.toStaged pops isStart turn
  have queued := pops.queued
  have left := pops.left
  have notFirst := pops.goes_first h.tidy (.inr rfl) (.inl isStart)
  rw [isStart] at queued left notFirst
  rw [isSent]
  refine Follows.keeps ?_ kept
  have start : q.timetable .apiStart = none := by rw [left, Function.update_self]
  have stop : q.timetable .apiStop = r.due .apiStop := by
    rw [left, Function.update_of_ne (by decide)]
  refine { staged with done := ?_, start := ?_, stop := ?_ }
  · intro _ noStop
    have noStop := stop.symm.trans noStop
    -- alone, it goes last
    have alone : ¬ r.GoesFirst .apiStart .apiStop := by
      rintro ⟨_, _, _, isStop, _⟩
      exact absurd (isStop.symm.trans noStop) (by simp)
    rw [h.start (by rw [queued]; rfl) alone, isStaged]
    rfl
  · intro waits
    have waits : (q.timetable .apiStart).isSome := waits
    rw [start] at waits
    cases waits
  · intro waits _
    exact h.stop (stop ▸ waits) notFirst

/-- A popped stop is the last asked for where no start waits. -/
theorem popStop_follows {issued sent : Option ApiRequest} (h : r.Follows issued sent)
    {event : ScheduledEvent} {q : EventQueue} (pops : r.Pops now event q)
    (isStop : event.kind = .apiStop) :
    Follows { r with eventQueue := q } issued (some .postStop) := by
  have queued := pops.queued
  have left := pops.left
  have notFirst := pops.goes_first h.tidy (.inl rfl) (.inr isStop)
  have staged := pop_staged h.toStaged pops (by rw [isStop]; decide)
  rw [isStop] at queued left notFirst
  have start : q.timetable .apiStart = r.due .apiStart := by
    rw [left, Function.update_of_ne (by decide)]
  have stop : q.timetable .apiStop = none := by rw [left, Function.update_self]
  refine { staged with done := ?_, start := ?_, stop := ?_ }
  · intro noStart _
    have noStart := start.symm.trans noStart
    have alone : ¬ r.GoesFirst .apiStop .apiStart := by
      rintro ⟨_, _, _, isStart, _⟩
      exact absurd (isStart.symm.trans noStart) (by simp)
    exact (h.stop (by rw [queued]; rfl) alone).symm
  · intro waits _
    exact h.start (start ▸ waits) notFirst
  · intro waits
    have waits : (q.timetable .apiStop).isSome := waits
    rw [stop] at waits
    cases waits

/-- A popped event that is neither leaves both, in the order they go in. -/
theorem popOther_keeps {event : ScheduledEvent} {q : EventQueue} (tidy : r.eventQueue.Tidy)
    (pops : r.Pops now event q) (other : ¬ steers event.kind)
    (kept : ¬ TurnsAround r.eventQueue event.kind .apiStart .apiStop ∧
      ¬ TurnsAround r.eventQueue event.kind .apiStop .apiStart) :
    Keeps r { r with eventQueue := q } := by
  have notOut : ∀ kind, steers kind → kind ≠ event.kind := by
    rintro kind isSteering rfl
    exact other isSteering
  refine ⟨pops.tidy, ?_, rfl, ?_⟩
  · intro kind isSteering
    show q.timetable kind = _
    rw [pops.left, Function.update_of_ne (notOut kind isSteering)]
  · intro kind kind' isSteering isSteering' first
    apply pops.keeps_first (notOut kind isSteering) (notOut kind' isSteering') ?_ first
    have differ := first.ne tidy
    rcases isSteering with rfl | rfl <;> rcases isSteering' with rfl | rfl
    · exact absurd rfl differ
    · exact kept.1
    · exact kept.2
    · exact absurd rfl differ

/-- A pop, with the event it gives handled, keeps the two ends together. -/
theorem drain_follows {issued sent : Option ApiRequest} (h : r.Follows issued sent) (turn : ApiTurn)
    (inOrder : r.InOrder (.drain turn)) :
    (r.drain turn).1.Follows issued ((lastSent (r.drain turn).2).or sent) := by
  unfold drain
  rcases popDue_pops h.tidy turn.now with found | ⟨event, q, found, pops⟩
  · rw [found]
    exact h.keeps (Keeps.refl h.tidy)
  · rw [found]
    dsimp only
    by_cases isSteering : steers event.kind
    · rcases isSteering with isStart | isStop
      · rw [isStart]
        exact popStart_follows h pops isStart turn
      · rw [isStop]
        exact popStop_follows h pops isStop
    · obtain ⟨i, soonest, _, _⟩ := pops.soonest
      have kept := inOrder (event, i) soonest pops.isDue
      have popped := h.keeps (popOther_keeps h.tidy pops isSteering kept)
      obtain ⟨kept, silent⟩ := handleEvent_keeps popped.tidy isSteering turn
      rw [silent, Option.none_or]
      exact popped.keeps kept

/-- One turn. -/
theorem turn_follows {issued sent : Option ApiRequest} (h : r.Follows issued sent) (i : ApiInput)
    (inOrder : r.InOrder i) : (apiClient.next r i).Follows (i.issues.or issued)
      ((lastSent (apiClient.effects r i)).or sent) := by
  cases i with
  | command cmd now => exact handleCommand_follows h cmd inOrder
  | drain turn => exact drain_follows h turn inOrder

theorem new_follows (boot : Nat) : (ApiRuntime.new boot).Follows none none := by
  have staged : Staged ⟨.empty, .new, none⟩ := ⟨EventQueue.tidy_new, Iff.rfl⟩
  have empty : Follows ⟨.empty, .new, none⟩ none none := by
    refine { staged with done := ?_, start := ?_, stop := ?_ } <;>
      simp [due, EventQueue.timetable_new, Timetable.empty]
  exact empty.keeps ((((Keeps.refl empty.tidy).enqueue not_steers_pollStatus boot _).enqueue
    not_steers_pollCurrentCook _ _).enqueue not_steers_pollRecipes _ _)

/-- Every run whose commands are in order. -/
theorem run_follows (boot : Nat) (is : List ApiInput) (inOrder : apiClient.Each InOrder (.new boot) is) :
    (apiClient.run (.new boot) is).Follows (lastIssued is)
      (lastSent (apiClient.trace (.new boot) is)) := by
  apply Machine.Each.told (I := fun r past said => r.Follows (lastIssued past) (lastSent said))
    (new_follows boot) ?_ inOrder
  intro r past said i h ordered
  rw [lastIssued_append, lastSent_append]
  exact turn_follows h i ordered

end ApiRuntime

/-- **The user's commands.** In every run of the API task a recipe is staged exactly while a start
waits; and where every command was to go after the other kind that waited, and no pop turned the two
around, once no start and no stop waits the last one sent is the last one asked for. -/
theorem lastSent_lastIssued (boot : Nat) (is : List ApiInput) :
    ((apiClient.run (.new boot) is).pendingStartRecipeId.isSome ↔
        (apiClient.run (.new boot) is).eventQueue.hasPending .apiStart) ∧
      (apiClient.Each InOrder (.new boot) is →
        ¬ (apiClient.run (.new boot) is).eventQueue.hasPending .apiStart →
        ¬ (apiClient.run (.new boot) is).eventQueue.hasPending .apiStop →
        lastSent (apiClient.trace (.new boot) is) = lastIssued is) := by
  constructor
  · have staged : (apiClient.run (.new boot) is).Staged :=
      Machine.run_keeps (fun r i _ => turn_staged r i) (new_follows boot).toStaged
    rw [EventQueue.hasPending_iff]
    exact staged.staged
  · intro inOrder noStart noStop
    have h := run_follows boot is inOrder
    rw [EventQueue.hasPending_iff, Option.not_isSome_iff_eq_none] at noStart noStop
    exact h.done noStart noStop

namespace Kitchen

/-- A turn of the task at a tick, with the server silent. -/
def silentTurn (now : Nat) : ApiInput :=
  .drain ⟨now, fun _ => now, .error .timedOut, .error .timedOut, .error .timedOut⟩

/-- Bread is started, stopped, and pizza is started, all while the first poll is in flight. -/
def changeOfMind : List ApiInput :=
  [.command (.start "bread") 1, .command .stop 2, .command (.start "pizza") 3,
    silentTurn 3, silentTurn 3, silentTurn 3]

/-- Bread is started and stopped, and pizza is started once the stop is sent. -/
def patience : List ApiInput :=
  [.command (.start "bread") 1, .command .stop 2, silentTurn 3, silentTurn 3, silentTurn 3,
    .command (.start "pizza") 4, silentTurn 5]

end Kitchen

/-- Bread is started and stopped, and pizza is sent once the stop is: the last one sent is pizza's
start. -/
theorem lastSent_patience :
    lastSent (apiClient.trace (.new 0) Kitchen.patience) = lastIssued Kitchen.patience :=
  (lastSent_lastIssued 0 Kitchen.patience).2 (by decide) (by decide) (by decide)

/-- When a turn begins and when it is over. -/
def ApiInput.span : ApiInput → List Nat
  | .command _ now => [now]
  | .drain turn => [turn.now, turn.clock 0, turn.clock 1, turn.clock 2]

/-- The start given last goes out before the stop it was given after. -/
theorem commands_reordered :
    ¬ ∀ (boot : Nat) (is : List ApiInput), (boot :: is.flatMap ApiInput.span).IsChain (· ≤ ·) →
      ¬ (apiClient.run (.new boot) is).eventQueue.hasPending .apiStart →
      ¬ (apiClient.run (.new boot) is).eventQueue.hasPending .apiStop →
      lastSent (apiClient.trace (.new boot) is) = lastIssued is := by
  intro always
  exact absurd (always 0 Kitchen.changeOfMind (by decide) (by decide) (by decide)) (by decide)

end AnovaOven
