import AnovaOven.Laws.Pending
import Mathlib.Data.List.Nodup

/-!
# Laws of failed commands

**What a refused start leaves behind** (`failed_start_restores_iff`): the lifecycle goes idle and the
cook it seeded stays, so only an idle machine that showed the very same cook is as it was.
**Every failure is announced once** (`failures_announced`): the commands a run owes an answer are
noted beside it (`Ledger`), each until it is answered, settled by a report or displaced by newer
commands. A failing answer to one that is owed announces it, and no later answer announces it again.
-/


namespace AnovaOven

variable {env : Env} {s : SmState} {recipe : Recipe} {started : StartedFrom}

/-! ## A refused start -/

/-- A current cook that reads as a start's own would: the recipe's title and counts, where it was
started from, this second, and the stages as they're sent. -/
structure ShowsStart (env : Env) (recipe : Recipe) (started : StartedFrom) (cook : CurrentCook) :
    Prop where
  recipeTitle : cook.recipeTitle = recipe.title
  recipeId : cook.recipeId = started.recipeId
  startedAt : cook.startedAt =
    (env.unixSecs.map fun secs => "local-" ++ toString secs).getD "local"
  stages : cook.stages = startedStages env.fresh recipe.stages
  cookStageCount : cook.cookStageCount = recipe.stageCount
  totalStageCount : cook.totalStageCount = recipe.stages.length

/-- The cook a start seeds is the one that reads as it would. -/
theorem start_currentCook_iff (env : Env) (s : SmState) (recipe : Recipe) (started : StartedFrom) :
    (start env s recipe started).state.currentCook = s.currentCook ↔
      ∃ cook, s.currentCook = some cook ∧ ShowsStart env recipe started cook := by
  constructor
  · intro same
    refine ⟨_, same.symm, rfl, rfl, ?_, rfl, rfl, startedStages_length env.fresh recipe.stages⟩
    cases env.unixSecs <;> rfl
  · rintro ⟨cook, shown, reads⟩
    obtain ⟨title, recipeId, startedAt, stages, cookStages, allStages⟩ := cook
    obtain ⟨rfl, rfl, rfl, rfl, rfl, rfl⟩ := reads
    rw [shown]
    unfold start
    cases env.unixSecs <;> simp [startedStages_length]

/-- A failing ack of the start just sent rolls the lifecycle back to idle, and keeps the cook. -/
theorem start_failed (env : Env) (s : SmState) (recipe : Recipe) (started : StartedFrom)
    {answer : String} (failed : ackOk answer = false) :
    (applyCommandAck (start env s recipe started).state env.fresh.requestId answer).1.lifecycle =
        .idle ∧
      (applyCommandAck (start env s recipe started).state env.fresh.requestId answer).1.currentCook =
        (start env s recipe started).state.currentCook := by
  have mine : (start env s recipe started).state.awaitsStart env.fresh.requestId := by
    simp [start, SmState.awaitsStart, SmState.setPendingStart, SmState.setLifecycle]
  unfold applyCommandAck
  rw [if_pos mine, failed]
  exact ⟨rfl, rfl⟩

/-- **A refused start.** At every state, a start command that is accepted and then fails leaves the
lifecycle and the current cook as they were exactly where the lifecycle was idle and the current cook
already read as the start's own. -/
theorem failed_start_restores_iff (s : SmState) (env ackEnv : Env) (cmd : StateMachineCommand)
    (starting : cmd.startsCook) (accepted : (reduceCommand env s cmd).reply = .unit (.ok ()))
    (answer : String) (failed : ackOk answer = false) :
    ((stateMachine.run s [(env, .command cmd),
          (ackEnv, .event (.ws (.commandAck env.fresh.requestId answer)))]).lifecycle = s.lifecycle ∧
      (stateMachine.run s [(env, .command cmd),
          (ackEnv, .event (.ws (.commandAck env.fresh.requestId answer)))]).currentCook =
        s.currentCook) ↔
      s.lifecycle = .idle ∧ ∃ recipe started cook, Starts env s cmd recipe started ∧
        s.currentCook = some cook ∧ ShowsStart env recipe started cook := by
  obtain ⟨recipe, started, starts⟩ := (accepted_iff_starts starting).mp accepted
  have unique {recipe' : Recipe} {started' : StartedFrom} (other : Starts env s cmd recipe' started') :
      recipe' = recipe ∧ started' = started := by
    cases starts with
    | recipe recipeId recipe known found =>
      cases other with
      | recipe _ recipe' _ found' =>
        rw [found] at found'
        cases found'
        exact ⟨rfl, rfl⟩
    | manual title stages known =>
      cases other
      exact ⟨rfl, rfl⟩
  obtain ⟨lifecycle, kept⟩ := start_failed env s recipe started failed
  rw [Machine.run_cons, Machine.run_cons, Machine.run_nil, starts.next]
  show (applyCommandAck _ _ _).1.lifecycle = _ ∧ (applyCommandAck _ _ _).1.currentCook = _ ↔ _
  rw [lifecycle, kept, start_currentCook_iff]
  constructor
  · rintro ⟨idle, cook, shown, reads⟩
    exact ⟨idle.symm, recipe, started, cook, starts, shown, reads⟩
  · rintro ⟨idle, recipe', started', cook, starts', shown, reads⟩
    obtain ⟨rfl, rfl⟩ := unique starts'
    exact ⟨idle.symm, cook, shown, reads⟩

/-- The failing ack of a first start, as the run's last message. -/
theorem failed_start_restores_first :
    ((stateMachine.run (Kitchen.ready [])
          [Kitchen.starts "first", Kitchen.acks "first" "timeout"]).lifecycle =
        (Kitchen.ready []).lifecycle ∧
      (stateMachine.run (Kitchen.ready [])
          [Kitchen.starts "first", Kitchen.acks "first" "timeout"]).currentCook =
        (Kitchen.ready []).currentCook) ↔
      (Kitchen.ready []).lifecycle = .idle ∧ ∃ recipe started cook,
        Starts (Kitchen.env "first") (Kitchen.ready [])
          (.startManualCook "Roast" [Kitchen.roast]) recipe started ∧
        (Kitchen.ready []).currentCook = some cook ∧
        ShowsStart (Kitchen.env "first") recipe started cook :=
  failed_start_restores_iff (Kitchen.ready []) (Kitchen.env "first") (Kitchen.env "")
    (.startManualCook "Roast" [Kitchen.roast]) rfl rfl "timeout" (by decide)

/-- A start from rest that the oven refuses leaves its cook behind. -/
theorem failed_start_leaves_cook :
    ¬ ∀ (localMode : Bool) (tolerance : ℚ) (is : List (Env × Input)) (env ackEnv : Env)
      (cmd : StateMachineCommand), cmd.startsCook →
      (reduceCommand env (stateMachine.run (SmState.init localMode tolerance) is) cmd).reply =
        .unit (.ok ()) →
      ∀ answer, ackOk answer = false →
        (stateMachine.run (stateMachine.run (SmState.init localMode tolerance) is)
            [(env, .command cmd),
              (ackEnv, .event (.ws (.commandAck env.fresh.requestId answer)))]).lifecycle =
          (stateMachine.run (SmState.init localMode tolerance) is).lifecycle ∧
        (stateMachine.run (stateMachine.run (SmState.init localMode tolerance) is)
            [(env, .command cmd),
              (ackEnv, .event (.ws (.commandAck env.fresh.requestId answer)))]).currentCook =
          (stateMachine.run (SmState.init localMode tolerance) is).currentCook := by
  intro always
  have restored := (always true 0 [Kitchen.found] (Kitchen.env "first") (Kitchen.env "")
    (.startManualCook "Roast" [Kitchen.roast]) rfl rfl "timeout" (by decide)).2
  cases restored

/-! ## What a run is owed -/

/-- A command that is owed an answer, with how many controls were sent since it was. -/
structure Owed where
  id : String
  kind : Kind
  younger : Nat
  deriving Repr, DecidableEq

/-- What a run owes: the commands issued that no report settled, no ack answered and no newer commands
displaced, and the ids of those that were owed an answer and failed. The ids drawn so far are kept
beside them. -/
structure Ledger where
  owed : List Owed
  failed : List String
  drawn : List String

def Ledger.empty : Ledger := ⟨[], [], []⟩

/-- How many controls a step sends. -/
def sentControls (s : SmState) (i : Env × Input) : Nat :=
  (orders s i).countP fun order => order.2 ≠ .start ∧ order.2 ≠ .stop

/-- Whether a step displaces a command: a newer start does a start, a newer stop a stop, and a control
is displaced by as many newer ones as the list of those pending holds. -/
def Owed.displaced (s : SmState) (i : Env × Input) (entry : Owed) : Bool :=
  match entry.kind with
  | .start => (orders s i).any fun order => order.2 = .start
  | .stop => (orders s i).any fun order => order.2 = .stop
  | .control _ => maxPendingControls ≤ entry.younger + sentControls s i

/-- An owed command after a step, where it still is owed an answer. -/
def Owed.after (s : SmState) (i : Env × Input) (entry : Owed) : Option Owed :=
  if i.2.settles entry.kind || i.2.answers = some entry.id || entry.displaced s i then none
  else some { entry with younger := entry.younger + sentControls s i }

/-- Note a step: what it answers, settles or displaces goes, and the commands it issues come, each
with the step's other controls counted as newer. -/
def Ledger.note (s : SmState) (l : Ledger) (i : Env × Input) : Ledger where
  owed := l.owed.filterMap (Owed.after s i) ++
    (orders s i).map fun order => ⟨order.1, order.2, sentControls s i - 1⟩
  failed := if i.2.fails then
      (l.owed.filter fun entry => i.2.answers = some entry.id).map (·.id) ++ l.failed
    else l.failed
  drawn := i.1.fresh.requestIds ++ l.drawn

/-- The state machine beside its ledger. -/
def ledgered : Machine (SmState × Ledger) (Env × Input) SmEffect := stateMachine.noting Ledger.note

/-- The law of an ack: a failing answer to an owed command announces that command, once, and an answer
to one that failed announces nothing. -/
def AnnouncedOnce (sl : SmState × Ledger) (i : Env × Input) : Prop :=
  match i.2 with
  | .event (.ws (.commandAck requestId status)) =>
    (∀ entry ∈ sl.2.owed, entry.id = requestId → ackOk status = false →
      announced (ledgered.effects sl i) = [⟨entry.kind.name, status⟩]) ∧
    (requestId ∈ sl.2.failed → announced (ledgered.effects sl i) = [])
  | _ => True

/-! ## Announcing what is owed -/

/-- How an owed command is pending: in its slot, or in the list with no more entries after it than it
counts. -/
def Owed.Pending (p : PendingTracker) (entry : Owed) : Prop :=
  match entry.kind with
  | .start => p.startId = some entry.id
  | .stop => p.stopId = some entry.id
  | .control name => ∃ before newer, p.controls = before ++ (entry.id, name) :: newer ∧
      newer.length ≤ entry.younger

/-- An owed command that is pending holds its id. -/
theorem Owed.Pending.holds {p : PendingTracker} {entry : Owed} (h : entry.Pending p) :
    entry.kind ∈ p.holders entry.id := by
  obtain ⟨id, kind, younger⟩ := entry
  apply mem_heldBy.mpr
  cases kind with
  | start => exact .inl ⟨rfl, h⟩
  | stop => exact .inr (.inl ⟨rfl, h⟩)
  | control name =>
    obtain ⟨before, newer, eq, _⟩ := h
    exact .inr (.inr ⟨name, rfl, by rw [eq]; simp⟩)

/-- What a run keeps: what it owes is pending, no id is held twice, what failed is held no more, and
only ids that were drawn are held. -/
structure Owes (s : SmState) (l : Ledger) : Prop where
  owed : ∀ entry ∈ l.owed, entry.Pending s.pending
  single : ∀ id, (s.pending.holders id).length ≤ 1
  failed : ∀ id ∈ l.failed, s.pending.holders id = []
  drawn : ∀ id, s.pending.holders id ≠ [] → id ∈ l.drawn
  failedDrawn : ∀ id ∈ l.failed, id ∈ l.drawn

/-- The ids a step draws are new, and no two of them are the same. -/
def DrawsNew (sl : SmState × Ledger) (i : Env × Input) : Prop :=
  (i.1.fresh.requestIds ++ sl.2.drawn).Nodup

variable {l : Ledger} {i : Env × Input}

/-- A step sends the controls it issues. -/
theorem Issues.sentControls_eq {issue : Issue} (h : Issues s i issue) :
    sentControls s i = issue.controls.length := by
  unfold sentControls
  rw [h.ordered.countP_eq]
  unfold Issue.all
  rw [List.countP_append, List.countP_append, List.countP_map, List.countP_map, List.countP_map]
  have controls : issue.controls.countP
      ((fun order : String × Kind => decide (order.2 ≠ .start ∧ order.2 ≠ .stop)) ∘
        fun entry => (entry.1, .control entry.2)) = issue.controls.length :=
    List.countP_eq_length.mpr fun entry _ => by simp
  have stop : issue.stop.toList.countP
      ((fun order : String × Kind => decide (order.2 ≠ .start ∧ order.2 ≠ .stop)) ∘
        fun id => (id, .stop)) = 0 := List.countP_eq_zero.mpr fun id _ => by simp
  have start : issue.start.toList.countP
      ((fun order : String × Kind => decide (order.2 ≠ .start ∧ order.2 ≠ .stop)) ∘
        fun id => (id, .start)) = 0 := List.countP_eq_zero.mpr fun id _ => by simp
  rw [controls, stop, start]
  rfl

/-- A step sends no more controls than ids it draws. -/
theorem Issues.controls_length {issue : Issue} (h : Issues s i issue) :
    issue.controls.length < maxPendingControls := by
  have length := h.drawn.length_le
  have three : i.1.fresh.requestIds.length = 3 := rfl
  have sixteen : maxPendingControls = 16 := rfl
  have all : issue.controls.length ≤ (issue.all.map Prod.fst).length := by
    simp [Issue.all]
  omega

/-- A step that answers nothing keeps an owed command pending, where it is owed after it. -/
theorem Issues.keeps {issue : Issue} (h : Issues s i issue) {entry entry' : Owed}
    (pending : entry.Pending s.pending) (after : entry.after s i = some entry') :
    entry'.Pending (stateMachine.next s i).pending := by
  unfold Owed.after at after
  split at after
  · cases after
  · rename_i kept
    cases after
    obtain ⟨id, kind, younger⟩ := entry
    simp only [Bool.or_eq_true, not_or] at kept
    obtain ⟨⟨unsettled, _⟩, undisplaced⟩ := kept
    have unsettled : i.2.settles kind = false := by simpa using unsettled
    cases kind with
    | start =>
      apply h.moved.keeps_start pending unsettled
      by_contra sent
      obtain ⟨newer, slot⟩ := Option.ne_none_iff_exists'.mp sent
      refine undisplaced (List.any_eq_true.mpr ⟨(newer, .start), ?_, by simp⟩)
      exact h.ordered.mem_iff.mpr (by simp [Issue.all, slot])
    | stop =>
      apply h.moved.keeps_stop pending unsettled
      by_contra sent
      obtain ⟨newer, slot⟩ := Option.ne_none_iff_exists'.mp sent
      refine undisplaced (List.any_eq_true.mpr ⟨(newer, .stop), ?_, by simp⟩)
      exact h.ordered.mem_iff.mpr (by simp [Issue.all, slot])
    | control name =>
      obtain ⟨before, newer, eq, length⟩ := pending
      change newer.length ≤ younger at length
      have fits : ¬ maxPendingControls ≤ younger + sentControls s i := by
        simpa [Owed.displaced] using undisplaced
      rw [h.sentControls_eq] at fits
      obtain ⟨before', eq'⟩ := foldl_pushControl_keeps eq
        (show newer.length + issue.controls.length < maxPendingControls by omega)
      refine ⟨before', newer ++ issue.controls, h.moved.controls.trans eq', ?_⟩
      rw [List.length_append]
      show _ ≤ younger + sentControls s i
      rw [h.sentControls_eq]
      omega

/-- A step that answers nothing leaves what it issues pending. -/
theorem Issues.pends {issue : Issue} (h : Issues s i issue) {order : String × Kind}
    (sent : order ∈ orders s i) :
    Owed.Pending (stateMachine.next s i).pending ⟨order.1, order.2, sentControls s i - 1⟩ := by
  rcases List.mem_append.mp (h.ordered.mem_iff.mp sent) with item | start
  · rcases List.mem_append.mp item with control | stop
    · obtain ⟨⟨id, name⟩, entry, rfl⟩ := List.mem_map.mp control
      obtain ⟨older, newer, split⟩ := List.append_of_mem entry
      have length := congrArg List.length split
      rw [List.length_append, List.length_cons] at length
      have bound := h.controls_length
      -- the older ones of the step are pushed, then it, and then the newer ones
      obtain ⟨before, eq⟩ := pushControl_concat (older.foldl pushControl s.pending.controls) (id, name)
      obtain ⟨before', eq'⟩ := foldl_pushControl_keeps eq
        (show ([] : List (String × String)).length + newer.length < maxPendingControls by
          rw [List.length_nil]; omega)
      refine ⟨before', newer, ?_, ?_⟩
      · rw [h.moved.controls, split, List.foldl_append, List.foldl_cons, eq', List.nil_append]
      · show _ ≤ sentControls s i - 1
        rw [h.sentControls_eq]
        omega
    · obtain ⟨id, slot, rfl⟩ := List.mem_map.mp stop
      exact h.moved.issued_stop (by simpa using slot)
  · obtain ⟨id, slot, rfl⟩ := List.mem_map.mp start
    exact h.moved.issued_start (by simpa using slot)

/-- A step that answers nothing keeps what a run keeps. -/
theorem Owes.issue {issue : Issue} (h : Owes s l) (issues : Issues s i issue)
    (fails : i.2.fails = false) (new : DrawsNew (s, l) i) :
    Owes (stateMachine.next s i) (l.note s i) := by
  obtain ⟨nodup, _, apart⟩ := List.nodup_append'.mp new
  have atMostOnce (id : String) : (issue.all.map Prod.fst).count id ≤ 1 :=
    (issues.drawn.count_le id).trans (List.nodup_iff_count_le_one.mp nodup id)
  have undrawn {id : String} (used : id ∈ i.1.fresh.requestIds) : s.pending.holders id = [] := by
    by_contra held
    exact apart used (h.drawn id held)
  have unused {id : String} (other : id ∉ i.1.fresh.requestIds) :
      (issue.all.map Prod.fst).count id = 0 :=
    List.count_eq_zero.mpr fun item => other (issues.drawn.subset item)
  have bound (id : String) := issues.moved.length_holders id
  have failed (id : String) (item : id ∈ l.failed) :
      (stateMachine.next s i).pending.holders id = [] := by
    have other : id ∉ i.1.fresh.requestIds := fun used => apart used (h.failedDrawn id item)
    have length := bound id
    rw [h.failed id item, unused other] at length
    exact List.length_eq_zero_iff.mp (Nat.le_zero.mp length)
  have sameFailed : (l.note s i).failed = l.failed :=
    if_neg (by rw [fails]; exact Bool.false_ne_true)
  refine ⟨fun entry item => ?_, fun id => ?_, ?_, fun id held => ?_, ?_⟩
  · rcases List.mem_append.mp item with before | sent
    · obtain ⟨owed, item', after⟩ := List.mem_filterMap.mp before
      exact issues.keeps (h.owed owed item') after
    · obtain ⟨order, ordered, rfl⟩ := List.mem_map.mp sent
      exact issues.pends ordered
  · have length := bound id
    by_cases used : id ∈ i.1.fresh.requestIds
    · rw [undrawn used] at length
      exact length.trans ((Nat.zero_add _).le.trans (atMostOnce id))
    · rw [unused used] at length
      exact length.trans (h.single id)
  · rw [sameFailed]
    exact failed
  · apply List.mem_append.mpr
    by_cases used : id ∈ i.1.fresh.requestIds
    · exact .inl used
    · refine .inr (h.drawn id fun none => held ?_)
      have length := bound id
      rw [none, unused used] at length
      exact List.length_eq_zero_iff.mp (Nat.le_zero.mp length)
  · rw [sameFailed]
    exact fun id item => List.mem_append_right _ (h.failedDrawn id item)

/-- An ack issues nothing. -/
theorem commandAck_orders (env : Env) (s : SmState) (requestId status : String) :
    orders s (env, .event (.ws (.commandAck requestId status))) = [] := by
  show (applyCommandAck s requestId status).2.filterMap _ = []
  unfold applyCommandAck ackControl
  split
  · split <;> rfl
  · split
    · rfl
    · split
      · rfl
      · dsimp only
        split <;> rfl

/-- Erasing what another entry matches leaves an entry, and no more entries after it. -/
theorem eraseP_keeps {α : Type*} {p : α → Bool} {entry : α} (kept : ¬ p entry) (older newer : List α) :
    ∃ older' newer', (older ++ entry :: newer).eraseP p = older' ++ entry :: newer' ∧
      newer'.length ≤ newer.length := by
  induction older with
  | nil =>
    exact ⟨[], newer.eraseP p, List.eraseP_cons_of_neg kept, List.eraseP_sublist.length_le⟩
  | cons x older ih =>
    by_cases taken : p x
    · exact ⟨older, newer, List.eraseP_cons_of_pos taken, le_rfl⟩
    · obtain ⟨older', newer', eq, fewer⟩ := ih
      refine ⟨x :: older', newer', ?_, fewer⟩
      rw [List.cons_append, List.eraseP_cons_of_neg taken, eq]
      rfl

/-- An ack keeps an owed command of another id pending. -/
theorem Takes.keeps {before after : PendingTracker} {requestId : String}
    (h : Takes before after requestId) {entry : Owed} (other : entry.id ≠ requestId)
    (pending : entry.Pending before) : entry.Pending after := by
  obtain ⟨id, kind, younger⟩ := entry
  have apart {slot : Option String} (held : slot = some id) : slot ≠ some requestId := by
    rw [held]
    exact fun same => other (Option.some.inj same)
  cases kind with
  | start =>
    rcases h.start with kept | ⟨taken, _⟩
    · exact kept.trans pending
    · exact absurd taken (apart pending)
  | stop =>
    rcases h.stop with kept | ⟨taken, _⟩
    · exact kept.trans pending
    · exact absurd taken (apart pending)
  | control name =>
    obtain ⟨older, newer, eq, length⟩ := pending
    rcases h.controls with kept | erased
    · exact ⟨older, newer, kept.trans eq, length⟩
    · have kept : ¬ decide (((id, name) : String × String).1 = requestId) = true := by
        simpa using other
      obtain ⟨older', newer', eq', fewer⟩ :=
        eraseP_keeps (p := fun entry => decide (entry.1 = requestId)) kept older newer
      exact ⟨older', newer', by rw [erased, eq]; exact eq', fewer.trans length⟩

/-- An ack keeps what a run keeps. -/
theorem Owes.ack (h : Owes s l) (env : Env) (requestId status : String) :
    Owes (stateMachine.next s (env, .event (.ws (.commandAck requestId status))))
      (l.note s (env, .event (.ws (.commandAck requestId status)))) := by
  have takes := applyCommandAck_takes s requestId status
  have released {id : String} (none : s.pending.holders id = []) :
      (applyCommandAck s requestId status).1.pending.holders id = [] := by
    have sublist := takes.holders id
    rw [none] at sublist
    exact List.sublist_nil.mp sublist
  -- what fails with this ack was owed, so it was held once and is held no more
  have answered {id : String}
      (item : id ∈ (l.note s (env, .event (.ws (.commandAck requestId status)))).failed) :
      id ∈ l.failed ∨ ackOk status = false ∧ id = requestId ∧ s.pending.holders id ≠ [] := by
    unfold Ledger.note at item
    dsimp only at item
    split at item
    · rename_i fails
      rcases List.mem_append.mp item with now | before
      · obtain ⟨entry, item', rfl⟩ := List.mem_map.mp now
        obtain ⟨owed, own⟩ := List.mem_filter.mp item'
        have own : some requestId = some entry.id := of_decide_eq_true own
        refine .inr ⟨by simpa [Input.fails] using fails, (Option.some.inj own).symm, ?_⟩
        exact List.ne_nil_of_mem (h.owed entry owed).holds
      · exact .inl before
    · exact .inl item
  refine ⟨fun entry item => ?_, fun id => ?_, fun id item => ?_, fun id some => ?_,
    fun id item => ?_⟩
  · unfold Ledger.note at item
    rw [commandAck_orders, List.map_nil, List.append_nil] at item
    obtain ⟨owed, item', after⟩ := List.mem_filterMap.mp item
    unfold Owed.after at after
    split at after
    · cases after
    · rename_i kept
      have none : sentControls s (env, .event (.ws (.commandAck requestId status))) = 0 := by
        unfold sentControls
        rw [commandAck_orders]
        rfl
      rw [none] at after
      cases after
      refine takes.keeps (fun same => kept ?_) (h.owed owed item')
      have same : owed.id = requestId := same
      simp [Input.answers, same]
  · exact (takes.holders id).length_le.trans (h.single id)
  · show (applyCommandAck s requestId status).1.pending.holders id = []
    rcases answered item with before | ⟨failed, rfl, _⟩
    · exact released (h.failed id before)
    · rw [(failingAck s id failed).2, if_pos rfl]
      have length := h.single id
      exact List.length_eq_zero_iff.mp (by rw [List.length_tail]; omega)
  · exact List.mem_append_right _ (h.drawn id fun none => some (released none))
  · apply List.mem_append_right _
    rcases answered item with before | ⟨_, _, held⟩
    · exact h.failedDrawn id before
    · exact h.drawn id held

/-- Every step keeps what a run keeps. -/
theorem Owes.next (h : Owes s l) (new : DrawsNew (s, l) i) :
    Owes (stateMachine.next s i) (l.note s i) := by
  obtain ⟨env, input⟩ := i
  by_cases answered : ∃ requestId status, input = .event (.ws (.commandAck requestId status))
  · obtain ⟨requestId, status, rfl⟩ := answered
    exact h.ack env requestId status
  · have quiet : input.answers = none := by
      unfold Input.answers
      split
      · exact absurd ⟨_, _, rfl⟩ answered
      · rfl
    have fails : input.fails = false := by
      unfold Input.fails
      split
      · exact absurd ⟨_, _, rfl⟩ answered
      · rfl
    obtain ⟨issue, issues⟩ := step_issues s (env, input) quiet
    exact h.issue issues fails new

/-- What a run keeps makes every ack announce what it should. -/
theorem Owes.announces (h : Owes s l) : AnnouncedOnce (s, l) i := by
  obtain ⟨env, input⟩ := i
  unfold AnnouncedOnce
  split
  · rename_i requestId status received
    obtain rfl : input = _ := received
    constructor
    · rintro entry owed rfl failed
      obtain ⟨told, _⟩ := failingAck s entry.id failed
      have held := (h.owed entry owed).holds
      obtain ⟨kind, only⟩ := List.length_eq_one_iff.mp
        ((h.single entry.id).antisymm (List.length_pos_of_mem held))
      rw [only] at held
      show announced (applyCommandAck s entry.id status).2 = _
      rw [told, only, List.mem_singleton.mp held]
      rfl
    · intro failedBefore
      show announced (applyCommandAck s requestId status).2 = []
      cases ok : ackOk status with
      | true => exact okAck s requestId ok
      | false =>
        rw [(failingAck s requestId ok).1, h.failed requestId failedBefore]
        rfl
  · trivial

/-- Ids that are distinct over a run are new at each of its steps. -/
theorem drawsNew_of_nodup {is : List (Env × Input)}
    (distinct : (is.flatMap (fun i => i.1.fresh.requestIds) ++ l.drawn).Nodup) :
    ledgered.Each DrawsNew (s, l) is := by
  induction is generalizing s l with
  | nil => trivial
  | cons i is ih =>
    rw [List.flatMap_cons, List.append_assoc] at distinct
    refine ⟨distinct.sublist ?_, ih ?_⟩
    · exact List.Sublist.append_left (List.sublist_append_right _ _) _
    · have moved : (is.flatMap (fun i => i.1.fresh.requestIds) ++
          (i.1.fresh.requestIds ++ l.drawn)).Perm
          (i.1.fresh.requestIds ++ (is.flatMap (fun i => i.1.fresh.requestIds) ++ l.drawn)) := by
        rw [← List.append_assoc, ← List.append_assoc]
        exact List.perm_append_comm.append_right _
      exact moved.nodup_iff.mpr distinct

/-- **Every failure is announced once.** In every run whose request ids are distinct, every failing
first answer to a command that no report settled and no newer commands displaced announces that
command, once, and no later answer under its id announces anything. -/
theorem failures_announced (localMode : Bool) (tolerance : ℚ) (is : List (Env × Input))
    (distinct : (is.flatMap fun i => i.1.fresh.requestIds).Nodup) :
    ledgered.Each AnnouncedOnce (SmState.init localMode tolerance, .empty) is := by
  have new : ledgered.Each DrawsNew (SmState.init localMode tolerance, .empty) is :=
    drawsNew_of_nodup (by simpa [Ledger.empty] using distinct)
  have start : Owes (SmState.init localMode tolerance) .empty := by
    refine ⟨nofun, fun id => ?_, nofun, fun id held => absurd ?_ held, nofun⟩
    · exact Nat.zero_le 1
    · rfl
  exact Machine.Each.law (m := ledgered) (I := fun (sl : SmState × Ledger) => Owes sl.1 sl.2)
    (fun _ _ owes new => owes.next new)
    (fun _ _ owes _ => owes.announces) start new

namespace Kitchen

/-- An ack in a moment of its own. -/
def acksAt (name requestId answer : String) : Env × Input :=
  (Kitchen.env name, .event (.ws (.commandAck requestId answer)))

/-- A start that the oven refuses, and answers again. -/
def refusedStart : List (Env × Input) :=
  [found, starts "first", acksAt "once" "first" "timeout", acksAt "twice" "first" "timeout"]

/-- A client switches the lamp on, in a moment of its own. -/
def lampAt (name : String) : Env × Input := (Kitchen.env name, .command (.control (.lamp true)))

/-- As many more switches as the list of pending controls holds. -/
def sixteenLamps : List (Env × Input) :=
  (List.range maxPendingControls).map fun n => lampAt ("later" ++ toString n)

end Kitchen

/-- A refused start is announced once. -/
theorem failures_announced_refused :
    ledgered.Each AnnouncedOnce (SmState.init true 0, .empty) Kitchen.refusedStart :=
  failures_announced true 0 Kitchen.refusedStart (by decide)

/-- A control that sixteen newer ones pushed out fails unannounced. -/
theorem displaced_control_unannounced :
    ¬ ∀ (localMode : Bool) (tolerance : ℚ) (before between : List (Env × Input))
      (issue ack : Env × Input) (requestId : String) (kind : Kind) (status : String),
      ((before ++ issue :: between ++ [ack]).flatMap fun i => i.1.fresh.requestIds).Nodup →
      (requestId, kind) ∈
        orders (stateMachine.run (SmState.init localMode tolerance) before) issue →
      (∀ i ∈ between, i.2.answers ≠ some requestId ∧ i.2.settles kind = false) →
      ack.2 = .event (.ws (.commandAck requestId status)) → ackOk status = false →
      announced (stateMachine.effects
          (stateMachine.run (SmState.init localMode tolerance) (before ++ issue :: between)) ack) =
        [⟨kind.name, status⟩] := by
  intro always
  have announces := always true 0 [Kitchen.found] Kitchen.sixteenLamps (Kitchen.lampAt "first")
    (Kitchen.acksAt "once" "first" "timeout") "first" (.control "lamp") "timeout"
    (by decide +kernel) (by decide) ?_ rfl (by decide)
  · exact absurd announces (by decide +kernel)
  · intro i item
    obtain ⟨n, _, rfl⟩ := List.mem_map.mp item
    exact ⟨nofun, rfl⟩

end AnovaOven
