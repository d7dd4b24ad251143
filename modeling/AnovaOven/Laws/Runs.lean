import AnovaOven.Laws.Lifecycle
import AnovaOven.Laws.Normalize
import AnovaOven.Laws.Told

/-!
# Laws of the state machine's runs

The protocol's laws over every sequence of commands and events from the start state: **a reported
cook can be stopped** (`cooking_oven_stoppable`), **a pending start is held back from the store**
(`start_heldBack_iff`) and **an idle report settles** (`idle_report_settles_iff`), each with the
steps that break it named by what they find in the state.
-/

namespace AnovaOven

/-! ## A kitchen to run in -/

namespace Kitchen

/-- A status of an oven in a mode, with nothing else to tell. -/
def status (mode : String) : OvenStatus where
  mode := mode
  temperatureUnit := "C"
  temperatureC := 20
  targetTemperatureC := none
  wetTargetTemperatureC := none
  temperatureBulbsMode := "dry"
  wetBulbTemperatureC := 20
  probeTemperatureC := none
  probeTargetTemperatureC := none
  timerCurrentSecs := 0
  timerTotalSecs := 0
  timerMode := "idle"
  steamPct := 0
  steamTargetPct := none
  lampOn := false
  activeStageIndex := none
  activeStageId := none
  cookDone := false
  cookId := none
  stageTransitionPendingUserAction := false

/-- One moment, with its random ids. -/
def env (requestId : String) : Env where
  now := 0
  unixSecs := some 1700000000
  fresh := {
    requestId := requestId
    lampId := requestId ++ "-lamp"
    settleId := requestId ++ "-settle"
    cookId := requestId
    manualId := requestId
    stageId := fun index => toString index }

def found : Env × Input := (env "", .event (.ws (.cookerDiscovered "cooker")))
def reports (mode : String) : Env × Input := (env "", .event (.ws (.apoState (status mode) none)))
def starts (requestId : String) : Env × Input :=
  (env requestId, .command (.startManualCook "Roast" [roast]))
def stops (requestId : String) : Env × Input := (env requestId, .command .stopCook)
def acks (requestId answer : String) : Env × Input :=
  (env "", .event (.ws (.commandAck requestId answer)))

end Kitchen

variable {env : Env} {fresh : Fresh} {s : SmState} {i : Env × Input}

/-! ## Stopping a cooking oven -/

/-- Read one message for the last report since the last disconnect. -/
def noteReport (last : Option Bool) (i : Env × Input) : Option Bool :=
  match i.2 with
  | .event (.ws (.apoState status _)) => some status.isCooking
  | .event (.ws .disconnected) => none
  | _ => last

/-- Whether the last report since the last disconnect is of a cooking oven: none where there is no
such report. -/
def lastReport (is : List (Env × Input)) : Option Bool := is.foldl noteReport none

/-- No start fails over a cook that the last status reports. -/
def StartFailsCold (s : SmState) (i : Env × Input) : Prop :=
  match i.2 with
  | .event (.ws (.commandAck requestId status)) =>
    s.awaitsStart requestId → s.reportsCooking → ackOk status
  | _ => True

theorem reportsCooking_iff (s : SmState) :
    s.reportsCooking ↔ (phase s).cooking = some true := by
  rw [reportsCooking_eq, decide_eq_true_iff]

/-- The condition is the protocol's, on the message's signal. -/
theorem StartFailsCold.keeps (h : StartFailsCold s i) :
    (phase s).KeepsStoppable (signal s i) := by
  obtain ⟨env, input⟩ := i
  cases input with
  | command cmd =>
    cases cmd with
    | startCook recipeId => exact accepted_of (P := (phase s).KeepsStoppable) _ trivial trivial
    | startManualCook title stages =>
      exact accepted_of (P := (phase s).KeepsStoppable) _ trivial trivial
    | stopCook => exact accepted_of (P := (phase s).KeepsStoppable) _ trivial trivial
    | _ => trivial
  | event evt =>
    cases evt with
    | ws event =>
      cases event with
      | commandAck requestId status =>
        intro mine cooking
        exact h ((awaitsStart_iff s requestId).mpr mine) ((reportsCooking_iff s).mpr cooking)
      | _ => trivial
    | store event =>
      cases event with
      | currentCookFetched reason result => cases result <;> trivial
      | _ => trivial
    | tick kind => trivial

/-- What was last reported since the last disconnect is what the protocol last saw. -/
theorem noteReport_next {last : Option Bool}
    (seen : ∀ cooking, last = some cooking → (phase s).cooking = some cooking) (cooking : Bool)
    (noted : noteReport last i = some cooking) :
    (phase (stateMachine.next s i)).cooking = some cooking := by
  rw [phase_next, Phase.step_cooking]
  obtain ⟨env, input⟩ := i
  cases input with
  | command cmd =>
    have same := seen cooking noted
    cases cmd with
    | startCook recipeId => exact accepted_of (P := fun sig => sig.cookingAfter _ = _) _ same same
    | startManualCook title stages =>
      exact accepted_of (P := fun sig => sig.cookingAfter _ = _) _ same same
    | stopCook => exact accepted_of (P := fun sig => sig.cookingAfter _ = _) _ same same
    | _ => exact same
  | event evt =>
    cases evt with
    | ws event =>
      cases event with
      | apoState status cook => exact noted
      | disconnected => cases noted
      | _ => exact seen cooking noted
    | store event =>
      cases event with
      | currentCookFetched reason result => cases result <;> exact seen cooking noted
      | _ => exact seen cooking noted
    | tick kind => exact seen cooking noted

/-- What a run keeps where no start fails over a reported cook: the reported cook is stoppable, and
the last report since the last disconnect is the one the state holds. -/
structure ReportHeld (s : SmState) (last : Option Bool) : Prop where
  stoppable : (phase s).Stoppable
  seen : ∀ cooking, last = some cooking → (phase s).cooking = some cooking

theorem ReportHeld.next {last : Option Bool} (h : ReportHeld s last) (cold : StartFailsCold s i) :
    ReportHeld (stateMachine.next s i) (noteReport last i) where
  stoppable := by
    rw [phase_next]
    exact Phase.stoppable_step h.stoppable cold.keeps
  seen := noteReport_next h.seen

/-- **A reported cook can be stopped.** After every run in which no start fails over a cook that the
last status reports, where the last report since the last disconnect is of a cooking oven and the
cooker is known, the lifecycle is not idle and a stop is accepted. -/
theorem cooking_oven_stoppable (localMode : Bool) (tolerance : ℚ) (is : List (Env × Input))
    (cold : stateMachine.Each StartFailsCold (SmState.init localMode tolerance) is)
    (cooking : lastReport is = some true)
    (known : (stateMachine.run (SmState.init localMode tolerance) is).connectivity.cookerId.isSome)
    (env : Env) :
    (stateMachine.run (SmState.init localMode tolerance) is).lifecycle ≠ .idle ∧
      (reduceCommand env (stateMachine.run (SmState.init localMode tolerance) is) .stopCook).reply =
        .unit (.ok ()) := by
  have start : ReportHeld (SmState.init localMode tolerance) none :=
    ⟨by simp [Phase.Stoppable, phase, SmState.init, SmState.new], by simp⟩
  have held : ReportHeld (stateMachine.run (SmState.init localMode tolerance) is) (lastReport is) :=
    Machine.Each.invariant_noted (fun _ _ _ h cold => h.next cold) start cold
  have reported := held.seen true cooking
  have active : (stateMachine.run (SmState.init localMode tolerance) is).lifecycle ≠ .idle :=
    held.stoppable reported
  refine ⟨active, ?_⟩
  have all := (all_isCooking_iff _).mpr (by rw [reported]; exact fun h => by cases h)
  exact congrArg Reply.unit ((stopCook_ok_iff env.fresh _).mpr ⟨active, all, known⟩)

namespace Kitchen

/-- A start that the oven refuses, one that it takes, and the report of that. -/
def secondTry : List (Env × Input) :=
  [found, reports "idle", starts "one", acks "one" "timeout", starts "two", acks "two" "ok", reports "cook"]

/-- The first start fails over an oven that doesn't cook. -/
theorem secondTry_cold : stateMachine.Each StartFailsCold (SmState.init false 0) secondTry := by
  refine ⟨trivial, trivial, trivial, ?refused, trivial, ?taken, trivial, trivial⟩
  case refused => exact fun _ cooking => absurd cooking (by decide)
  case taken => exact fun _ _ => by decide

end Kitchen

/-- The cook that was started at the second try can be stopped. -/
theorem cooking_oven_stoppable_second_try :
    (stateMachine.run (SmState.init false 0) Kitchen.secondTry).lifecycle ≠ .idle ∧
      (reduceCommand (Kitchen.env "stop") (stateMachine.run (SmState.init false 0) Kitchen.secondTry)
        .stopCook).reply = .unit (.ok ()) :=
  cooking_oven_stoppable false 0 Kitchen.secondTry Kitchen.secondTry_cold (by decide) (by decide)
    (Kitchen.env "stop")

/-- A start over a reported cook that the oven then refuses leaves the cook running under an idle
lifecycle, with the cooker known, and the stop is refused. -/
theorem cooking_oven_stranded :
    ¬ ∀ (localMode : Bool) (tolerance : ℚ) (is : List (Env × Input)), lastReport is = some true →
      (stateMachine.run (SmState.init localMode tolerance) is).connectivity.cookerId.isSome →
      (stateMachine.run (SmState.init localMode tolerance) is).lifecycle ≠ .idle := by
  intro always
  exact always false 0
    [Kitchen.found, Kitchen.reports "cook", Kitchen.starts "over", Kitchen.acks "over" "timeout"]
    (by decide) (by decide) (by decide)

/-- Where the condition fails, so does the law: a start that fails over a reported cook leaves the
lifecycle idle. -/
theorem startFails_strands {requestId answer : String} (mine : s.awaitsStart requestId)
    (failed : ¬ ackOk answer) :
    (stateMachine.next s (env, .event (.ws (.commandAck requestId answer)))).lifecycle = .idle := by
  show (applyCommandAck s requestId answer).1.lifecycle = .idle
  unfold applyCommandAck
  rw [if_pos mine, if_neg failed]
  rfl

/-! ## Idle reports -/

/-- Whether a message is an idle report. -/
def idleReport (i : Env × Input) : Bool :=
  match i.2 with
  | .event (.ws (.apoState status _)) => !status.isCooking
  | _ => false

/-- A settled-idle oven: an idle lifecycle, no current cook and nothing pending. -/
structure SettledIdle (s : SmState) : Prop where
  lifecycle : s.lifecycle = .idle
  currentCook : s.currentCook = none
  start : s.pending.start = none
  stop : s.pending.stop = none

/-- The states an idle report settles: under a reported cook no start is pending, and before the
first report neither a stop is nor has the lifecycle gone past a start. -/
structure IdleSettles (s : SmState) : Prop where
  reported : s.reportsCooking → s.pending.start = none
  unseen : s.status = none →
    s.pending.stop = none ∧ (s.lifecycle = .idle ∨ s.lifecycle = .startPending)

theorem settledIdle_iff (s : SmState) : SettledIdle s ↔ (phase s).Settled := by
  constructor
  · rintro ⟨hl, hc, hs, hp⟩
    constructor <;> simp [phase, hl, hc, hs, hp]
  · rintro ⟨hl, hs, hp, hc⟩
    constructor <;> simp_all [phase]

theorem idleSettles_iff (s : SmState) : IdleSettles s ↔ (phase s).Settles := by
  have reported := reportsCooking_iff s
  constructor
  · rintro ⟨seen, unseen⟩
    exact ⟨fun cooking => by simpa [phase] using seen (reported.mpr cooking),
      fun none => by simpa [phase] using unseen (by simpa [phase] using none)⟩
  · rintro ⟨seen, unseen⟩
    exact ⟨fun cooking => by simpa [phase] using seen (reported.mp cooking),
      fun none => by simpa [phase] using unseen (by simp [phase, none])⟩

/-- Only an idle report signals one. -/
theorem idleReport_of_signal {turnOff : Option String}
    (report : signal s i = .report false turnOff) : idleReport i := by
  obtain ⟨env, input⟩ := i
  unfold signal at report
  split at report
  · exact absurd report (accepted_of (P := fun sig => sig ≠ _) _ (by simp) (by simp))
  · exact absurd report (accepted_of (P := fun sig => sig ≠ _) _ (by simp) (by simp))
  · exact absurd report (accepted_of (P := fun sig => sig ≠ _) _ (by simp) (by simp))
  · rename_i status cook heq
    obtain ⟨hc, _⟩ := Signal.report.inj report
    subst heq
    simp [idleReport, hc]
  all_goals cases report

/-- An idle report settles where the protocol says so: no turn-off follows it. -/
theorem idle_report_settles (h : (phase s).Settling) (idle : idleReport i) :
    SettledIdle (stateMachine.next s i) ↔ IdleSettles s := by
  obtain ⟨env, input⟩ := i
  obtain ⟨status, cook, rfl, hc⟩ : ∃ status cook,
      input = .event (.ws (.apoState status cook)) ∧ status.isCooking = false := by
    unfold idleReport at idle
    split at idle
    · rename_i status cook heq
      exact ⟨status, cook, heq, by simpa using idle⟩
    · cases idle
  rw [settledIdle_iff, idleSettles_iff, idleReport_phase s env cook hc]
  exact Phase.observe_settled h

/-- What settles is kept by a message, where an idle report is one that settles. -/
theorem settling_next (h : (phase s).Settling) (settles : idleReport i → IdleSettles s) :
    (phase (stateMachine.next s i)).Settling := by
  rw [phase_next]
  apply Phase.settling_step h (signal_admitted s i)
  intro turnOff report
  exact (idleSettles_iff s).mp (settles (idleReport_of_signal report))

/-- **Idle reports settle.** In every run, every idle report leaves a settled-idle oven exactly when
every one of them arrives at a state it settles. -/
theorem idle_report_settles_iff (localMode : Bool) (tolerance : ℚ) (is : List (Env × Input)) :
    stateMachine.Each (fun s i => idleReport i → SettledIdle (stateMachine.next s i))
        (SmState.init localMode tolerance) is ↔
      stateMachine.Each (fun s i => idleReport i → IdleSettles s)
        (SmState.init localMode tolerance) is :=
  Machine.Each.iff_of_invariant (I := fun s => (phase s).Settling)
    (fun _ _ h settles => settling_next h settles)
    (fun _ _ h => forall_congr' fun idle => idle_report_settles h idle)
    ⟨by simp [phase, SmState.init, SmState.new], by simp [phase, SmState.init, SmState.new]⟩

/-- A start over a reported cook outlives the idle report that ends the cook. -/
theorem idle_report_leaves_start :
    ¬ ∀ (localMode : Bool) (tolerance : ℚ) (is : List (Env × Input)),
      stateMachine.Each (fun s i => idleReport i → SettledIdle (stateMachine.next s i))
        (SmState.init localMode tolerance) is := by
  intro always
  have settled := always false 0
    [Kitchen.found, Kitchen.reports "cook", Kitchen.starts "over", Kitchen.reports "idle"]
  exact absurd (settled.2.2.2.1 (by decide)).start (by decide)

/-! ## The hold-back -/

/-- The messages that resolve a pending start: the first cooking report after idle, and the start's
ok ack while the oven cooks in local mode. -/
def ResolvesStart (s : SmState) (i : Env × Input) : Prop :=
  match i.2 with
  | .event (.ws (.apoState status _)) => status.isCooking ∧ ¬ s.reportsCooking
  | .event (.ws (.commandAck requestId status)) =>
    s.awaitsStart requestId ∧ ackOk status ∧ s.localMode ∧ s.reportsCooking
  | _ => False

/-- A start is pending exactly while the lifecycle says so. -/
def StartInStep (s : SmState) : Prop := s.pending.start.isSome ↔ s.lifecycle = .startPending

/-- What the hold-back asks of a step: it leads to a state whose pending start and lifecycle agree,
and while a start is pending it tells the store of no cook, unless it resolves the start. -/
structure HeldBack (s : SmState) (i : Env × Input) : Prop where
  inStep : StartInStep (stateMachine.next s i)
  silent : s.pending.start.isSome → ¬ ResolvesStart s i →
    ∀ effect ∈ stateMachine.effects s i, effect.tellsOfCook = false

/-- The steps that keep the hold-back. While a start is pending, a stop finds the oven reported idle
or no cooker, a report over a reported cook is not idle, and no stop fails under an id that isn't
the start's. -/
def KeepsHeldBack (s : SmState) (i : Env × Input) : Prop :=
  s.lifecycle = .startPending →
    match i.2 with
    | .command .stopCook =>
      ¬ (s.status.all OvenStatus.isCooking ∧ s.connectivity.cookerId.isSome)
    | .event (.ws (.apoState status _)) => s.reportsCooking → status.isCooking
    | .event (.ws (.commandAck requestId status)) =>
      s.awaitsStop requestId → s.awaitsStart requestId ∨ ackOk status
    | _ => True

theorem startInStep_iff (s : SmState) : StartInStep s ↔ (phase s).InStep := by
  simp [StartInStep, Phase.InStep, phase]

/-- A stop keeps the hold-back where it is refused, or no start is pending. -/
theorem keepsHeldBack_stop (env : Env) (s : SmState) :
    KeepsHeldBack s (env, .command .stopCook) ↔
      (phase s).KeepsInStep (accepted (stopCook env.fresh s) (.stop env.fresh.requestId)) := by
  have ok := stopCook_ok_iff env.fresh s
  show (s.lifecycle = .startPending → ¬ (_ ∧ _)) ↔ _
  unfold accepted
  cases result : (stopCook env.fresh s).result with
  | ok =>
    obtain ⟨_, cooking, known⟩ := ok.mp result
    exact imp_congr Iff.rfl (iff_of_false (fun refused => refused ⟨cooking, known⟩) id)
  | error e =>
    refine iff_of_true (fun pending guards => ?_) trivial
    have accepted := ok.mpr ⟨by rw [pending]; simp, guards⟩
    rw [result] at accepted
    cases accepted

/-- The condition is the protocol's, on the message's signal. -/
theorem keepsHeldBack_iff (s : SmState) (i : Env × Input) :
    KeepsHeldBack s i ↔ (phase s).KeepsInStep (signal s i) := by
  obtain ⟨env, input⟩ := i
  cases input with
  | command cmd =>
    cases cmd with
    | startCook recipeId =>
      exact iff_of_true (fun _ => trivial)
        (accepted_of (P := (phase s).KeepsInStep) _ trivial trivial)
    | startManualCook title stages =>
      exact iff_of_true (fun _ => trivial)
        (accepted_of (P := (phase s).KeepsInStep) _ trivial trivial)
    | stopCook => exact keepsHeldBack_stop env s
    | _ => exact iff_of_true (fun _ => trivial) trivial
  | event evt =>
    cases evt with
    | ws event =>
      cases event with
      | apoState status cook =>
        exact forall_congr' fun _ => imp_congr (reportsCooking_iff s) Iff.rfl
      | commandAck requestId status =>
        exact forall_congr' fun _ => imp_congr (awaitsStop_iff s requestId)
          (or_congr (awaitsStart_iff s requestId) Iff.rfl)
      | _ => exact iff_of_true (fun _ => trivial) trivial
    | store event =>
      cases event with
      | currentCookFetched reason result =>
        cases result <;> exact iff_of_true (fun _ => trivial) trivial
      | _ => exact iff_of_true (fun _ => trivial) trivial
    | tick kind => exact iff_of_true (fun _ => trivial) trivial

/-- A report that resolves no pending start tells the store of no cook. -/
theorem recordStatus_held (fresh : Fresh) (status : OvenStatus)
    (pending : s.lifecycle = .startPending) (unresolved : ¬ (status.isCooking ∧ ¬ s.reportsCooking)) :
    Silent (recordStatus fresh s status).2 := by
  have noEdge : ¬ (status.isCooking && !s.reportsCooking) = true := by simpa using unresolved
  unfold recordStatus
  dsimp only
  rw [if_neg noEdge]
  refine (silent_append _ _).mpr ⟨(silent_append _ _).mpr ⟨silent_nil, ?_⟩, ?_⟩
  · split <;> simp [stoppedCooking, SmEffect.tellsOfCook]
  · split
    · rename_i transition
      have same : ¬ (!status.isCooking && s.reportsCooking) = true := by
        intro idle
        simp_all
      rw [if_neg same]
      simpa using (fetchCurrentCook_silent _ .wsStageTransition).mpr (.inl pending)
    · exact silent_nil

/-- The report's part of the hold-back: the store hears of no report, and no fetch carries a cook. -/
theorem apoState_held (env : Env) (status : OvenStatus) (cook : Option OvenCook)
    (pending : s.lifecycle = .startPending) (unresolved : ¬ (status.isCooking ∧ ¬ s.reportsCooking)) :
    Silent (stateMachine.effects s (env, .event (.ws (.apoState status cook)))) := by
  have settled := settlePreheat_frame env { s with ovenCook := cook } status
  obtain ⟨watch, controls, frame⟩ := settled.state
  have recorded : Silent (recordStatus env.fresh
      (settlePreheat env { s with ovenCook := cook } status).1
      (settlePreheat env { s with ovenCook := cook } status).2.1).2 := by
    refine recordStatus_held env.fresh _ ?_ ?_
    · rw [frame]
      exact pending
    · rw [settled.isCooking, frame]
      exact unresolved
  have noReport : ¬ s.lifecycle ≠ .startPending := fun h => h pending
  rw [apoState_effects, if_neg noReport]
  simp only [silent_append, silent_nil, silent_cons, and_true, true_and]
  exact ⟨⟨⟨recorded, (turnOffWhenDone_offStore _ _).silent⟩, rfl⟩, (settlePreheat_offStore _ _ _).silent⟩

/-- The ack's part: only the start's ok ack fetches, and held back where it resolves nothing. -/
theorem commandAck_held (requestId status : String) (pending : s.lifecycle = .startPending)
    (unresolved : ¬ (s.awaitsStart requestId ∧ ackOk status ∧ s.localMode ∧ s.reportsCooking)) :
    Silent (applyCommandAck s requestId status).2 := by
  unfold applyCommandAck
  split
  · rename_i mine
    split
    · rename_i ok
      refine silent_one ((fetchCurrentCook_silent _ _).mpr (.inl ?_))
      split
      · rename_i resolves
        obtain ⟨inLocal, cooking⟩ := Bool.and_eq_true_iff.mp resolves
        exact absurd ⟨mine, ok, inLocal, cooking⟩ unresolved
      · exact pending
    · simp [commandFailed, SmEffect.tellsOfCook]
  · split
    · simp [commandFailed, SmEffect.tellsOfCook]
    · exact (ackControl_offStore s requestId status).silent

/-- While a start is pending, a message that doesn't resolve it tells the store of no cook. -/
theorem pendingStart_held (pending : s.lifecycle = .startPending) (unresolved : ¬ ResolvesStart s i) :
    Silent (stateMachine.effects s i) := by
  obtain ⟨env, input⟩ := i
  cases may : mayTell input with
  | false => exact effects_silent s env may
  | true =>
    unfold mayTell at may
    split at may
    · exact apoState_held env _ _ pending unresolved
    · exact commandAck_held _ _ pending unresolved
    · exact silent_one ((fetchCurrentCook_silent _ .startCommandAccepted).mpr (.inl pending))
    · show Silent (reduceTick s .currentCookRefresh)
      unfold reduceTick
      rw [if_pos (.inr pending)]
      exact silent_one ((fetchCurrentCook_silent _ .periodic).mpr (.inl pending))
    · cases may

/-- **The hold-back.** In every run, the pending start and the lifecycle agree in every state reached
and a pending start is held back from the store, exactly when every step keeps the hold-back. -/
theorem start_heldBack_iff (localMode : Bool) (tolerance : ℚ) (is : List (Env × Input)) :
    StartInStep (SmState.init localMode tolerance) ∧
        stateMachine.Each HeldBack (SmState.init localMode tolerance) is ↔
      stateMachine.Each KeepsHeldBack (SmState.init localMode tolerance) is := by
  have keeps : ∀ s i, StartInStep s → (StartInStep (stateMachine.next s i) ↔ KeepsHeldBack s i) :=
    fun s i inStep => by
      rw [startInStep_iff, phase_next, keepsHeldBack_iff]
      exact Phase.inStep_step ((startInStep_iff s).mp inStep) (signal_admitted s i)
  have start : StartInStep (SmState.init localMode tolerance) := by
    simp [StartInStep, SmState.init, SmState.new]
  rw [and_iff_right start]
  refine Machine.Each.iff_of_invariant (I := StartInStep)
    (fun s i inStep kept => (keeps s i inStep).mpr kept) (fun s i inStep => ?_) start
  constructor
  · exact fun held => (keeps s i inStep).mp held.inStep
  · exact fun kept => ⟨(keeps s i inStep).mpr kept,
      fun pending => pendingStart_held (inStep.mp pending)⟩

/-- A stop of a start the oven hasn't reported leaves the start pending under a stop. -/
theorem stop_over_pending_start :
    ¬ ∀ (localMode : Bool) (tolerance : ℚ) (is : List (Env × Input)),
      StartInStep (SmState.init localMode tolerance) ∧
        stateMachine.Each HeldBack (SmState.init localMode tolerance) is := by
  intro always
  have held := (always true 0
    [Kitchen.found, Kitchen.reports "cook", Kitchen.starts "over", Kitchen.stops "stop"]).2
  exact absurd (held.2.2.2.1.inStep.mp (by decide)) (by decide)

end AnovaOven
