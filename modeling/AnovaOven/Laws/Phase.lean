import AnovaOven.Phase

/-!
# The state machine refines the lifecycle protocol

Every reduction is one step of the protocol, on the signal the message gives (`phase_next`). The
laws before it say what each part of a reduction does, once: a settled preheat touches the watch,
the controls and one flag of the status (`settlePreheat_frame`), a turn-off either does nothing that
the protocol sees or is an accepted stop (`turnOffWhenDone_phase`).
-/

namespace AnovaOven

variable {env : Env} {fresh : Fresh} {s : SmState} {status : OvenStatus}

/-! ## What the parts of a report change -/

/-- What a settled preheat does: it touches the watch, the controls and one flag of the status, and
asks for nothing but the stage after the preheat. -/
structure SettleFrame (s : SmState) (status : OvenStatus)
    (settled : SmState × OvenStatus × List SmEffect) : Prop where
  state : ∃ watch controls, settled.1 =
    { s with preheatWatch := watch, pending := { s.pending with controls := controls } }
  status : ∃ waits, settled.2.1 = { status with stageTransitionPendingUserAction := waits }
  effects : settled.2.2 = [] ∨
    ∃ requestId stageId, settled.2.2 = [.ws (.control requestId (.startStage stageId))]

/-- A preheat that settles nothing has the frame. -/
theorem SettleFrame.keep (s : SmState) (status : OvenStatus) (watch : Option PreheatWatch)
    (waits : Bool) :
    SettleFrame s status ({ s with preheatWatch := watch },
      { status with stageTransitionPendingUserAction := waits }, []) :=
  ⟨⟨watch, s.pending.controls, rfl⟩, ⟨waits, rfl⟩, .inl rfl⟩

theorem settlePreheat_frame (env : Env) (s : SmState) (status : OvenStatus) :
    SettleFrame s status (settlePreheat env s status) := by
  unfold settlePreheat
  split
  · exact .keep s status _ _
  · dsimp only
    split
    · exact .keep s status _ _
    · split
      · split
        · exact .keep s status _ true
        · exact .keep s status _ _
      · split
        · exact .keep s status _ _
        · split
          · exact .keep s status _ _
          · split
            · exact .keep s status _ true
            · split
              · exact .keep s status _ _
              · exact ⟨⟨_, _, rfl⟩, ⟨_, rfl⟩, .inr ⟨_, _, rfl⟩⟩

/-- A settled preheat keeps the protocol's view, and whether the report is of a cooking oven. -/
theorem SettleFrame.phase {settled : SmState × OvenStatus × List SmEffect}
    (h : SettleFrame s status settled) : phase settled.1 = phase s := by
  obtain ⟨_, _, frame⟩ := h.state
  rw [frame]
  rfl

theorem SettleFrame.isCooking {settled : SmState × OvenStatus × List SmEffect}
    (h : SettleFrame s status settled) : settled.2.1.isCooking = status.isCooking := by
  obtain ⟨_, frame⟩ := h.status
  rw [frame]
  rfl

/-- The last report, as the protocol sees it. -/
theorem reportsCooking_eq (s : SmState) :
    s.reportsCooking = decide ((phase s).cooking = some true) := by
  unfold SmState.reportsCooking phase
  cases s.status with
  | none => rfl
  | some status => cases h : status.isCooking <;> simp [h]

/-- The lamp's part of a cook's start changes only the controls. -/
theorem lampOn_frame (fresh : Fresh) (s : SmState) (seenBefore : Bool) (status : OvenStatus) :
    ∃ controls, (lampOn fresh s seenBefore status).1 =
      { s with pending := { s.pending with controls := controls } } := by
  unfold lampOn
  split
  · exact ⟨_, rfl⟩
  · exact ⟨s.pending.controls, rfl⟩

/-- What the idle → cooking edge does: no start is pending any more, and the lifecycle is cooking. -/
theorem startedCooking_frame (fresh : Fresh) (s : SmState) (status : OvenStatus) :
    ∃ origin controls, (startedCooking fresh s status).1 =
      { s with
        lifecycle := .cooking
        lastOrigin := some origin
        pending := ⟨none, s.pending.stop, controls⟩ } := by
  unfold startedCooking
  exact ⟨_, lampOn_frame fresh (SmState.setLifecycle _ _ _) _ _⟩

theorem startedCooking_phase (fresh : Fresh) (s : SmState) (status : OvenStatus) :
    phase (startedCooking fresh s status).1 =
      { phase s with start := none, lifecycle := .cooking } := by
  obtain ⟨origin, controls, frame⟩ := startedCooking_frame fresh s status
  rw [frame]
  rfl

theorem stoppedCooking_phase (s : SmState) :
    phase (stoppedCooking s).1 =
      { phase s with stop := none, hasCook := false, lifecycle := .idle } := rfl

theorem reconcileIdle_phase (s : SmState) : phase (reconcileIdle s) = (phase s).rollBack := by
  unfold reconcileIdle Phase.rollBack
  cases h : s.lifecycle <;>
    simp [phase, h, SmState.setPendingStart, SmState.setLifecycle]

/-- A report up to the turn-off is the protocol's `observe`. -/
theorem recordStatus_phase (fresh : Fresh) (s : SmState) (status : OvenStatus) :
    phase (recordStatus fresh s status).1 = (phase s).observe status.isCooking := by
  have prev := reportsCooking_eq s
  have stored : ∀ s' : SmState, phase { s' with status := some status } =
      { phase s' with cooking := some status.isCooking } := fun _ => rfl
  unfold recordStatus Phase.observe
  rw [prev]
  generalize decide ((phase s).cooking = some true) = wasCooking
  cases hc : status.isCooking <;> cases wasCooking <;>
    simp only [stored, hc, Bool.not_true, Bool.not_false, Bool.and_true, Bool.and_false,
      Bool.and_self, if_true, if_false, Bool.false_eq_true, reconcileIdle_phase,
      startedCooking_phase, stoppedCooking_phase]
  -- the idle edge leaves an idle lifecycle without a cook, which the roll-back keeps
  rfl

/-! ## Stops and starts -/

/-- The lamp's part of a stop changes only the controls. -/
theorem lampOff_frame (fresh : Fresh) (s : SmState) :
    ∃ controls, (lampOff fresh s).1 = { s with pending := { s.pending with controls := controls } } := by
  unfold lampOff
  split
  · exact ⟨_, rfl⟩
  · exact ⟨s.pending.controls, rfl⟩

/-- What a stop does: it is refused and changes nothing, or it is accepted from a lifecycle that is
not idle, with a known cooker and a last report that is not idle. -/
theorem stopCook_cases (fresh : Fresh) (s : SmState) :
    (∃ e, stopCook fresh s = refuse s e) ∨
    (s.lifecycle ≠ .idle ∧ (s.status.all OvenStatus.isCooking) ∧ s.connectivity.cookerId.isSome ∧
      ∃ controls, stopCook fresh s =
        ⟨{ s with
            lifecycle := .stopPending
            lastOrigin := some .localCommand
            pending := ⟨s.pending.start, some ⟨fresh.requestId⟩, controls⟩ },
          .ok (), (lampOff fresh s).2 ++ [.ws (.sendStop fresh.requestId)]⟩) := by
  unfold stopCook
  split
  · exact .inl ⟨_, rfl⟩
  · rename_i notIdle
    split
    · exact .inl ⟨_, rfl⟩
    · rename_i reported
      split
      · exact .inl ⟨_, rfl⟩
      · rename_i known
        obtain ⟨controls, hlamp⟩ := lampOff_frame fresh s
        refine .inr ⟨notIdle, ?_, ?_, controls, ?_⟩
        · cases hs : s.status with
          | none => rfl
          | some status => simpa [hs] using reported
        · simpa only [Option.isSome_iff_ne_none, ne_eq, Option.isNone_iff_eq_none] using known
        · dsimp only
          rw [hlamp]
          rfl

/-- A stop is accepted exactly from a lifecycle that is not idle, with a known cooker and no idle
report. -/
theorem stopCook_ok_iff (fresh : Fresh) (s : SmState) :
    (stopCook fresh s).result = .ok () ↔
      s.lifecycle ≠ .idle ∧ s.status.all OvenStatus.isCooking ∧
        s.connectivity.cookerId.isSome := by
  constructor
  · intro accepted
    rcases stopCook_cases fresh s with ⟨e, h⟩ | ⟨active, cooking, known, _⟩
    · rw [h] at accepted
      cases accepted
    · exact ⟨active, cooking, known⟩
  · rintro ⟨active, cooking, known⟩
    have notIdle : ¬ (s.status.any fun st => !st.isCooking) := by
      cases h : s.status <;> simp_all
    have notUnknown : ¬ s.connectivity.cookerId.isNone := by
      simpa [← Option.isSome_iff_ne_none] using known
    unfold stopCook
    rw [if_neg active, if_neg notIdle, if_neg notUnknown]

/-- A stop is one step of the protocol: a stop where it is accepted, nothing where it is refused. -/
theorem stopCook_phase (fresh : Fresh) (s : SmState) (localMode : Bool) :
    phase (stopCook fresh s).state =
      (phase s).step localMode (accepted (stopCook fresh s) (.stop fresh.requestId)) := by
  rcases stopCook_cases fresh s with ⟨e, h⟩ | ⟨_, _, _, controls, h⟩ <;> rw [h] <;> rfl

/-- The turn-off is nothing the protocol sees, or a stop under the turn-off's request id. -/
theorem turnOffWhenDone_phase (fresh : Fresh) (s : SmState) :
    phase (turnOffWhenDone fresh s).1 =
      match turnOffId fresh s with
      | none => phase s
      | some requestId => (phase s).stopping requestId := by
  unfold turnOffWhenDone turnOffId
  cases cookToTurnOff s with
  | none => rfl
  | some cookId =>
    dsimp only [Option.bind_some]
    rcases stopCook_cases fresh { s with turnedOff := some cookId } with
      ⟨e, h⟩ | ⟨_, _, _, controls, h⟩ <;> rw [h] <;> rfl

theorem startCook_phase (env : Env) (s : SmState) (recipeId : String) (localMode : Bool) :
    phase (startCook env s recipeId).state =
      (phase s).step localMode
        (accepted (startCook env s recipeId) (.start env.fresh.requestId)) := by
  unfold startCook
  split
  · rfl
  · split <;> rfl

theorem startManualCook_phase (env : Env) (s : SmState) (title : String) (stages : List Stage)
    (localMode : Bool) :
    phase (startManualCook env s title stages).state =
      (phase s).step localMode
        (accepted (startManualCook env s title stages) (.start env.fresh.requestId)) := by
  unfold startManualCook
  split <;> rfl

theorem linkCurrentCook_phase (s : SmState) (recipeId title : String) :
    phase (linkCurrentCook s recipeId title).state = phase s := by
  unfold linkCurrentCook
  cases h : s.currentCook with
  | none => rfl
  | some cook => simp only [phase, h, Option.isSome_some]

/-! ## Acks -/

theorem awaitsStart_iff (s : SmState) (requestId : String) :
    s.awaitsStart requestId ↔ (phase s).start = some requestId := by
  unfold SmState.awaitsStart phase
  cases s.pending.start <;> simp

theorem awaitsStop_iff (s : SmState) (requestId : String) :
    s.awaitsStop requestId ↔ (phase s).stop = some requestId := by
  unfold SmState.awaitsStop phase
  cases s.pending.stop <;> simp

theorem ackControl_phase (s : SmState) (requestId status : String) :
    phase (ackControl s requestId status).1 = phase s := by
  unfold ackControl
  split <;> rfl

theorem applyCommandAck_phase (s : SmState) (requestId status : String) :
    phase (applyCommandAck s requestId status).1 =
      (phase s).acked s.localMode requestId (ackOk status) := by
  have prev := reportsCooking_eq s
  unfold applyCommandAck Phase.acked
  by_cases hstart : s.awaitsStart requestId
  · have hp := (awaitsStart_iff s requestId).mp hstart
    rw [if_pos hstart, if_pos hp]
    cases ackOk status
    · rfl
    · simp only [if_true]
      show phase (if s.localMode && s.reportsCooking then _ else _) = _
      rw [prev]
      split <;> rfl
  · have hp : (phase s).start ≠ some requestId := fun h =>
      hstart ((awaitsStart_iff s requestId).mpr h)
    rw [if_neg hstart, if_neg hp]
    by_cases hstop : s.awaitsStop requestId
    · have hq := (awaitsStop_iff s requestId).mp hstop
      cases ackOk status
      · simp only [hstop, hq, decide_true, Bool.not_false, Bool.and_self, if_true]
        rfl
      · simp only [Bool.not_true, Bool.and_false, Bool.false_eq_true, if_false, ackControl_phase]
    · have hq : (phase s).stop ≠ some requestId := fun h =>
        hstop ((awaitsStop_iff s requestId).mpr h)
      simp only [hstop, hq, decide_false, Bool.false_and, Bool.false_eq_true, if_false,
        ackControl_phase]

/-! ## The refinement -/

/-- A report up to the turn-off is the protocol's `observe`, a settled preheat or not. -/
theorem reported_phase (env : Env) (s : SmState) (status : OvenStatus) (cook : Option OvenCook) :
    phase (reported env s status cook) = (phase s).observe status.isCooking := by
  have settled := settlePreheat_frame env { s with ovenCook := cook } status
  unfold reported
  dsimp only
  rw [recordStatus_phase, settled.phase, settled.isCooking]
  rfl

/-- The effects of a report, in order: the store hears of it first, where no start is pending. -/
theorem apoState_effects (env : Env) (s : SmState) (status : OvenStatus) (cook : Option OvenCook) :
    stateMachine.effects s (env, .event (.ws (.apoState status cook))) =
      (if s.lifecycle ≠ .startPending then [.store (.ovenReported cook)] else []) ++
        ((recordStatus env.fresh (settlePreheat env { s with ovenCook := cook } status).1
            (settlePreheat env { s with ovenCook := cook } status).2.1).2 ++
          (turnOffWhenDone env.fresh (reported env s status cook)).2 ++ [.publishReadModel]) ++
        (settlePreheat env { s with ovenCook := cook } status).2.2 :=
  rfl

/-- The report's part of the refinement. -/
theorem apoState_phase (env : Env) (s : SmState) (status : OvenStatus) (cook : Option OvenCook)
    (localMode : Bool) :
    phase (reduceWsEvent env s (.apoState status cook)).1 =
      (phase s).step localMode
        (.report status.isCooking (turnOffId env.fresh (reported env s status cook))) := by
  have off := turnOffWhenDone_phase env.fresh (reported env s status cook)
  show phase (turnOffWhenDone env.fresh (reported env s status cook)).1 = _
  rw [off, reported_phase]
  cases turnOffId env.fresh (reported env s status cook) <;> rfl

/-- **Refinement.** One reduction of the state machine is one step of the lifecycle protocol, on the
signal the message gives at that state. -/
theorem phase_next (s : SmState) (i : Env × Input) :
    phase (stateMachine.next s i) = (phase s).step s.localMode (signal s i) := by
  obtain ⟨env, input⟩ := i
  cases input with
  | command cmd =>
    cases cmd with
    | startCook recipeId => exact startCook_phase env s recipeId _
    | startManualCook title stages => exact startManualCook_phase env s title stages _
    | stopCook => exact stopCook_phase env.fresh s _
    | linkCurrentCook recipeId title => exact linkCurrentCook_phase s recipeId title
    | control request =>
      show phase (reduceCommand env s (.control request)).state = phase s
      unfold reduceCommand
      dsimp only
      split <;> rfl
    | _ => rfl
  | event evt =>
    cases evt with
    | ws event =>
      cases event with
      | apoState status cook => exact apoState_phase env s status cook _
      | commandAck requestId status => exact applyCommandAck_phase s requestId status
      | _ => rfl
    | store event =>
      cases event with
      | recipesRefreshed result => cases result <;> rfl
      | historyRefreshed result => cases result <;> rfl
      | currentCookFetched reason result => cases result <;> rfl
      | recipeRefPatched cookId recipeId result => cases result <;> rfl
      | manualCookTitleResolved cookKey result =>
        show phase (reduceStoreEvent s (.manualCookTitleResolved cookKey result)).1 = phase s
        unfold reduceStoreEvent
        split <;> simp_all [phase]
    | tick kind => rfl

end AnovaOven
