import AnovaOven.Laws.Phase

/-!
# Laws of the oven's reports

What the server does by itself, the turn-off and the settling of a preheat, hangs on a few fields, and
only reports change them: **off the reports** (`next_selfActing_eq`) and **on one**
(`apoState_selfActing`). Among them is what stands through a step (`next_standing`): the oven's cook
changes with a report alone (`next_ovenCook`), the mode never (`next_localMode`).
-/

namespace AnovaOven

variable {env : Env} {fresh : Fresh} {s : SmState} {i : Env × Input} {status : OvenStatus}
variable {cook : Option OvenCook}

/-- The report a message is. -/
def reportOf : Input → Option (OvenStatus × Option OvenCook)
  | .event (.ws (.apoState status cook)) => some (status, cook)
  | _ => none

theorem eq_of_reportOf {input : Input} (h : reportOf input = some (status, cook)) :
    input = .event (.ws (.apoState status cook)) := by
  unfold reportOf at h
  split at h
  · cases h
    rfl
  · cases h

/-- The connectivity a connection's opening leaves. -/
def Connectivity.onConnected (c : Connectivity) : Connectivity :=
  .connected (match c with
    | .connected cookerId => cookerId
    | .disconnected => none)

/-- The part of the state that only its own events change: the connection, the oven's cook, the mode
the server runs in. -/
structure Standing where
  connectivity : Connectivity
  ovenCook : Option OvenCook
  localMode : Bool

def SmState.standing (s : SmState) : Standing := ⟨s.connectivity, s.ovenCook, s.localMode⟩

/-- What the server acts on by itself: what stands, the last status, the preheat it watches and how
close is close enough, and the cook it turned off. -/
structure SelfActing where
  standing : Standing
  status : Option OvenStatus
  preheatWatch : Option PreheatWatch
  preheatToleranceC : ℚ
  turnedOff : Option String

def SmState.selfActing (s : SmState) : SelfActing :=
  ⟨s.standing, s.status, s.preheatWatch, s.preheatToleranceC, s.turnedOff⟩

/-! ## On a report -/

theorem startedCooking_selfActing (fresh : Fresh) (s : SmState) (status : OvenStatus) :
    (startedCooking fresh s status).1.selfActing = s.selfActing := by
  obtain ⟨origin, controls, frame⟩ := startedCooking_frame fresh s status
  rw [frame]
  rfl

theorem stoppedCooking_selfActing (s : SmState) :
    (stoppedCooking s).1.selfActing = s.selfActing := rfl

theorem reconcileIdle_selfActing (s : SmState) : (reconcileIdle s).selfActing = s.selfActing := by
  unfold reconcileIdle
  dsimp only
  split <;> split <;> rfl

theorem recordStatus_selfActing (fresh : Fresh) (s : SmState) (status : OvenStatus) :
    (recordStatus fresh s status).1.selfActing = { s.selfActing with status := some status } := by
  have recorded (s : SmState) : ({ s with status := some status } : SmState).selfActing =
      { s.selfActing with status := some status } := rfl
  unfold recordStatus
  dsimp only
  cases status.isCooking <;> cases s.reportsCooking <;>
    simp [recorded, reconcileIdle_selfActing, startedCooking_selfActing, stoppedCooking_selfActing]

/-- The turn-off notes the cook it is for, accepted or not. -/
theorem turnOffWhenDone_selfActing (fresh : Fresh) (s : SmState) :
    (turnOffWhenDone fresh s).1.selfActing =
      { s.selfActing with turnedOff := (cookToTurnOff s).or s.turnedOff } := by
  unfold turnOffWhenDone
  cases cookToTurnOff s with
  | none => rfl
  | some cookId =>
    dsimp only
    rcases stopCook_cases fresh { s with turnedOff := some cookId } with
      ⟨e, h⟩ | ⟨_, _, _, controls, h⟩ <;> rw [h] <;> rfl

theorem settlePreheat_selfActing (env : Env) (s : SmState) (status : OvenStatus) :
    (settlePreheat env s status).1.selfActing =
      { s.selfActing with preheatWatch := (settlePreheat env s status).1.preheatWatch } := by
  obtain ⟨watch, controls, frame⟩ := (settlePreheat_frame env s status).state
  rw [frame]
  rfl

/-- The state a report leaves before the turn-off reads it. -/
theorem reported_selfActing (env : Env) (s : SmState) (status : OvenStatus) (cook : Option OvenCook) :
    (reported env s status cook).selfActing =
      { s.selfActing with
        standing := { s.standing with ovenCook := cook }
        status := some (settlePreheat env { s with ovenCook := cook } status).2.1
        preheatWatch := (settlePreheat env { s with ovenCook := cook } status).1.preheatWatch } := by
  unfold reported
  dsimp only
  rw [recordStatus_selfActing, settlePreheat_selfActing]
  rfl

/-- **On a report** the oven's cook is the report's, the status and the watch are the settled preheat's
and the turn-off notes its cook. -/
theorem apoState_selfActing (env : Env) (s : SmState) (status : OvenStatus) (cook : Option OvenCook) :
    (stateMachine.next s (env, .event (.ws (.apoState status cook)))).selfActing =
      { s.selfActing with
        standing := { s.standing with ovenCook := cook }
        status := some (settlePreheat env { s with ovenCook := cook } status).2.1
        preheatWatch := (settlePreheat env { s with ovenCook := cook } status).1.preheatWatch
        turnedOff := (cookToTurnOff (reported env s status cook)).or s.turnedOff } := by
  show (turnOffWhenDone env.fresh (reported env s status cook)).1.selfActing = _
  have kept := reported_selfActing env s status cook
  have turnedOff : (reported env s status cook).turnedOff = s.turnedOff :=
    congrArg SelfActing.turnedOff kept
  rw [turnOffWhenDone_selfActing, kept, turnedOff]

/-! ## Off the reports -/

theorem applyCommandAck_selfActing (s : SmState) (requestId status : String) :
    (applyCommandAck s requestId status).1.selfActing = s.selfActing := by
  unfold applyCommandAck ackControl
  dsimp only
  split
  · split
    · split <;> rfl
    · rfl
  · split
    · rfl
    · split <;> rfl

theorem stopCook_selfActing (fresh : Fresh) (s : SmState) :
    (stopCook fresh s).state.selfActing = s.selfActing := by
  rcases stopCook_cases fresh s with ⟨e, h⟩ | ⟨_, _, _, controls, h⟩ <;> rw [h]
  · rfl
  · rfl

/-- What stands once a message is taken: a report changes the oven's cook, and the connection's own
events the connection. -/
def Standing.after (standing : Standing) : Input → Standing
  | .event (.ws (.apoState _ cook)) => { standing with ovenCook := cook }
  | .event (.ws .connected) => { standing with connectivity := standing.connectivity.onConnected }
  | .event (.ws .disconnected) => { standing with connectivity := .disconnected }
  | .event (.ws (.cookerDiscovered id)) => { standing with connectivity := .connected (some id) }
  | _ => standing

/-- A command changes nothing the server acts on. -/
theorem reduceCommand_selfActing (env : Env) (s : SmState) (cmd : StateMachineCommand) :
    (reduceCommand env s cmd).state.selfActing = s.selfActing := by
  cases cmd with
  | startCook recipeId =>
    show (startCook env s recipeId).state.selfActing = _
    unfold startCook
    split
    · rfl
    · split <;> rfl
  | startManualCook title stages =>
    show (startManualCook env s title stages).state.selfActing = _
    unfold startManualCook
    split <;> rfl
  | stopCook => exact stopCook_selfActing env.fresh s
  | linkCurrentCook recipeId title =>
    show (linkCurrentCook s recipeId title).state.selfActing = _
    unfold linkCurrentCook
    split <;> rfl
  | control request =>
    unfold reduceCommand
    dsimp only
    split <;> rfl
  | _ => rfl

/-- **Off the reports** nothing the server acts on changes, but for the connection. -/
theorem next_selfActing_eq (other : reportOf i.2 = none) :
    (stateMachine.next s i).selfActing = { s.selfActing with standing := s.standing.after i.2 } := by
  obtain ⟨env, input⟩ := i
  cases input with
  | command cmd => exact reduceCommand_selfActing env s cmd
  | event evt =>
    cases evt with
    | ws event =>
      cases event with
      | apoState status cook => cases other
      | commandAck requestId status => exact applyCommandAck_selfActing s requestId status
      | _ => rfl
    | store event =>
      cases event with
      | recipesRefreshed result => cases result <;> rfl
      | historyRefreshed result => cases result <;> rfl
      | currentCookFetched reason result => cases result <;> rfl
      | recipeRefPatched cookId recipeId result => cases result <;> rfl
      | manualCookTitleResolved cookKey result =>
        rcases result with e | (_ | ⟨title, recipeId⟩) <;> rfl
    | tick kind => rfl

/-! ## What stands through a step -/

/-- **What stands** through a step. -/
theorem next_standing (s : SmState) (i : Env × Input) :
    (stateMachine.next s i).standing = s.standing.after i.2 := by
  obtain ⟨env, input⟩ := i
  cases report : reportOf input with
  | none => exact congrArg SelfActing.standing (next_selfActing_eq report)
  | some r =>
    obtain ⟨status, cook⟩ := r
    obtain rfl := eq_of_reportOf report
    exact congrArg SelfActing.standing (apoState_selfActing env s status cook)

/-- Off the reports, what the server acts on is what it was, with what stands. -/
theorem next_selfActing (other : reportOf i.2 = none) :
    (stateMachine.next s i).selfActing =
      { s.selfActing with standing := (stateMachine.next s i).standing } := by
  rw [next_standing]
  exact next_selfActing_eq other

/-- **The oven's cook** is the one of the last report. -/
theorem next_ovenCook (s : SmState) (i : Env × Input) :
    (stateMachine.next s i).ovenCook =
      match i.2 with
      | .event (.ws (.apoState _ cook)) => cook
      | _ => s.ovenCook := by
  apply (congrArg Standing.ovenCook (next_standing s i)).trans
  obtain ⟨env, input⟩ := i
  rcases input with cmd | (event | event | kind)
  · rfl
  · cases event <;> rfl
  · rfl
  · rfl

/-- **The mode** is the one the server was started in. -/
theorem next_localMode (s : SmState) (i : Env × Input) :
    (stateMachine.next s i).localMode = s.localMode := by
  apply (congrArg Standing.localMode (next_standing s i)).trans
  obtain ⟨env, input⟩ := i
  rcases input with cmd | (event | event | kind)
  · rfl
  · cases event <;> rfl
  · rfl
  · rfl

end AnovaOven
