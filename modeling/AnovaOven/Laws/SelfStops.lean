import AnovaOven.Laws.Reports
import AnovaOven.Laws.TurnOff
import Mathlib.Data.List.Nodup

/-!
# Laws of the stops the server makes of itself

**One stop a cook** (`selfStops_once`): where reports come only from a known cooker, idle ones carry no
cook and those of a cook come together, the server stops a cook of itself at most once, and the cook it
notes as turned off is one it has stopped, with the lamp off before the oven.
-/

namespace AnovaOven

variable {env : Env} {fresh : Fresh} {s : SmState} {i : Env × Input} {status : OvenStatus}
variable {cook : Option OvenCook} {cookId : String}

/-! ## Orderly reports -/

/-- The cook of a report: none where the message is no report, or where the report has no cook. -/
def reportedCook (input : Input) : Option String :=
  (reportOf input).bind fun report => report.2.map fun cook => cook.cookId

/-- The cooks of a run's reports, in order. -/
def reportedCooks (is : List (Env × Input)) : List (Option String) :=
  (is.filter fun i => (reportOf i.2).isSome).map fun i => reportedCook i.2

/-- Whether the cooker is known, message by message: it was discovered, and no disconnect came since. -/
def cooker : Machine Bool (Env × Input) Empty where
  step known i :=
    (match i.2 with
      | .event (.ws (.cookerDiscovered _)) => true
      | .event (.ws .disconnected) => false
      | _ => known, [])

/-- Whether the cooker is known once messages are read. -/
def cookerKnown (is : List (Env × Input)) : Bool := cooker.run false is

/-- A cook's entries are together. -/
def Together (cooks : List (Option String)) : Prop :=
  ∀ cookId before between after, cooks = before ++ some cookId :: between ++ some cookId :: after →
    ∀ cook ∈ between, cook = some cookId

/-- What the oven does: it reports between the discovery of the cooker and a disconnect, with no cook
while it is idle, and with the reports of a cook together. -/
structure OrderlyReports (is : List (Env × Input)) : Prop where
  known : cooker.Each (fun known i => (reportOf i.2).isSome → known) false is
  idle : ∀ i ∈ is, (reportOf i.2).all fun report => report.1.isCooking || report.2.isNone
  together : Together (reportedCooks is)

theorem reportedCooks_append (is js : List (Env × Input)) :
    reportedCooks (is ++ js) = reportedCooks is ++ reportedCooks js := by
  unfold reportedCooks
  rw [List.filter_append, List.map_append]

theorem cookerKnown_append (is : List (Env × Input)) (i : Env × Input) :
    cookerKnown (is ++ [i]) = cooker.next (cookerKnown is) i := by
  unfold cookerKnown
  rw [Machine.run_append]
  rfl

/-- Orderly reports were orderly before the last one. -/
theorem OrderlyReports.before {is js : List (Env × Input)} (h : OrderlyReports (is ++ js)) :
    OrderlyReports is where
  known := (Machine.each_append.mp h.known).1
  idle i mem := h.idle i (List.mem_append_left js mem)
  together := by
    intro cookId before between after split
    apply h.together cookId before between (after ++ reportedCooks js)
    rw [reportedCooks_append, split]
    simp

/-- Where a cook's entries are together, the entry after one of them and one that isn't is another
cook's. -/
theorem Together.closed {cooks : List (Option String)} (h : Together (cooks ++ [some cookId]))
    (earlier : some cookId ∈ cooks) : cooks.getLast? = some (some cookId) := by
  obtain ⟨before, between, rfl⟩ := List.append_of_mem earlier
  have same := h cookId before between [] (by simp)
  rcases List.eq_nil_or_concat between with rfl | ⟨init, last, rfl⟩
  · rw [List.getLast?_concat]
  · obtain rfl := same last (by simp)
    rw [List.concat_eq_append, ← List.cons_append, ← List.append_assoc, List.getLast?_concat]

/-! ## The stops the server makes of itself -/

/-- The stops a step makes of itself, each by the cook of the report it answers. A client's stop is
none of them. -/
def selfStopped (s : SmState) (i : Env × Input) : List (Option String) :=
  match i.2 with
  | .command _ => []
  | .event _ => ((stateMachine.effects s i).filter SmEffect.stops).map fun _ => reportedCook i.2

/-- The state machine, as the stops it makes of itself show it. -/
def selfStops : Machine SmState (Env × Input) (Option String) :=
  ⟨fun s i => (stateMachine.next s i, selfStopped s i)⟩

/-- A step answers a report of a cook with a stop, after the lamp's where the report shows it on. -/
def StopsFor (s : SmState) (i : Env × Input) (cookId : String) : Prop :=
  ∃ status cook, reportOf i.2 = some (status, some cook) ∧ cook.cookId = cookId ∧
    ∃ before requestId after, stateMachine.effects s i = before ++ .ws (.sendStop requestId) :: after ∧
      (status.lampOn → ∃ lampId, .ws (.control lampId (.setLamp false)) ∈ before)

theorem filter_stops {effects : List SmEffect} (h : ¬ Stops effects) :
    effects.filter SmEffect.stops = [] := by
  rw [List.filter_eq_nil_iff]
  intro effect mem stops
  obtain ⟨before, after, rfl⟩ := List.append_of_mem mem
  exact h ((stops_append _ _).mpr (.inr ((stops_cons _ _).mpr (.inl stops))))

theorem ackControl_noStop (s : SmState) (requestId status : String) :
    ¬ Stops (ackControl s requestId status).2 := by
  unfold ackControl
  split
  · exact stops_nil
  · dsimp only
    split
    · exact stops_nil
    · simp [stops_cons, commandFailed, SmEffect.stops]

theorem applyCommandAck_noStop (s : SmState) (requestId status : String) :
    ¬ Stops (applyCommandAck s requestId status).2 := by
  unfold applyCommandAck
  split
  · split
    · simp [stops_cons, fetchCurrentCook, SmEffect.stops]
    · simp [stops_cons, commandFailed, SmEffect.stops]
  · split
    · simp [stops_cons, commandFailed, SmEffect.stops]
    · exact ackControl_noStop s requestId status

/-- Only reports are answered with a stop. -/
theorem selfStopped_other (other : reportOf i.2 = none) : selfStopped s i = [] := by
  obtain ⟨env, input⟩ := i
  cases input with
  | command cmd => rfl
  | event evt =>
    have silent : ¬ Stops (stateMachine.effects s (env, .event evt)) := by
      cases evt with
      | ws event =>
        cases event with
        | apoState status cook => cases other
        | commandAck requestId status => exact applyCommandAck_noStop s requestId status
        | _ => exact stops_nil
      | store event =>
        show ¬ Stops (reduceStoreEvent s event).2
        unfold reduceStoreEvent
        split <;> simp [stops_cons, fetchCurrentCook, SmEffect.stops]
      | tick kind =>
        show ¬ Stops (reduceTick s kind)
        unfold reduceTick
        split
        · split <;> simp [stops_cons, fetchCurrentCook, SmEffect.stops]
        all_goals simp [stops_cons, SmEffect.stops]
    unfold selfStopped
    dsimp only
    rw [filter_stops silent]
    rfl

/-! ## A report -/

/-- The cook to turn off is the oven's, and not the one turned off before. -/
theorem cookToTurnOff_spec (h : cookToTurnOff s = some cookId) :
    s.lifecycle = .cooking ∧ s.turnedOff ≠ some cookId ∧
      ∃ ovenCook, s.ovenCook = some ovenCook ∧ ovenCook.cookId = cookId := by
  refine ⟨cookToTurnOff_cooking h, ?_⟩
  unfold cookToTurnOff at h
  split at h
  · cases h
  · split at h
    · rename_i status ovenCook cook _ isCook _
      split at h
      · cases h
      · rename_i due
        split at h
        · cases h
        · split at h
          · cases h
          · split at h
            · cases h
            · cases h
              refine ⟨fun stopped => due ?_, ovenCook, isCook, rfl⟩
              simp [stopped]
    · cases h

/-- A turn-off that is accepted, with the lamp before the stop. -/
theorem turnOffWhenDone_effects (fresh : Fresh) (due : cookToTurnOff s = some cookId)
    (cooking : s.status.all OvenStatus.isCooking) (known : s.connectivity.cookerId.isSome) :
    (turnOffWhenDone fresh s).2 =
      (lampOff fresh { s with turnedOff := some cookId }).2 ++ [.ws (.sendStop fresh.requestId)] := by
  have lifecycle : s.lifecycle ≠ .idle := by
    rw [cookToTurnOff_cooking due]
    simp
  have accepted : (stopCook fresh { s with turnedOff := some cookId }).result = .ok () :=
    (stopCook_ok_iff fresh _).mpr ⟨lifecycle, cooking, known⟩
  unfold turnOffWhenDone
  rw [due]
  dsimp only
  rcases stopCook_cases fresh { s with turnedOff := some cookId } with
    ⟨e, h⟩ | ⟨_, _, _, controls, h⟩
  · rw [h] at accepted
    cases accepted
  · rw [h]

theorem lampOff_lit {status : OvenStatus} (localMode : s.localMode) (isStatus : s.status = some status)
    (lit : status.lampOn) :
    (lampOff fresh s).2 = [.ws (.control fresh.lampId (.setLamp false))] := by
  unfold lampOff
  rw [if_pos (by simp [localMode, isStatus, lit])]
  rfl

theorem lampOff_noStop (fresh : Fresh) (s : SmState) : ¬ Stops (lampOff fresh s).2 := by
  unfold lampOff
  split
  · simp [stops_cons, sendControl, SmEffect.stops]
  · exact stops_nil

/-- A report whose cook is to be turned off is answered with a stop, after the lamp's where the report
shows it on; the report's, the lamp's and the preheat's effects stop nothing. -/
theorem due_effects (env : Env) (localMode : s.localMode) (known : s.connectivity.cookerId.isSome)
    (cooking : status.isCooking) (due : cookToTurnOff (reported env s status cook) = some cookId) :
    ∃ before after,
      stateMachine.effects s (env, .event (.ws (.apoState status cook))) =
          before ++ .ws (.sendStop env.fresh.requestId) :: after ∧
        ¬ Stops before ∧ ¬ Stops after ∧
        (status.lampOn → ∃ lampId, .ws (.control lampId (.setLamp false)) ∈ before) := by
  have standing := congrArg SelfActing.standing (reported_selfActing env s status cook)
  have isLocal : (reported env s status cook).localMode :=
    (congrArg Standing.localMode standing).trans localMode
  have isKnown : (reported env s status cook).connectivity.cookerId.isSome := by
    have same : (reported env s status cook).connectivity = s.connectivity :=
      congrArg Standing.connectivity standing
    rw [same]
    exact known
  obtain ⟨waits, isStatus⟩ := reported_status env s status cook
  have effects := turnOffWhenDone_effects env.fresh due (by rw [isStatus]; exact cooking) isKnown
  refine ⟨(if s.lifecycle ≠ .startPending then [.store (.ovenReported cook)] else []) ++
      ((recordStatus env.fresh (settlePreheat env { s with ovenCook := cook } status).1
          (settlePreheat env { s with ovenCook := cook } status).2.1).2 ++
        (lampOff env.fresh { reported env s status cook with turnedOff := some cookId }).2),
    .publishReadModel :: (settlePreheat env { s with ovenCook := cook } status).2.2, ?_, ?_, ?_, ?_⟩
  · rw [apoState_effects, effects]
    simp only [List.append_assoc, List.cons_append, List.nil_append]
  · rw [stops_append, stops_append]
    rintro (told | recorded | off)
    · split at told <;> simp [stops_cons, SmEffect.stops] at told
    · exact recordStatus_noStop _ _ _ recorded
    · exact lampOff_noStop _ _ off
  · rw [stops_cons]
    rintro (published | settled)
    · cases published
    · exact settlePreheat_noStop _ _ _ settled
  · intro lit
    refine ⟨env.fresh.lampId, List.mem_append_right _ (List.mem_append_right _ ?_)⟩
    rw [lampOff_lit (s := { reported env s status cook with turnedOff := some cookId }) isLocal
      isStatus lit]
    exact List.mem_singleton_self _

/-- **A report.** Where the cooker is known and an idle report has no cook, a report is answered with a
stop exactly where its cook is one to turn off, and then with one. -/
theorem selfStopped_report (env : Env) (localMode : s.localMode)
    (known : s.connectivity.cookerId.isSome) (idle : status.isCooking || cook.isNone) :
    (cookToTurnOff (reported env s status cook) = none ∧
        selfStopped s (env, .event (.ws (.apoState status cook))) = []) ∨
      ∃ cookId, cookToTurnOff (reported env s status cook) = some cookId ∧
        reportedCook (.event (.ws (.apoState status cook))) = some cookId ∧
        selfStopped s (env, .event (.ws (.apoState status cook))) = [some cookId] ∧
        StopsFor s (env, .event (.ws (.apoState status cook))) cookId := by
  cases due : cookToTurnOff (reported env s status cook) with
  | none =>
    refine .inl ⟨rfl, ?_⟩
    have silent : ¬ Stops (stateMachine.effects s (env, .event (.ws (.apoState status cook)))) := by
      rw [apoState_stops]
      simp [turnOffId, due]
    unfold selfStopped
    dsimp only
    rw [filter_stops silent]
    rfl
  | some cookId =>
    obtain ⟨_, _, ovenCook, isOvenCook, isId⟩ := cookToTurnOff_spec due
    have isCook : (reported env s status cook).ovenCook = cook :=
      congrArg (fun kept => kept.standing.ovenCook) (reported_selfActing env s status cook)
    have carries : cook = some ovenCook := isCook.symm.trans isOvenCook
    have cooking : status.isCooking := by
      rw [carries] at idle
      simpa using idle
    have ofReport : reportedCook (.event (.ws (.apoState status cook))) = some cookId := by
      rw [carries]
      exact congrArg some isId
    obtain ⟨before, after, effects, noneBefore, noneAfter, lamp⟩ :=
      due_effects env localMode known cooking due
    refine .inr ⟨cookId, rfl, ofReport, ?_, ?_⟩
    · unfold selfStopped
      dsimp only
      rw [effects, List.filter_append, filter_stops noneBefore, List.filter_cons_of_pos rfl,
        filter_stops noneAfter, ofReport]
      rfl
    · exact ⟨status, ovenCook, by rw [carries]; rfl, isId, before, _, after, effects, lamp⟩

/-! ## Runs -/

/-- What a run keeps of the stops the server made of itself: each is of a cook that was reported, none
is of the same cook as another, and a cook that was stopped is the one noted as turned off until another
report comes, after which there are no more of it. -/
structure StoppedOnce (preheatToleranceC : ℚ) (s : SmState) (past : List (Env × Input))
    (said : List (Option String)) : Prop where
  isRun : s = stateMachine.run (.init true preheatToleranceC) past
  localMode : s.localMode
  known : cookerKnown past → s.connectivity.cookerId.isSome
  once : said.Nodup
  ofCook : ∀ stopped ∈ said, ∃ cookId, stopped = some cookId ∧ some cookId ∈ reportedCooks past ∧
    (s.turnedOff = some cookId ∨ (reportedCooks past).getLast? ≠ some (some cookId))
  honest : ∀ cookId, s.turnedOff = some cookId → ∃ before i after, past = before ++ i :: after ∧
    StopsFor (stateMachine.run (.init true preheatToleranceC) before) i cookId

variable {preheatToleranceC : ℚ} {past : List (Env × Input)} {said : List (Option String)}

theorem stoppedOnce_init (preheatToleranceC : ℚ) :
    StoppedOnce preheatToleranceC (.init true preheatToleranceC) [] [] where
  isRun := rfl
  localMode := rfl
  known := by
    intro known
    cases known
  once := List.nodup_nil
  ofCook := by
    intro stopped mem
    cases mem
  honest := by
    intro cookId turnedOff
    cases turnedOff

/-- A cooker that was discovered stays known to the next disconnect, a reconnect or not. -/
theorem connectivity_next (known : cookerKnown past → s.connectivity.cookerId.isSome) :
    cookerKnown (past ++ [i]) → (stateMachine.next s i).connectivity.cookerId.isSome := by
  rw [cookerKnown_append]
  have standing := congrArg Standing.connectivity (next_standing s i)
  change (stateMachine.next s i).connectivity = _ at standing
  rw [standing]
  obtain ⟨env, input⟩ := i
  rcases input with cmd | (event | event | kind)
  · exact known
  · cases event with
    | connected =>
      intro isKnown
      have before := known isKnown
      show s.connectivity.onConnected.cookerId.isSome
      unfold Connectivity.onConnected
      cases h : s.connectivity with
      | disconnected => rw [h] at before; cases before
      | connected cookerId => rw [h] at before; exact before
    | disconnected =>
      intro isKnown
      cases isKnown
    | cookerDiscovered cookerId => exact fun _ => rfl
    | _ => exact known
  · exact known
  · exact known

theorem reportedCooks_concat (past : List (Env × Input)) (i : Env × Input) :
    reportedCooks (past ++ [i]) =
      reportedCooks past ++ if (reportOf i.2).isSome then [reportedCook i.2] else [] := by
  rw [reportedCooks_append]
  unfold reportedCooks
  cases h : (reportOf i.2).isSome <;> simp [h]

/-- After another report, a cook that was stopped is no longer reported. -/
theorem StoppedOnce.gone (h : StoppedOnce preheatToleranceC s past said)
    (together : Together (reportedCooks past ++ [some cookId])) (stopped : some cookId ∈ said) :
    s.turnedOff = some cookId := by
  obtain ⟨_, ⟨⟩, reportedBefore, still | closed⟩ := h.ofCook _ stopped
  · exact still
  · exact absurd (together.closed reportedBefore) closed

/-- A cook that was turned off was stopped before. -/
theorem StoppedOnce.honest_next (h : StoppedOnce preheatToleranceC s past said)
    (turnedOff : (stateMachine.next s i).turnedOff = s.turnedOff) (cookId : String)
    (isOff : (stateMachine.next s i).turnedOff = some cookId) :
    ∃ before j after, past ++ [i] = before ++ j :: after ∧
      StopsFor (stateMachine.run (.init true preheatToleranceC) before) j cookId := by
  rw [turnedOff] at isOff
  obtain ⟨before, j, after, rfl, stops⟩ := h.honest cookId isOff
  exact ⟨before, j, after ++ [i], by simp, stops⟩

theorem StoppedOnce.isRun_next (h : StoppedOnce preheatToleranceC s past said) :
    stateMachine.next s i = stateMachine.run (.init true preheatToleranceC) (past ++ [i]) := by
  rw [Machine.run_append, ← h.isRun]
  rfl

theorem StoppedOnce.next_other (h : StoppedOnce preheatToleranceC s past said)
    (other : reportOf i.2 = none) :
    StoppedOnce preheatToleranceC (stateMachine.next s i) (past ++ [i])
      (said ++ selfStopped s i) := by
  have turnedOff : (stateMachine.next s i).turnedOff = s.turnedOff :=
    congrArg SelfActing.turnedOff (next_selfActing other)
  have cooks : reportedCooks (past ++ [i]) = reportedCooks past := by
    rw [reportedCooks_concat, other]
    exact List.append_nil _
  rw [selfStopped_other other, List.append_nil]
  refine ⟨h.isRun_next, (next_localMode s i).trans h.localMode, connectivity_next h.known, h.once, ?_,
    h.honest_next turnedOff⟩
  rw [turnedOff, cooks]
  exact h.ofCook

/-- A cook to be turned off wasn't stopped before. -/
theorem StoppedOnce.unstopped (h : StoppedOnce preheatToleranceC s past said)
    (together : Together (reportedCooks past ++ [some cookId]))
    (due : cookToTurnOff (reported env s status cook) = some cookId) : some cookId ∉ said := by
  intro before
  have kept : (reported env s status cook).turnedOff = s.turnedOff :=
    congrArg SelfActing.turnedOff (reported_selfActing env s status cook)
  apply (cookToTurnOff_spec due).2.1
  rw [kept]
  exact h.gone together before

/-- A report keeps what the run has of the stops: where it is answered with one, its cook wasn't stopped
before, as one that was is noted or no longer reported. -/
theorem StoppedOnce.next_report (h : StoppedOnce preheatToleranceC s past said)
    (orderly : OrderlyReports (past ++ [(env, .event (.ws (.apoState status cook)))])) :
    StoppedOnce preheatToleranceC
      (stateMachine.next s (env, .event (.ws (.apoState status cook))))
      (past ++ [(env, .event (.ws (.apoState status cook)))])
      (said ++ selfStopped s (env, .event (.ws (.apoState status cook)))) := by
  have cooks := reportedCooks_concat past (env, .event (.ws (.apoState status cook)))
  change reportedCooks _ = reportedCooks past ++
    [reportedCook (.event (.ws (.apoState status cook)))] at cooks
  have turnedOff : (stateMachine.next s (env, .event (.ws (.apoState status cook)))).turnedOff =
      (cookToTurnOff (reported env s status cook)).or s.turnedOff :=
    congrArg SelfActing.turnedOff (apoState_selfActing env s status cook)
  have together := orderly.together
  rw [cooks] at together
  have isKnown := h.known ((Machine.each_append.mp orderly.known).2.1 rfl)
  have idle := orderly.idle _ (List.mem_append_right past (List.mem_singleton_self _))
  have localMode := (next_localMode s (env, .event (.ws (.apoState status cook)))).trans h.localMode
  rcases selfStopped_report env h.localMode isKnown idle with
    ⟨notDue, silent⟩ | ⟨cookId, due, ofReport, stopped, stops⟩
  · rw [notDue, Option.none_or] at turnedOff
    rw [silent, List.append_nil]
    refine ⟨h.isRun_next, localMode, connectivity_next h.known, h.once, ?_, h.honest_next turnedOff⟩
    intro stopped mem
    obtain ⟨cookId, rfl, reportedBefore, _⟩ := h.ofCook stopped mem
    rw [turnedOff, cooks, List.getLast?_concat]
    refine ⟨cookId, rfl, List.mem_append_left _ reportedBefore, ?_⟩
    by_cases again : reportedCook (.event (.ws (.apoState status cook))) = some cookId
    · rw [again] at together
      exact .inl (h.gone together mem)
    · exact .inr fun same => again (Option.some.inj same)
  · rw [due, Option.some_or] at turnedOff
    rw [ofReport] at cooks together
    have unstopped := h.unstopped together due
    rw [stopped]
    refine ⟨h.isRun_next, localMode, connectivity_next h.known, ?_, ?_, ?_⟩
    · rw [← List.concat_eq_append]
      exact List.Nodup.concat unstopped h.once
    · intro stopped mem
      rw [turnedOff, cooks, List.getLast?_concat]
      rcases List.mem_append.mp mem with before | now
      · obtain ⟨other, rfl, reportedBefore, _⟩ := h.ofCook stopped before
        refine ⟨other, rfl, List.mem_append_left _ reportedBefore, .inr ?_⟩
        rintro ⟨⟩
        exact unstopped before
      · rw [List.mem_singleton] at now
        exact ⟨cookId, now, List.mem_append_right _ (List.mem_singleton_self _), .inl rfl⟩
    · rw [turnedOff]
      rintro _ ⟨⟩
      refine ⟨past, _, [], rfl, ?_⟩
      rw [← h.isRun]
      exact stops

theorem StoppedOnce.next (h : StoppedOnce preheatToleranceC s past said)
    (orderly : OrderlyReports (past ++ [i])) :
    StoppedOnce preheatToleranceC (stateMachine.next s i) (past ++ [i])
      (said ++ selfStopped s i) := by
  cases isReport : reportOf i.2 with
  | none => exact h.next_other isReport
  | some report =>
    obtain ⟨env, input⟩ := i
    obtain rfl := eq_of_reportOf isReport
    exact h.next_report orderly

theorem stoppedOnce_run (preheatToleranceC : ℚ) (is : List (Env × Input)) (orderly : OrderlyReports is) :
    StoppedOnce preheatToleranceC (stateMachine.run (.init true preheatToleranceC) is) is
      (selfStops.trace (.init true preheatToleranceC) is) := by
  induction is using List.reverseRecOn with
  | nil => exact stoppedOnce_init preheatToleranceC
  | append_singleton is i ih =>
    rw [Machine.run_append, Machine.trace_append, Machine.trace_cons, Machine.trace_nil,
      List.append_nil]
    exact (ih orderly.before).next orderly

/-- **One stop a cook.** In every local run whose reports are orderly, each stop the server makes of
itself is of a reported cook and no two are of the same, and a cook it notes as turned off is one it
answered a report of with a stop, after the lamp's where the report showed the lamp on. -/
theorem selfStops_once (preheatToleranceC : ℚ) (is : List (Env × Input)) (orderly : OrderlyReports is) :
    (∀ stopped ∈ selfStops.trace (.init true preheatToleranceC) is, stopped.isSome) ∧
      (selfStops.trace (.init true preheatToleranceC) is).Nodup ∧
      ∀ cookId, (stateMachine.run (.init true preheatToleranceC) is).turnedOff = some cookId →
        ∃ before i after, is = before ++ i :: after ∧
          StopsFor (stateMachine.run (.init true preheatToleranceC) before) i cookId := by
  have h := stoppedOnce_run preheatToleranceC is orderly
  refine ⟨?_, h.once, h.honest⟩
  intro stopped mem
  obtain ⟨cookId, rfl, _⟩ := h.ofCook stopped mem
  rfl

namespace Kitchen

/-- A report of the roast at its end, with the lamp on. -/
def roastDone : Env × Input :=
  (Kitchen.env "done", .event (.ws (.apoState
    { Kitchen.status "cook" with lampOn := true, activeStageIndex := some 0, cookDone := true }
    (some ⟨"ios-start", [turnOffRoast], [], 1800⟩))))

/-- A roast that ends and is reported twice. -/
def roastToTheEnd : List (Env × Input) :=
  [found, (Kitchen.env "start", .command (.startManualCook "Roast" [turnOffRoast])), roastDone,
    roastDone]

theorem roastToTheEnd_orderly : OrderlyReports roastToTheEnd where
  known := by decide
  idle := by decide
  together := by
    have roast : ∀ cook ∈ reportedCooks roastToTheEnd, cook = some "ios-start" := by decide
    intro cookId before between after split cook mem
    rw [split] at roast
    have same := roast (some cookId) (by simp)
    rw [same]
    exact roast cook (by simp [mem])

end Kitchen

/-- The roast is turned off at its end, by one stop. -/
theorem selfStops_roast :
    (∀ stopped ∈ selfStops.trace (.init true 0) Kitchen.roastToTheEnd, stopped.isSome) ∧
      (selfStops.trace (.init true 0) Kitchen.roastToTheEnd).Nodup ∧
      ∀ cookId, (stateMachine.run (.init true 0) Kitchen.roastToTheEnd).turnedOff = some cookId →
        ∃ before i after, Kitchen.roastToTheEnd = before ++ i :: after ∧
          StopsFor (stateMachine.run (.init true 0) before) i cookId :=
  selfStops_once 0 Kitchen.roastToTheEnd Kitchen.roastToTheEnd_orderly

example : selfStops.trace (.init true 0) Kitchen.roastToTheEnd = [some "ios-start"] := by decide

end AnovaOven
