import AnovaOven.Laws.Codec
import AnovaOven.Laws.Runs
import AnovaOven.Protocol.State

/-!
# Laws of the automatic turn-off

**When a finished cook is stopped** (`turnOff_fires_iff`): a report of a started cook whose last
stage has ended stops it exactly where the oven itself says the cook is done. The stage list comes
back from the oven without the flag the probe's test reads.
-/

namespace AnovaOven

variable {env : Env} {fresh : Fresh} {s : SmState} {status : OvenStatus}

/-! ## Where a stop can come from -/

/-- An effect that stops the cook. -/
def SmEffect.stops : SmEffect → Bool
  | .ws (.sendStop _) => true
  | _ => false

/-- Whether effects stop the cook. -/
def Stops (effects : List SmEffect) : Prop := ∃ requestId, .ws (.sendStop requestId) ∈ effects

theorem stops_append (before after : List SmEffect) :
    Stops (before ++ after) ↔ Stops before ∨ Stops after := by
  simp only [Stops, List.mem_append, exists_or]

theorem stops_cons (effect : SmEffect) (effects : List SmEffect) :
    Stops (effect :: effects) ↔ effect.stops ∨ Stops effects := by
  unfold Stops
  cases effect with
  | ws cmd => cases cmd <;> simp [SmEffect.stops]
  | _ => simp [SmEffect.stops]

@[simp] theorem stops_nil : ¬ Stops [] := by
  simp [Stops]

theorem lampOn_noStop (fresh : Fresh) (s : SmState) (seenBefore : Bool) (status : OvenStatus) :
    ¬ Stops (lampOn fresh s seenBefore status).2 := by
  unfold lampOn
  split <;> simp [stops_cons, sendControl, SmEffect.stops]

/-- The edges and the stage transition stop nothing. -/
theorem recordStatus_noStop (fresh : Fresh) (s : SmState) (status : OvenStatus) :
    ¬ Stops (recordStatus fresh s status).2 := by
  unfold recordStatus
  dsimp only
  rw [stops_append, stops_append]
  refine not_or.mpr ⟨not_or.mpr ⟨?_, ?_⟩, ?_⟩
  · split
    · unfold startedCooking
      dsimp only
      rw [stops_append]
      refine not_or.mpr ⟨lampOn_noStop _ _ _ _, ?_⟩
      simp [stops_cons, fetchCurrentCook, SmEffect.stops]
    · exact stops_nil
  · split
    · simp [stops_cons, stoppedCooking, SmEffect.stops]
    · exact stops_nil
  · split
    · simp [stops_cons, fetchCurrentCook, SmEffect.stops]
    · exact stops_nil

/-- A settled preheat stops nothing. -/
theorem settlePreheat_noStop (env : Env) (s : SmState) (status : OvenStatus) :
    ¬ Stops (settlePreheat env s status).2.2 := by
  rcases (settlePreheat_frame env s status).effects with h | ⟨requestId, stageId, h⟩ <;> rw [h]
  · exact stops_nil
  · simp [stops_cons, SmEffect.stops]

/-- An accepted stop stops the cook. -/
theorem stopCook_stops (fresh : Fresh) (s : SmState) :
    Stops (stopCook fresh s).effects ↔ (stopCook fresh s).result = .ok () := by
  rcases stopCook_cases fresh s with ⟨e, h⟩ | ⟨_, _, _, controls, h⟩ <;> rw [h]
  · simp [refuse]
  · simp [stops_append, stops_cons, SmEffect.stops]

/-- The turn-off stops the cook where one is due and the stop is accepted. -/
theorem turnOffWhenDone_stops (fresh : Fresh) (s : SmState) :
    Stops (turnOffWhenDone fresh s).2 ↔ (turnOffId fresh s).isSome := by
  unfold turnOffWhenDone turnOffId
  cases cookToTurnOff s with
  | none => simp
  | some cookId =>
    have stops := stopCook_stops fresh { s with turnedOff := some cookId }
    dsimp only [Option.bind_some]
    cases result : (stopCook fresh { s with turnedOff := some cookId }).result with
    | ok => simpa [result] using stops
    | error e => simp

/-- A report stops the cook where the state it leaves calls for a turn-off. -/
theorem apoState_stops (env : Env) (s : SmState) (status : OvenStatus) (cook : Option OvenCook) :
    Stops (stateMachine.effects s (env, .event (.ws (.apoState status cook)))) ↔
      (turnOffId env.fresh (reported env s status cook)).isSome := by
  rw [← turnOffWhenDone_stops]
  have recorded := recordStatus_noStop env.fresh (settlePreheat env { s with ovenCook := cook } status).1
    (settlePreheat env { s with ovenCook := cook } status).2.1
  have settled := settlePreheat_noStop env { s with ovenCook := cook } status
  have report : ¬ Stops (if s.lifecycle ≠ .startPending then
      [.store (.ovenReported cook)] else []) := by
    split <;> simp [stops_cons, SmEffect.stops]
  rw [apoState_effects]
  simp only [stops_append, stops_cons, stops_nil, report, recorded, settled, SmEffect.stops,
    Bool.false_eq_true, false_or, or_false]

/-! ## The state a report leaves -/

/-- What a report of a cooking oven leaves of a state whose lifecycle is cooking. -/
structure Carried (s : SmState) (cook : Option OvenCook) (s' : SmState) : Prop where
  localMode : s'.localMode = s.localMode
  lifecycle : s'.lifecycle = .cooking
  ovenCook : s'.ovenCook = cook
  currentCook : s'.currentCook = s.currentCook
  turnedOff : s'.turnedOff = s.turnedOff
  connectivity : s'.connectivity = s.connectivity

theorem startedCooking_carried (fresh : Fresh) (s : SmState) (status : OvenStatus) :
    Carried s s.ovenCook (startedCooking fresh s status).1 := by
  obtain ⟨origin, controls, frame⟩ := startedCooking_frame fresh s status
  rw [frame]
  constructor <;> rfl

/-- The status a report leaves is the one it carries, up to the flag a settled preheat raises. -/
theorem reported_status (env : Env) (s : SmState) (status : OvenStatus) (cook : Option OvenCook) :
    ∃ waits, (reported env s status cook).status =
      some { status with stageTransitionPendingUserAction := waits } := by
  obtain ⟨waits, frame⟩ := (settlePreheat_frame env { s with ovenCook := cook } status).status
  exact ⟨waits, congrArg some frame⟩

/-- A report of a cooking oven under a cooking lifecycle carries the cook. -/
theorem reported_carried (env : Env) (s : SmState) (status : OvenStatus) (cook : Option OvenCook)
    (cooking : status.isCooking) (lifecycle : s.lifecycle = .cooking) :
    Carried s cook (reported env s status cook) := by
  have settled := settlePreheat_frame env { s with ovenCook := cook } status
  obtain ⟨watch, controls, frame⟩ := settled.state
  have isCooking := settled.isCooking.trans cooking
  unfold reported recordStatus
  dsimp only
  rw [frame]
  generalize (settlePreheat env { s with ovenCook := cook } status).2.1 = status' at isCooking
  simp only [isCooking, Bool.true_and, Bool.not_true, Bool.false_and, Bool.false_eq_true, if_false]
  split
  · have started := startedCooking_carried env.fresh
      { s with
        ovenCook := cook
        preheatWatch := watch
        pending := { s.pending with controls := controls } } status'
    exact ⟨started.localMode, started.lifecycle, started.ovenCook, started.currentCook,
      started.turnedOff, started.connectivity⟩
  · exact ⟨rfl, lifecycle, rfl, rfl, rfl, rfl⟩

/-- The cook to turn off, where everything but the end of its last stage calls for it: the oven says
the cook is done, or the stage's probe is at its target. -/
theorem cookToTurnOff_of {status : OvenStatus} {ovenCook : OvenCook} {current : CurrentCook}
    {set read : Stage} (localMode : s.localMode) (lifecycle : s.lifecycle = .cooking)
    (isStatus : s.status = some status) (isOvenCook : s.ovenCook = some ovenCook)
    (isCurrent : s.currentCook = some current) (lastCurrent : current.stages.getLast? = some set)
    (turnOff : set.turnOffAtEnd = some true) (notStopped : s.turnedOff ≠ some ovenCook.cookId)
    (lastRead : ovenCook.stages.getLast? = some read)
    (active : status.activeStageIndex = some (ovenCook.stages.length - 1)) :
    cookToTurnOff s =
      if status.cookDone || probeDone status read then some ovenCook.cookId else none := by
  unfold cookToTurnOff
  simp only [localMode, lifecycle, isStatus, isOvenCook, isCurrent, lastCurrent, turnOff,
    notStopped, lastRead, active, Option.any_some, decide_true, decide_false, Bool.not_true,
    Bool.or_self, ne_eq, not_true, Bool.false_eq_true, if_false]
  cases status.cookDone <;> cases probeDone status read <;> rfl

/-! ## A cook that has ended -/

/-- The oven keeps a stage it was sent under its id, with its timer and its probe, and drops the end
flags. -/
structure Echoes (sent echoed : Json) : Prop where
  id : echoed.get "id" = sent.get "id"
  timer : echoed.get "timer" = sent.get "timer"
  probe : echoed.get "temperatureProbe" = sent.get "temperatureProbe"
  timerAdded : echoed.get "timerAdded" = none
  probeAdded : echoed.get "probeAdded" = none

/-- A report of a cook started from an accepted recipe, at a state that has it as one to turn off,
with its last stage active and ended: on its timer by the oven's word, on its probe by the reading.
`last` is the stage as the start sent it. -/
structure EndedReport (start : Env) (accepted : Recipe) (ids : Nat → String) (s : SmState)
    (oven : OvenState) (cook : Cook) (cookId : String) (last : Stage) : Prop where
  normalized : ∃ fresh recipe, normalize fresh recipe = .ok accepted
  isLast : (startedStages start.fresh accepted.stages).getLast? = some last
  turnOff : last.turnOffAtEnd = some true
  carried : oven.cook = some cook
  id : cook.cookId = some cookId
  echoed : List.Forall₂ Echoes
    (startStagesJson ids (startedStages start.fresh accepted.stages)) cook.stages
  localMode : s.localMode
  known : s.connectivity.cookerId.isSome
  lifecycle : s.lifecycle = .cooking
  current : ∃ current, s.currentCook = some current ∧
    ∃ stage, current.stages.getLast? = some stage ∧ stage.turnOffAtEnd = some true
  notStopped : s.turnedOff ≠ some cookId
  active : cook.activeStageIndex = some (cook.stages.length - 1)
  onTimer : last.timerAdded = some true → cookDone oven
  onProbe : last.probeAdded = some true → ∃ reading target,
    (toOvenStatus oven).probeTemperatureC = some reading ∧
      (toOvenStatus oven).probeTargetTemperatureC.or last.probeTargetC = some target ∧
      target ≤ reading

/-- No stage of an echo reads as one that ends on a probe. -/
theorem echoed_probeAdded {sent echoed : List Json} (h : List.Forall₂ Echoes sent echoed) :
    ∀ stage ∈ echoed.map stageFromJson, stage.probeAdded = none := by
  induction h with
  | nil => exact fun stage item => by cases item
  | cons echo _ ih =>
    intro stage item
    rcases List.mem_cons.mp item with rfl | item
    · unfold stageFromJson
      rw [echo.probeAdded]
      rfl
    · exact ih stage item

variable {start : Env} {accepted : Recipe} {ids : Nat → String} {oven : OvenState} {cook : Cook}
variable {cookId : String} {last : Stage}

/-- The cook the report carries, as the state machine gets it. -/
theorem EndedReport.ovenCook (h : EndedReport start accepted ids s oven cook cookId last) :
    toOvenCook oven = some
      { cookId := cookId
        stages := cook.stages.map stageFromJson
        rawStages := cook.stages
        secondsElapsed := cook.secondsElapsed.getD 0 } := by
  unfold toOvenCook
  rw [h.carried]
  show (cook.cookId.bind fun cookId => _) = _
  rw [h.id]
  rfl

/-- The cook's last stage reads as one that doesn't end on its probe. -/
theorem EndedReport.lastRead (h : EndedReport start accepted ids s oven cook cookId last) :
    ∃ stage, (cook.stages.map stageFromJson).getLast? = some stage ∧ stage.probeAdded = none := by
  have nonempty : cook.stages.map stageFromJson ≠ [] := by
    intro empty
    have length := h.echoed.length_eq
    rw [List.map_eq_nil_iff.mp empty] at length
    have none : startedStages start.fresh accepted.stages = [] := by
      simpa [startStagesJson] using length
    have isLast := h.isLast
    rw [none] at isLast
    cases isLast
  refine ⟨_, List.getLast?_eq_getLast_of_ne_nil nonempty, ?_⟩
  exact echoed_probeAdded h.echoed _ (List.getLast_mem nonempty)

/-- On such a report of a cooking oven, the cook is turned off exactly where the oven says it is
done: the probe's test never passes. -/
theorem EndedReport.due (h : EndedReport start accepted ids s oven cook cookId last)
    (env : Env) (cooking : (toOvenStatus oven).isCooking) :
    cookToTurnOff (reported env s (toOvenStatus oven) (toOvenCook oven)) =
      if cookDone oven then some cookId else none := by
  have carried := reported_carried env s (toOvenStatus oven) (toOvenCook oven) cooking h.lifecycle
  obtain ⟨waits, status⟩ := reported_status env s (toOvenStatus oven) (toOvenCook oven)
  obtain ⟨current, isCurrent, stage, lastCurrent, turnOff⟩ := h.current
  obtain ⟨read, lastRead, noProbe⟩ := h.lastRead
  have active : (toOvenStatus oven).activeStageIndex =
      some ((cook.stages.map stageFromJson).length - 1) := by
    show (oven.cook.bind fun cook => cook.activeStageIndex) = _
    rw [h.carried, List.length_map]
    exact h.active
  rw [cookToTurnOff_of (carried.localMode.trans h.localMode) carried.lifecycle status
    (carried.ovenCook.trans h.ovenCook) (carried.currentCook.trans isCurrent) lastCurrent turnOff
    (by rw [carried.turnedOff]; exact h.notStopped) lastRead active]
  simp only [probeDone, noProbe, reduceCtorEq, decide_false, Bool.false_and, Bool.or_false]
  rfl

/-- **The turn-off.** A report of a started cook whose last stage is set to turn the oven off and has
ended stops it exactly where the report is of a cooking oven and the stage ends on its timer or the
oven says the cook is done. -/
theorem turnOff_fires_iff (h : EndedReport start accepted ids s oven cook cookId last) (env : Env) :
    Stops (stateMachine.effects s
        (env, .event (.ws (.apoState (toOvenStatus oven) (toOvenCook oven))))) ↔
      oven.state.mode ≠ "idle" ∧ (last.timerAdded = some true ∨ cookDone oven) := by
  rw [apoState_stops, or_iff_right_of_imp h.onTimer]
  by_cases idle : oven.state.mode = "idle"
  · -- an idle report leaves nothing to turn off
    have notCooking : (toOvenStatus oven).isCooking = false := by
      simp [OvenStatus.isCooking, toOvenStatus, idle]
    refine iff_of_false (fun off => ?_) (fun cooking => cooking.1 idle)
    obtain ⟨requestId, due⟩ := Option.isSome_iff_exists.mp off
    obtain ⟨_, seen⟩ := turnOffId_cooking due
    rw [reported_phase, notCooking] at seen
    exact seen rfl
  · have cooking : (toOvenStatus oven).isCooking := by
      exact decide_eq_true idle
    have carried := reported_carried env s (toOvenStatus oven) (toOvenCook oven) cooking
      h.lifecycle
    obtain ⟨waits, status⟩ := reported_status env s (toOvenStatus oven) (toOvenCook oven)
    unfold turnOffId
    rw [h.due env cooking]
    cases done : cookDone oven with
    | false => simp
    | true =>
      have stopped : (stopCook env.fresh
          { reported env s (toOvenStatus oven) (toOvenCook oven) with
            turnedOff := some cookId }).result = .ok () := by
        refine (stopCook_ok_iff env.fresh _).mpr ⟨?_, ?_, ?_⟩
        · rw [carried.lifecycle]
          simp
        · rw [status]
          exact cooking
        · rw [carried.connectivity]
          exact h.known
      simp [stopped, idle]

/-- The echo is one the oven may give. -/
theorem echoes_echo (object : Json) : Echoes object (echo object) := by
  unfold echo
  constructor <;> rw [Json.get_eraseAll] <;> rfl

namespace Kitchen

/-- A roast set to turn the oven off when its probe reads 60 degrees. -/
def turnOffRoast : Stage :=
  { roast with probeAdded := some true, probeTargetC := some 60, turnOffAtEnd := some true }

/-- The roast as its start sends it. -/
def sentRoast : List Stage := startedStages (Kitchen.env "start").fresh (recipeOf turnOffRoast).stages

/-- The roast as the oven reports it. -/
def roastCook : Cook where
  cookId := some "ios-start"
  activeStageIndex := some 0
  activeStageId := some "ios-roast"
  stages := (startStagesJson toString sentRoast).map echo
  stageTransitionPendingUserAction := false
  secondsElapsed := some 1800

/-- The oven roasting, with its probe at a reading. -/
def roastingOven (reading : ℚ) : OvenState where
  nodes := {
    lampOn := true
    relativeHumidity := none
    temperatureBulbs := ⟨⟨180, some 180⟩, ⟨60, none⟩, "dry"⟩
    temperatureProbe := some ⟨true, some reading, some 60⟩
    timer := ⟨0, 0, "idle"⟩ }
  state := ⟨"cook", "C", []⟩
  cook := some roastCook

/-- A report of the oven roasting. -/
def roastReport (reading : ℚ) : Env × Input :=
  (Kitchen.env "report",
    .event (.ws (.apoState (toOvenStatus (roastingOven reading)) (toOvenCook (roastingOven reading)))))

/-- The state once the roast was started and first reported. -/
def roasting : SmState :=
  stateMachine.run (SmState.init true 0)
    [found, (Kitchen.env "start", .command (.startManualCook "Roast" [turnOffRoast])), roastReport 20]

/-- The roast at its target is a cook that has ended. -/
theorem roast_ended :
    EndedReport (Kitchen.env "start") (recipeOf turnOffRoast) toString roasting (roastingOven 60) roastCook
      "ios-start" { turnOffRoast with id := some "ios-roast" } where
  normalized := ⟨toString, recipeOf turnOffRoast, by decide +kernel⟩
  isLast := by decide
  turnOff := rfl
  carried := rfl
  id := rfl
  echoed := List.forall₂_map_right_iff.mpr (List.forall₂_same.mpr fun object _ => echoes_echo object)
  localMode := by decide
  known := by decide
  lifecycle := by decide
  current := by
    have isSome : (roasting.currentCook.bind fun current => current.stages.getLast?).any
        fun stage => stage.turnOffAtEnd = some true := by decide
    obtain ⟨stage, last, turnOff⟩ := (Option.any_eq_true _ _).mp isSome
    obtain ⟨current, isCurrent, last⟩ := Option.bind_eq_some_iff.mp last
    exact ⟨current, isCurrent, stage, last, of_decide_eq_true turnOff⟩
  notStopped := by decide
  active := rfl
  onTimer := by decide
  onProbe := fun _ => ⟨60, 60, rfl, rfl, le_refl _⟩

end Kitchen

/-- The roast at its target is stopped exactly where the oven says it is done. -/
theorem turnOff_fires_roast :
    Stops (stateMachine.effects Kitchen.roasting (Kitchen.roastReport 60)) ↔
      (Kitchen.roastingOven 60).state.mode ≠ "idle" ∧
        (Kitchen.turnOffRoast.timerAdded = some true ∨ cookDone (Kitchen.roastingOven 60)) :=
  turnOff_fires_iff Kitchen.roast_ended (Kitchen.env "report")

/-- The roast at its target is not stopped: the oven's copy of the stage has no probe flag. -/
theorem turnOff_misses_probe :
    ¬ ∀ (start : Env) (accepted : Recipe) (ids : Nat → String) (s : SmState) (oven : OvenState)
      (cook : Cook) (cookId : String) (last : Stage),
      EndedReport start accepted ids s oven cook cookId last → ∀ env : Env,
        Stops (stateMachine.effects s
          (env, .event (.ws (.apoState (toOvenStatus oven) (toOvenCook oven))))) := by
  intro always
  have stops := always _ _ _ _ _ _ _ _ Kitchen.roast_ended (Kitchen.env "report")
  exact absurd ((apoState_stops _ _ _ _).mp stops) (by decide)

end AnovaOven
