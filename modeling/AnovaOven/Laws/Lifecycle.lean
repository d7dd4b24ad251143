import AnovaOven.Laws.Phase

/-!
# Laws of the lifecycle protocol

**When the pending start and the lifecycle stay in step** (`inStep_step`), **what an idle report
settles** (`settled_step`) and **when a cooking oven can be stopped** (`stoppable_step`), each a law
of the protocol, carried to every run of the state machine through the refinement.

The protocol's laws hold for the signals the state machine can give at a phase (`Phase.Admits`): a
stop is not accepted after an idle report, and a turn-off follows a report of a cooking oven.
-/

namespace AnovaOven

variable {env : Env} {fresh : Fresh} {s : SmState} {status : OvenStatus}
variable {p : Phase} {sig : Signal} {localMode : Bool}

/-! ## The signals the state machine gives -/

/-- What holds of a command's signal and of none holds of it accepted or refused. -/
theorem accepted_of {P : Signal → Prop} (outcome : Outcome) (given : P sig) (quiet : P .quiet) :
    P (accepted outcome sig) := by
  unfold accepted
  split
  · exact given
  · exact quiet

/-- The signals the state machine may give at a phase. -/
def Phase.Admits (p : Phase) : Signal → Prop
  | .stop _ => p.lifecycle ≠ .idle ∧ p.cooking ≠ some false
  | .report cooking (some _) => cooking = true ∧ (p.observe cooking).lifecycle = .cooking
  | _ => True

/-- No idle report, as the stop's guard has it and as the protocol sees it. -/
theorem all_isCooking_iff (s : SmState) :
    s.status.all OvenStatus.isCooking ↔ (phase s).cooking ≠ some false := by
  unfold phase
  cases s.status with
  | none => simp
  | some status => cases h : status.isCooking <;> simp [h]

/-- An accepted stop tells of a lifecycle that is not idle and of no idle report. -/
theorem stop_admitted (fresh : Fresh) (s : SmState) :
    (phase s).Admits (accepted (stopCook fresh s) (.stop fresh.requestId)) := by
  rcases stopCook_cases fresh s with ⟨e, h⟩ | ⟨active, cooking, _, controls, h⟩ <;> rw [h]
  · trivial
  · exact ⟨active, (all_isCooking_iff s).mp cooking⟩

/-- Only a cook the lifecycle has as cooking is turned off. -/
theorem cookToTurnOff_cooking {cookId : String} (h : cookToTurnOff s = some cookId) :
    s.lifecycle = .cooking := by
  unfold cookToTurnOff at h
  split at h
  · cases h
  · rename_i running
    simpa using fun h : s.lifecycle ≠ .cooking => running (by simp [h])

/-- A turn-off follows a report of a cooking oven, under a lifecycle that has it cooking. -/
theorem turnOffId_cooking {requestId : String} (h : turnOffId fresh s = some requestId) :
    s.lifecycle = .cooking ∧ (phase s).cooking ≠ some false := by
  unfold turnOffId at h
  obtain ⟨cookId, due, stopped⟩ := Option.bind_eq_some_iff.mp h
  refine ⟨cookToTurnOff_cooking due, ?_⟩
  rcases stopCook_cases fresh { s with turnedOff := some cookId } with
    ⟨e, h⟩ | ⟨_, cooking, _, controls, h⟩
  · rw [h] at stopped
    cases stopped
  · exact (all_isCooking_iff s).mp cooking

/-- The state machine's signals are admitted at its phase. -/
theorem signal_admitted (s : SmState) (i : Env × Input) : (phase s).Admits (signal s i) := by
  obtain ⟨env, input⟩ := i
  cases input with
  | command cmd =>
    cases cmd with
    | startCook recipeId => exact accepted_of (P := (phase s).Admits) _ trivial trivial
    | startManualCook title stages => exact accepted_of (P := (phase s).Admits) _ trivial trivial
    | stopCook => exact stop_admitted env.fresh s
    | _ => trivial
  | event evt =>
    cases evt with
    | ws event =>
      cases event with
      | apoState status cook =>
        show (phase s).Admits (.report _ (turnOffId env.fresh (reported env s status cook)))
        cases off : turnOffId env.fresh (reported env s status cook) with
        | none => trivial
        | some requestId =>
          obtain ⟨lifecycle, cooking⟩ := turnOffId_cooking off
          have seen := reported_phase env s status cook
          rw [seen] at cooking
          exact ⟨by simpa [Phase.observe] using cooking, by rw [← seen]; exact lifecycle⟩
      | _ => trivial
    | store event =>
      cases event with
      | currentCookFetched reason result => cases result <;> trivial
      | _ => trivial
    | tick kind => trivial

/-- An idle report is the protocol's `observe`: no turn-off follows it. -/
theorem idleReport_phase (s : SmState) (env : Env) (cook : Option OvenCook) {status : OvenStatus}
    (idle : status.isCooking = false) :
    phase (stateMachine.next s (env, .event (.ws (.apoState status cook)))) =
      (phase s).observe false := by
  have adm := signal_admitted s (env, .event (.ws (.apoState status cook)))
  rw [phase_next]
  change (phase s).Admits (.report status.isCooking _) at adm
  show (phase s).step s.localMode (.report status.isCooking _) = _
  rw [idle] at adm ⊢
  cases off : turnOffId env.fresh (reported env s status cook) with
  | none => rfl
  | some requestId =>
    rw [off] at adm
    exact absurd adm.1 Bool.false_ne_true

/-- The last report after a signal. -/
def Signal.cookingAfter (last : Option Bool) : Signal → Option Bool
  | .report cooking _ => some cooking
  | _ => last

/-- Only a report changes what was last reported. -/
theorem Phase.step_cooking (p : Phase) (sig : Signal) (localMode : Bool) :
    (p.step localMode sig).cooking = sig.cookingAfter p.cooking := by
  cases sig with
  | report cooking turnOff => cases turnOff <;> rfl
  | ack requestId ok =>
    show (p.acked localMode requestId ok).cooking = p.cooking
    unfold acked
    split
    · split
      · split <;> rfl
      · rfl
    · split <;> rfl
  | _ => rfl

/-! ## The pending start and the lifecycle -/

namespace Phase

/-- A start is pending exactly while the lifecycle says so. -/
def InStep (p : Phase) : Prop := p.start.isSome ↔ p.lifecycle = .startPending

/-- The signals that keep the two in step: while a start is pending no stop is accepted, no idle
report ends a cook, and no stop fails under an id that isn't the start's. -/
def KeepsInStep (p : Phase) : Signal → Prop
  | .stop _ => p.lifecycle ≠ .startPending
  | .report cooking _ => p.lifecycle = .startPending → p.cooking = some true → cooking = true
  | .ack requestId ok =>
    p.lifecycle = .startPending → p.stop = some requestId → p.start = some requestId ∨ ok = true
  | _ => True

/-- **Staying in step.** From a phase in step, a signal leads to one in step exactly when it is one
that keeps it. -/
theorem inStep_step (h : p.InStep) (adm : p.Admits sig) :
    (p.step localMode sig).InStep ↔ p.KeepsInStep sig := by
  obtain ⟨lifecycle, start, stop, cooking, hasCook⟩ := p
  cases sig with
  | quiet => simpa [KeepsInStep, step] using h
  | start requestId => simp [KeepsInStep, step, InStep]
  | stop requestId =>
    have kept : start.isSome ↔ lifecycle = .startPending := h
    simp [KeepsInStep, step, InStep, stopping, ← kept]
  | fetched hasCook => simpa [KeepsInStep, step, InStep] using h
  | report reportedCooking turnOff =>
    rcases turnOff with _ | requestId
    · cases reportedCooking <;> cases lifecycle <;> rcases cooking with _ | _ | _ <;>
        simp_all [KeepsInStep, step, InStep, observe, rollBack]
    · obtain ⟨rfl, seen⟩ := adm
      cases lifecycle <;> rcases cooking with _ | _ | _ <;>
        simp_all [KeepsInStep, step, InStep, observe, stopping]
  | ack requestId ok =>
    have kept : start.isSome ↔ lifecycle = .startPending := h
    by_cases mine : start = some requestId
    · subst mine
      cases ok <;> cases localMode <;> rcases cooking with _ | _ | _ <;>
        simp_all [KeepsInStep, step, InStep, acked]
    · by_cases stopped : stop = some requestId <;> cases ok <;>
        simp_all [KeepsInStep, step, InStep, acked]

/-! ## Idle reports -/

/-- What an idle report is to leave: an idle lifecycle, no cook and nothing pending. -/
structure Settled (p : Phase) : Prop where
  lifecycle : p.lifecycle = .idle
  start : p.start = none
  stop : p.stop = none
  hasCook : p.hasCook = false

/-- The phases an idle report settles: after a cooking report no start is pending, and before the
first report neither a stop is nor has the lifecycle gone past a start. -/
def Settles (p : Phase) : Prop :=
  (p.cooking = some true → p.start = none) ∧
    (p.cooking = none → p.stop = none ∧ (p.lifecycle = .idle ∨ p.lifecycle = .startPending))

/-- What the phase keeps while idle reports settle: after an idle report nothing is pending but a
start the lifecycle knows of, and before the first one an idle lifecycle has no start pending. -/
structure Settling (p : Phase) : Prop where
  afterIdle : p.cooking = some false →
    p.stop = none ∧ (p.lifecycle = .idle ∧ p.start = none ∨ p.lifecycle = .startPending)
  unseen : p.cooking = none → p.lifecycle = .idle → p.start = none

/-- **Idle reports.** An idle report settles exactly from the phases it settles. -/
theorem observe_settled (h : p.Settling) : (p.observe false).Settled ↔ p.Settles := by
  obtain ⟨lifecycle, start, stop, cooking, hasCook⟩ := p
  have afterIdle := h.afterIdle
  have unseen := h.unseen
  constructor
  · rintro ⟨hl, hs, hp, hc⟩
    cases lifecycle <;> rcases cooking with _ | _ | _ <;>
      simp_all [Settles, observe, rollBack]
  · rintro ⟨seen, first⟩
    cases lifecycle <;> rcases cooking with _ | _ | _ <;>
      constructor <;> simp_all [observe, rollBack]

/-- A signal keeps the phase settling, where an idle report is one that settles. -/
theorem settling_step (h : p.Settling) (adm : p.Admits sig)
    (settles : ∀ turnOff, sig = .report false turnOff → p.Settles) :
    (p.step localMode sig).Settling := by
  cases sig with
  | quiet => exact h
  | start requestId =>
    exact ⟨fun cooking => ⟨(h.afterIdle cooking).1, .inr rfl⟩, fun _ idle => by cases idle⟩
  | stop requestId =>
    exact ⟨fun cooking => absurd cooking adm.2, fun _ idle => by cases idle⟩
  | fetched hasCook => exact ⟨h.afterIdle, h.unseen⟩
  | report reportedCooking turnOff =>
    cases reportedCooking with
    | true =>
      -- after a cooking report there is nothing to keep
      have seen : (p.step localMode (.report true turnOff)).cooking = some true := by
        cases turnOff <;> rfl
      constructor <;> simp [seen]
    | false =>
      have settled := (observe_settled h).mpr (settles turnOff rfl)
      cases turnOff with
      | none =>
        exact ⟨fun _ => ⟨settled.stop, .inl ⟨settled.lifecycle, settled.start⟩⟩,
          fun _ _ => settled.start⟩
      | some requestId => exact absurd adm.1 Bool.false_ne_true
  | ack requestId ok =>
    have afterIdle := h.afterIdle
    have unseen := h.unseen
    obtain ⟨lifecycle, start, stop, cooking, hasCook⟩ := p
    by_cases mine : start = some requestId
    · subst mine
      cases ok <;> cases localMode <;> rcases cooking with _ | _ | _ <;> constructor <;>
        simp_all [step, acked]
    · by_cases stopped : stop = some requestId <;> cases ok <;> constructor <;>
        simp_all [step, acked]

/-! ## Stopping a cooking oven -/

/-- A reported cook is one the lifecycle knows of. -/
def Stoppable (p : Phase) : Prop := p.cooking = some true → p.lifecycle ≠ .idle

/-- The signals that keep a reported cook stoppable: no start fails over one. -/
def KeepsStoppable (p : Phase) : Signal → Prop
  | .ack requestId ok => p.start = some requestId → p.cooking = some true → ok = true
  | _ => True

/-- **Stopping.** A signal that lets no start fail over a reported cook keeps it stoppable. -/
theorem stoppable_step (h : p.Stoppable) (keeps : p.KeepsStoppable sig) :
    (p.step localMode sig).Stoppable := by
  cases sig with
  | quiet => exact h
  | start requestId => exact fun _ idle => by cases idle
  | stop requestId => exact fun _ idle => by cases idle
  | fetched hasCook => exact h
  | report reportedCooking turnOff =>
    cases turnOff with
    | some requestId => exact fun _ idle => by cases idle
    | none =>
      cases reportedCooking with
      | false => exact fun cooking => by cases cooking
      | true =>
        obtain ⟨lifecycle, start, stop, cooking, hasCook⟩ := p
        rcases cooking with _ | _ | _ <;> simp_all [Stoppable, step, observe]
  | ack requestId ok =>
    obtain ⟨lifecycle, start, stop, cooking, hasCook⟩ := p
    by_cases mine : start = some requestId
    · subst mine
      cases ok <;> cases localMode <;> rcases cooking with _ | _ | _ <;>
        simp_all [Stoppable, KeepsStoppable, step, acked]
    · by_cases stopped : stop = some requestId <;> cases ok <;>
        simp_all [Stoppable, step, acked]

end Phase

end AnovaOven
