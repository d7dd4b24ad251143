import AnovaOven.Laws.Starts

/-!
# The pending commands

What each step does to the commands the machine waits for the oven to answer. A step that answers
nothing leaves what it issues pending, under ids it drew, and takes only what it settles or has no
room for (`step_issues`). A failing ack announces the first command pending under its id and takes it
(`failingAck`), and no ack touches another id (`applyCommandAck_takes`).
-/

namespace AnovaOven

variable {env : Env} {fresh : Fresh} {s : SmState} {cmd : StateMachineCommand} {recipe : Recipe}
variable {started : StartedFrom} {status : OvenStatus}

/-! ## Commands to the oven -/

/-- The kinds of command the oven answers, by the name a failure is announced under. -/
inductive Kind where
  | start
  | stop
  | control (name : String)
  deriving Repr, DecidableEq

def Kind.name : Kind → String
  | start => "start"
  | stop => "stop"
  | control name => name

/-- The name of a control as the oven gets it. An update of the stages is named by what the client
asked for. -/
def OvenControl.name (asked : Option ControlRequest) : OvenControl → String
  | startStage _ => "next_stage"
  | setTimer _ => "timer"
  | setTemperatureBulbs _ _ => "temperature"
  | setLamp _ => "lamp"
  | setTemperatureUnit _ => "temperature_unit"
  | updateCookStages _ => (asked.map ControlRequest.name).getD ""

/-- The control a message asks for. -/
def Input.asked : Input → Option ControlRequest
  | .command (.control request) => some request
  | _ => none

/-- The command an effect issues to the oven: its request id and its kind. -/
def SmEffect.order (asked : Option ControlRequest) : SmEffect → Option (String × Kind)
  | .ws (.sendStart requestId _ _ _) => some (requestId, .start)
  | .ws (.sendStop requestId) => some (requestId, .stop)
  | .ws (.control requestId control) => some (requestId, .control (control.name asked))
  | _ => none

/-- The commands a step issues, in order. -/
def orders (s : SmState) (i : Env × Input) : List (String × Kind) :=
  (stateMachine.effects s i).filterMap (SmEffect.order i.2.asked)

/-- The failures effects announce, in order. -/
def announced (effects : List SmEffect) : List CommandFailure :=
  effects.filterMap fun effect => match effect with
    | .commandFailed failure => some failure
    | _ => none

/-- Whether a message settles a kind of command: any report settles a start, and an idle one a
stop. -/
def Input.settles : Input → Kind → Bool
  | .event (.ws (.apoState _ _)), .start => true
  | .event (.ws (.apoState status _)), .stop => !status.isCooking
  | _, _ => false

/-- The request id a message answers. -/
def Input.answers : Input → Option String
  | .event (.ws (.commandAck requestId _)) => some requestId
  | _ => none

/-- Whether a message is a failing answer. -/
def Input.fails : Input → Bool
  | .event (.ws (.commandAck _ status)) => !ackOk status
  | _ => false

/-- The random request ids a reduction may draw. -/
def Fresh.requestIds (fresh : Fresh) : List String :=
  [fresh.settleId, fresh.lampId, fresh.requestId]

/-! ## Who holds a request id -/

namespace PendingTracker

def startId (p : PendingTracker) : Option String := p.start.map (·.requestId)

def stopId (p : PendingTracker) : Option String := p.stop.map (·.requestId)

/-- The commands under a request id among a start, a stop and controls, as an ack looks them up. -/
def heldBy (start stop : Option String) (controls : List (String × String)) (id : String) :
    List Kind :=
  (if start = some id then [.start] else []) ++ (if stop = some id then [.stop] else []) ++
    (controls.filter fun entry => entry.1 = id).map fun entry => .control entry.2

/-- The commands pending under a request id. -/
def holders (p : PendingTracker) (id : String) : List Kind := heldBy p.startId p.stopId p.controls id

/-- Fewer commands pending hold an id less. -/
theorem heldBy_sublist {start start' stop stop' : Option String}
    {controls controls' : List (String × String)} {id : String}
    (ofStart : start = some id → start' = some id) (ofStop : stop = some id → stop' = some id)
    (ofControls : List.Sublist controls controls') :
    List.Sublist (heldBy start stop controls id) (heldBy start' stop' controls' id) := by
  unfold heldBy
  refine List.Sublist.append (List.Sublist.append ?_ ?_) ((ofControls.filter _).map _)
  · by_cases h : start = some id
    · rw [if_pos h, if_pos (ofStart h)]
    · rw [if_neg h]
      exact List.nil_sublist _
  · by_cases h : stop = some id
    · rw [if_pos h, if_pos (ofStop h)]
    · rw [if_neg h]
      exact List.nil_sublist _

end PendingTracker

theorem awaitsStart_iff_startId (s : SmState) (requestId : String) :
    s.awaitsStart requestId ↔ s.pending.startId = some requestId := awaitsStart_iff s requestId

theorem awaitsStop_iff_stopId (s : SmState) (requestId : String) :
    s.awaitsStop requestId ↔ s.pending.stopId = some requestId := awaitsStop_iff s requestId

/-- Erasing the first match takes the first of the matches. -/
theorem filter_eraseP {α : Type*} (p : α → Bool) (xs : List α) :
    (xs.eraseP p).filter p = (xs.filter p).tail := by
  induction xs with
  | nil => rfl
  | cons x xs ih =>
    cases h : p x with
    | true => simp [h]
    | false => simp [h, ih]

/-- Erasing the entry of one id takes none of another's. -/
theorem filter_eraseP_other {id requestId : String} (other : id ≠ requestId)
    (controls : List (String × String)) :
    (controls.eraseP fun entry => entry.1 = requestId).filter (fun entry => entry.1 = id) =
      controls.filter fun entry => entry.1 = id := by
  induction controls with
  | nil => rfl
  | cons entry controls ih =>
    by_cases mine : entry.1 = requestId
    · have kept : ¬ entry.1 = id := fun same => other (same.symm.trans mine)
      rw [List.filter_cons, if_neg (by simpa using kept)]
      simp [mine]
    · simp [mine, List.filter_cons, ih]

/-- The controls' part of a failing ack. -/
theorem failingAck_control (s : SmState) (requestId : String) {status : String}
    (failed : ackOk status = false) :
    announced (ackControl s requestId status).2 =
        ((s.pending.controls.filter fun entry => entry.1 = requestId).take 1).map
          (fun entry => ⟨entry.2, status⟩) ∧
      (ackControl s requestId status).1.pending =
        { s.pending with
          controls := s.pending.controls.eraseP fun entry => entry.1 = requestId } := by
  unfold ackControl
  rw [← List.head?_filter]
  cases found : s.pending.controls.filter fun entry => entry.1 = requestId with
  | nil =>
    refine ⟨rfl, ?_⟩
    have none : ∀ entry ∈ s.pending.controls, ¬ decide (entry.1 = requestId) = true := by
      simpa [List.filter_eq_nil_iff] using found
    rw [List.eraseP_of_forall_not none]
    rfl
  | cons entry rest =>
    refine ⟨?_, rfl⟩
    show announced (if ackOk status then [] else [commandFailed entry.2 status]) = _
    rw [failed]
    rfl

/-- **Acks.** A failing ack announces the first of those pending under its id, and takes it. -/
theorem failingAck (s : SmState) (requestId : String) {status : String}
    (failed : ackOk status = false) :
    announced (applyCommandAck s requestId status).2 =
        ((s.pending.holders requestId).take 1).map (fun kind => ⟨kind.name, status⟩) ∧
      ∀ id, (applyCommandAck s requestId status).1.pending.holders id =
        if id = requestId then (s.pending.holders requestId).tail else s.pending.holders id := by
  have awaitsStart := awaitsStart_iff_startId s requestId
  have awaitsStop := awaitsStop_iff_stopId s requestId
  unfold applyCommandAck PendingTracker.holders
  by_cases start : s.pending.startId = some requestId
  · rw [if_pos (awaitsStart.mpr start), failed]
    constructor
    · simp [PendingTracker.heldBy, start, announced, commandFailed, Kind.name]
    · intro id
      show PendingTracker.heldBy none s.pending.stopId s.pending.controls id = _
      by_cases mine : id = requestId
      · subst mine
        simp [PendingTracker.heldBy, start]
      · have other : ¬ s.pending.startId = some id := by
          rw [start]
          exact fun same => mine (Option.some.inj same).symm
        simp only [PendingTracker.heldBy, if_neg mine, if_neg other, reduceCtorEq, if_false]
  · rw [if_neg (fun awaits => start (awaitsStart.mp awaits))]
    by_cases stop : s.pending.stopId = some requestId
    · rw [if_pos (by rw [awaitsStop.mpr stop, failed]; rfl)]
      constructor
      · simp [PendingTracker.heldBy, start, stop, announced, commandFailed, Kind.name]
      · intro id
        show PendingTracker.heldBy s.pending.startId none s.pending.controls id = _
        by_cases mine : id = requestId
        · subst mine
          simp [PendingTracker.heldBy, start, stop]
        · have other : ¬ s.pending.stopId = some id := by
            rw [stop]
            exact fun same => mine (Option.some.inj same).symm
          simp only [PendingTracker.heldBy, if_neg mine, if_neg other, reduceCtorEq, if_false]
    · have notStop : ¬ (s.awaitsStop requestId && !ackOk status) = true := by
        intro awaits
        exact stop (awaitsStop.mp (Bool.and_eq_true_iff.mp awaits).1)
      obtain ⟨told, pending⟩ := failingAck_control s requestId failed
      rw [if_neg notStop, told, pending]
      constructor
      · simp only [PendingTracker.heldBy, if_neg start, if_neg stop, List.nil_append,
          ← List.map_take, List.map_map]
        rfl
      · intro id
        show PendingTracker.heldBy s.pending.startId s.pending.stopId
          (s.pending.controls.eraseP fun entry => entry.1 = requestId) id = _
        unfold PendingTracker.heldBy
        by_cases mine : id = requestId
        · subst mine
          rw [filter_eraseP, if_pos rfl]
          simp only [if_neg start, if_neg stop, List.nil_append, List.map_tail]
        · rw [filter_eraseP_other mine, if_neg mine]

/-- An ok ack announces nothing. -/
theorem okAck (s : SmState) (requestId : String) {status : String} (ok : ackOk status = true) :
    announced (applyCommandAck s requestId status).2 = [] := by
  unfold applyCommandAck
  split
  · unfold fetchCurrentCook
    rfl
  · have notStop : ¬ (s.awaitsStop requestId && !ackOk status) = true := by simp [ok]
    rw [if_neg notStop]
    unfold ackControl
    split
    · rfl
    · rw [ok]
      rfl

/-- What an ack takes is under its id. -/
structure Takes (before after : PendingTracker) (requestId : String) : Prop where
  start : after.startId = before.startId ∨ before.startId = some requestId ∧ after.startId = none
  stop : after.stopId = before.stopId ∨ before.stopId = some requestId ∧ after.stopId = none
  controls : after.controls = before.controls ∨
    after.controls = before.controls.eraseP fun entry => entry.1 = requestId

theorem applyCommandAck_takes (s : SmState) (requestId status : String) :
    Takes s.pending (applyCommandAck s requestId status).1.pending requestId := by
  have kept : Takes s.pending s.pending requestId := ⟨.inl rfl, .inl rfl, .inl rfl⟩
  unfold applyCommandAck
  split
  · rename_i mine
    have slot := (awaitsStart_iff_startId s requestId).mp mine
    split
    · dsimp only
      split
      · exact ⟨.inr ⟨slot, rfl⟩, .inl rfl, .inl rfl⟩
      · exact kept
    · exact ⟨.inr ⟨slot, rfl⟩, .inl rfl, .inl rfl⟩
  · split
    · rename_i mine
      have slot := (awaitsStop_iff_stopId s requestId).mp (Bool.and_eq_true_iff.mp mine).1
      exact ⟨.inl rfl, .inr ⟨slot, rfl⟩, .inl rfl⟩
    · unfold ackControl
      split
      · exact kept
      · exact ⟨.inl rfl, .inl rfl, .inr rfl⟩

/-- An ack holds no id more than before. -/
theorem Takes.holders {before after : PendingTracker} {requestId : String}
    (h : Takes before after requestId) (id : String) :
    List.Sublist (after.holders id) (before.holders id) := by
  refine PendingTracker.heldBy_sublist (fun held => ?_) (fun held => ?_) ?_
  · rcases h.start with kept | ⟨_, gone⟩
    · rw [← kept, held]
    · rw [gone] at held
      cases held
  · rcases h.stop with kept | ⟨_, gone⟩
    · rw [← kept, held]
    · rw [gone] at held
      cases held
  · rcases h.controls with kept | erased
    · rw [kept]
    · rw [erased]
      exact List.eraseP_sublist

/-! ## What a step issues -/

/-- The commands a step issues: controls by name, then a stop or a start. -/
structure Issue where
  controls : List (String × String)
  stop : Option String
  start : Option String

namespace Issue

def none : Issue := ⟨[], .none, .none⟩

/-- All of them, under their ids. -/
def all (issue : Issue) : List (String × Kind) :=
  issue.controls.map (fun entry => (entry.1, .control entry.2)) ++
    (issue.stop.toList.map fun id => (id, .stop)) ++ (issue.start.toList.map fun id => (id, .start))

end Issue

/-- What a step that answers nothing does to the pending commands: what it issues is pending, and what
it settles may not be any more. -/
structure Moved (before after : PendingTracker) (settles : Kind → Bool) (issue : Issue) : Prop where
  start : after.startId = issue.start.or before.startId ∨
    settles .start ∧ after.startId = issue.start
  stop : after.stopId = issue.stop.or before.stopId ∨ settles .stop ∧ after.stopId = issue.stop
  controls : after.controls = issue.controls.foldl pushControl before.controls

/-- What a step issues is what its effects order, under ids it drew, each used once. -/
structure Issues (s : SmState) (i : Env × Input) (issue : Issue) : Prop where
  moved : Moved s.pending (stateMachine.next s i).pending i.2.settles issue
  ordered : (orders s i).Perm issue.all
  drawn : List.Sublist (issue.all.map Prod.fst) i.1.fresh.requestIds

/-- A step that touches none of the pending commands and sends the oven nothing issues nothing. -/
theorem Issues.quiet {i : Env × Input} (kept : (stateMachine.next s i).pending = s.pending)
    (silent : orders s i = []) : Issues s i .none where
  moved := by
    rw [kept]
    exact ⟨.inl (Option.none_or).symm, .inl (Option.none_or).symm, rfl⟩
  ordered := by rw [silent]; rfl
  drawn := List.nil_sublist _

/-- An accepted start issues itself. -/
theorem Starts.issues (h : Starts env s cmd recipe started) :
    Issues s (env, .command cmd) ⟨[], none, some env.fresh.requestId⟩ where
  moved := by
    rw [h.next]
    exact ⟨.inl rfl, .inl (Option.none_or).symm, rfl⟩
  ordered := by
    unfold orders
    rw [h.effects]
    rfl
  drawn := by
    show List.Sublist [env.fresh.requestId] [_, _, _]
    simp

/-- A control the machine sends is named as the client asked for it. -/
theorem control_name {request : ControlRequest} {control' : OvenControl}
    (sent : control s request = .ok control') : control'.name (some request) = request.name := by
  unfold control at sent
  split at sent
  · cases sent
  · split at sent
    · cases sent
    · cases request with
      | lamp on => cases sent; rfl
      | temperatureUnit unit => cases sent; rfl
      | nextStage =>
        obtain ⟨⟨_, cook, active⟩, _, rest⟩ := except_bind_ok.mp sent
        dsimp only at rest
        split at rest
        · cases rest
        · split at rest
          · cases rest
          · cases rest
            rfl
      | temperature celsius =>
        obtain ⟨⟨status, cook, active⟩, _, rest⟩ := except_bind_ok.mp sent
        dsimp only at rest
        split at rest <;> cases rest <;> rfl
      | timer secs =>
        obtain ⟨⟨_, cook, active⟩, _, rest⟩ := except_bind_ok.mp sent
        dsimp only at rest
        split at rest
        · split at rest
          · cases rest
          · cases rest
            rfl
        · cases rest
          rfl

/-- A client's control issues itself, where it isn't refused. -/
theorem control_issues (env : Env) (s : SmState) (request : ControlRequest) :
    ∃ issue, Issues s (env, .command (.control request)) issue := by
  cases sent : control s request with
  | error e =>
    have reduced : reduceCommand env s (.control request) = (refuse s e).reply := by
      unfold reduceCommand
      dsimp only
      rw [sent]
    refine ⟨.none, .quiet ?_ ?_⟩
    · show (reduceCommand env s (.control request)).state.pending = _
      rw [reduced]
      rfl
    · show (reduceCommand env s (.control request)).effects.filterMap _ = []
      rw [reduced]
      rfl
  | ok control' =>
    have reduced : reduceCommand env s (.control request) =
        ⟨(sendControl s env.fresh.requestId request.name control').1, .unit (.ok ()),
          [.ws (.control env.fresh.requestId control')]⟩ := by
      unfold reduceCommand
      dsimp only
      rw [sent]
      rfl
    refine ⟨⟨[(env.fresh.requestId, request.name)], none, none⟩, ?_, ?_, ?_⟩
    · show Moved _ (reduceCommand env s (.control request)).state.pending _ _
      rw [reduced]
      exact ⟨.inl (Option.none_or).symm, .inl (Option.none_or).symm, rfl⟩
    · show List.Perm ((reduceCommand env s (.control request)).effects.filterMap _) _
      rw [reduced]
      show List.Perm [(env.fresh.requestId, Kind.control (control'.name (some request)))] _
      rw [control_name sent]
      rfl
    · show List.Sublist [env.fresh.requestId] [_, _, _]
      simp

/-! ## What a stop and a report issue -/

/-- The orders of a list of controls. -/
def controlOrders (controls : List (String × String)) : List (String × Kind) :=
  controls.map fun entry => (entry.1, .control entry.2)

/-- A part of a reduction that only sends controls, each tracked under its name. -/
structure Sends (s : SmState) (part : SmState × List SmEffect) (controls : List (String × String)) :
    Prop where
  pending : part.1.pending =
    { s.pending with controls := controls.foldl pushControl s.pending.controls }
  ordered : ∀ asked, part.2.filterMap (SmEffect.order asked) = controlOrders controls

/-- The lamp goes off where it is on. -/
theorem lampOff_sends (fresh : Fresh) (s : SmState) :
    Sends s (lampOff fresh s) [] ∨
      (s.status.any fun st => st.lampOn) ∧ Sends s (lampOff fresh s) [(fresh.lampId, "lamp")] := by
  unfold lampOff
  split
  · rename_i lit
    exact .inr ⟨(Bool.and_eq_true_iff.mp lit).2, rfl, fun _ => rfl⟩
  · exact .inl ⟨rfl, fun _ => rfl⟩

/-- The lamp comes on where it is off. -/
theorem lampOn_sends (fresh : Fresh) (s : SmState) (seenBefore : Bool) (status : OvenStatus) :
    Sends s (lampOn fresh s seenBefore status) [] ∨
      status.lampOn = false ∧
        Sends s (lampOn fresh s seenBefore status) [(fresh.lampId, "lamp")] := by
  unfold lampOn
  split
  · rename_i dark
    exact .inr ⟨by simpa using (Bool.and_eq_true_iff.mp dark).2, rfl, fun _ => rfl⟩
  · exact .inl ⟨rfl, fun _ => rfl⟩

/-- A preheat that settles sends the stage after it. -/
theorem settlePreheat_sends (env : Env) (s : SmState) (status : OvenStatus) :
    ∃ controls, (controls = [] ∨ controls = [(env.fresh.settleId, "next_stage")]) ∧
      Sends s ((settlePreheat env s status).1, (settlePreheat env s status).2.2) controls := by
  have quiet (watch : Option PreheatWatch) (status' : OvenStatus) :
      ∃ controls, (controls = [] ∨ controls = [(env.fresh.settleId, "next_stage")]) ∧
        Sends s ({ s with preheatWatch := watch }, []) controls :=
    ⟨[], .inl rfl, rfl, fun _ => rfl⟩
  unfold settlePreheat
  split
  · exact quiet _ status
  · dsimp only
    split
    · exact quiet _ status
    · split
      · exact quiet _ status
      · split
        · exact quiet _ status
        · split
          · exact quiet _ status
          · split
            · exact quiet _ status
            · split
              · exact quiet _ status
              · exact ⟨[(env.fresh.settleId, "next_stage")], .inr rfl, rfl, fun _ => rfl⟩

/-- The controls an accepted stop leaves pending are the lamp's. -/
theorem stopCook_controls (fresh : Fresh) (s : SmState)
    (accepted : (stopCook fresh s).result = .ok ()) :
    (stopCook fresh s).state.pending.controls = (lampOff fresh s).1.pending.controls := by
  unfold stopCook at accepted ⊢
  split at accepted
  · cases accepted
  · split at accepted
    · cases accepted
    · split at accepted
      · cases accepted
      · simp_all only [if_false, Bool.false_eq_true]
        rfl

/-- What a stop does to the pending commands: nothing, or it sends the lamp's control, where the lamp
is on, and then itself. -/
theorem stopCook_moves (fresh : Fresh) (s : SmState) :
    (∃ e, stopCook fresh s = refuse s e) ∨
      ∃ lamp, (lamp = [] ∨ lamp = [(fresh.lampId, "lamp")] ∧ s.status.any fun st => st.lampOn) ∧
        (stopCook fresh s).result = .ok () ∧
        (stopCook fresh s).state.pending =
          ⟨s.pending.start, some ⟨fresh.requestId⟩, lamp.foldl pushControl s.pending.controls⟩ ∧
        ∀ asked, (stopCook fresh s).effects.filterMap (SmEffect.order asked) =
          controlOrders lamp ++ [(fresh.requestId, .stop)] := by
  rcases stopCook_cases fresh s with refused | ⟨_, _, _, controls, done⟩
  · exact .inl refused
  · have kept := stopCook_controls fresh s (by rw [done])
    have pending : (stopCook fresh s).state.pending =
        ⟨s.pending.start, some ⟨fresh.requestId⟩, (stopCook fresh s).state.pending.controls⟩ := by
      rw [done]
    have effects : (stopCook fresh s).effects =
        (lampOff fresh s).2 ++ [.ws (.sendStop fresh.requestId)] := by
      rw [done]
    have result : (stopCook fresh s).result = .ok () := by rw [done]
    rw [kept] at pending
    right
    rcases lampOff_sends fresh s with dark | ⟨lit, sends⟩
    · refine ⟨[], .inl rfl, result, ?_, fun asked => ?_⟩
      · rw [pending, dark.pending]
      · rw [effects, List.filterMap_append, dark.ordered]
        rfl
    · refine ⟨[(fresh.lampId, "lamp")], .inr ⟨rfl, lit⟩, result, ?_, fun asked => ?_⟩
      · rw [pending, sends.pending]
      · rw [effects, List.filterMap_append, sends.ordered]
        rfl

/-- A turn-off is nothing to the pending commands, or a stop. -/
theorem turnOffWhenDone_moves (fresh : Fresh) (s : SmState) :
    ∃ lamp stop, (lamp = [] ∨ lamp = [(fresh.lampId, "lamp")] ∧ s.status.any fun st => st.lampOn) ∧
      (stop = none ∨ stop = some fresh.requestId) ∧
      (turnOffWhenDone fresh s).1.pending.startId = s.pending.startId ∧
      (turnOffWhenDone fresh s).1.pending.stopId = stop.or s.pending.stopId ∧
      (turnOffWhenDone fresh s).1.pending.controls =
        lamp.foldl pushControl s.pending.controls ∧
      ∀ asked, (turnOffWhenDone fresh s).2.filterMap (SmEffect.order asked) =
        controlOrders lamp ++ stop.toList.map fun id => (id, .stop) := by
  unfold turnOffWhenDone
  cases cookToTurnOff s with
  | none => exact ⟨[], none, .inl rfl, .inl rfl, rfl, (Option.none_or).symm, rfl, fun _ => rfl⟩
  | some cookId =>
    dsimp only
    rcases stopCook_moves fresh { s with turnedOff := some cookId } with
      ⟨e, refused⟩ | ⟨lamp, lit, result, pending, ordered⟩
    · rw [refused]
      exact ⟨[], none, .inl rfl, .inl rfl, rfl, (Option.none_or).symm, rfl, fun _ => rfl⟩
    · rw [result]
      dsimp only
      rw [pending]
      exact ⟨lamp, some fresh.requestId, lit, .inr rfl, rfl, rfl, rfl, ordered⟩

/-- The idle → cooking edge sends the lamp's control at most, where the lamp is off. -/
theorem startedCooking_sends (fresh : Fresh) (s : SmState) (status : OvenStatus) :
    ∃ lamp, (lamp = [] ∨ lamp = [(fresh.lampId, "lamp")] ∧ status.lampOn = false) ∧
      (startedCooking fresh s status).1.pending.controls =
        lamp.foldl pushControl s.pending.controls ∧
      ∀ asked, (startedCooking fresh s status).2.filterMap (SmEffect.order asked) =
        controlOrders lamp := by
  unfold startedCooking
  dsimp only
  generalize hs : SmState.setLifecycle (s.setPendingStart none) .cooking _ = s'
  have kept : s'.pending.controls = s.pending.controls := by
    rw [← hs]
    rfl
  rcases lampOn_sends fresh s' s.status.isSome status with lit | ⟨dark, sends⟩
  · refine ⟨[], .inl rfl, ?_, fun asked => ?_⟩
    · rw [lit.pending, ← kept]
    · rw [List.filterMap_append, lit.ordered]
      rfl
  · refine ⟨[(fresh.lampId, "lamp")], .inr ⟨rfl, dark⟩, ?_, fun asked => ?_⟩
    · rw [sends.pending, ← kept]
    · rw [List.filterMap_append, sends.ordered]
      rfl

theorem reconcileIdle_controls (s : SmState) :
    (reconcileIdle s).pending.controls = s.pending.controls := by
  unfold reconcileIdle
  dsimp only
  split <;> split <;> rfl

/-- A report up to the turn-off sends the lamp's control at most, where the lamp is off. -/
theorem recordStatus_sends (fresh : Fresh) (s : SmState) (status : OvenStatus) :
    ∃ lamp, (lamp = [] ∨ lamp = [(fresh.lampId, "lamp")] ∧ status.lampOn = false) ∧
      (recordStatus fresh s status).1.pending.controls =
        lamp.foldl pushControl s.pending.controls ∧
      (recordStatus fresh s status).1.status = some status ∧
      ∀ asked, (recordStatus fresh s status).2.filterMap (SmEffect.order asked) =
        controlOrders lamp := by
  obtain ⟨lamp, lit, controls, ordered⟩ := startedCooking_sends fresh s status
  unfold recordStatus
  dsimp only
  cases cooking : status.isCooking with
  | true =>
    cases seen : s.reportsCooking with
    | false => exact ⟨lamp, lit, controls, rfl, fun asked => by simpa using ordered asked⟩
    | true =>
      refine ⟨[], .inl rfl, rfl, rfl, ?_⟩
      intro asked
      simp only [Bool.not_true, Bool.and_false, Bool.false_eq_true, if_false, Bool.false_and,
        List.nil_append]
      split <;> rfl
  | false =>
    cases seen : s.reportsCooking with
    | false =>
      exact ⟨[], .inl rfl, reconcileIdle_controls s, rfl, fun asked => by simp [controlOrders]⟩
    | true =>
      exact ⟨[], .inl rfl, reconcileIdle_controls (stoppedCooking s).1, rfl,
        fun asked => by simp [controlOrders, stoppedCooking, SmEffect.order]⟩

/-- What a report leaves of the slots. -/
theorem observe_slots (p : Phase) (cooking : Bool) :
    ((p.observe cooking).start = p.start ∨ (p.observe cooking).start = none) ∧
      ((p.observe cooking).stop = p.stop ∨ cooking = false ∧ (p.observe cooking).stop = none) := by
  obtain ⟨lifecycle, start, stop, seen, hasCook⟩ := p
  cases cooking <;> cases lifecycle <;> rcases seen with _ | _ | _ <;>
    simp [Phase.observe, Phase.rollBack]

/-- **A report's commands**: a settled preheat's next stage, the lamp's control, and a turn-off. -/
theorem apoState_issues (env : Env) (s : SmState) (status : OvenStatus) (cook : Option OvenCook) :
    ∃ issue, Issues s (env, .event (.ws (.apoState status cook))) issue := by
  obtain ⟨settleC, hsettle, settled⟩ := settlePreheat_sends env { s with ovenCook := cook } status
  have frame := settlePreheat_frame env { s with ovenCook := cook } status
  obtain ⟨onC, hon, recControls, recStatus, recOrdered⟩ := recordStatus_sends env.fresh
    (settlePreheat env { s with ovenCook := cook } status).1
    (settlePreheat env { s with ovenCook := cook } status).2.1
  obtain ⟨offC, stop, hoff, hstop, offStart, offStop, offControls, offOrdered⟩ :=
    turnOffWhenDone_moves env.fresh (reported env s status cook)
  have slots := observe_slots (phase s) status.isCooking
  rw [← reported_phase env s status cook] at slots
  -- the lamp is switched one way at most: on where the report has it off, off where it has it on
  have once : onC = [] ∨ offC = [] := by
    rcases hon with none | ⟨_, dark⟩
    · exact .inl none
    · rcases hoff with none | ⟨_, lit⟩
      · exact .inr none
      · have reports : (reported env s status cook).status =
            some (settlePreheat env { s with ovenCook := cook } status).2.1 := recStatus
        rw [reports] at lit
        exact absurd (dark.symm.trans lit) Bool.false_ne_true
  refine ⟨⟨settleC ++ onC ++ offC, stop, none⟩, ?_, ?_, ?_⟩
  · show Moved s.pending (turnOffWhenDone env.fresh (reported env s status cook)).1.pending _ _
    constructor
    · rw [offStart]
      rcases slots.1 with kept | gone
      · exact .inl (kept.trans (Option.none_or).symm)
      · exact .inr ⟨rfl, gone⟩
    · rw [offStop]
      rcases slots.2 with kept | ⟨idle, gone⟩
      · exact .inl (congrArg stop.or kept)
      · refine .inr ⟨by show (!status.isCooking) = true; rw [idle]; rfl, ?_⟩
        exact (congrArg stop.or gone).trans Option.or_none
    · rw [offControls, List.foldl_append, List.foldl_append]
      show offC.foldl pushControl (recordStatus _ _ _).1.pending.controls = _
      rw [recControls, settled.pending]
  · unfold orders
    rw [apoState_effects]
    have told (c : Prop) [Decidable c] (asked : Option ControlRequest) :
        (if c then [SmEffect.store (.ovenReported cook)] else []).filterMap
          (SmEffect.order asked) = [] := by
      split <;> rfl
    rw [List.filterMap_append, List.filterMap_append, List.filterMap_append, List.filterMap_append,
      told, recOrdered, offOrdered, settled.ordered, List.nil_append]
    refine List.perm_append_comm.trans (List.Perm.of_eq ?_)
    simp [Issue.all, controlOrders, SmEffect.order]
  · have settleIds : List.Sublist (settleC.map Prod.fst) [env.fresh.settleId] := by
      rcases hsettle with rfl | rfl <;> simp
    have lampIds : List.Sublist ((onC ++ offC).map Prod.fst) [env.fresh.lampId] := by
      rcases once with rfl | rfl
      · rcases hoff with rfl | ⟨rfl, _⟩ <;> simp
      · rcases hon with rfl | ⟨rfl, _⟩ <;> simp
    have stopIds : List.Sublist stop.toList [env.fresh.requestId] := by
      rcases hstop with rfl | rfl <;> simp
    have all := (settleIds.append lampIds).append stopIds
    show List.Sublist (List.map Prod.fst (Issue.all _))
      ([env.fresh.settleId] ++ [env.fresh.lampId] ++ [env.fresh.requestId])
    have ids : List.map Prod.fst (Issue.all ⟨settleC ++ onC ++ offC, stop, none⟩) =
        settleC.map Prod.fst ++ (onC ++ offC).map Prod.fst ++ stop.toList := by
      simp [Issue.all, Function.comp_def]
    rw [ids]
    exact all

/-- **A stop's commands**: the lamp's control, and the stop. -/
theorem stopCook_issues (env : Env) (s : SmState) :
    ∃ issue, Issues s (env, .command .stopCook) issue := by
  rcases stopCook_moves env.fresh s with ⟨e, refused⟩ | ⟨lamp, hlamp, _, pending, ordered⟩
  · refine ⟨.none, .quiet ?_ ?_⟩
    · show (stopCook env.fresh s).state.pending = _
      rw [refused]
      rfl
    · show (stopCook env.fresh s).effects.filterMap _ = []
      rw [refused]
      rfl
  · refine ⟨⟨lamp, some env.fresh.requestId, none⟩, ?_, ?_, ?_⟩
    · show Moved _ (stopCook env.fresh s).state.pending _ _
      rw [pending]
      exact ⟨.inl (Option.none_or).symm, .inl rfl, rfl⟩
    · show List.Perm ((stopCook env.fresh s).effects.filterMap _) _
      rw [ordered]
      exact List.Perm.of_eq (by simp [Issue.all, controlOrders])
    · show List.Sublist _ [env.fresh.settleId, env.fresh.lampId, env.fresh.requestId]
      rcases hlamp with rfl | ⟨rfl, _⟩ <;> simp [Issue.all]

/-- **Every step but an ack** issues what it issues under ids it drew. -/
theorem step_issues (s : SmState) (i : Env × Input) (quiet : i.2.answers = none) :
    ∃ issue, Issues s i issue := by
  obtain ⟨env, input⟩ := i
  cases input with
  | command cmd =>
    by_cases starting : cmd.startsCook
    · rcases start_cases env s starting with ⟨e, refused⟩ | ⟨recipe, started, starts⟩
      · refine ⟨.none, .quiet ?_ ?_⟩
        · show (reduceCommand env s cmd).state.pending = _
          rw [refused]
          rfl
        · show (reduceCommand env s cmd).effects.filterMap _ = []
          rw [refused]
          rfl
      · exact ⟨_, starts.issues⟩
    · cases cmd with
      | startCook recipeId => exact absurd rfl starting
      | startManualCook title stages => exact absurd rfl starting
      | stopCook => exact stopCook_issues env s
      | control request => exact control_issues env s request
      | linkCurrentCook recipeId title =>
        have reduced : (linkCurrentCook s recipeId title).state.pending = s.pending ∧
            (linkCurrentCook s recipeId title).effects.filterMap (SmEffect.order none) = [] := by
          unfold linkCurrentCook
          split <;> exact ⟨rfl, rfl⟩
        exact ⟨.none, .quiet reduced.1 reduced.2⟩
      | _ => exact ⟨.none, .quiet rfl rfl⟩
  | event evt =>
    cases evt with
    | ws event =>
      cases event with
      | apoState status cook => exact apoState_issues env s status cook
      | commandAck requestId status => cases quiet
      | _ => exact ⟨.none, .quiet rfl rfl⟩
    | store event =>
      have reduced : (reduceStoreEvent s event).1.pending = s.pending ∧
          (reduceStoreEvent s event).2.filterMap (SmEffect.order none) = [] := by
        cases event with
        | recipesRefreshed result => cases result <;> exact ⟨rfl, rfl⟩
        | historyRefreshed result => cases result <;> exact ⟨rfl, rfl⟩
        | currentCookFetched reason result => cases result <;> exact ⟨rfl, rfl⟩
        | recipeRefPatched cookId recipeId result => cases result <;> exact ⟨rfl, rfl⟩
        | manualCookTitleResolved cookKey result =>
          rcases result with e | (_ | ⟨title, recipeId⟩) <;> exact ⟨rfl, rfl⟩
      exact ⟨.none, .quiet reduced.1 reduced.2⟩
    | tick kind =>
      refine ⟨.none, .quiet rfl ?_⟩
      show (reduceTick s kind).filterMap _ = []
      unfold reduceTick
      split
      · split <;> rfl
      all_goals rfl

/-! ## Holding what was issued -/

theorem pushControl_suffix (controls : List (String × String)) (entry : String × String) :
    pushControl controls entry <:+ controls ++ [entry] := by
  unfold pushControl
  dsimp only
  split
  · exact List.drop_suffix 1 _
  · exact List.suffix_refl _

/-- A control just sent is the last one pending. -/
theorem pushControl_concat (controls : List (String × String)) (entry : String × String) :
    ∃ before, pushControl controls entry = before ++ [entry] := by
  unfold pushControl
  dsimp only
  split
  · rename_i full
    cases controls with
    | nil => exact absurd full (Nat.not_lt.mpr (Nat.succ_le_succ (Nat.zero_le 15)))
    | cons oldest controls => exact ⟨controls, rfl⟩
  · exact ⟨controls, rfl⟩

/-- What is pending is the end of what was sent. -/
theorem foldl_pushControl_suffix (controls sent : List (String × String)) :
    sent.foldl pushControl controls <:+ controls ++ sent := by
  induction sent generalizing controls with
  | nil => simp
  | cons entry sent ih =>
    have pushed : pushControl controls entry ++ sent <:+ controls ++ entry :: sent := by
      rw [List.append_cons]
      obtain ⟨dropped, eq⟩ := pushControl_suffix controls entry
      exact ⟨dropped, by rw [← List.append_assoc, eq]⟩
    exact (ih (pushControl controls entry)).trans pushed

/-- An entry stays pending while the newer ones and it fit. -/
theorem foldl_pushControl_keeps {controls before newer sent : List (String × String)}
    {entry : String × String} (at' : controls = before ++ entry :: newer)
    (room : newer.length + sent.length < maxPendingControls) :
    ∃ before', sent.foldl pushControl controls = before' ++ entry :: (newer ++ sent) := by
  induction sent generalizing controls before newer with
  | nil => exact ⟨before, by rw [List.append_nil]; exact at'⟩
  | cons next sent ih =>
    rw [List.length_cons] at room
    have pushed : ∃ before', pushControl controls next = before' ++ entry :: (newer ++ [next]) := by
      have whole : controls ++ [next] = before ++ entry :: (newer ++ [next]) := by
        rw [at', List.append_assoc]
        rfl
      unfold pushControl
      rw [whole]
      dsimp only
      split
      · rename_i full
        cases before with
        | nil => simp at full; omega
        | cons oldest before => exact ⟨before, rfl⟩
      · exact ⟨before, rfl⟩
    obtain ⟨before', eq⟩ := pushed
    obtain ⟨before'', eq'⟩ := ih eq (by rw [List.length_append, List.length_singleton]; omega)
    exact ⟨before'', by rw [List.foldl_cons, eq', List.append_assoc]; rfl⟩

theorem mem_heldBy {start stop : Option String} {controls : List (String × String)} {id : String}
    {kind : Kind} : kind ∈ PendingTracker.heldBy start stop controls id ↔
      kind = .start ∧ start = some id ∨ kind = .stop ∧ stop = some id ∨
        ∃ name, kind = .control name ∧ (id, name) ∈ controls := by
  unfold PendingTracker.heldBy
  constructor
  · intro held
    rcases List.mem_append.mp held with slot | control
    · rcases List.mem_append.mp slot with slot | slot
      · split at slot
        · exact .inl ⟨by simpa using slot, ‹_›⟩
        · cases slot
      · split at slot
        · exact .inr (.inl ⟨by simpa using slot, ‹_›⟩)
        · cases slot
    · obtain ⟨⟨entryId, name⟩, entry, rfl⟩ := List.mem_map.mp control
      obtain ⟨item, own⟩ := List.mem_filter.mp entry
      have own : entryId = id := by simpa using own
      exact .inr (.inr ⟨name, rfl, own ▸ item⟩)
  · rintro (⟨rfl, slot⟩ | ⟨rfl, slot⟩ | ⟨name, rfl, item⟩)
    · simp [slot]
    · simp [slot]
    · exact List.mem_append_right _
        (List.mem_map.mpr ⟨(id, name), List.mem_filter.mpr ⟨item, by simp⟩, rfl⟩)

theorem length_heldBy (start stop : Option String) (controls : List (String × String))
    (id : String) : (PendingTracker.heldBy start stop controls id).length =
      (if start = some id then 1 else 0) + (if stop = some id then 1 else 0) +
        controls.countP fun entry => entry.1 = id := by
  unfold PendingTracker.heldBy
  rw [List.length_append, List.length_append, List.length_map, ← List.countP_eq_length_filter]
  congr 1
  congr 1 <;> split <;> rfl

/-- How often an issue uses an id. -/
theorem Issue.count_all (issue : Issue) (id : String) :
    (issue.all.map Prod.fst).count id =
      (issue.controls.countP fun entry => entry.1 = id) +
        (if issue.stop = some id then 1 else 0) + (if issue.start = some id then 1 else 0) := by
  have slot (held : Option String) : held.toList.count id = if held = some id then 1 else 0 := by
    cases held with
    | none => rfl
    | some held => by_cases same : held = id <;> simp [same]
  have ids : issue.all.map Prod.fst =
      issue.controls.map Prod.fst ++ issue.stop.toList ++ issue.start.toList := by
    simp [Issue.all, Function.comp_def]
  have counted : (issue.controls.map Prod.fst).count id =
      issue.controls.countP fun entry => entry.1 = id := by
    rw [List.count, List.countP_map]
    rfl
  rw [ids, List.count_append, List.count_append, slot, slot, counted]

section Moved

variable {before after : PendingTracker} {settles : Kind → Bool} {issue : Issue} {id : String}

/-- A step that answers nothing holds an id no more than before and than it issues it. -/
theorem Moved.length_holders (h : Moved before after settles issue) (id : String) :
    (after.holders id).length ≤
      (before.holders id).length + (issue.all.map Prod.fst).count id := by
  have controls : (after.controls.countP fun entry => entry.1 = id) ≤
      (before.controls.countP fun entry => entry.1 = id) +
        issue.controls.countP fun entry => entry.1 = id := by
    rw [h.controls, ← List.countP_append]
    exact (foldl_pushControl_suffix before.controls issue.controls).sublist.countP_le
  have start : (if after.startId = some id then 1 else 0) ≤
      (if before.startId = some id then 1 else 0) + (if issue.start = some id then 1 else 0) := by
    rcases h.start with kept | ⟨_, gone⟩
    · rw [kept]
      cases issue.start with
      | none =>
        rw [Option.none_or]
        exact Nat.le_add_right _ _
      | some sent =>
        rw [Option.some_or]
        exact Nat.le_add_left _ _
    · rw [gone]
      omega
  have stop : (if after.stopId = some id then 1 else 0) ≤
      (if before.stopId = some id then 1 else 0) + (if issue.stop = some id then 1 else 0) := by
    rcases h.stop with kept | ⟨_, gone⟩
    · rw [kept]
      cases issue.stop with
      | none =>
        rw [Option.none_or]
        exact Nat.le_add_right _ _
      | some sent =>
        rw [Option.some_or]
        exact Nat.le_add_left _ _
    · rw [gone]
      omega
  unfold PendingTracker.holders
  rw [length_heldBy, length_heldBy, Issue.count_all]
  omega

/-- A pending start that is neither settled nor displaced stays pending. -/
theorem Moved.keeps_start (h : Moved before after settles issue) (held : before.startId = some id)
    (unsettled : settles .start = false) (undisplaced : issue.start = none) :
    after.startId = some id := by
  rcases h.start with kept | ⟨settled, _⟩
  · rw [kept, undisplaced, Option.none_or, held]
  · rw [unsettled] at settled
    cases settled

/-- A pending stop that is neither settled nor displaced stays pending. -/
theorem Moved.keeps_stop (h : Moved before after settles issue) (held : before.stopId = some id)
    (unsettled : settles .stop = false) (undisplaced : issue.stop = none) :
    after.stopId = some id := by
  rcases h.stop with kept | ⟨settled, _⟩
  · rw [kept, undisplaced, Option.none_or, held]
  · rw [unsettled] at settled
    cases settled

/-- An issued start is pending. -/
theorem Moved.issued_start (h : Moved before after settles issue) (sent : issue.start = some id) :
    after.startId = some id := by
  rcases h.start with kept | ⟨_, kept⟩
  · rw [kept, sent]
    rfl
  · rw [kept, sent]

/-- An issued stop is pending. -/
theorem Moved.issued_stop (h : Moved before after settles issue) (sent : issue.stop = some id) :
    after.stopId = some id := by
  rcases h.stop with kept | ⟨_, kept⟩
  · rw [kept, sent]
    rfl
  · rw [kept, sent]

end Moved

end AnovaOven
