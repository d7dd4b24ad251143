import AnovaOven.Processors.StateMachine

/-!
# The lifecycle protocol

What the state machine is for, seen from the oven's side: a cook is started, confirmed, stopped and
confirmed idle. `Phase` keeps the five things that decide it (the lifecycle, the two pending slots,
the last report, whether there is a current cook), `Signal` what a message says about them, and
`Phase.step` the protocol. `Laws.Phase` proves that every reduction of the state machine is one step
of this protocol, on the signal the message gives at that state (`phase_next`).
-/

namespace AnovaOven

/-- The lifecycle protocol's state. `cooking` is the last report, none before the first. -/
structure Phase where
  lifecycle : Lifecycle
  start : Option String
  stop : Option String
  cooking : Option Bool
  hasCook : Bool
  deriving Repr, DecidableEq

/-- What a message says about the lifecycle. A start and a stop are accepted ones; a report carries
the request id of the stop the server makes of itself on it, where it makes one. -/
inductive Signal where
  | quiet
  | start (requestId : String)
  | stop (requestId : String)
  | report (cooking : Bool) (turnOff : Option String)
  | ack (requestId : String) (ok : Bool)
  | fetched (hasCook : Bool)
  deriving Repr, DecidableEq

namespace Phase

/-- An idle report of an oven that was not seen cooking: a start is rolled back, and a settled-idle
oven carries no cook. -/
def rollBack (p : Phase) : Phase :=
  match p.lifecycle with
  | .startPending => { p with start := none, lifecycle := .idle, hasCook := false }
  | .idle => { p with hasCook := false }
  | _ => p

/-- A report against the one before it: the two edges, and the roll-back. -/
def observe (p : Phase) (cooking : Bool) : Phase :=
  let wasCooking : Bool := p.cooking = some true
  let p :=
    if cooking && !wasCooking then { p with start := none, lifecycle := .cooking }
    else if !cooking && wasCooking then
      { p with stop := none, hasCook := false, lifecycle := .idle }
    else if !cooking then p.rollBack
    else p
  { p with cooking := some cooking }

/-- A stop on its way to the oven. -/
def stopping (p : Phase) (requestId : String) : Phase :=
  { p with lifecycle := .stopPending, stop := some requestId }

/-- An ack against the two slots. -/
def acked (localMode : Bool) (p : Phase) (requestId : String) (ok : Bool) : Phase :=
  if p.start = some requestId then
    if ok then
      if localMode && p.cooking = some true then { p with start := none, lifecycle := .cooking }
      else p
    else { p with start := none, lifecycle := .idle }
  else if p.stop = some requestId && !ok then { p with stop := none, lifecycle := .cooking }
  else p

/-- One step of the protocol. -/
def step (localMode : Bool) (p : Phase) : Signal → Phase
  | .quiet => p
  | .start requestId =>
    { p with lifecycle := .startPending, start := some requestId, hasCook := true }
  | .stop requestId => p.stopping requestId
  | .report cooking none => p.observe cooking
  | .report cooking (some requestId) => (p.observe cooking).stopping requestId
  | .ack requestId ok => p.acked localMode requestId ok
  | .fetched hasCook => { p with hasCook := hasCook }

end Phase

/-- The lifecycle protocol's view of the state machine's state. -/
def phase (s : SmState) : Phase where
  lifecycle := s.lifecycle
  start := s.pending.start.map (·.requestId)
  stop := s.pending.stop.map (·.requestId)
  cooking := s.status.map (·.isCooking)
  hasCook := s.currentCook.isSome

/-- The state a report leaves before `turn_off_when_done` reads it. -/
def reported (env : Env) (s : SmState) (status : OvenStatus) (cook : Option OvenCook) : SmState :=
  let settled := settlePreheat env { s with ovenCook := cook } status
  (recordStatus env.fresh settled.1 settled.2.1).1

/-- The request id of the stop the server makes of itself, where it makes one. -/
def turnOffId (fresh : Fresh) (s : SmState) : Option String :=
  (cookToTurnOff s).bind fun cookId =>
    match (stopCook fresh { s with turnedOff := some cookId }).result with
    | .ok () => some fresh.requestId
    | .error _ => none

/-- The signal of a command, where it is accepted. -/
def accepted (outcome : Outcome) (sig : Signal) : Signal :=
  match outcome.result with
  | .ok () => sig
  | .error _ => .quiet

/-- What a message says about the lifecycle at a state. -/
def signal (s : SmState) (i : Env × Input) : Signal :=
  match i.2 with
  | .command (.startCook recipeId) =>
    accepted (startCook i.1 s recipeId) (.start i.1.fresh.requestId)
  | .command (.startManualCook title stages) =>
    accepted (startManualCook i.1 s title stages) (.start i.1.fresh.requestId)
  | .command .stopCook => accepted (stopCook i.1.fresh s) (.stop i.1.fresh.requestId)
  | .event (.ws (.apoState status cook)) =>
    .report status.isCooking (turnOffId i.1.fresh (reported i.1 s status cook))
  | .event (.ws (.commandAck requestId status)) => .ack requestId (ackOk status)
  | .event (.store (.currentCookFetched _ (.ok cook))) => .fetched cook.isSome
  | _ => .quiet

end AnovaOven
