import AnovaOven.Lib.Machine
import AnovaOven.Protocol.State

/-!
# The device processor (`processors/device.rs`)

The oven's side in local mode: the server stands in for the endpoint the oven connects to. A turn is
one pass of the loop in `run`, by the arm that fires. Its effects are the texts given to the
connection and the events sent to the state machine, in order.

What a turn reads from outside is an argument (`DeviceTurn`): the clock, whether the connection takes
the text it is given (no arm gives it two), and the random ids. The event channel is open, as long as
the state machine runs. A frame is given by what `parse_message` makes of it. Handshakes, log lines,
liveness and metrics are left out.
-/

namespace AnovaOven

/-- A zone, as `time_zone_payload` reads it. -/
structure TimeZone where
  ianaName : Option String
  abbreviation : Nat → String
  offsetSeconds : Nat → Int

/-- `DeviceConfig`, in milliseconds. The healthcheck's interval is left out: its tick may come at any
turn. -/
structure DeviceConfig where
  stateTimeout : Nat
  timeZone : Option TimeZone
  ackTimeout : Nat

/-- `PendingAck`: a command sent to the oven and not yet seen in its `processedCommandIds`. -/
structure PendingAck where
  id : String
  kind : String
  deadline : Nat
  deriving Repr, DecidableEq

/-- `take_acked`: the pending commands the oven has handled, and those left. -/
def takeAcked (pending : List PendingAck) (processed : List String) :
    List PendingAck × List PendingAck :=
  pending.partition fun p => processed.contains p.id

/-- `take_expired`: the pending commands past their deadline, and those left. -/
def takeExpired (pending : List PendingAck) (now : Nat) : List PendingAck × List PendingAck :=
  pending.partition fun p => p.deadline ≤ now

/-- What `run` keeps between the turns of its loop. A session is its device id. -/
structure DeviceState where
  current : Option String
  pending : List PendingAck
  lastStateFrame : Nat
  deriving Repr, DecidableEq

/-- What `run` starts with. -/
def DeviceState.new (now : Nat) : DeviceState := ⟨none, [], now⟩

/-- `device::Event`. -/
inductive DeviceEvent where
  | state (oven : OvenState)
  | other (action : String)
  deriving Repr

/-- A frame of the connection. A text is what `parse_message` makes of it, or its error. -/
inductive DeviceFrame where
  | ping
  | pong
  | close
  | binary
  | text (message : Except String DeviceEvent)

/-- What a turn reads from outside. `sent` says whether the connection takes a text in time. -/
structure DeviceTurn where
  now : Nat
  sent : Bool
  commandId : String
  stageId : Nat → String

/-- The arms of the loop. `lost` is a connection that failed or was closed. -/
inductive DeviceInput where
  | session (deviceId : String)
  | message (frame : DeviceFrame)
  | lost
  | healthcheck
  | stateTimeout
  | deadline
  | command (cmd : WsCommand)

/-- What a turn does: it gives a text to the connection, or sends an event. -/
inductive DeviceEffect where
  | text (json : Json)
  | event (event : WsEvent)
  deriving Repr

/-! ## Commands -/

/-- `command_json`, before it is written out. -/
def commandJson (id kind : String) (payload : Option Json) : Json :=
  .obj ([("id", .str id), ("type", .str kind)] ++ payload.toList.map fun json => ("payload", json))

/-- `start_command_json`. -/
def startCommandJson (stageId : Nat → String) (id cookId : String) (stages : List Stage) : Json :=
  commandJson id "CMD_APO_START"
    (some (.obj [("cookId", .str cookId), ("stages", .arr (startStagesJson stageId stages))]))

/-- `control_command`: the device-side type and payload of a control. -/
def controlCommand : OvenControl → String × Option Json
  | .startStage stageId => ("CMD_APO_START_STAGE", some (.obj [("stageId", .str stageId)]))
  | .setTimer secs => ("CMD_APO_SET_TIMER", some (.obj [("initial", .int secs.toNat)]))
  | .setTemperatureBulbs mode celsius =>
    ("CMD_APO_SET_TEMPERATURE_BULBS", some (temperatureBulbsPayload mode celsius))
  | .setLamp on => ("CMD_APO_SET_LAMP", some (.obj [("on", .bool on)]))
  | .setTemperatureUnit unit =>
    ("CMD_APO_SET_TEMPERATURE_UNIT", some (.obj [("temperatureUnit", .str unit)]))
  | .updateCookStages stages =>
    ("CMD_APO_UPDATE_COOK_STAGES", some (.obj [("stages", .arr stages)]))

/-- A command's type and its text, as the command arm makes them. -/
def WsCommand.encode (stageId : Nat → String) : WsCommand → String × Json
  | sendStart requestId cookId _ stages =>
    ("CMD_APO_START", startCommandJson stageId requestId cookId stages)
  | sendStop requestId => ("CMD_APO_STOP", commandJson requestId "CMD_APO_STOP" none)
  | control requestId ctl =>
    let (kind, payload) := controlCommand ctl
    (kind, commandJson requestId kind payload)

/-- `REPORT_RATE_IDLE_SECS` and `REPORT_RATE_COOKING_SECS`. -/
def reportRateIdleSecs : Nat := 5
def reportRateCookingSecs : Nat := 5

/-- The report rates, as they are sent on every connect. -/
def reportRate : Json :=
  .obj [("idle", .int reportRateIdleSecs), ("cooking", .int reportRateCookingSecs)]

/-- `time_zone_payload`. -/
def timeZonePayload (tz : TimeZone) (now : Nat) : Json :=
  .obj [("time_zone", .obj [("code", .str (tz.abbreviation now)),
    ("gmt_offset", .int (tz.offsetSeconds now)), ("id", .str (tz.ianaName.getD "UTC"))])]

/-! ## The loop -/

namespace DeviceState

variable (config : DeviceConfig) (turn : DeviceTurn)

/-- `end_session`. -/
def endSession (d : DeviceState) : DeviceState × List DeviceEffect :=
  ({ d with current := none }, [.event .disconnected])

/-- `send_ack`. -/
def sendAck (requestId status : String) : DeviceEffect := .event (.commandAck requestId status)

/-- `send_command`, with a fresh id. -/
def sendCommand (kind : String) (payload : Option Json) : DeviceEffect :=
  .text (commandJson turn.commandId kind payload)

/-- The session arm: a new connection replaces the current one. -/
def openSession (d : DeviceState) (deviceId : String) : DeviceState × List DeviceEffect :=
  let (d, replaced) := if d.current.isSome then d.endSession else (d, [])
  let connected := [.event .connected, .event (.cookerDiscovered deviceId),
    sendCommand turn "CMD_APO_SET_REPORT_STATE_RATE" (some reportRate)]
  if turn.sent then
    ({ d with current := some deviceId, lastStateFrame := turn.now }, replaced ++ connected)
  else
    let (d, ended) := d.endSession
    (d, replaced ++ connected ++ ended)

/-- A state of the oven: its event, then the acks of the commands it lists. -/
def observe (d : DeviceState) (oven : OvenState) : DeviceState × List DeviceEffect :=
  let (acked, rest) := takeAcked d.pending oven.state.processedCommandIds
  ({ d with pending := rest, lastStateFrame := turn.now },
    .event (.apoState (toOvenStatus oven) (toOvenCook oven)) ::
      acked.map fun acked => sendAck acked.id "ok")

/-- `handle_message`, and whether the session is kept. -/
def handleMessage (d : DeviceState) : DeviceFrame → (DeviceState × List DeviceEffect) × Bool
  | .ping | .pong | .close | .binary => ((d, []), true)
  | .text (.ok (.state oven)) => (d.observe turn oven, true)
  | .text (.ok (.other action)) =>
    if action = "timezone" then
      match config.timeZone with
      | none => ((d, []), true)
      | some tz =>
        ((d, [sendCommand turn "CMD_APO_SET_TIME_ZONE" (some (timeZonePayload tz turn.now))]),
          turn.sent)
    else ((d, []), true)
  | .text (.error detail) => ((d, [.event (.parseError detail)]), true)

/-- The message arm. -/
def receive (d : DeviceState) (frame : DeviceFrame) : DeviceState × List DeviceEffect :=
  let ((d, effects), keep) := d.handleMessage config turn frame
  if keep then (d, effects)
  else
    let (d, ended) := d.endSession
    (d, effects ++ ended)

/-- The deadline arm. -/
def expire (d : DeviceState) : DeviceState × List DeviceEffect :=
  let (expired, rest) := takeExpired d.pending turn.now
  ({ d with pending := rest }, expired.map fun expired => sendAck expired.id "timeout")

/-- The command arm: a command is refused with no oven connected, fails with its send, or is pending
from then on. -/
def command (d : DeviceState) (cmd : WsCommand) : DeviceState × List DeviceEffect :=
  let (kind, json) := cmd.encode turn.stageId
  if d.current.isNone then (d, [sendAck cmd.requestId "disconnected"])
  else if turn.sent then
    let sent : PendingAck := ⟨cmd.requestId, kind, turn.now + config.ackTimeout⟩
    ({ d with pending := d.pending ++ [sent] }, [.text json])
  else
    let (d, ended) := d.endSession
    (d, [.text json, sendAck cmd.requestId "send failed"] ++ ended)

/-- One turn of `run`. An arm that isn't ready does nothing: with no session there is no message, no
lost connection, no healthcheck and no state timeout, which fires no sooner than its deadline. -/
def step (d : DeviceState) : DeviceInput → DeviceState × List DeviceEffect
  | .session deviceId => d.openSession turn deviceId
  | .message frame => if d.current.isSome then d.receive config turn frame else (d, [])
  | .lost => if d.current.isSome then d.endSession else (d, [])
  | .healthcheck =>
    if d.current.isNone then (d, [])
    else if turn.sent then (d, [sendCommand turn "CMD_APO_HEALTHCHECK" none])
    else
      let (d, ended) := d.endSession
      (d, sendCommand turn "CMD_APO_HEALTHCHECK" none :: ended)
  | .stateTimeout =>
    if d.current.isSome ∧ d.lastStateFrame + config.stateTimeout ≤ turn.now then d.endSession
    else (d, [])
  | .deadline => d.expire turn
  | .command cmd => d.command config turn cmd

end DeviceState

/-- The device processor as a machine. -/
def device (config : DeviceConfig) : Machine DeviceState (DeviceTurn × DeviceInput) DeviceEffect :=
  ⟨fun d i => d.step config i.1 i.2⟩

end AnovaOven
