import AnovaOven.Lib.Machine
import AnovaOven.Protocol.State

/-!
# The WebSocket processor (`processors/ws.rs`)

The oven's side in cloud mode: a client of Anova's cloud that connects again whenever its connection
ends. A turn is a connection that is made or fails, or one pass of the loop of `connect_and_run`.
Commands are only taken while a connection is open; before one, they wait in the channel.

A frame is given by what `parse_message` makes of it. The event channel is open, as long as the state
machine runs. A connection may fail, and may end, at any turn. How fresh a state is, the watchdog that measures it and
what liveness is told are in `Processors.Ws.Freshness`; the token, log lines and metrics are left out.
-/

namespace AnovaOven

/-- `app::Event`. -/
inductive AppEvent where
  | apoState (oven : OvenState)
  | apoWifiList (cookerId : Option String)
  | userState
  | response (requestId status : String)
  | unknown
  deriving Repr

/-- A frame of the connection. A payload is what `parse_message` makes of it, or its error. -/
inductive WsFrame where
  | ping
  | pong
  | close
  | payload (message : Except String AppEvent)

/-- An open connection. Its cooker is the one it has been told of. -/
structure WsConnection where
  cookerId : Option String
  deriving Repr, DecidableEq

/-- What `run` keeps: the open connection. -/
structure WsState where
  connection : Option WsConnection
  deriving Repr, DecidableEq

/-- What the command arm reads from outside: whether the socket takes the text, and the random stage
ids. -/
structure WsTurn where
  sent : Bool
  stageId : Nat → String

/-- The turns. `ended` is a socket that fails or is closed, and the watchdog. -/
inductive WsInput where
  | connect
  | connectFailed
  | frame (frame : WsFrame)
  | ended
  | command (turn : WsTurn) (cmd : WsCommand)

/-- What a turn does: it writes a text to the socket, or sends an event. -/
inductive WsEffect where
  | written (json : Json)
  | event (event : WsEvent)
  deriving Repr

/-- `stop_command_json`, before it is written out. -/
def stopCommandJson (cookerId requestId : String) : Json :=
  .obj [("command", .str "CMD_APO_STOP"),
    ("payload", .obj [("type", .str "CMD_APO_STOP"), ("id", .str cookerId)]),
    ("requestId", .str requestId)]

/-- The cloud's `start_command_json`. -/
def cloudStartCommandJson (stageId : Nat → String) (cookerId cookId : String) (stages : List Stage)
    (requestId : String) : Json :=
  .obj [("command", .str "CMD_APO_START"),
    ("payload", .obj [("type", .str "CMD_APO_START"), ("id", .str cookerId),
      ("payload", .obj [("cookId", .str cookId),
        ("stages", .arr (startStagesJson stageId stages))])]),
    ("requestId", .str requestId)]

/-- A command's text for a cooker. A control has none. -/
def WsCommand.cloudJson (stageId : Nat → String) (cookerId : String) : WsCommand → Option Json
  | sendStop requestId => some (stopCommandJson cookerId requestId)
  | sendStart requestId cookId _ stages =>
    some (cloudStartCommandJson stageId cookerId cookId stages requestId)
  | control _ _ => none

namespace WsState

/-- A connection that ended: `run` reports it, and connects again. -/
def disconnect : WsState × List WsEffect := (⟨none⟩, [.event .disconnected])

/-- A payload, on a connection. -/
def handleEvent (connection : WsConnection) : AppEvent → WsConnection × List WsEffect
  | .apoState oven => (connection, [.event (.apoState (toOvenStatus oven) (toOvenCook oven))])
  | .apoWifiList (some id) => ({ connection with cookerId := some id },
      [.event (.cookerDiscovered id)])
  | .apoWifiList none => (connection, [])
  | .response requestId status => (connection, [.event (.commandAck requestId status)])
  | .userState | .unknown => (connection, [])

/-- The message arm. -/
def receive (connection : WsConnection) : WsFrame → WsConnection × List WsEffect
  | .ping | .pong | .close => (connection, [])
  | .payload (.ok event) => handleEvent connection event
  | .payload (.error detail) => (connection, [.event (.parseError detail)])

/-- The command arm. A start or a stop with no cooker known is only logged, as a control is; a send
that fails ends the connection. -/
def command (turn : WsTurn) (connection : WsConnection) (cmd : WsCommand) :
    WsState × List WsEffect :=
  match connection.cookerId.bind fun id => cmd.cloudJson turn.stageId id with
  | none => (⟨some connection⟩, [])
  | some json => if turn.sent then (⟨some connection⟩, [.written json]) else disconnect

/-- One turn. With no connection there is only one to make. -/
def step (s : WsState) (i : WsInput) : WsState × List WsEffect :=
  match s.connection, i with
  | none, .connect => (⟨some ⟨none⟩⟩, [.event .connected])
  | none, .connectFailed => disconnect
  | some connection, .frame frame =>
    let (connection, effects) := receive connection frame
    (⟨some connection⟩, effects)
  | some _, .ended => disconnect
  | some connection, .command turn cmd => command turn connection cmd
  | _, _ => (s, [])

end WsState

/-- The WebSocket processor as a machine. -/
def ws : Machine WsState WsInput WsEffect := ⟨WsState.step⟩

end AnovaOven
