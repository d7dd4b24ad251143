import AnovaOven.Liveness
import AnovaOven.Processors.Ws

/-!
# The freshness of the cloud's frames (`processors/ws.rs`)

The WebSocket processor with what it keeps of its frames' timestamps, the deadline of its watchdog, and what
it tells the liveness tracker. The cloud sends its last snapshot again on every connection, also of an oven
that has gone: only a frame that is fresh puts the deadline off. The turns are those of `ws`, and the
watchdog's is told from a socket's end. A timestamp's text is parsed outside.
-/

namespace AnovaOven

/-- `SystemInfo`, of the oven's link to the cloud. Its disconnection is `last_disconnected_unix_ms`. -/
structure SystemInfo where
  online : Option Bool
  lastDisconnectedUnixMs : Option Nat
  deriving Repr, DecidableEq

/-- What a state frame says of itself, besides the oven's state. -/
structure FrameReport where
  updatedTimestamp : Option String
  systemInfo : Option SystemInfo
  deriving Repr, DecidableEq

/-- `Freshness`. -/
inductive Freshness where
  | fresh
  | replay
  | offline
  deriving Repr, DecidableEq

/-- The processor's settings: `state_timeout` in nanoseconds, and how a timestamp is parsed, to nanoseconds
since the epoch. -/
structure WsConfig where
  stateTimeout : Nat
  parseTimestamp : String → Option Int

/-- What a turn reads of the clocks: the instant and the timestamp in nanoseconds, and reading by reading
the milliseconds that the tracker takes. -/
structure WsClocks where
  instant : Nat
  timestamp : Int
  millis : Nat → Nat

/-- The age from which on a snapshot says that its oven is gone. -/
def WsConfig.tooOld (config : WsConfig) (updated : String) (now : Int) : Bool :=
  (config.parseTimestamp updated).any fun at' => config.stateTimeout < (now - at').natAbs && at' < now

/-- `classify_state`. -/
def WsConfig.classifyState (config : WsConfig) (report : FrameReport) (lastUpdated : Option String)
    (now : Int) : Freshness :=
  if report.systemInfo.bind SystemInfo.online = some false then .offline
  else match report.updatedTimestamp with
    | none => .fresh
    | some updated =>
      if lastUpdated = some updated then .replay
      else if config.tooOld updated now then .offline
      else .fresh

/-- The processor, the timestamp it saw last on any connection, the instant its deadline is measured from
while a connection is open, and the tracker. -/
structure Upstream where
  ws : WsState
  lastUpdated : Option String
  lastStateFrame : Nat
  liveness : Liveness
  deriving Repr

/-- The turns: one of `ws`, with what a state frame says of itself, or the watchdog's. -/
inductive UpstreamInput where
  | turn (clocks : WsClocks) (report : FrameReport) (input : WsInput)
  | watchdog (clocks : WsClocks)

/-- What a turn reads of the clocks. -/
def UpstreamInput.clocks : UpstreamInput → WsClocks
  | .turn clocks _ _ => clocks
  | .watchdog clocks => clocks

/-- The effect of a connection that ended. -/
def WsEffect.disconnects : WsEffect → Bool
  | .event .disconnected => true
  | _ => false

namespace Upstream

/-- A processor that has yet to connect. -/
def new (liveness : Liveness) : Upstream := ⟨⟨none⟩, none, 0, liveness⟩

/-- Calls made to the tracker. -/
def tell (u : Upstream) (calls : List LivenessCall) : Upstream :=
  { u with liveness := AnovaOven.liveness.run u.liveness calls }

/-- A connection that opens. -/
def opens (u : Upstream) (clocks : WsClocks) : Upstream :=
  { u.tell [.setConnected true (clocks.millis 0)] with lastStateFrame := clocks.instant }

/-- A state frame, up to the event it becomes. -/
def observe (config : WsConfig) (u : Upstream) (clocks : WsClocks) (report : FrameReport) : Upstream :=
  let u' := match config.classifyState report u.lastUpdated clocks.timestamp with
    | .fresh =>
      { u.tell [.recordState (clocks.millis 0), .setOvenOnline true none (clocks.millis 1) (clocks.millis 2)]
        with lastStateFrame := clocks.instant }
    | .replay => u
    | .offline =>
      let since := report.systemInfo.bind SystemInfo.lastDisconnectedUnixMs
      u.tell [.setOvenOnline false since (clocks.millis 0) (clocks.millis 1)]
  { u' with lastUpdated := report.updatedTimestamp.or u.lastUpdated }

/-- The deadline is over. -/
def due (config : WsConfig) (u : Upstream) (clocks : WsClocks) : Bool :=
  u.lastStateFrame + config.stateTimeout ≤ clocks.instant

/-- One turn. A watchdog ends the connection once its deadline is over. -/
def step (config : WsConfig) (u : Upstream) : UpstreamInput → Upstream × List WsEffect
  | .turn clocks report input =>
    let (ws, effects) := u.ws.step input
    let u := match u.ws.connection, input with
      | none, .connect => u.opens clocks
      | some _, .frame (.payload (.ok (.apoState _))) => u.observe config clocks report
      | _, _ =>
        if effects.any WsEffect.disconnects then u.tell [.setConnected false (clocks.millis 0)] else u
    ({ u with ws := ws }, effects)
  | .watchdog clocks =>
    match u.ws.connection with
    | none => (u, [])
    | some _ =>
      if u.due config clocks then
        let (ws, effects) := WsState.disconnect
        let u := u.tell [.setOvenOnline false none (clocks.millis 0) (clocks.millis 1),
          .setConnected false (clocks.millis 2)]
        ({ u with ws := ws }, effects)
      else (u, [])

end Upstream

/-- The processor with its watchdog, as a machine. -/
def upstream (config : WsConfig) : Machine Upstream UpstreamInput WsEffect := ⟨Upstream.step config⟩

end AnovaOven
