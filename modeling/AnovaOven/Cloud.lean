import AnovaOven.Lib.Duplex
import AnovaOven.Processors.StateMachine
import AnovaOven.Processors.Ws

/-!
# The server in cloud mode

The state machine and the WebSocket processor, joined by the channel of commands and the channel of
events. Each side takes its messages when it comes to them, so both channels deliver in order and any
time later. The clients' commands, the store's events and the ticks are the state machine's own
messages, and what the cloud and the socket do are the processor's.
-/

namespace AnovaOven

/-- Whether a message is an event of the oven's side. -/
def Input.fromWs : Input → Bool
  | .event (.ws _) => true
  | _ => false

/-- Whether a message is a command off the channel. -/
def WsInput.isCommand : WsInput → Bool
  | .command _ _ => true
  | _ => false

/-- The command an effect sends to the oven's side. -/
def SmEffect.wsCommand : SmEffect → Option WsCommand
  | .ws cmd => some cmd
  | _ => none

/-- The event an effect of the oven's side sends. -/
def WsEffect.wsEvent : WsEffect → Option WsEvent
  | .event told => some told
  | _ => none

/-- The channels between the two, as `main` wires them. -/
def cloudWiring : Wiring (Env × Input) SmEffect WsState WsInput WsEffect WsCommand WsEvent WsTurn Env
    where
  ownNear i := !i.2.fromWs
  ownFar i := !i.isCommand
  sends := SmEffect.wsCommand
  ready s := s.connection.isSome
  take := WsInput.command
  tells := WsEffect.wsEvent
  hear env event := (env, .event (.ws event))

abbrev CloudServer : Type := Duplex SmState WsState WsCommand WsEvent
abbrev CloudTurn : Type := DuplexTurn (Env × Input) WsInput WsTurn Env
abbrev CloudEffect : Type := DuplexEffect SmEffect WsEffect WsCommand WsEvent

/-- The server as a machine. -/
def cloudMachine : Machine CloudServer CloudTurn CloudEffect :=
  Duplex.machine cloudWiring stateMachine ws

/-- What the server starts with. -/
def cloudInit (preheatToleranceC : ℚ) : CloudServer :=
  ⟨.init false preheatToleranceC, [], ⟨none⟩, []⟩

end AnovaOven
