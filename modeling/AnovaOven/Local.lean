import AnovaOven.Lib.Duplex
import AnovaOven.Processors.LocalStore
import AnovaOven.Processors.StateMachine
import AnovaOven.Server

/-!
# The server in local mode, with its channels

The state machine and the local store, joined by the channel of store commands and the channel of
store events. Each side takes its messages when it comes to them, so a command or an event may wait for
any time, but neither overtakes another. The clients' commands, the oven's events and the ticks are the
state machine's own messages. The store has none, but the recipes it reads from its files change under
it.
-/

namespace AnovaOven

/-- Whether a message is an event of the store. -/
def Input.fromStore : Input → Bool
  | .event (.store _) => true
  | _ => false

/-- What happens to the store: a command, or a change of the recipes in its files. -/
inductive StoreInput where
  | command (now : Moment) (cmd : StoreCommand)
  | recipes (recipes : List Recipe)

/-- Whether a message is a command off the channel. -/
def StoreInput.isCommand : StoreInput → Bool
  | command _ _ => true
  | recipes _ => false

/-- The store over its files. -/
def storeFiles (read : Bytes → Option HistoryEntry) : Machine LocalStore StoreInput StoreEvent where
  step store
    | .command now cmd => store.handle read now cmd
    | .recipes recipes => ({ store with disk := { store.disk with recipes := recipes } }, [])

/-- The channels between the two, as `main` wires them. -/
def localWiring : Wiring (Env × Input) SmEffect LocalStore StoreInput StoreEvent StoreCommand
    StoreEvent Moment Env where
  ownNear i := !i.2.fromStore
  ownFar i := !i.isCommand
  sends := SmEffect.storeCommand
  ready _ := true
  take := StoreInput.command
  tells := some
  hear env event := (env, .event (.store event))

abbrev LocalServer : Type := Duplex SmState LocalStore StoreCommand StoreEvent
abbrev LocalTurn : Type := DuplexTurn (Env × Input) StoreInput Moment Env
abbrev LocalEffect : Type := DuplexEffect SmEffect StoreEvent StoreCommand StoreEvent

/-- The server as a machine. -/
def localMachine (read : Bytes → Option HistoryEntry) : Machine LocalServer LocalTurn LocalEffect :=
  Duplex.machine localWiring stateMachine (storeFiles read)

/-- What the server starts with, over a store's files. -/
def localInit (preheatToleranceC : ℚ) (store : LocalStore) : LocalServer :=
  ⟨.init true preheatToleranceC, [], store, []⟩

end AnovaOven
