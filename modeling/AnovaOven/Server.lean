import AnovaOven.Processors.LocalStore
import AnovaOven.Processors.StateMachine

/-!
# The server in local mode

The state machine and the local store side by side, as `main` wires them: each message is reduced,
and the store commands among its effects are handled in the order they were asked for. The store's
events are what a turn answers; they come back to the state machine as messages of their own, at any
later turn and in any order, so a run's messages are arbitrary.
-/

namespace AnovaOven

structure Server where
  sm : SmState
  store : LocalStore

/-- A message to the server, with what its reduction draws from outside and the moments its store
commands are handled at, by their place among them. -/
structure ServerInput where
  env : Env
  input : Input
  clock : Nat → Moment

/-- The store command an effect asks for. -/
def SmEffect.storeCommand : SmEffect → Option StoreCommand
  | .store cmd => some cmd
  | _ => none

/-- A message's store commands, each at its moment. -/
def storeCommands (clock : Nat → Moment) (effects : List SmEffect) :
    List (Moment × StoreCommand) :=
  (effects.filterMap SmEffect.storeCommand).mapIdx fun k cmd => (clock k, cmd)

section

variable (read : Bytes → Option HistoryEntry)

/-- One turn of the server. -/
def turn (server : Server) (i : ServerInput) : Server × List StoreEvent :=
  let (sm, effects) := reduce server.sm (i.env, i.input)
  let commands := storeCommands i.clock effects
  (⟨sm, (localStore read).run server.store commands⟩,
    (localStore read).trace server.store commands)

/-- The server as a machine. -/
def serverMachine : Machine Server ServerInput StoreEvent := ⟨turn read⟩

end

end AnovaOven
