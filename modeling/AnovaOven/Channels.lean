import AnovaOven.Lib.Spoke
import AnovaOven.Processors.Device
import AnovaOven.Processors.LocalStore
import AnovaOven.Processors.StateMachine

/-!
# The server's tasks and their channels (`main.rs`)

The tasks `main` starts in local mode, with the bounded channels between them: the state machine in the
middle, the store and the device processor each behind its own channels, and the two forwarders. A task
that sends to a full channel waits, and does nothing else meanwhile. The state machine may take either a
client's command or an event when there are both, so a run is any order of the tasks' moves; a move of a
task that waits leaves everything as it is.

The clients' channel is left out: a client's command may come at any time. So are the read model's
channels, which keep only the latest value and never make their sender wait.
-/

namespace AnovaOven

/-! ## The tasks -/

/-- The capacities `main` gives the channels. -/
def smEvtCapacity : Nat := 256
def wsCmdCapacity : Nat := 32
def wsEvtCapacity : Nat := 128
def storeCmdCapacity : Nat := 128
def storeEvtCapacity : Nat := 128

/-- The tasks and what is on its way between them. `dispatching` are the effects the state machine has
yet to carry out, and `toStore` and `toDevice` the two processors with their channels and forwarders. -/
structure Tasks where
  sm : SmState
  dispatching : List SmEffect
  smEvt : Channel StateMachineEvent smEvtCapacity
  store : LocalStore
  toStore : Spoke StoreCommand StoreEvent storeCmdCapacity storeEvtCapacity
  device : DeviceState
  toDevice : Spoke WsCommand WsEvent wsCmdCapacity wsEvtCapacity

/-- What the tasks start with, over a store's files. -/
def Tasks.new (preheatToleranceC : ℚ) (store : LocalStore) (now : Nat) : Tasks :=
  ⟨.init true preheatToleranceC, [], .empty, store, .empty, .new now, .empty⟩

/-- The event an effect of the device sends. A text goes to the connection, which takes it or fails in
time. -/
def DeviceEffect.sent : DeviceEffect → Option WsEvent
  | event told => some told
  | text _ => none

/-- Whether an arm of the device's loop is that of a command off its channel. -/
def DeviceInput.isCommand : DeviceInput → Bool
  | command _ => true
  | _ => false

/-- A move of a task: of the state machine, a timer, the store, its forwarder, whoever edits the recipe
files, the device, or its forwarder. -/
inductive Move where
  | command (env : Env) (cmd : StateMachineCommand)
  | event (env : Env)
  | dispatch
  | tick (kind : TickKind)
  | store (now : Moment)
  | storeSend
  | storeForward
  | storeDeliver
  | recipes (recipes : List Recipe)
  | oven (turn : DeviceTurn) (input : DeviceInput)
  | device (turn : DeviceTurn)
  | deviceSend
  | deviceForward
  | deviceDeliver

namespace Tasks

/-! ## The state machine -/

/-- A message reduced, its effects left to carry out. -/
def reduced (t : Tasks) (env : Env) (input : Input) : Tasks :=
  let (sm, effects) := reduce t.sm (env, input)
  { t with sm := sm, dispatching := effects }

/-- A client's command. -/
def onCommand (t : Tasks) (env : Env) (cmd : StateMachineCommand) : Tasks :=
  if t.dispatching.isEmpty then t.reduced env (.command cmd) else t

/-- The next event. -/
def onEvent (t : Tasks) (env : Env) : Tasks :=
  match t.dispatching, t.smEvt.receive with
  | [], some (evt, smEvt) => { t with smEvt := smEvt }.reduced env (.event evt)
  | _, _ => t

/-- `dispatch`, on the next effect. -/
def dispatch (t : Tasks) : Tasks :=
  match t.dispatching with
  | [] => t
  | .ws cmd :: rest => match t.toDevice.accept cmd with
    | some toDevice => { t with dispatching := rest, toDevice := toDevice }
    | none => t
  | .store cmd :: rest => match t.toStore.accept cmd with
    | some toStore => { t with dispatching := rest, toStore := toStore }
    | none => t
  | .publishReadModel :: rest | .commandFailed _ :: rest => { t with dispatching := rest }

/-- `spawn_tick_loop`'s send. -/
def onTick (t : Tasks) (kind : TickKind) : Tasks :=
  match t.smEvt.send (.tick kind) with
  | some smEvt => { t with smEvt := smEvt }
  | none => t

/-! ## The store and the device -/

/-- `LocalStore::run`, on the next command. -/
def onStoreCommand (read : Bytes → Option HistoryEntry) (t : Tasks) (now : Moment) : Tasks :=
  match t.toStore.take with
  | some (cmd, toStore) =>
    let (store, answers) := t.store.handle read now cmd
    { t with store := store, toStore := { toStore with hand := answers } }
  | none => t

/-- The device's loop, on an arm other than a command's. -/
def onOven (config : DeviceConfig) (t : Tasks) (turn : DeviceTurn) (input : DeviceInput) : Tasks :=
  if t.toDevice.hand.isEmpty && !input.isCommand then
    let (device, effects) := t.device.step config turn input
    { t with
      device := device
      toDevice := { t.toDevice with hand := effects.filterMap DeviceEffect.sent } }
  else t

/-- The device's loop, on the next command. -/
def onDeviceCommand (config : DeviceConfig) (t : Tasks) (turn : DeviceTurn) : Tasks :=
  match t.toDevice.take with
  | some (cmd, toDevice) =>
    let (device, effects) := t.device.step config turn (.command cmd)
    { t with
      device := device
      toDevice := { toDevice with hand := effects.filterMap DeviceEffect.sent } }
  | none => t

/-- The store's forwarder, on the answer it holds. -/
def deliverStore (t : Tasks) : Tasks :=
  let (toStore, smEvt) := t.toStore.deliver StateMachineEvent.store t.smEvt
  { t with toStore := toStore, smEvt := smEvt }

/-- The device's forwarder, on the event it holds. -/
def deliverDevice (t : Tasks) : Tasks :=
  let (toDevice, smEvt) := t.toDevice.deliver StateMachineEvent.ws t.smEvt
  { t with toDevice := toDevice, smEvt := smEvt }

/-- One move. -/
def step (read : Bytes → Option HistoryEntry) (config : DeviceConfig) (t : Tasks) : Move → Tasks
  | .command env cmd => t.onCommand env cmd
  | .event env => t.onEvent env
  | .dispatch => t.dispatch
  | .tick kind => t.onTick kind
  | .store now => t.onStoreCommand read now
  | .storeSend => { t with toStore := t.toStore.send }
  | .storeForward => { t with toStore := t.toStore.forward }
  | .storeDeliver => t.deliverStore
  | .recipes recipes =>
    { t with store := { t.store with disk := { t.store.disk with recipes := recipes } } }
  | .oven turn input => t.onOven config turn input
  | .device turn => t.onDeviceCommand config turn
  | .deviceSend => { t with toDevice := t.toDevice.send }
  | .deviceForward => { t with toDevice := t.toDevice.forward }
  | .deviceDeliver => t.deliverDevice

end Tasks

/-- The tasks as a machine: its runs are the orders their moves may come in. -/
def tasks (read : Bytes → Option HistoryEntry) (config : DeviceConfig) : Machine Tasks Move Empty :=
  ⟨fun t move => (t.step read config move, [])⟩

end AnovaOven
