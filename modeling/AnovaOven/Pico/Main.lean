import AnovaOven.Lib.Spoke
import AnovaOven.Pico.Screens

/-!
# The firmware's tasks (`anova-oven-pico/src/main.rs`)

The main task with its screens and the API task, and what is between them: the channel of commands, which
drops what it has no room for, and the snapshot that is published. The tasks take turns as they will, and
while the API task waits for the server the screens go on: what a turn of it publishes is published in a step
of its own. Left out are the input channel (an event comes when it is taken), the display, the watchdog and
the network.
-/

namespace AnovaOven

/-- `CommandChannel`'s capacity. -/
def commandCapacity : Nat := 4

/-- What a served status has besides the oven's own. -/
structure ServedExtras where
  cookProgress : Option CookProgress
  upstream : Option UpstreamHealth
  deriving Repr, DecidableEq

/-- The API task's snapshot, as the screens read it. -/
def ScreenSnapshot.of (snapshot : ApiSnapshot) (extras : ServedExtras) : ScreenSnapshot where
  status := snapshot.status.map fun status =>
    { toOvenStatus := status, cookProgress := extras.cookProgress, upstream := extras.upstream }
  currentCook := snapshot.currentCook
  recipes := snapshot.recipes
  failCount := snapshot.failCount
  lastSuccessAt := snapshot.lastSuccessAt
  timerAnchor := snapshot.timerAnchor
  ovenMissingSince := snapshot.ovenMissingSince

/-- The firmware: the main task, the commands on their way, the API task with the extras of its status, and
what it has yet to publish. -/
structure Pico where
  screens : Screens
  commands : Channel ApiCommand commandCapacity
  api : ApiRuntime
  extras : ServedExtras
  publishing : Option ScreenSnapshot

/-- What happens: the main task boots or is woken, or the API task takes a command, handles an event, which
may poll a status with the extras given, or publishes. -/
inductive PicoInput where
  | screens (input : ScreenInput)
  | takeCommand (now : Nat)
  | drain (turn : ApiTurn) (extras : ServedExtras)
  | publish

/-- What the tasks do. -/
inductive PicoEffect where
  | screen (effect : ScreenEffect)
  | request (request : ApiRequest)
  deriving Repr, DecidableEq

namespace ApiEffect

/-- What an effect asks of the server. -/
def request? : ApiEffect → Option ApiRequest
  | .request asked => some asked
  | .publish _ => none

/-- What an effect publishes. -/
def publish? : ApiEffect → Option ApiSnapshot
  | .request _ => none
  | .publish snapshot => some snapshot

end ApiEffect

namespace Pico

/-- `start`ing firmware. -/
def boot (now : Nat) : Pico := ⟨.start, .empty, .new now, ⟨none, none⟩, none⟩

/-- The command of an effect, sent. -/
def sendCommand (commands : Channel ApiCommand commandCapacity) :
    ScreenEffect → Channel ApiCommand commandCapacity
  | .command command => commands.trySend command
  | _ => commands

/-- A turn of the main task. What is published comes from the API task only. -/
def wake (p : Pico) : ScreenInput → Pico × List PicoEffect
  | .publish _ => (p, [])
  | input =>
    let (screens, effects) := p.screens.step input
    ({ p with screens := screens, commands := effects.foldl sendCommand p.commands },
      effects.map .screen)

/-- The extras of the status that the API task has after a turn. -/
def extrasAfter (p : Pico) (turn : ApiTurn) (given : ServedExtras) (effects : List ApiEffect) : ServedExtras :=
  match turn.status with
  | .ok _ => if .request .getStatus ∈ effects then given else p.extras
  | .error _ => p.extras

/-- A turn of the API task, up to what it publishes. -/
def drain (p : Pico) (turn : ApiTurn) (given : ServedExtras) : Pico × List PicoEffect :=
  let (api, effects) := p.api.drain turn
  let extras := p.extrasAfter turn given effects
  let publishing := (effects.filterMap ApiEffect.publish?).getLast?.map fun snapshot => .of snapshot extras
  ({ p with api := api, extras := extras, publishing := publishing },
    (effects.filterMap ApiEffect.request?).map .request)

/-- One step. The API task does one thing at a time. -/
def step (p : Pico) : PicoInput → Pico × List PicoEffect
  | .screens input => p.wake input
  | .takeCommand now =>
    match p.publishing, p.commands.receive with
    | none, some (command, commands) =>
      ({ p with api := p.api.handleCommand now command, commands := commands }, [])
    | _, _ => (p, [])
  | .drain turn given =>
    match p.publishing with
    | none => p.drain turn given
    | some _ => (p, [])
  | .publish =>
    match p.publishing with
    | none => (p, [])
    | some snapshot =>
      ({ p with screens := (p.screens.step (.publish snapshot)).1, publishing := none }, [])

end Pico

/-- The firmware as a machine. -/
def pico : Machine Pico PicoInput PicoEffect := ⟨Pico.step⟩

end AnovaOven
