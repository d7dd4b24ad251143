import AnovaOven.CookProgress
import AnovaOven.Lib.Retained
import AnovaOven.Processors.Mqtt.Manual
import AnovaOven.Processors.Mqtt.Milestones
import AnovaOven.Processors.Mqtt.Recipes

/-!
# The MQTT processor (`processors/mqtt.rs`)

The oven in Home Assistant. The processor reads what the server serves and publishes to a broker what
changed of it, most of it to be retained there; and it takes commands. What a published text is made of is its
payload, but for the two texts that the processor compares with the ones it sent last: how these are written
is outside. The discovery configs other than the recipe select's are published together and are one topic.

Of the commands there are those to the select and to the manual cook; the others only go through to the state
machine, and their failures are published. Left out are the client, which sends in the order it is given,
and the subscription.
-/

namespace AnovaOven

/-- `Topics`. -/
inductive Topic where
  | discovery
  | recipeSelect
  | availability
  | nextStageAvailability
  | state
  | recipes
  | selected
  | selectedAttributes
  | manual
  | event
  deriving Repr, DecidableEq

/-- What a payload is made of. -/
inductive Payload where
  | text (text : String)
  | configs (localMode : Bool) (unit : String)
  | selectConfig (titles : List String)
  | titles (titles : List String)
  | attributes (recipe : Recipe) (unit : String)
  | noAttributes
  | milestone (milestone : Milestone) (snapshot : Snapshot)
  | commandFailed (command reason : String) (snapshot : Option Snapshot)
  deriving Repr, DecidableEq

/-- What the processor reads of the server at a time: the read model, the cook's progress, the oven's
connection, and the clock that a stage's end is told by. -/
structure Sources where
  status : Option OvenStatus
  currentCook : Option CurrentCook
  recipes : List Recipe
  cookProgress : Option CookProgress
  upstream : UpstreamHealth
  now : Int
  deriving Repr, DecidableEq

/-- The status as it is served. -/
def Sources.served (sources : Sources) : Option ServedStatus :=
  sources.status.map fun status =>
    { toOvenStatus := status, cookProgress := sources.cookProgress, upstream := some sources.upstream }

/-- How the two texts are written that are compared: `state_json`, and the manual cook's `Draft::state` in a
unit. -/
structure MqttTexts where
  stateJson : Option ServedStatus → Option CurrentCook → Bool → Int → String
  manualState : Manual.Draft → String → String

/-- `state_json` of what is read. -/
def MqttTexts.state (texts : MqttTexts) (sources : Sources) : String :=
  texts.stateJson sources.served sources.currentCook sources.upstream.connected sources.now

/-- `Snapshot::new`. -/
def Snapshot.new (status : Option ServedStatus) (cook : Option CurrentCook) (connected : Bool) : Snapshot :=
  let progress := status.bind ServedStatus.cookProgress
  { connected := connected
    cooking := status.any fun status => status.isCooking
    cookKey := status.bind fun status => status.cookId
    recipeTitle := cook.map CurrentCook.recipeTitle
    stageIndex := (progress.map CookProgress.currentStageIndex).or (status.bind fun status => status.activeStageIndex)
    stages := (cook.map CurrentCook.stages).getD []
    nextStageReady := progress.any CookProgress.nextStageReady
    cookDone := status.any fun status => status.cookDone
    unit := (status.map fun status => status.temperatureUnit).getD "C" }

/-- `Snapshot::new` of what is read. -/
def Sources.snapshot (sources : Sources) : Snapshot :=
  .new sources.served sources.currentCook sources.upstream.connected

/-- `Milestone::describes_previous`. -/
def Milestone.describesPrevious : Milestone → Bool
  | cookStopped | ovenLost => true
  | _ => false

/-- `Processor`. -/
structure MqttProcessor where
  localMode : Bool
  select : RecipeSelect
  manual : Manual.Draft
  lastManual : Option String
  lastState : Option String
  unit : Option String
  discoveredUnit : Option String
  lastSnapshot : Option Snapshot
  nextStageReady : Option Bool

/-- What reaches the processor: a connect, a change or a poll, a command to the select or the manual cook, or
the failure of another command. A connection that drops loses what the broker doesn't keep. -/
inductive MqttInput where
  | connected (sources : Sources)
  | changed (sources : Sources)
  | selectRecipe (payload : String)
  | setManual (field payload : String)
  | commandFailed (command reason : String)
  | dropped (keeps : Topic → Bool)

/-- A retained payload. -/
def Topic.retains (topic : Topic) (payload : Payload) : Publish Topic Payload := ⟨topic, true, payload⟩

/-- An event. -/
def Payload.event (payload : Payload) : Publish Topic Payload := ⟨.event, false, payload⟩

namespace MqttProcessor

/-- The processor that `run` starts. -/
def new (localMode : Bool) : MqttProcessor where
  localMode := localMode
  select := .new
  manual := .default
  lastManual := none
  lastState := none
  unit := none
  discoveredUnit := none
  lastSnapshot := none
  nextStageReady := none

/-- `unit`. -/
def unitOr (p : MqttProcessor) : String := p.unit.getD "C"

/-- `titles`. -/
def titles (p : MqttProcessor) : List String := p.select.options.map Prod.fst

/-- `publish_discovery`. -/
def publishDiscovery (p : MqttProcessor) : MqttProcessor × List (Publish Topic Payload) :=
  ({ p with discoveredUnit := some p.unitOr },
    [Topic.discovery.retains (.configs p.localMode p.unitOr), Topic.recipeSelect.retains (.selectConfig p.titles)])

/-- `publish_selected`, of what the select shows. -/
def publishSelected (p : MqttProcessor) : List (Publish Topic Payload) :=
  match p.select.shown with
  | some (title, recipe) => [Topic.selected.retains (.text title),
      Topic.selectedAttributes.retains (.attributes recipe p.unitOr)]
  | none => [Topic.selected.retains (.text "No recipes"), Topic.selectedAttributes.retains .noAttributes]

/-- `publish_recipes`. -/
def publishRecipes (p : MqttProcessor) : MqttProcessor × List (Publish Topic Payload) :=
  let p := { p with select := p.select.reselect }
  (p, Topic.recipes.retains (.titles p.titles) :: p.publishSelected)

/-- `publish_manual`. -/
def publishManual (texts : MqttTexts) (p : MqttProcessor) : MqttProcessor × List (Publish Topic Payload) :=
  let state := texts.manualState p.manual p.unitOr
  ({ p with lastManual := some state }, Publish.publishChanged .manual .text false p.lastManual state)

/-- The recipes' part of `on_change`. -/
def changeRecipes (p : MqttProcessor) (recipes : List Recipe) : MqttProcessor × List (Publish Topic Payload) :=
  let options := AnovaOven.options recipes
  if options ≠ p.select.options then
    let p := { p with select := { p.select with recipes := recipes, options := options } }
    let (p', published) := p.publishRecipes
    (p', Topic.recipeSelect.retains (.selectConfig p.titles) :: published)
  else if recipes.length = p.select.recipes.length then
    ({ p with select := { p.select with recipes := recipes } }, [])
  else (p, [])

/-- The unit's part of `on_change`. -/
def changeUnit (p : MqttProcessor) (sources : Sources) : MqttProcessor × List (Publish Topic Payload) :=
  match sources.status with
  | none => (p, [])
  | some status =>
    let p := { p with unit := some status.temperatureUnit }
    if p.discoveredUnit.isSome && p.discoveredUnit ≠ p.unit then p.publishDiscovery else (p, [])

/-- The states' part of `on_change`. -/
def changeState (texts : MqttTexts) (p : MqttProcessor) (sources : Sources) (force : Bool) :
    MqttProcessor × List (Publish Topic Payload) :=
  let state := texts.state sources
  let ready := sources.snapshot.nextStageReady && sources.snapshot.connected
  ({ p with lastState := some state, nextStageReady := some ready },
    Publish.publishChanged .state .text force p.lastState state ++
      Publish.publishChanged .nextStageAvailability
        (fun ready => .text (if ready then "online" else "offline")) force p.nextStageReady ready)

/-- The milestones' part of `on_change`. -/
def changeSnapshot (p : MqttProcessor) (snapshot : Snapshot) : MqttProcessor × List (Publish Topic Payload) :=
  let (last, announced) := announce p.lastSnapshot snapshot
  ({ p with lastSnapshot := last },
    announced.map fun milestone => Payload.event (.milestone milestone
      (if milestone.describesPrevious then p.lastSnapshot.getD snapshot else snapshot)))

/-- `on_change`. -/
def onChange (texts : MqttTexts) (p : MqttProcessor) (sources : Sources) (force : Bool) :
    MqttProcessor × List (Publish Topic Payload) :=
  let (p, recipes) := p.changeRecipes sources.recipes
  let (p, unit) := p.changeUnit sources
  let (p, state) := p.changeState texts sources force
  let (p, milestones) := p.changeSnapshot sources.snapshot
  let (p, manual) := p.publishManual texts
  (p, recipes ++ unit ++ state ++ milestones ++ manual)

/-- `on_connected`. -/
def onConnected (texts : MqttTexts) (p : MqttProcessor) (sources : Sources) :
    MqttProcessor × List (Publish Topic Payload) :=
  let p := { p with
    select := { p.select with recipes := sources.recipes, options := options sources.recipes }
    unit := (sources.status.map OvenStatus.temperatureUnit).or p.unit }
  let (p, discovery) := p.publishDiscovery
  let (p, recipes) := p.publishRecipes
  let p := { p with lastState := none, lastManual := none, nextStageReady := none }
  let (p, changes) := p.onChange texts sources true
  (p, discovery ++ Topic.availability.retains (.text "online") :: recipes ++ changes)

/-- `command_failed`. -/
def commandFailed (p : MqttProcessor) (command reason : String) : List (Publish Topic Payload) :=
  [Payload.event (.commandFailed command reason p.lastSnapshot)]

/-- One turn. The arms of `on_command` that are modelled are a turn each. -/
def step (texts : MqttTexts) (p : MqttProcessor) : MqttInput → MqttProcessor × List (Publish Topic Payload)
  | .connected sources => p.onConnected texts sources
  | .changed sources => p.onChange texts sources false
  | .selectRecipe payload =>
    match p.select.options.find? fun o => o.1 = trim payload with
    | some (_, id) =>
      let p := { p with select := { p.select with selected := some id } }
      (p, p.publishSelected)
    | none => (p, [])
  | .setManual field payload =>
    let (manual, answer) := p.manual.set field (trim payload)
    let failed := match answer with
      | .ok _ => []
      | .error reason => p.commandFailed ("manual/" ++ field) reason
    let (p, published) := { p with manual := manual }.publishManual texts
    (p, failed ++ published)
  | .commandFailed command reason => (p, p.commandFailed command reason)
  | .dropped _ => (p, [])

end MqttProcessor

/-- The processor as a machine. -/
def mqtt (texts : MqttTexts) : Machine MqttProcessor MqttInput (Publish Topic Payload) :=
  ⟨MqttProcessor.step texts⟩

/-- What the broker retains. -/
abbrev Broker := Topic → Option Payload

/-- The broker's part of a turn. As a connection drops, it puts out the will. -/
def Broker.turn (texts : MqttTexts) (p : MqttProcessor) (broker : Broker) (i : MqttInput) : Broker :=
  match i with
  | .dropped keeps =>
    Function.update (fun topic => if keeps topic then broker topic else none) .availability
      (some (.text "offline"))
  | _ => Publish.retained broker ((mqtt texts).effects p i)

/-- The processor with its broker. -/
def mqttBroker (texts : MqttTexts) : Machine (MqttProcessor × Broker) MqttInput (Publish Topic Payload) :=
  (mqtt texts).noting (Broker.turn texts)

end AnovaOven
