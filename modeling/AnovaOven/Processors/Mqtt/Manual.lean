import AnovaOven.Lib.Floats
import AnovaOven.Lib.Machine
import AnovaOven.Processors.LocalStore.Normalize

/-!
# A manual cook (`processors/mqtt/manual.rs`)

A cook of one step, set up field by field, and the recipe it makes: a cook stage, led by a preheat with the
same settings or not. `f32` fields hold the `f32` their payload is cast to.
-/

namespace AnovaOven.Manual

/-- `TITLE`. -/
def title : String := "Manual cook"

/-- `MODES`. -/
def modes : List String := ["Oven (dry bulb)", "Sous vide (wet bulb)"]

/-- `ELEMENTS`. -/
def elements : List String :=
  ["Rear", "Top", "Bottom", "Top + rear", "Bottom + rear", "Top + bottom"]

/-- `ELEMENTS_ON`: top, rear and bottom, for each of `elements`. -/
def elementsOn : List (Bool × Bool × Bool) :=
  [(false, true, false), (true, false, false), (false, false, true), (true, true, false),
    (false, true, true), (true, false, true)]

/-- `PREHEATS`. -/
def preheats : List String :=
  ["No preheat", "Preheat, then wait for me", "Preheat, then start cooking"]

/-- `ENDS`. -/
def ends : List String := ["Timer", "Probe", "When I say"]

/-- `AT_END`. -/
def atEnd : List String := ["Keep holding", "Turn the oven off"]

/-- `NO_PREHEAT`. -/
def noPreheat : Nat := 0

/-- `PREHEAT_WAIT`. -/
def preheatWait : Nat := 1

/-- `ENDS_TIMER`. -/
def endsTimer : Nat := 0

/-- `ENDS_PROBE`. -/
def endsProbe : Nat := 1

/-- `TURN_OFF`. -/
def turnOff : Nat := 1

/-- `Draft`: the manual cook as set up so far. Selects are indices into their options. -/
structure Draft where
  temperatureC : ℚ
  mode : Nat
  steamPct : ℚ
  elements : Nat
  preheat : Nat
  ends : Nat
  timerMins : UInt32
  probeTargetC : ℚ
  atEnd : Nat
  deriving Repr, DecidableEq

/-- A float-to-`u32` cast of an integral value: it saturates. -/
def asU32 (n : ℤ) : UInt32 := UInt32.ofNat (min n.toNat 4294967295)

/-- `Draft::set`'s `number`: a payload within bounds. -/
def number (payload : String) (lo hi : Nat) (what : String) : Except String ℚ :=
  match (parseF64 payload).filter fun v : ℚ => lo ≤ v ∧ v ≤ hi with
  | some v => .ok v
  | none => .error s!"{what} wants {lo}–{hi}, not `{payload}`"

/-- `Draft::set`'s `choice`: the index of the option a payload names. -/
def choice (payload : String) (options : List String) : Except String Nat :=
  match options.idxOf? payload with
  | some i => .ok i
  | none => .error s!"no option `{payload}`"

namespace Draft

/-- `Draft::default`. -/
def default : Draft where
  temperatureC := 180
  mode := 0
  steamPct := 0
  elements := 0
  preheat := noPreheat
  ends := endsTimer
  timerMins := 30
  probeTargetC := 60
  atEnd := 0

/-- An assignment of what may be an error: `self.field = value?`. -/
def assign {α : Type} (draft : Draft) (value : Except String α) (field : α → Draft) :
    Draft × Except String Unit :=
  match value with
  | .ok v => (field v, .ok ())
  | .error e => (draft, .error e)

/-- `Draft::set`: one field from its command and payload. -/
def set (draft : Draft) (field payload : String) : Draft × Except String Unit :=
  match field with
  | "temperature" =>
    draft.assign (number payload 25 250 "temperature") fun v => { draft with temperatureC := asF32 v }
  | "mode" => draft.assign (choice payload modes) fun i => { draft with mode := i }
  | "steam" => draft.assign (number payload 0 100 "steam") fun v => { draft with steamPct := asF32 v }
  | "elements" => draft.assign (choice payload Manual.elements) fun i => { draft with elements := i }
  | "preheat" => draft.assign (choice payload preheats) fun i => { draft with preheat := i }
  | "ends" => draft.assign (choice payload Manual.ends) fun i => { draft with ends := i }
  | "timer" =>
    draft.assign (number payload 1 1440 "timer") fun v =>
      { draft with timerMins := asU32 (roundAway v) }
  | "probe_target" =>
    draft.assign (number payload 1 100 "probe target") fun v => { draft with probeTargetC := asF32 v }
  | "at_end" => draft.assign (choice payload Manual.atEnd) fun i => { draft with atEnd := i }
  | other => (draft, .error s!"unknown manual cook field `{other}`")

/-- `Draft::turns_off`: only a stage that ends on its own can. -/
def turnsOff (draft : Draft) : Bool :=
  draft.atEnd = turnOff && (draft.ends = endsTimer || draft.ends = endsProbe)

/-- The cook stage of `Draft::stages`, with the elements that are on. -/
def cook (draft : Draft) (top rear bottom : Bool) : Stage :=
  let timer := decide (draft.ends = endsTimer)
  let probe := decide (draft.ends = endsProbe)
  { id := none
    kind := "cook"
    temperatureC := draft.temperatureC
    temperatureBulbsMode := some (if draft.mode = 1 then "wet" else "dry")
    durationSecs := if timer then some (draft.timerMins.toUInt64 * 60) else none
    timerAdded := some timer
    probeAdded := some probe
    probeTargetC := if probe then some draft.probeTargetC else none
    steamPct := draft.steamPct
    fanSpeed := 100
    userActionRequired := some (draft.preheat = preheatWait)
    rackPosition := none
    heatingElementTop := some top
    heatingElementRear := some rear
    heatingElementBottom := some bottom
    ventOpen := none
    title := none
    turnOffAtEnd := if draft.turnsOff then some true else none
    prompt := none }

/-- The preheat of `Draft::stages`: the cook's settings, until the oven is at temperature. -/
def preheatFor (cook : Stage) : Stage :=
  { cook with
    kind := "preheat"
    durationSecs := none
    timerAdded := some false
    probeAdded := some false
    probeTargetC := none
    userActionRequired := some false
    turnOffAtEnd := none }

/-- `Draft::stages`. None where the elements' index is out of the table: there the source panics. -/
def stages (draft : Draft) : Option (List Stage) :=
  elementsOn[draft.elements]?.map fun (top, rear, bottom) =>
    let cook := draft.cook top rear bottom
    if draft.preheat = noPreheat then [cook] else [preheatFor cook, cook]

end Draft

/-- The debug text of a `StoreError`. -/
def storeErrorDebug : StoreError → String
  | .unauthorized => "Unauthorized"
  | .timeout => "Timeout"
  | .unsupported => "Unsupported"
  | .other detail => s!"Other({detail.quote})"

/-- The text of an error of `check`. -/
def checkMessage : RecipeError → String
  | .invalid message => message
  | .notFound => "not found"
  | .store error => storeErrorDebug error

/-- `check`: a manual cook, checked as a saved recipe would be, with a title of its own or the usual
one. -/
def check (fresh : Nat → String) (given : Option String) (stages : List Stage) :
    Except String Recipe :=
  (normalize fresh
    { id := ""
      title := (given.filter fun t => trim t ≠ "").getD title
      stageCount := 0
      stages := stages
      source := .own }).mapError checkMessage

/-- `Draft::recipe`: the cook to start. None where the source panics. -/
def Draft.recipe (fresh : Nat → String) (draft : Draft) : Option (Except String Recipe) :=
  draft.stages.map (check fresh none)

/-- A draft as a machine: it takes commands, each a field and a payload, and answers each. -/
def drafting : Machine Draft (String × String) (Except String Unit) where
  step draft command :=
    let (draft, reply) := draft.set command.1 command.2
    (draft, [reply])

end AnovaOven.Manual
