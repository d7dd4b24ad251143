import AnovaOven.Laws.Codec
import AnovaOven.Laws.Identity
import AnovaOven.Laws.Ids
import AnovaOven.Processors.Http
import AnovaOven.Protocol.State

/-!
# A saved cook cooks the same

A recipe is started, the oven reports its stages without what it drops, and the cook is saved. **Exact
condition** (`saved_cook_alike_iff`): the save goes through, and its recipe goes out as the first one
did but for ids and whole degrees Celsius, exactly where every stage is one that comes back
(`CooksAgain`) and every stage under a prompt's id waits (`PromptsWait`).

The stage that a save drafts of a sent one is `draftStage`: `draftStage_passes_iff` says when it is let
through, and `mask_kept_iff` when what is kept of it goes out alike.
-/

namespace AnovaOven

variable {fresh fresh' : String} {stage : Stage}

/-! ## Alike on the wire -/

/-- The fields a saved recipe may go out with others in. -/
def looseFields : List String := ["id", "celsius"]

/-- The Fahrenheit a setpoint goes out with. -/
def sentFahrenheit (celsius : ℚ) : ℤ := asI32 (roundAway (celsius * 1.8 + 32))

/-- Two stages that go out alike but for the loose fields. -/
structure SentAlike (a b : Stage) : Prop where
  title : a.title.getD "" = b.title.getD ""
  kind : a.kind = b.kind
  waits : a.userActionRequired.getD false = b.userActionRequired.getD false
  mode : sentMode a = sentMode b
  fahrenheit : sentFahrenheit a.temperatureC = sentFahrenheit b.temperatureC
  elements : heatingElementsJson a = heatingElementsJson b
  fan : a.fanSpeed = b.fanSpeed
  vent : a.ventOpen.getD false = b.ventOpen.getD false
  rack : a.rackPosition.getD 3 = b.rackPosition.getD 3
  steam : a.steamPct = b.steamPct
  duration : a.durationSecs = b.durationSecs
  target : (sentTarget a).map sentFahrenheit = (sentTarget b).map sentFahrenheit

theorem mask_setpointJson (celsius : ℚ) : (setpointJson celsius).mask looseFields =
    .obj [("celsius", .null), ("fahrenheit", .int (sentFahrenheit celsius))] := rfl

theorem mask_temperatureBulbsJson : (temperatureBulbsJson stage).mask looseFields =
    .obj [("mode", .str (sentMode stage)), (sentMode stage, .obj [("setpoint",
      .obj [("celsius", .null), ("fahrenheit", .int (sentFahrenheit stage.temperatureC))])])] := by
  unfold temperatureBulbsJson sentMode
  dsimp only
  split <;> rfl

/-- What every stage sends, but for the loose fields. -/
theorem mask_startStageBase : (startStageBase fresh stage).mask looseFields =
    .obj [("stepType", .str "stage"), ("id", .null), ("title", .str (stage.title.getD "")),
      ("description", .str ""), ("type", .str stage.kind),
      ("userActionRequired", .bool (stage.userActionRequired.getD false)),
      ("stageTransitionType", .str "automatic"),
      ("temperatureBulbs", (temperatureBulbsJson stage).mask looseFields),
      ("heatingElements", heatingElementsJson stage),
      ("fan", .obj [("speed", .int stage.fanSpeed.toNat)]),
      ("vent", .obj [("open", .bool (stage.ventOpen.getD false))]),
      ("rackPosition", .int (stage.rackPosition.getD 3).toNat)] := rfl

/-- Alike objects stay alike under steam. -/
theorem mask_withSteam {a b : Stage} (alike : SentAlike a b) {object object' : Json}
    (same : object.mask looseFields = object'.mask looseFields) :
    (withSteam a object).mask looseFields = (withSteam b object').mask looseFields := by
  unfold withSteam
  rw [alike.steam]
  split
  · rw [Json.mask_set, Json.mask_set, same]
  · exact same

/-- Alike objects stay alike under an end. -/
theorem mask_withEnd {a b : Stage} (alike : SentAlike a b) {object object' : Json}
    (same : object.mask looseFields = object'.mask looseFields) :
    (withEnd a object).mask looseFields = (withEnd b object').mask looseFields := by
  have target := alike.target
  have duration := alike.duration
  unfold sentTarget at target
  unfold withEnd
  cases own : b.durationSecs with
  | some secs =>
    rw [duration, own]
    simp only [Json.mask_set, same]
  | none =>
    rw [duration, own] at target ⊢
    cases first : a.probeTargetC <;> cases second : b.probeTargetC <;> rw [first, second] at target
    · exact same
    · cases target
    · cases target
    · have fahrenheit := Option.some.inj target
      simp only [Json.mask_set, same, Json.mask, Json.maskFields, Json.maskField,
        mask_setpointJson, fahrenheit]

/-- **Alike stages** go out alike. -/
theorem mask_startStageJson {a b : Stage} (alike : SentAlike a b) :
    (startStageJson fresh a).mask looseFields = (startStageJson fresh' b).mask looseFields := by
  have base : (startStageBase fresh a).mask looseFields =
      (startStageBase fresh' b).mask looseFields := by
    rw [mask_startStageBase, mask_startStageBase, mask_temperatureBulbsJson,
      mask_temperatureBulbsJson, alike.title, alike.kind, alike.waits, alike.mode,
      alike.fahrenheit, alike.elements, alike.fan, alike.vent, alike.rack]
  exact mask_withEnd alike (mask_withSteam alike base)

/-- Stages that go out alike have the same fan and rack. -/
theorem fan_rack_of_mask {a b : Stage}
    (same : (startStageJson fresh a).mask looseFields = (startStageJson fresh' b).mask looseFields) :
    a.fanSpeed = b.fanSpeed ∧ a.rackPosition.getD 3 = b.rackPosition.getD 3 := by
  have fan := congrArg (·.get "fan") same
  have rack := congrArg (·.get "rackPosition") same
  simp only [Json.get_mask, get_base (show "fan" ∉ optionalFields by decide)] at fan
  simp only [Json.get_mask, get_base (show "rackPosition" ∉ optionalFields by decide)] at rack
  have fan : some (Json.obj [("speed", .int a.fanSpeed.toNat)]) =
      some (.obj [("speed", .int b.fanSpeed.toNat)]) := fan
  have rack : some (Json.int (a.rackPosition.getD 3).toNat) =
      some (.int (b.rackPosition.getD 3).toNat) := rack
  simp only [Option.some.injEq, Json.obj.injEq, List.cons.injEq, Prod.mk.injEq, Json.int.injEq,
    Nat.cast_inj, and_true, true_and, UInt8.toNat_inj] at fan rack
  exact ⟨fan, rack⟩

/-- Ids are loose. -/
theorem SentAlike.renamed {a b : Stage} (alike : SentAlike a b) (id id' : Option String) :
    SentAlike { a with id := id } { b with id := id' } :=
  { alike with }

/-! ## What a save drafts of a stage -/

/-- A sent stage as its cook has it but for its id: what reads back, under its turn-off flag and a
prompt. -/
def heldStage (prompt : Option String) (stage : Stage) : Stage :=
  { readFrom "" lossyFields stage with
    id := none, turnOffAtEnd := stage.turnOffAtEnd, prompt := prompt }

/-- The stage a save drafts of it. -/
def draftStage (prompt : Option String) (stage : Stage) : Stage :=
  restoreEndFlags (heldStage prompt stage)

/-- A stage that goes out again as it did: the oven takes its flags, its rack is the one a stage
without one gets, and it doesn't turn the oven off on a timer of no time. -/
structure CooksAgain (stage : Stage) : Prop extends FlagsSet stage where
  rack : stage.rackPosition.getD 3 = 3
  turnOff : stage.turnOffAtEnd = some true → stage.durationSecs ≠ some 0

variable {prompt : Option String} {isLast : Bool}

/-- The draft is the cook's stage, but for its end flags. -/
theorem draftStage_frame (prompt : Option String) (stage : Stage) :
    ∃ timer probe, draftStage prompt stage =
      { heldStage prompt stage with timerAdded := timer, probeAdded := probe } :=
  restoreEndFlags_frame _

/-- A draft ends on a timer where its stage has time on one, and on a probe where its stage has a target
and no timer at all. Preheats end on neither. -/
theorem draftStage_ends :
    ((draftStage prompt stage).timerAdded = some true ↔
        stage.kind ≠ "preheat" ∧ ∃ secs, stage.durationSecs = some secs ∧ 0 < secs) ∧
      ((draftStage prompt stage).probeAdded = some true ↔
        stage.kind ≠ "preheat" ∧ stage.durationSecs = none ∧ stage.probeTargetC.isSome) := by
  unfold draftStage
  by_cases preheat : stage.kind = "preheat"
  · rw [restoreEndFlags_preheat (show (heldStage prompt stage).kind = "preheat" from preheat)]
    simp [heldStage, readFrom, preheat]
  · rw [restoreEndFlags_bare (show (heldStage prompt stage).kind ≠ "preheat" from preheat) rfl rfl]
    dsimp only [heldStage, readFrom]
    constructor
    · simp [Option.any_eq_true, preheat]
    · unfold sentTarget
      cases stage.durationSecs <;> simp [preheat]

/-- Of one or two elements set on, the oven is sent one or two on where another is set off. -/
theorem elementsSetOn_heldStage (prompt : Option String)
    (elements : 1 ≤ elementsSetOn stage ∧ elementsSetOn stage ≤ 2) :
    1 ≤ elementsSetOn (heldStage prompt stage) ∧ elementsSetOn (heldStage prompt stage) ≤ 2 ↔
      stage.heatingElementTop = some false ∨ stage.heatingElementRear = some false ∨
        stage.heatingElementBottom = some false := by
  show 1 ≤ [some (stage.heatingElementTop.getD true), some (stage.heatingElementRear.getD true),
      some (stage.heatingElementBottom.getD true)].countP (fun e => e = some true) ∧
    [some (stage.heatingElementTop.getD true), some (stage.heatingElementRear.getD true),
      some (stage.heatingElementBottom.getD true)].countP (fun e => e = some true) ≤ 2 ↔ _
  unfold elementsSetOn at elements
  revert elements
  rcases stage.heatingElementTop with _ | _ | _ <;>
    rcases stage.heatingElementRear with _ | _ | _ <;>
    rcases stage.heatingElementBottom with _ | _ | _ <;> decide

/-- What reads back of a temperature is within the limit of what reads back of its mode. -/
theorem temperature_heldStage (prompt : Option String)
    (range : 25 ≤ stage.temperatureC ∧ stage.temperatureC ≤ temperatureLimit stage) :
    25 ≤ readCelsius stage.temperatureC ∧
      readCelsius stage.temperatureC ≤ temperatureLimit (heldStage prompt stage) := by
  have limit : temperatureLimit (heldStage prompt stage) = temperatureLimit stage := by
    show (if some (sentMode stage) = some "wet" then (100 : ℚ) else 250) = temperatureLimit stage
    unfold sentMode temperatureLimit
    rcases stage.temperatureBulbsMode with _ | mode
    · rfl
    · by_cases wet : mode = "wet" <;> simp [wet]
  rw [limit]
  obtain ⟨lower, upper⟩ := range
  unfold temperatureLimit at upper ⊢
  split at upper
  · rename_i wet
    rw [if_pos wet]
    exact ⟨(readCelsius_temperature lower (by linarith)).1, readCelsius_sousVide lower upper⟩
  · rename_i dry
    rw [if_neg dry]
    exact readCelsius_temperature lower upper

/-- A prompt as `normalize` keeps it. -/
def KeptPrompt (prompt : Option String) : Prop :=
  trimPrompt prompt = prompt ∧ ∀ text, prompt = some text → text.length ≤ promptMaxChars

/-- A draft that is to turn the oven off has an end, where its stage passed and has no timer of no
time. -/
theorem draftStage_turnOff (passes : stage.Passes isLast) (on : stage.turnOffAtEnd = some true)
    (time : stage.durationSecs ≠ some 0) :
    (draftStage prompt stage).timerAdded = some true ∨
      (draftStage prompt stage).probeAdded = some true := by
  obtain ⟨timerEnds, probeEnds⟩ := @draftStage_ends stage prompt
  have cooks : stage.kind ≠ "preheat" := by
    intro preheat
    obtain ⟨noTimer, noProbe⟩ := passes.preheat preheat
    exact (passes.turnOff on).elim noTimer noProbe
  rw [timerEnds, probeEnds]
  cases duration : stage.durationSecs with
  | some secs =>
    refine .inl ⟨cooks, secs, rfl, UInt64.pos_iff_ne_zero.mpr ?_⟩
    rintro rfl
    exact time duration
  | none =>
    refine .inr ⟨cooks, rfl, ?_⟩
    rcases passes.turnOff on with timed | probed
    · obtain ⟨secs, some, _⟩ := passes.timer timed
      rw [duration] at some
      cases some
    · exact passes.probe probed

/-- The target a draft keeps is in range. -/
theorem draftStage_target (passes : stage.Passes isLast) {read : ℚ}
    (target : (sentTarget stage).map readCelsius = some read) : 1 ≤ read ∧ read ≤ 100 := by
  obtain ⟨celsius, sent, rfl⟩ := Option.map_eq_some_iff.mp target
  have own : stage.probeTargetC = some celsius := by
    unfold sentTarget at sent
    split at sent
    · cases sent
    · exact sent
  obtain ⟨lower, upper⟩ := passes.target celsius own
  exact readCelsius_target lower upper

/-- A flag read back is set where it was. -/
theorem waits_draftStage (prompt : Option String) (stage : Stage) :
    (draftStage prompt stage).userActionRequired = some true ↔
      stage.userActionRequired = some true := by
  obtain ⟨_, _, frame⟩ := draftStage_frame prompt stage
  rw [frame]
  show some (stage.userActionRequired.getD false) = some true ↔ _
  cases stage.userActionRequired <;> simp

/-- The draft of a stage that passed passes with an element set off, an end to turn the oven off on, and
a prompt only where it waits. -/
theorem draftStage_passes (passes : stage.Passes isLast) (kept : KeptPrompt prompt)
    (off : stage.heatingElementTop = some false ∨ stage.heatingElementRear = some false ∨
      stage.heatingElementBottom = some false)
    (time : stage.turnOffAtEnd = some true → stage.durationSecs ≠ some 0)
    (wait : prompt.isSome → stage.userActionRequired = some true) :
    (draftStage prompt stage).Passes isLast := by
  obtain ⟨timerEnds, probeEnds⟩ := @draftStage_ends stage prompt
  have turnOff : stage.turnOffAtEnd = some true → (draftStage prompt stage).timerAdded = some true ∨
      (draftStage prompt stage).probeAdded = some true :=
    fun on => draftStage_turnOff passes on (time on)
  have waits := waits_draftStage prompt stage
  obtain ⟨timer, probe, frame⟩ := draftStage_frame prompt stage
  rw [frame] at timerEnds probeEnds turnOff waits ⊢
  dsimp only at timerEnds probeEnds
  refine
    { kind := passes.kind
      temperature := temperature_heldStage prompt passes.temperature
      steam := passes.steam
      fan := passes.fan
      rack := ?rack
      timer := fun timed => (timerEnds.mp timed).2
      probe := ?probe
      target := fun _ => draftStage_target passes
      oneEnd := ?oneEnd
      preheat := ?preheat
      last := passes.last
      turnOff := turnOff
      prompt := ?prompt
      elements := (elementsSetOn_heldStage prompt passes.elements).mpr off }
  case probe =>
    intro probed
    obtain ⟨_, none, has⟩ := probeEnds.mp probed
    show ((sentTarget stage).map readCelsius).isSome
    rw [Option.isSome_map, sentTarget, none]
    exact has
  case oneEnd =>
    rintro ⟨timed, probed⟩
    obtain ⟨_, secs, some, _⟩ := timerEnds.mp timed
    obtain ⟨_, none, _⟩ := probeEnds.mp probed
    rw [some] at none
    cases none
  case preheat =>
    intro preheat
    exact ⟨fun timed => (timerEnds.mp timed).1 preheat, fun probed => (probeEnds.mp probed).1 preheat⟩
  case rack =>
    intro level read
    cases read
  case prompt =>
    intro text trimmed
    have own : prompt = some text := kept.1.symm.trans trimmed
    exact ⟨kept.2 text own, waits.mpr (wait (by rw [own]; rfl))⟩

/-- **What a save lets through**: the draft of a stage that passed passes exactly where an element is
set off, the oven isn't turned off on a timer of no time, and a stage with a prompt waits. -/
theorem draftStage_passes_iff (passes : stage.Passes isLast) (kept : KeptPrompt prompt) :
    (draftStage prompt stage).Passes isLast ↔
      (stage.heatingElementTop = some false ∨ stage.heatingElementRear = some false ∨
        stage.heatingElementBottom = some false) ∧
      (stage.turnOffAtEnd = some true → stage.durationSecs ≠ some 0) ∧
      (prompt.isSome → stage.userActionRequired = some true) := by
  constructor
  · intro drafted
    obtain ⟨timerEnds, probeEnds⟩ := @draftStage_ends stage prompt
    have waits := waits_draftStage prompt stage
    obtain ⟨timer, probe, frame⟩ := draftStage_frame prompt stage
    rw [frame] at timerEnds probeEnds waits drafted
    refine ⟨(elementsSetOn_heldStage prompt passes.elements).mp drafted.elements, ?_, ?_⟩
    · intro on zero
      rcases drafted.turnOff on with timed | probed
      · obtain ⟨_, secs, some, positive⟩ := timerEnds.mp timed
        rw [zero] at some
        cases some
        exact absurd positive (by decide)
      · obtain ⟨_, none, _⟩ := probeEnds.mp probed
        rw [zero] at none
        cases none
    · intro has
      obtain ⟨text, rfl⟩ := Option.isSome_iff_exists.mp has
      exact waits.mp (drafted.prompt text kept.1).2
  · rintro ⟨off, time, wait⟩
    exact draftStage_passes passes kept off time wait

/-- The fan of a kept draft is its stage's, where the stage's rear element is set or its fan at 100. -/
theorem fan_kept_draftStage (prompt : Option String) (freshId : String) (range : stage.Accepted) :
    ((draftStage prompt stage).kept freshId).fanSpeed = stage.fanSpeed ↔
      (stage.heatingElementRear = none → stage.fanSpeed = 100) := by
  obtain ⟨_, _, frame⟩ := draftStage_frame prompt stage
  have fan : ((draftStage prompt stage).kept freshId).fanSpeed =
      if stage.heatingElementRear.getD true || decide (0 < stage.steamPct) then 100
      else stage.fanSpeed := by
    show (draftStage prompt stage).normalizeFanSpeed.fanSpeed = _
    rw [frame]
    exact normalizeFanSpeed_fanSpeed _
  have normalized := range.fan
  rw [fan]
  cases rear : stage.heatingElementRear with
  | none => simp [eq_comm]
  | some on =>
    rw [rear] at normalized
    simp only [Option.getD_some, Bool.or_eq_true, decide_eq_true_eq, reduceCtorEq, false_implies,
      iff_true]
    split
    · rename_i runs
      exact (normalized (runs.imp_left (congrArg some))).symm
    · rfl

/-- A kept draft goes out as its stage did, where its fan is the stage's and its rack the one a stage
without one gets. -/
theorem sentAlike_kept {freshId : String} (range : stage.Accepted)
    (named : stage.title.filter (fun t => trim t ≠ "") = stage.title)
    (rear : stage.heatingElementRear = none → stage.fanSpeed = 100)
    (level : stage.rackPosition.getD 3 = 3) :
    SentAlike ((draftStage prompt stage).kept freshId) stage := by
  have speed := (fan_kept_draftStage prompt freshId range).mpr rear
  obtain ⟨_, _, frame⟩ := draftStage_frame prompt stage
  have sentMode_sent : (if sentMode stage = "wet" then "wet" else "dry") = sentMode stage := by
    unfold sentMode
    split <;> rfl
  have fahrenheit (celsius : ℚ) : sentFahrenheit (readCelsius celsius) = sentFahrenheit celsius :=
    congrArg asI32 (readCelsius_fahrenheit celsius)
  rw [frame] at speed ⊢
  refine
    { title := congrArg (·.getD "") named
      kind := rfl
      waits := rfl
      mode := sentMode_sent
      fahrenheit := fahrenheit _
      elements := rfl
      fan := speed
      vent := rfl
      rack := level.symm
      steam := rfl
      duration := rfl
      target := ?target }
  case target =>
    show (if stage.durationSecs.isSome then none else (sentTarget stage).map readCelsius).map
      sentFahrenheit = (sentTarget stage).map sentFahrenheit
    unfold sentTarget
    split
    · rfl
    · rw [Option.map_map]
      exact congrArg (Option.map · _) (funext fahrenheit)

/-- **What goes out again**: under whatever ids, a kept draft goes out as its stage did exactly there. -/
theorem mask_kept_iff {freshId : String} (range : stage.Accepted)
    (named : stage.title.filter (fun t => trim t ≠ "") = stage.title) (id id' : Option String) :
    (startStageJson fresh { (draftStage prompt stage).kept freshId with id := id }).mask looseFields =
        (startStageJson fresh' { stage with id := id' }).mask looseFields ↔
      (stage.heatingElementRear = none → stage.fanSpeed = 100) ∧ stage.rackPosition.getD 3 = 3 := by
  constructor
  · intro same
    obtain ⟨fan, level⟩ := fan_rack_of_mask same
    obtain ⟨_, _, frame⟩ := draftStage_frame prompt stage
    refine ⟨(fan_kept_draftStage prompt freshId range).mp fan, ?_⟩
    rw [frame] at level
    exact level.symm
  · rintro ⟨rear, level⟩
    exact mask_startStageJson ((sentAlike_kept range named rear level).renamed id id')

/-! ## The cook that is saved -/

/-- A stage object as the oven is documented to echo it. -/
def documentedEcho (object : Json) : Json := object.eraseAll lossyFields

/-- The oven reports a cook of the objects it was sent. -/
def ReportsBack (oven : OvenState) (cookId : String) (objects : List Json) : Prop :=
  ∃ cook, oven.cook = some cook ∧ cook.cookId = some cookId ∧
    cook.stages = objects.map documentedEcho

theorem ReportsBack.ovenCook {oven : OvenState} {cookId : String} {objects : List Json}
    (h : ReportsBack oven cookId objects) :
    ∃ cook, toOvenCook oven = some cook ∧ cook.cookId = cookId ∧
      cook.stages = objects.map fun object => stageFromJson (documentedEcho object) := by
  obtain ⟨cook, running, named, stages⟩ := h
  refine ⟨⟨cookId, cook.stages.map stageFromJson, cook.stages, cook.secondsElapsed.getD 0⟩, ?_, rfl, ?_⟩
  · unfold toOvenCook
    rw [running, Option.bind_eq_bind, Option.bind_some, named]
    rfl
  · rw [stages, List.map_map]
    rfl

/-- The commands that start a recipe in local mode: by its id, where the state machine lists it and its
file, if there still is one, has a title; or with its title and stages. -/
inductive StartsRecipe (server : Server) (recipe : Recipe) : Input → Prop where
  | listed (recipeId : String) (known : server.sm.connectivity.cookerId.isSome)
      (found : server.sm.recipes.find? (fun r => r.id = recipeId) = some recipe)
      (file : ∀ kept, server.store.recipe recipe.id = some kept → trim kept.title ≠ "") :
      StartsRecipe server recipe (.command (.startCook recipeId))
  | stages (known : server.sm.connectivity.cookerId.isSome) :
      StartsRecipe server recipe (.command (.startManualCook recipe.title recipe.stages))

variable {read : Bytes → Option HistoryEntry} {server : Server} {i : ServerInput}
variable {ids : Nat → String} {draft accepted : Recipe}

/-- A start of a recipe is one the state machine accepts, and what the journal is titled isn't blank. -/
theorem StartsRecipe.starts (h : StartsRecipe server accepted i.input) (titled : trim accepted.title ≠ "") :
    ∃ cmd recipe started, i.input = .command cmd ∧ Starts i.env server.sm cmd recipe started ∧
      recipe.stages = accepted.stages ∧ trim (server.store.startedTitle started) ≠ "" := by
  obtain ⟨env, input, clock⟩ := i
  cases h with
  | listed recipeId known found file =>
    refine ⟨_, _, _, rfl, .recipe recipeId accepted known found, rfl, ?_⟩
    unfold LocalStore.startedTitle
    dsimp only
    cases kept : server.store.recipe accepted.id with
    | none => exact show trim manualTitle ≠ "" by decide +kernel
    | some recipe => exact file recipe kept
  | stages known => exact ⟨_, _, _, rfl, .manual accepted.title accepted.stages known, rfl, titled⟩

/-- A save has a title where its cook has. -/
theorem saveTitle_titled {cook : CurrentCook} (title : Option String)
    (titled : trim cook.recipeTitle ≠ "") : trim (saveTitle title cook) ≠ "" := by
  have named : trim cook.displayName ≠ "" := by
    unfold CurrentCook.displayName
    split
    · decide +kernel
    · exact titled
  unfold saveTitle
  cases asked : title.filter fun t => trim t ≠ "" with
  | none => exact named
  | some own => simpa using (Option.filter_eq_some_iff.mp asked).2

/-- The prompt the cook of an accepted recipe has under the id a stage was sent with. -/
def heldPrompt (fresh : Fresh) (stages : List Stage) (i : Nat) (stage : Stage) : Option String :=
  (CookExtras.fromStages (startedStages fresh stages)).prompts.lookup (sentId stages i stage)

/-- The stages of a recipe that are sent with the id of a stage that has a prompt wait. -/
def PromptsWait (stages : List Stage) : Prop :=
  ∀ i j a b, stages[i]? = some a → stages[j]? = some b → sentId stages i a = sentId stages j b →
    a.prompt.isSome → b.userActionRequired = some true

section Accepted

variable {fresh : Fresh}

/-- A started stage of an accepted recipe is the recipe's, under its sent id. -/
theorem startedStages_accepted (ok : normalize ids draft = .ok accepted) (i : Nat) :
    (startedStages fresh accepted.stages)[i]? = accepted.stages[i]?.map fun stage =>
      { stage with id := some (sentId accepted.stages i stage) } := by
  rw [startedStages_getElem?]
  cases at' : accepted.stages[i]? with
  | none => rfl
  | some stage =>
    rw [Option.map_some, Option.map_some, startedStages_sentId (normalize_stage_id ok) at']

/-- The stages of the cook that a start is reported back as: what the oven echoes of the sent ones, under
the start's extras. -/
def reportedStages (wire : Nat → String) (sent : List Stage) : List Stage :=
  (CookExtras.fromStages sent).apply
    ((startStagesJson wire sent).map fun object => stageFromJson (documentedEcho object))

/-- The drafts of an accepted recipe's stages, each under the prompt held for it. -/
def draftStages (fresh : Fresh) (stages : List Stage) : List Stage :=
  stages.mapIdx fun i stage => draftStage (heldPrompt fresh stages i stage) stage

/-- **A save's stages** are the drafts of the recipe's. -/
theorem saveStages_eq (ok : normalize ids draft = .ok accepted) {wire : Nat → String}
    {cook : CurrentCook}
    (stages : cook.stages = reportedStages wire (startedStages fresh accepted.stages)) :
    saveStages cook = draftStages fresh accepted.stages := by
  apply List.ext_getElem?
  intro i
  have sent := @startedStages_accepted ids draft accepted fresh ok i
  unfold saveStages draftStages
  rw [List.getElem?_mapIdx, List.getElem?_map, stages, reportedStages, CookExtras.apply_getElem?,
    List.getElem?_map]
  cases at' : accepted.stages[i]? with
  | none =>
    rw [at', Option.map_none] at sent
    simp [startStagesJson, List.getElem?_mapIdx, sent]
  | some stage =>
    rw [at', Option.map_some] at sent
    have range : Stage.Accepted { stage with id := some (sentId accepted.stages i stage) } :=
      { normalize_accepted ok stage (List.mem_of_getElem? at') with }
    have named : normalizeStageIdForWs (wire i) (some (sentId accepted.stages i stage)) =
        sentId accepted.stages i stage := normalizeStageIdForWs_again "" (wire i) _
    have turnOff := fromStages_turnOff (fun _ _ at' => startedStages_turnOff ok at') sent
    rw [startStagesJson_getElem? sent, Option.map_some, Option.map_some, Option.map_some,
      Option.map_some, documentedEcho, stageFromJson_eraseAll (fun _ => id) (by decide) range]
    dsimp only [readFrom]
    rw [named, List.length_map, startStagesJson_length, turnOff]
    rfl

/-- A held prompt is that of a stage sent under the same id. -/
theorem heldPrompt_some (ok : normalize ids draft = .ok accepted) {j : Nat} {b : Stage} {text : String}
    (held : heldPrompt fresh accepted.stages j b = some text) :
    ∃ i a, accepted.stages[i]? = some a ∧ sentId accepted.stages i a = sentId accepted.stages j b ∧
      a.prompt = some text := by
  obtain ⟨sent, item, named, waits⟩ := fromStages_lookup held
  obtain ⟨i, at'⟩ := List.mem_iff_getElem?.mp item
  rw [startedStages_accepted ok] at at'
  obtain ⟨a, atA, rfl⟩ := Option.map_eq_some_iff.mp at'
  exact ⟨i, a, atA, Option.some.inj named, waits⟩

/-- Held prompts are as `normalize` keeps them. -/
theorem heldPrompt_kept (ok : normalize ids draft = .ok accepted) (j : Nat) (b : Stage) :
    KeptPrompt (heldPrompt fresh accepted.stages j b) := by
  cases held : heldPrompt fresh accepted.stages j b with
  | none => exact ⟨rfl, fun _ none => by cases none⟩
  | some text =>
    obtain ⟨i, a, at', _, own⟩ := heldPrompt_some ok held
    obtain ⟨passes, kept⟩ := normalize_settled ok at'
    have trimmed : trimPrompt (some text) = some text := by
      rw [← own]
      exact congrArg Stage.prompt (kept "")
    refine ⟨trimmed, ?_⟩
    intro _ same
    cases same
    have trimmedOwn : trimPrompt a.prompt = some text := by
      rw [own]
      exact trimmed
    exact (passes.prompt text trimmedOwn).1

/-- Stages with a held prompt wait exactly where the stages under a prompt's id do. -/
theorem promptsWait_iff (ok : normalize ids draft = .ok accepted) :
    PromptsWait accepted.stages ↔
      ∀ j b, accepted.stages[j]? = some b → (heldPrompt fresh accepted.stages j b).isSome →
        b.userActionRequired = some true := by
  constructor
  · intro wait j b at' has
    obtain ⟨text, held⟩ := Option.isSome_iff_exists.mp has
    obtain ⟨i, a, atA, same, own⟩ := heldPrompt_some ok held
    exact wait i j a b atA at' same (by rw [own]; rfl)
  · intro wait i j a b atA at' same has
    apply wait j b at'
    have sent : (startedStages fresh accepted.stages)[i]? =
        some { a with id := some (sentId accepted.stages i a) } := by
      rw [startedStages_accepted ok, atA]
      rfl
    exact fromStages_lookup_isSome (List.mem_of_getElem? sent) (congrArg some same) has

/-- The draft of a save passes exactly where its stages do. -/
theorem savedRecipe_ok_iff (ok : normalize ids draft = .ok accepted) {wire : Nat → String}
    {cook : CurrentCook}
    (stages : cook.stages = reportedStages wire (startedStages fresh accepted.stages))
    (titled : trim cook.recipeTitle ≠ "") {recipeId : String} {stageId : Nat → String}
    {title : Option String} {saved : Recipe} :
    savedRecipe recipeId stageId title cook = .ok saved ↔
      (∀ j stage, accepted.stages[j]? = some stage →
        (draftStage (heldPrompt fresh accepted.stages j stage) stage).Passes
          (j + 1 = accepted.stages.length)) ∧
      saved = Recipe.kept stageId
        ⟨recipeId, saveTitle title cook, 0, draftStages fresh accepted.stages, .own⟩ := by
  unfold savedRecipe createRecipe
  rw [normalize_ok_iff, saveStages_eq ok stages]
  have length : (draftStages fresh accepted.stages).length = accepted.stages.length :=
    List.length_mapIdx
  apply and_congr_left
  intro _
  constructor
  · intro passes j stage at'
    have drafted := passes.each j (draftStage (heldPrompt fresh accepted.stages j stage) stage)
      (by show (draftStages fresh accepted.stages)[j]? = _
          rw [draftStages, List.getElem?_mapIdx, at']
          rfl)
    rwa [length] at drafted
  · intro each
    refine ⟨saveTitle_titled title titled, ?_, ?_⟩
    · intro empty
      exact normalize_nonempty ok (List.mapIdx_eq_nil_iff.mp empty)
    · intro j drafted at'
      rw [draftStages, List.getElem?_mapIdx] at at'
      obtain ⟨stage, atStage, rfl⟩ := Option.map_eq_some_iff.mp at'
      rw [length]
      exact each j stage atStage

/-- A cook can be saved, and a start of the saved recipe sends the objects it was sent itself but for the
loose fields. -/
def CooksTheSame (objects : List Json) (cook : CurrentCook) : Prop :=
  ∀ recipeId stageId title, ∃ saved, savedRecipe recipeId stageId title cook = .ok saved ∧
    ∀ env s cmd started, Starts env s cmd saved started →
      ∀ requestId cookId sentRecipeId sent,
        .ws (.sendStart requestId cookId sentRecipeId sent) ∈
          stateMachine.effects s (env, .command cmd) →
        ∀ wire, (startStagesJson wire sent).map (·.mask looseFields) =
          objects.map (·.mask looseFields)

/-- What is kept of the drafts goes out, at each place, as the recipe's stage there did. -/
theorem kept_objects_iff (ok : normalize ids draft = .ok accepted) {wire wire' : Nat → String}
    {fresh' : Fresh} {stageId : Nat → String} :
    (startStagesJson wire' (startedStages fresh'
        ((draftStages fresh accepted.stages).mapIdx fun j stage => stage.kept (stageId j)))).map
          (·.mask looseFields) =
        (startStagesJson wire (startedStages fresh accepted.stages)).map (·.mask looseFields) ↔
      ∀ (j : Nat) (stage : Stage), accepted.stages[j]? = some stage →
        (stage.heatingElementRear = none → stage.fanSpeed = 100) ∧
          stage.rackPosition.getD 3 = 3 := by
  have settled {j : Nat} {stage : Stage} (at' : accepted.stages[j]? = some stage) :
      stage.Accepted ∧ stage.title.filter (fun t => trim t ≠ "") = stage.title :=
    ⟨normalize_accepted ok stage (List.mem_of_getElem? at'),
      congrArg Stage.title ((normalize_settled ok at').2 "")⟩
  have again {j : Nat} {stage : Stage} (at' : accepted.stages[j]? = some stage) :
      ∃ id, (startedStages fresh'
          ((draftStages fresh accepted.stages).mapIdx fun j stage => stage.kept (stageId j)))[j]? =
        some { (draftStage (heldPrompt fresh accepted.stages j stage) stage).kept (stageId j) with
          id := id } := by
    have kept : ((draftStages fresh accepted.stages).mapIdx fun j stage => stage.kept (stageId j))[j]? =
        some ((draftStage (heldPrompt fresh accepted.stages j stage) stage).kept (stageId j)) := by
      rw [List.getElem?_mapIdx, draftStages, List.getElem?_mapIdx, at']
      rfl
    rw [startedStages_getElem?, kept]
    exact ⟨_, rfl⟩
  have first {j : Nat} {stage : Stage} (at' : accepted.stages[j]? = some stage) :
      (startedStages fresh accepted.stages)[j]? =
        some { stage with id := some (sentId accepted.stages j stage) } := by
    rw [startedStages_accepted ok, at']
    rfl
  rw [map_eq_map_iff_getElem? (by simp [startedStages_length, draftStages])]
  constructor
  · intro same j stage at'
    obtain ⟨range, named⟩ := settled at'
    obtain ⟨id, second⟩ := again at'
    exact (mask_kept_iff range named id _).mp
      (same j _ _ (startStagesJson_getElem? second) (startStagesJson_getElem? (first at')))
  · intro each j object object' atSecond atFirst
    cases at' : accepted.stages[j]? with
    | none =>
      have beyond : (startStagesJson wire (startedStages fresh accepted.stages))[j]? = none := by
        rw [List.getElem?_eq_none_iff, startStagesJson_length, startedStages_length]
        exact List.getElem?_eq_none_iff.mp at'
      rw [beyond] at atFirst
      cases atFirst
    | some stage =>
      obtain ⟨range, named⟩ := settled at'
      obtain ⟨id, second⟩ := again at'
      rw [startStagesJson_getElem? second] at atSecond
      rw [startStagesJson_getElem? (first at')] at atFirst
      cases atSecond
      cases atFirst
      exact (mask_kept_iff range named id _).mpr (each j stage at')

/-- What one stage of a recipe and its held prompt must be, as the two conditions of the law have it. -/
theorem cooksAgain_iff (ok : normalize ids draft = .ok accepted) :
    (∀ (j : Nat) (stage : Stage), accepted.stages[j]? = some stage →
        (draftStage (heldPrompt fresh accepted.stages j stage) stage).Passes
            (j + 1 = accepted.stages.length) ∧
          (stage.heatingElementRear = none → stage.fanSpeed = 100) ∧
          stage.rackPosition.getD 3 = 3) ↔
      (∀ stage ∈ accepted.stages, CooksAgain stage) ∧ PromptsWait accepted.stages := by
  have passes_iff {j : Nat} {stage : Stage} (at' : accepted.stages[j]? = some stage) :=
    draftStage_passes_iff (normalize_settled ok at').1 (@heldPrompt_kept ids draft accepted fresh ok j stage)
  rw [@promptsWait_iff ids draft accepted fresh ok]
  constructor
  · intro each
    refine ⟨?_, ?_⟩
    · intro stage item
      obtain ⟨j, at'⟩ := List.mem_iff_getElem?.mp item
      obtain ⟨passes, rear, rack⟩ := each j stage at'
      obtain ⟨off, turnOff, _⟩ := (passes_iff at').mp passes
      exact ⟨⟨off, rear⟩, rack, turnOff⟩
    · intro j stage at'
      exact ((passes_iff at').mp (each j stage at').1).2.2
  · rintro ⟨again, wait⟩ j stage at'
    have own := again stage (List.mem_of_getElem? at')
    exact ⟨(passes_iff at').mpr ⟨own.off, own.turnOff, wait j stage at'⟩, own.rear, own.rack⟩

/-- **Saved cooks**, from the cook's side: a cook of what the oven echoes of an accepted recipe's start
cooks the same exactly where the recipe's stages come back and its prompts wait. -/
theorem cooksTheSame_iff (ok : normalize ids draft = .ok accepted) {wire : Nat → String}
    {cook : CurrentCook}
    (stages : cook.stages = reportedStages wire (startedStages fresh accepted.stages))
    (titled : trim cook.recipeTitle ≠ "") :
    CooksTheSame (startStagesJson wire (startedStages fresh accepted.stages)) cook ↔
      (∀ stage ∈ accepted.stages, CooksAgain stage) ∧ PromptsWait accepted.stages := by
  rw [← @cooksAgain_iff ids draft accepted fresh ok]
  constructor
  · intro same j stage at'
    obtain ⟨saved, save, again⟩ := same "" (fun _ => "") none
    obtain ⟨passes, rfl⟩ := (savedRecipe_ok_iff ok stages titled).mp save
    have starts := Kitchen.starts_listed (Recipe.kept (fun _ => "")
      ⟨"", saveTitle none cook, 0, draftStages fresh accepted.stages, .own⟩)
    have objects := again _ _ _ _ starts _ _ _ _ (by rw [starts.effects]; exact List.mem_cons_self) wire
    exact ⟨passes j stage at', (kept_objects_iff ok).mp objects j stage at'⟩
  · intro each recipeId stageId title
    refine ⟨_, (savedRecipe_ok_iff ok stages titled).mpr ⟨fun j stage at' => (each j stage at').1, rfl⟩,
      ?_⟩
    intro env s cmd started starts requestId cookId sentRecipeId sent sends wire'
    obtain ⟨_, rfl⟩ := starts.sends sends
    exact (kept_objects_iff ok).mpr fun j stage at' => (each j stage at').2

end Accepted

/-- The current cook of a start the oven reports back: its stages, and a title. -/
theorem current_reported (ok : normalize ids draft = .ok accepted)
    (starts : StartsRecipe server accepted i.input) {requestId cookId recipeId : String}
    {sent : List Stage}
    (sends : .ws (.sendStart requestId cookId recipeId sent) ∈
      stateMachine.effects server.sm (i.env, i.input))
    {block : List StoreOp} (ofCook : ∀ op ∈ block, op.OfCook cookId) {wire : Nat → String}
    {oven : OvenState} (reports : ReportsBack oven cookId (startStagesJson wire sent)) {now : Moment}
    {cook : CurrentCook}
    (current : ((storeOps.run ((serverMachine read).next server i).store block).currentCook
      (toOvenCook oven) now).2 = .ok (some cook)) :
    sent = startedStages i.env.fresh accepted.stages ∧ cook.stages = reportedStages wire sent ∧
      trim cook.recipeTitle ≠ "" := by
  obtain ⟨env, input, clock⟩ := i
  obtain ⟨passes, _⟩ := normalize_ok_iff.mp ok
  have titled : trim accepted.title ≠ "" := by
    rw [normalize_title ok, trim_trim]
    exact passes.title
  obtain ⟨cmd, recipe, started, rfl, starts, same, title⟩ := starts.starts titled
  obtain ⟨rfl, rfl⟩ := starts.sends sends
  have identity := @started_identity read server ⟨env, .command cmd, clock⟩ _ _ _ _ starts.effects
  obtain ⟨ovenCook, isCook, own, stages⟩ := reports.ovenCook
  rw [isCook] at current
  obtain ⟨borne, result, bears⟩ := LocalStore.currentCook_borne _ now ovenCook own
  obtain rfl := Option.some.inj (Except.ok.inj (current.symm.trans result))
  rw [LocalStore.run_identity _ ofCook, identity] at bears
  refine ⟨by rw [same], ?_, ?_⟩
  · rw [bears.stages, stages]
    rfl
  · rw [bears.title]
    exact title

/-- **A saved cook cooks the same**: where the oven reports an accepted recipe's start back as it is
documented to, the cook can be saved and the saved recipe goes out as the recipe did, but for ids and
whole degrees Celsius, exactly where every stage comes back and the prompts wait. -/
theorem saved_cook_alike_iff (read : Bytes → Option HistoryEntry)
    (ok : normalize ids draft = .ok accepted) (starts : StartsRecipe server accepted i.input)
    {requestId cookId recipeId : String} {sent : List Stage}
    (sends : .ws (.sendStart requestId cookId recipeId sent) ∈
      stateMachine.effects server.sm (i.env, i.input))
    {block : List StoreOp} (ofCook : ∀ op ∈ block, op.OfCook cookId) {wire : Nat → String}
    {oven : OvenState} (reports : ReportsBack oven cookId (startStagesJson wire sent)) {now : Moment}
    {cook : CurrentCook}
    (current : ((storeOps.run ((serverMachine read).next server i).store block).currentCook
      (toOvenCook oven) now).2 = .ok (some cook)) :
    CooksTheSame (startStagesJson wire sent) cook ↔
      (∀ stage ∈ accepted.stages, CooksAgain stage) ∧ PromptsWait accepted.stages := by
  obtain ⟨rfl, stages, titled⟩ := current_reported ok starts sends ofCook reports current
  exact cooksTheSame_iff ok stages titled

namespace Kitchen

/-- The oven, reporting back a start of objects. -/
def reportsBack (cookId : String) (objects : List Json) : OvenState where
  nodes := {
    lampOn := true
    relativeHumidity := none
    temperatureBulbs := ⟨⟨180, some 180⟩, ⟨60, none⟩, "dry"⟩
    temperatureProbe := none
    timer := ⟨0, 0, "idle"⟩ }
  state := ⟨"cook", "C", []⟩
  cook := some ⟨some cookId, some 0, none, objects.map documentedEcho, false, some 60⟩

/-- The cook of a roast's start, reported back. -/
def reportedRoast (stage : Stage) : CurrentCook :=
  (⟨"ios-roast", none, "Roast", "2023-11-14T22:13:20Z", 1, none,
      CookExtras.fromStages (startedStages (Kitchen.env "roast").fresh [stage])⟩ : ActiveCook).currentCook
    ⟨"ios-roast", (startStagesJson toString (startedStages (Kitchen.env "roast").fresh [stage])).map
      fun object => stageFromJson (documentedEcho object), [], 60⟩

/-- The roast, on the fifth rack. -/
def lowRoast : Stage := { roast with rackPosition := some 5 }

/-- The start of a roast, with its stage. -/
def startsStage (stage : Stage) : ServerInput :=
  receives (Kitchen.env "roast", .command (.startManualCook "Roast" [stage]))

/-- What the oven is sent for it. -/
def roastObjects (stage : Stage) : List Json :=
  startStagesJson toString (startedStages (Kitchen.env "roast").fresh [stage])

/-- The current cook of a roast's start, once it's reported back. -/
theorem reportedRoast_current (stage : Stage) :
    ((storeOps.run ((serverMachine fun _ => none).next idleServer (startsStage stage)).store
      []).currentCook (toOvenCook (reportsBack "ios-roast" (roastObjects stage)))
        (moment "2023-11-14T22:14:20Z")).2 = .ok (some (reportedRoast stage)) := by
  rfl

end Kitchen

/-- A roast on the middle rack cooks the same. -/
theorem saved_cook_alike_roast :
    CooksTheSame (Kitchen.roastObjects Kitchen.roast) (Kitchen.reportedRoast Kitchen.roast) :=
  (saved_cook_alike_iff (fun _ => none)
    (show normalize toString (Kitchen.recipeOf Kitchen.roast) =
      .ok (Kitchen.recipeOf Kitchen.roast) by decide +kernel)
    (i := Kitchen.startsStage Kitchen.roast)
    (.stages (show Kitchen.idleServer.sm.connectivity.cookerId.isSome by decide))
    List.mem_cons_self (by simp) ⟨_, rfl, rfl, rfl⟩
    (Kitchen.reportedRoast_current Kitchen.roast)).mpr
    ⟨by
      intro stage item
      cases List.mem_singleton.mp item
      exact ⟨⟨.inl rfl, by decide⟩, rfl, by decide⟩,
    by
      intro i j a b atA atB _ has
      cases List.mem_singleton.mp (List.mem_of_getElem? atA)
      cases has⟩

/-- The fifth rack is not: the oven reports no rack, the saved roast has none, and goes out on the
third. -/
theorem saved_cook_moves_rack :
    ¬ ∀ (ids : Nat → String) (draft accepted : Recipe), normalize ids draft = .ok accepted →
      ∀ (server : Server) (i : ServerInput), StartsRecipe server accepted i.input →
      ∀ (requestId cookId recipeId : String) (sent : List Stage),
        .ws (.sendStart requestId cookId recipeId sent) ∈
          stateMachine.effects server.sm (i.env, i.input) →
        ∀ (block : List StoreOp), (∀ op ∈ block, op.OfCook cookId) →
        ∀ (wire : Nat → String) (oven : OvenState),
          ReportsBack oven cookId (startStagesJson wire sent) →
          ∀ (now : Moment) (cook : CurrentCook),
            ((storeOps.run ((serverMachine fun _ => none).next server i).store block).currentCook
              (toOvenCook oven) now).2 = .ok (some cook) →
            CooksTheSame (startStagesJson wire sent) cook := by
  intro always
  have ok : normalize toString (Kitchen.recipeOf Kitchen.lowRoast) =
      .ok (Kitchen.recipeOf Kitchen.lowRoast) := by decide +kernel
  have same := always toString _ _ ok Kitchen.idleServer (Kitchen.startsStage Kitchen.lowRoast)
    (.stages (show Kitchen.idleServer.sm.connectivity.cookerId.isSome by decide)) _ _ _ _
    List.mem_cons_self [] (by simp) toString _ ⟨_, rfl, rfl, rfl⟩ _ _
    (Kitchen.reportedRoast_current Kitchen.lowRoast)
  obtain ⟨again, _⟩ := (cooksTheSame_iff ok rfl (by decide +kernel)).mp same
  have rack := (again Kitchen.lowRoast List.mem_cons_self).rack
  exact absurd rack (by decide)

end AnovaOven
