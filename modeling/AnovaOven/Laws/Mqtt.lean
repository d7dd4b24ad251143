import AnovaOven.Laws.MqttRecipes
import AnovaOven.Processors.Mqtt

/-!
# Laws of what Home Assistant sees

The processor publishes what changed since it published last, so it must know what the broker holds.

**The broker holds what is served** (`retained_mirrors`): from a connect on, whatever changes and commands come
and until the connection drops, each retained topic is that of the sources read last: the oven's state, whether
the next stage may be started, the recipes, the select's configuration and the one selected of them, and, in the
unit that the oven told last, the manual cook and all other configurations. What the broker held before, or
forgot with an earlier connection, doesn't matter.

The attributes of the selected recipe are published with the selection only. A change of the recipe's stages or
of the unit alone isn't: the attributes keep those they had as the selection was published last
(`lastAttributes`).
-/

namespace AnovaOven

open Publish

/-! ## The select -/

namespace RecipeSelect

/-- The option of what is selected. -/
def title (select : RecipeSelect) : Option String :=
  (select.selected.bind fun id => select.options.find? fun o => o.2 = id).map Prod.fst

/-- The attributes of what a select shows, in a unit. -/
def attributes (select : RecipeSelect) (unit : String) : Payload :=
  match select.shown with
  | some (_, recipe) => .attributes recipe unit
  | none => .noAttributes

/-- A select that is current shows the option of what is selected. -/
theorem Current.shown_title {select : RecipeSelect} (current : select.Current) :
    select.shown.map Prod.fst = select.title := by
  unfold shown title
  cases select.selected with
  | none => rfl
  | some id =>
    rw [Option.bind_some, Option.bind_some]
    cases named : select.options.find? fun o => o.2 = id with
    | none => rfl
    | some o =>
      have mem := List.mem_of_find?_eq_some named
      have isId : o.2 = id := by simpa using List.find?_some named
      rw [current.options] at mem
      obtain ⟨recipe, item, named'⟩ := List.mem_map.mp
        ((options_cover select.recipes).subset (List.mem_map_of_mem mem))
      have held : (select.recipes.find? fun recipe => recipe.id = id).isSome := by
        rw [List.find?_isSome]
        exact ⟨recipe, item, by simpa [isId] using named'⟩
      obtain ⟨found, isFound⟩ := Option.isSome_iff_exists.mp held
      rw [Option.bind_some, isFound]
      rfl

/-- A select that is current shows the recipe that is selected. -/
theorem Current.shown_recipe {select : RecipeSelect} (current : select.Current) {id : String}
    (selected : select.selected = some id) :
    ∃ title recipe, select.shown = some (title, recipe) ∧ recipe.id = id := by
  have shown := current.shown_title
  rcases current.selected with listed | ⟨unselected, _⟩
  · have titled : select.title.isSome := by
      unfold title
      rw [selected, Option.any_some, List.any_eq_true] at listed
      rw [selected, Option.bind_some, Option.isSome_map, List.find?_isSome]
      exact listed
    rw [← shown, Option.isSome_map, Option.isSome_iff_exists] at titled
    obtain ⟨⟨title, recipe⟩, isShown⟩ := titled
    refine ⟨title, recipe, isShown, ?_⟩
    unfold RecipeSelect.shown at isShown
    rw [selected, Option.bind_some] at isShown
    obtain ⟨o, _, isShown⟩ := Option.bind_eq_some_iff.mp isShown
    obtain ⟨found, isFound, pair⟩ := Option.map_eq_some_iff.mp isShown
    cases pair
    simpa using List.find?_some isFound
  · rw [selected] at unselected
    cases unselected

/-- Recipes whose options are the same are as many. -/
theorem length_of_options {recipes recipes' : List Recipe}
    (same : AnovaOven.options recipes = AnovaOven.options recipes') : recipes.length = recipes'.length := by
  have covers := (options_cover recipes).length_eq
  have covers' := (options_cover recipes').length_eq
  rw [List.length_map, List.length_map] at covers covers'
  rw [← covers, ← covers', same]

end RecipeSelect

/-! ## The parts of a change -/

namespace MqttProcessor

variable {texts : MqttTexts} {p : MqttProcessor} {broker : Broker}

/-- The broker holds attributes of what is selected, as it was at some time. -/
def HoldsAttributes (select : RecipeSelect) (broker : Broker) : Prop :=
  match select.selected with
  | none => broker .selectedAttributes = some .noAttributes
  | some id => ∃ recipe unit, recipe.id = id ∧ broker .selectedAttributes = some (.attributes recipe unit)

/-- The broker holds the recipes of the select. -/
structure HoldsRecipes (p : MqttProcessor) (broker : Broker) : Prop where
  current : p.select.Current
  recipes : broker .recipes = some (.titles p.titles)
  recipeSelect : broker .recipeSelect = some (.selectConfig p.titles)
  selected : broker .selected = some (.text (p.select.title.getD "No recipes"))
  attributes : HoldsAttributes p.select broker

/-- What is selected, once it's published. -/
theorem retained_selected (current : p.select.Current) (broker : Broker) :
    retained broker p.publishSelected =
      Function.update (Function.update broker .selected (some (.text (p.select.title.getD "No recipes"))))
        .selectedAttributes (some (p.select.attributes p.unitOr)) := by
  rw [← current.shown_title]
  unfold publishSelected RecipeSelect.attributes
  cases p.select.shown with
  | none => rfl
  | some shown => rfl

/-- Attributes that are published are of what is selected. -/
theorem holdsAttributes_update {select : RecipeSelect} (current : select.Current) (unit : String)
    (broker : Broker) :
    HoldsAttributes select (Function.update broker .selectedAttributes (some (select.attributes unit))) := by
  unfold HoldsAttributes RecipeSelect.attributes
  cases selected : select.selected with
  | none =>
    have untitled : select.shown = none := by
      unfold RecipeSelect.shown
      rw [selected]
      rfl
    rw [untitled]
    exact Function.update_self _ _ _
  | some id =>
    obtain ⟨title, recipe, shown, own⟩ := current.shown_recipe selected
    rw [shown]
    exact ⟨recipe, unit, own, Function.update_self _ _ _⟩

/-- Attributes are held until others are published. -/
theorem HoldsAttributes.of_same {select select' : RecipeSelect} {broker broker' : Broker}
    (holds : HoldsAttributes select broker) (selected : select'.selected = select.selected)
    (same : broker' .selectedAttributes = broker .selectedAttributes) : HoldsAttributes select' broker' := by
  unfold HoldsAttributes
  rw [selected, same]
  exact holds

/-- The topics of the recipes. -/
def OfRecipes (topic : Topic) : Prop :=
  topic = .recipes ∨ topic = .recipeSelect ∨ topic = .selected ∨ topic = .selectedAttributes

theorem reselect_same (select : RecipeSelect) :
    select.reselect.options = select.options ∧ select.reselect.recipes = select.recipes := by
  unfold RecipeSelect.reselect
  split <;> exact ⟨rfl, rfl⟩

/-- What the broker holds once the recipes are published, where it has the select's configuration. -/
theorem publishRecipes_holds (made : p.select.options = options p.select.recipes) (broker : Broker)
    (configured : broker .recipeSelect = some (.selectConfig p.titles)) :
    HoldsRecipes p.publishRecipes.1 (retained broker p.publishRecipes.2) ∧
      ∀ topic, ¬ OfRecipes topic → retained broker p.publishRecipes.2 topic = broker topic := by
  have current := p.select.reselect_current made
  have titles : p.publishRecipes.1.titles = p.titles := by
    show p.select.reselect.options.map Prod.fst = p.select.options.map Prod.fst
    rw [(reselect_same p.select).1]
  have published : retained broker p.publishRecipes.2 = _ :=
    retained_selected (p := p.publishRecipes.1) current
      (Function.update broker .recipes (some (.titles p.publishRecipes.1.titles)))
  rw [published]
  refine ⟨⟨current, ?_, ?_, ?_, holdsAttributes_update current _ _⟩, ?_⟩
  · simp
  · simp [configured, titles]
  · simp
  · intro topic other
    simp only [OfRecipes, not_or] at other
    simp [Function.update_of_ne, other]

/-- What a change of the recipes leaves. -/
structure ChangesRecipes (p p' : MqttProcessor) (recipes : List Recipe) : Prop where
  only : p' = { p with select := p'.select }
  recipes : p'.select.recipes = recipes

theorem changeRecipes_holds (recipes : List Recipe) (holds : p.HoldsRecipes broker) :
    ChangesRecipes p (p.changeRecipes recipes).1 recipes ∧
      HoldsRecipes (p.changeRecipes recipes).1 (retained broker (p.changeRecipes recipes).2) ∧
      ∀ topic, ¬ OfRecipes topic → retained broker (p.changeRecipes recipes).2 topic = broker topic := by
  have current := holds.current
  unfold changeRecipes
  dsimp only
  split
  · rename_i differ
    obtain ⟨held, others⟩ := publishRecipes_holds
      (p := { p with select := { p.select with recipes := recipes, options := options recipes } }) rfl
      (Function.update broker .recipeSelect (some (.selectConfig ((options recipes).map Prod.fst))))
      (Function.update_self _ _ _)
    refine ⟨⟨rfl, (reselect_same _).2⟩, held, ?_⟩
    intro topic other
    refine (others topic other).trans (Function.update_of_ne ?_ _ _)
    rintro rfl
    exact other (.inr (.inl rfl))
  · rename_i same
    have same : options recipes = options p.select.recipes := (not_not.mp same).trans current.options
    have long := RecipeSelect.length_of_options same
    rw [if_pos long]
    refine ⟨⟨rfl, rfl⟩, ⟨⟨current.options.trans same.symm, current.selected⟩, ?_, ?_, ?_, ?_⟩, fun _ _ => rfl⟩
    · exact holds.recipes
    · exact holds.recipeSelect
    · exact holds.selected
    · exact holds.attributes.of_same rfl rfl

/-- The broker holds the configurations of the unit, and the processor knows it. -/
structure HoldsUnit (p : MqttProcessor) (broker : Broker) : Prop where
  discovery : broker .discovery = some (.configs p.localMode p.unitOr)
  discovered : p.discoveredUnit = some p.unitOr

theorem publishDiscovery_holds (p : MqttProcessor) (broker : Broker) :
    HoldsUnit p.publishDiscovery.1 (retained broker p.publishDiscovery.2) ∧
      retained broker p.publishDiscovery.2 .recipeSelect = some (.selectConfig p.titles) ∧
      ∀ topic, topic ≠ .discovery → topic ≠ .recipeSelect →
        retained broker p.publishDiscovery.2 topic = broker topic := by
  have published : retained broker p.publishDiscovery.2 =
      Function.update (Function.update broker .discovery (some (.configs p.localMode p.unitOr)))
        .recipeSelect (some (.selectConfig p.titles)) := rfl
  rw [published]
  refine ⟨⟨by simp [publishDiscovery, unitOr], rfl⟩, Function.update_self _ _ _, ?_⟩
  intro topic other other'
  rw [Function.update_of_ne other', Function.update_of_ne other]

/-- What a change of the unit leaves. -/
structure ChangesUnit (p p' : MqttProcessor) (sources : Sources) : Prop where
  only : p' = { p with unit := p'.unit, discoveredUnit := p'.discoveredUnit }
  told : ∀ status, sources.status = some status → p'.unit = some status.temperatureUnit

/-- A processor that was told a unit. -/
def withUnit (p : MqttProcessor) (unit : String) : MqttProcessor := { p with unit := some unit }

/-- A unit is told of, and it's a new one or the one that the configurations went out in. -/
theorem changeUnit_cases (holds : p.HoldsUnit broker) (sources : Sources) :
    sources.status = none ∧ p.changeUnit sources = (p, []) ∨
      ∃ status, sources.status = some status ∧
        (p.changeUnit sources = (p.withUnit status.temperatureUnit).publishDiscovery ∨
          p.unitOr = status.temperatureUnit ∧
            p.changeUnit sources = (p.withUnit status.temperatureUnit, [])) := by
  unfold changeUnit
  cases told : sources.status with
  | none => exact .inl ⟨rfl, rfl⟩
  | some status =>
    refine .inr ⟨status, rfl, ?_⟩
    by_cases same : p.unitOr = status.temperatureUnit
    · refine .inr ⟨same, if_neg ?_⟩
      simp [holds.discovered, same]
    · refine .inl (if_pos ?_)
      simp [holds.discovered, same]

theorem changeUnit_holds (holds : p.HoldsUnit broker)
    (configured : broker .recipeSelect = some (.selectConfig p.titles)) (sources : Sources) :
    ChangesUnit p (p.changeUnit sources).1 sources ∧
      HoldsUnit (p.changeUnit sources).1 (retained broker (p.changeUnit sources).2) ∧
      ∀ topic, topic ≠ .discovery → retained broker (p.changeUnit sources).2 topic = broker topic := by
  rcases changeUnit_cases holds sources with ⟨untold, same⟩ | ⟨status, told, new | ⟨unit, same⟩⟩
  · rw [same]
    refine ⟨⟨rfl, ?_⟩, holds, fun _ _ => rfl⟩
    intro status told
    rw [untold] at told
    cases told
  · obtain ⟨held, select, others⟩ := (p.withUnit status.temperatureUnit).publishDiscovery_holds
      broker
    rw [new]
    refine ⟨⟨rfl, ?_⟩, held, ?_⟩
    · intro status' told'
      rw [told] at told'
      cases told'
      rfl
    · intro topic other
      by_cases isSelect : topic = .recipeSelect
      · rw [isSelect, select, configured]
        rfl
      · exact others topic other isSelect
  · rw [same]
    refine ⟨⟨rfl, ?_⟩, ⟨?_, ?_⟩, fun _ _ => rfl⟩
    · intro status' told'
      rw [told] at told'
      cases told'
      rfl
    · exact unit ▸ holds.discovery
    · exact unit ▸ holds.discovered

/-- The next stage may be started, as far as is read. -/
def ready (sources : Sources) : Bool := sources.snapshot.nextStageReady && sources.snapshot.connected

/-- The text that tells whether the next stage may be started. -/
def readyText (ready : Bool) : Payload := .text (if ready then "online" else "offline")

/-- The broker holds the two texts that the processor sent last. -/
structure HoldsState (p : MqttProcessor) (broker : Broker) : Prop where
  state : ∀ old, p.lastState = some old → broker .state = some (.text old)
  nextStage : ∀ old, p.nextStageReady = some old → broker .nextStageAvailability = some (readyText old)

theorem changeState_retained {sources : Sources} {force : Bool} (holds : force = false → p.HoldsState broker) :
    retained broker (p.changeState texts sources force).2 =
      Function.update (Function.update broker .state (some (.text (texts.state sources))))
        .nextStageAvailability (some (readyText (ready sources))) := by
  show retained broker (publishChanged _ _ _ _ _ ++ publishChanged _ _ _ _ _) = _
  rw [retained_append, retained_publishChanged _ fun calm => (holds calm).state]
  exact retained_publishChanged _ fun calm old sent =>
    (Function.update_of_ne (by decide) _ _).trans ((holds calm).nextStage old sent)

theorem changeSnapshot_retained (snapshot : Snapshot) :
    retained broker (p.changeSnapshot snapshot).2 = broker := by
  apply retained_events
  intro q item
  obtain ⟨milestone, _, rfl⟩ := List.mem_map.mp item
  rfl

theorem publishManual_retained (texts : MqttTexts)
    (held : ∀ old, p.lastManual = some old → broker .manual = some (.text old)) :
    retained broker (p.publishManual texts).2 =
      Function.update broker .manual (some (.text (texts.manualState p.manual p.unitOr))) :=
  retained_publishChanged _ fun _ => held

end MqttProcessor

/-! ## Any events -/

/-- The broker holds what is served. -/
structure HoldsServed (texts : MqttTexts) (sources : Sources) (p : MqttProcessor) (broker : Broker) : Prop where
  availability : broker .availability = some (.text "online")
  state : broker .state = some (.text (texts.state sources))
  nextStage : broker .nextStageAvailability = some (MqttProcessor.readyText (MqttProcessor.ready sources))
  recipes : broker .recipes = some (.titles ((options sources.recipes).map Prod.fst))
  recipeSelect : broker .recipeSelect = some (.selectConfig ((options sources.recipes).map Prod.fst))
  selected : broker .selected = some (.text (p.select.title.getD "No recipes"))
  attributes : MqttProcessor.HoldsAttributes p.select broker
  discovery : broker .discovery = some (.configs p.localMode p.unitOr)
  manual : broker .manual = some (.text (texts.manualState p.manual p.unitOr))
  options : p.select.options = options sources.recipes
  unit : ∀ status, sources.status = some status → p.unitOr = status.temperatureUnit

/-- And the processor knows what it holds. -/
structure Knows (texts : MqttTexts) (sources : Sources) (p : MqttProcessor) (broker : Broker) : Prop
    extends HoldsServed texts sources p broker where
  current : p.select.Current
  listed : p.select.recipes = sources.recipes
  discovered : p.discoveredUnit = some p.unitOr
  lastState : p.lastState = some (texts.state sources)
  lastReady : p.nextStageReady = some (MqttProcessor.ready sources)
  lastManual : p.lastManual = some (texts.manualState p.manual p.unitOr)

namespace MqttProcessor

variable {texts : MqttTexts} {p : MqttProcessor} {broker : Broker} {i : MqttInput}

/-- **A change** leaves the broker with what is served, whatever it is from, where the broker holds what the
processor takes it to hold. -/
theorem onChange_knows {sources : Sources} {force : Bool} (recipes : p.HoldsRecipes broker)
    (unit : p.HoldsUnit broker) (state : force = false → p.HoldsState broker)
    (manual : ∀ old, p.lastManual = some old → broker .manual = some (.text old))
    (available : broker .availability = some (.text "online")) :
    Knows texts sources (p.onChange texts sources force).1
      (retained broker (p.onChange texts sources force).2) := by
  obtain ⟨changed, recipes', others⟩ := changeRecipes_holds sources.recipes recipes
  unfold onChange
  generalize p.changeRecipes sources.recipes = r at changed recipes' others
  obtain ⟨p₁, published₁⟩ := r
  dsimp only at changed recipes' others ⊢
  have only₁ := changed.only
  have unit₁ : p₁.HoldsUnit (retained broker published₁) := by
    refine ⟨?_, ?_⟩
    · rw [others .discovery (by simp [OfRecipes]), unit.discovery, only₁]
      rfl
    · rw [only₁]
      exact unit.discovered
  obtain ⟨changed₂, unit₂, others₂⟩ := changeUnit_holds unit₁ recipes'.recipeSelect sources
  generalize p₁.changeUnit sources = r at changed₂ unit₂ others₂
  obtain ⟨p₂, published₂⟩ := r
  dsimp only at changed₂ unit₂ others₂ ⊢
  have only₂ := changed₂.only
  -- What the recipes and the unit leave of the broker and of the processor.
  have left : ∀ topic, ¬ OfRecipes topic → topic ≠ .discovery →
      retained (retained broker published₁) published₂ topic = broker topic :=
    fun topic other other' => (others₂ topic other').trans (others topic other)
  have state₂ : force = false → p₂.HoldsState (retained (retained broker published₁) published₂) := by
    intro calm
    refine ⟨?_, ?_⟩
    · intro old sent
      rw [left .state (by simp [OfRecipes]) (by decide)]
      refine (state calm).state old ?_
      rw [only₂, only₁] at sent
      exact sent
    · intro old sent
      rw [left .nextStageAvailability (by simp [OfRecipes]) (by decide)]
      refine (state calm).nextStage old ?_
      rw [only₂, only₁] at sent
      exact sent
  generalize isKept : retained (retained broker published₁) published₂ = kept at left state₂ unit₂ others₂
  have manual₂ : ∀ old, p₂.lastManual = some old →
      Function.update (Function.update kept .state (some (.text (texts.state sources))))
        .nextStageAvailability (some (readyText (ready sources))) .manual = some (.text old) := by
    intro old sent
    rw [Function.update_of_ne (by decide), Function.update_of_ne (by decide),
      left .manual (by simp [OfRecipes]) (by decide)]
    refine manual old ?_
    rw [only₂, only₁] at sent
    exact sent
  rw [retained_append, retained_append, retained_append, retained_append, isKept, changeState_retained state₂,
    changeSnapshot_retained]
  have published := publishManual_retained texts
    (p := ((p₂.changeState texts sources force).1.changeSnapshot sources.snapshot).1) manual₂
  rw [published]
  have select₂ : p₂.select = p₁.select := by rw [only₂]
  have options₁ : p₁.select.options = options sources.recipes := by
    rw [recipes'.current.options, changed.recipes]
  have titles₁ : p₁.titles = (options sources.recipes).map Prod.fst := congrArg (List.map Prod.fst) options₁
  -- A topic that is none of the last three is as the recipes and the unit left it.
  have early : ∀ topic held, topic ≠ .state → topic ≠ .nextStageAvailability → topic ≠ .manual →
      kept topic = held → Function.update (Function.update (Function.update kept .state
        (some (.text (texts.state sources)))) .nextStageAvailability (some (readyText (ready sources)))) .manual
        (some (.text (texts.manualState p₂.manual p₂.unitOr))) topic = held := by
    intro topic held notState notStage notManual isHeld
    rw [Function.update_of_ne notManual, Function.update_of_ne notStage, Function.update_of_ne notState, isHeld]
  refine { availability := ?_, state := ?_, nextStage := ?_, recipes := ?_, recipeSelect := ?_, selected := ?_,
           attributes := ?_, discovery := ?_, manual := ?_, options := ?_, unit := ?_, current := ?_,
           listed := ?_, discovered := ?_, lastState := rfl, lastReady := rfl, lastManual := rfl }
  · refine early _ _ (by decide) (by decide) (by decide) ?_
    rw [left .availability (by simp [OfRecipes]) (by decide), available]
  · rw [Function.update_of_ne (by decide), Function.update_of_ne (by decide), Function.update_self]
  · rw [Function.update_of_ne (by decide), Function.update_self]
  · refine early _ _ (by decide) (by decide) (by decide) ?_
    rw [others₂ .recipes (by decide), recipes'.recipes, titles₁]
  · refine early _ _ (by decide) (by decide) (by decide) ?_
    rw [others₂ .recipeSelect (by decide), recipes'.recipeSelect, titles₁]
  · refine early _ _ (by decide) (by decide) (by decide) ?_
    rw [others₂ .selected (by decide), recipes'.selected]
    show some (Payload.text (p₁.select.title.getD _)) = some (.text (p₂.select.title.getD _))
    rw [select₂]
  · refine recipes'.attributes.of_same ?_ ?_
    · exact congrArg RecipeSelect.selected select₂
    · exact early _ _ (by decide) (by decide) (by decide) (others₂ .selectedAttributes (by decide))
  · exact early _ _ (by decide) (by decide) (by decide) unit₂.discovery
  · exact Function.update_self _ _ _
  · show p₂.select.options = _
    rw [select₂, options₁]
  · intro status told
    show p₂.unit.getD "C" = _
    rw [changed₂.told status told]
    rfl
  · show p₂.select.Current
    rw [select₂]
    exact recipes'.current
  · show p₂.select.recipes = _
    rw [select₂, changed.recipes]
  · exact unit₂.discovered

/-- A processor that publishes all it has, and forgets what it sent. -/
def republished (p : MqttProcessor) : MqttProcessor :=
  { p.publishDiscovery.1.publishRecipes.1 with lastState := none, lastManual := none, nextStageReady := none }

theorem republished_knows (made : p.select.options = options p.select.recipes) (sources : Sources) :
    Knows texts sources (p.republished.onChange texts sources true).1
      (retained broker (p.publishDiscovery.2 ++ Topic.availability.retains (.text "online") ::
        p.publishDiscovery.1.publishRecipes.2 ++ (p.republished.onChange texts sources true).2)) := by
  obtain ⟨unit, configured, _⟩ := p.publishDiscovery_holds broker
  obtain ⟨recipes, others⟩ := publishRecipes_holds (p := p.publishDiscovery.1) made
    (Function.update (retained broker p.publishDiscovery.2) .availability (some (.text "online")))
    ((Function.update_of_ne (by decide) _ _).trans configured)
  rw [retained_append, retained_append]
  refine onChange_knows
    ⟨recipes.current, recipes.recipes, recipes.recipeSelect, recipes.selected, recipes.attributes⟩
    ⟨?discovery, unit.discovered⟩ ?state ?manual ?available
  case discovery =>
    refine (others .discovery (by simp [OfRecipes])).trans ?_
    rw [Function.update_of_ne (by decide)]
    exact unit.discovery
  case state =>
    intro calm
    cases calm
  case manual =>
    intro old sent
    cases sent
  case available =>
    exact (others .availability (by simp [OfRecipes])).trans (Function.update_self _ _ _)

/-- **A connect** leaves the broker with what is served, whatever it held before. -/
theorem onConnected_knows (sources : Sources) :
    Knows texts sources (p.onConnected texts sources).1 (retained broker (p.onConnected texts sources).2) :=
  republished_knows (p := { p with
    select := { p.select with recipes := sources.recipes, options := options sources.recipes }
    unit := (sources.status.map OvenStatus.temperatureUnit).or p.unit }) rfl sources

/-- A change that comes once the broker holds what is served. -/
theorem onChange_follows {sources : Sources} (knows : Knows texts sources p broker) (next : Sources) :
    Knows texts next (p.onChange texts next false).1 (retained broker (p.onChange texts next false).2) := by
  have titles : p.titles = (options sources.recipes).map Prod.fst := congrArg (List.map Prod.fst) knows.options
  refine onChange_knows ⟨knows.current, ?_, ?_, knows.selected, knows.attributes⟩
    ⟨knows.discovery, knows.discovered⟩ (fun _ => ⟨?_, ?_⟩) ?_ knows.availability
  · rw [knows.recipes, titles]
  · rw [knows.recipeSelect, titles]
  · intro old sent
    obtain rfl := Option.some.inj (knows.lastState.symm.trans sent)
    exact knows.state
  · intro old sent
    obtain rfl := Option.some.inj (knows.lastReady.symm.trans sent)
    exact knows.nextStage
  · intro old sent
    obtain rfl := Option.some.inj (knows.lastManual.symm.trans sent)
    exact knows.manual

/-- Another recipe of the same is selected, and published. -/
theorem reselected_knows {sources : Sources} (knows : Knows texts sources p broker) {select : RecipeSelect}
    (current : select.Current) (options : select.options = p.select.options)
    (recipes : select.recipes = p.select.recipes) :
    Knows texts sources { p with select := select }
      (retained broker (publishSelected { p with select := select })) := by
  rw [retained_selected (p := { p with select := select }) current broker]
  have other : ∀ (topic : Topic) (title held : Option Payload), topic ≠ .selected →
      topic ≠ .selectedAttributes → broker topic = held →
        Function.update (Function.update broker .selected title) .selectedAttributes
          (some (select.attributes p.unitOr)) topic = held :=
    fun topic title held notSelected notAttributes isHeld =>
      (Function.update_of_ne notAttributes _ _).trans ((Function.update_of_ne notSelected _ _).trans isHeld)
  exact {
    availability := other _ _ _ (by decide) (by decide) knows.availability
    state := other _ _ _ (by decide) (by decide) knows.state
    nextStage := other _ _ _ (by decide) (by decide) knows.nextStage
    recipes := other _ _ _ (by decide) (by decide) knows.recipes
    recipeSelect := other _ _ _ (by decide) (by decide) knows.recipeSelect
    selected := (Function.update_of_ne (by decide) _ _).trans (Function.update_self _ _ _)
    attributes := holdsAttributes_update current _ _
    discovery := other _ _ _ (by decide) (by decide) knows.discovery
    manual := other _ _ _ (by decide) (by decide) knows.manual
    options := options.trans knows.options
    unit := knows.unit
    current := current
    listed := recipes.trans knows.listed
    discovered := knows.discovered
    lastState := knows.lastState
    lastReady := knows.lastReady
    lastManual := knows.lastManual }

/-- A manual cook is set up otherwise, and published. -/
theorem drafted_knows {sources : Sources} (knows : Knows texts sources p broker) (manual : Manual.Draft) :
    Knows texts sources (publishManual texts { p with manual := manual }).1
      (retained broker (publishManual texts { p with manual := manual }).2) := by
  have published : retained broker (publishManual texts { p with manual := manual }).2 = _ :=
    publishManual_retained texts fun old sent => by
      obtain rfl := Option.some.inj (knows.lastManual.symm.trans sent)
      exact knows.manual
  rw [published]
  have other : ∀ (topic : Topic) (text held : Option Payload), topic ≠ .manual → broker topic = held →
      Function.update broker .manual text topic = held :=
    fun topic text held differs isHeld => (Function.update_of_ne differs _ _).trans isHeld
  exact {
    availability := other _ _ _ (by decide) knows.availability
    state := other _ _ _ (by decide) knows.state
    nextStage := other _ _ _ (by decide) knows.nextStage
    recipes := other _ _ _ (by decide) knows.recipes
    recipeSelect := other _ _ _ (by decide) knows.recipeSelect
    selected := other _ _ _ (by decide) knows.selected
    attributes := knows.attributes.of_same rfl (other _ _ _ (by decide) rfl)
    discovery := other _ _ _ (by decide) knows.discovery
    manual := Function.update_self _ _ _
    options := knows.options
    unit := knows.unit
    current := knows.current
    listed := knows.listed
    discovered := knows.discovered
    lastState := knows.lastState
    lastReady := knows.lastReady
    lastManual := rfl }

/-- A command to the select that is taken. -/
theorem selectRecipe_follows {sources : Sources} (knows : Knows texts sources p broker) (payload : String) :
    Knows texts sources (p.step texts (.selectRecipe payload)).1
      (retained broker (p.step texts (.selectRecipe payload)).2) := by
  have current := recipeSelect_current p.select (.selectRecipe payload) knows.current
  have next : recipeSelect.next p.select (.selectRecipe payload) = (p.select.selectRecipe payload).1 := rfl
  rw [next, RecipeSelect.selectRecipe] at current
  unfold step
  dsimp only
  cases found : p.select.options.find? fun o => o.1 = trim payload with
  | none => exact knows
  | some o =>
    rw [found] at current
    exact reselected_knows knows current rfl rfl

/-- A command to the manual cook that is taken, or refused. -/
theorem setManual_follows {sources : Sources} (knows : Knows texts sources p broker) (field payload : String) :
    Knows texts sources (p.step texts (.setManual field payload)).1
      (retained broker (p.step texts (.setManual field payload)).2) := by
  unfold step
  dsimp only
  generalize p.manual.set field (trim payload) = answered
  obtain ⟨manual, answer⟩ := answered
  -- What is told of a payload that is refused is an event, which isn't retained.
  cases answer with
  | ok _ => exact drafted_knows knows manual
  | error reason => exact drafted_knows knows manual

/-! ## The attributes of the selection -/

/-- The attributes that an input publishes: a connect, a choice that is taken, and a change of the recipes'
options. A change publishes them before it reads the unit. -/
def attributesAt (texts : MqttTexts) (p : MqttProcessor) (i : MqttInput) : Option Payload :=
  let next := (p.step texts i).1
  match i with
  | .connected _ => some (next.select.attributes next.unitOr)
  | .changed sources =>
    if options sources.recipes = p.select.options then none else some (next.select.attributes p.unitOr)
  | .selectRecipe payload =>
    (p.select.options.find? fun o => o.1 = trim payload).map fun _ => next.select.attributes next.unitOr
  | .setManual _ _ | .commandFailed _ _ | .dropped _ => none

/-- The attributes that a run of inputs published last. -/
def lastAttributes (texts : MqttTexts) (p : MqttProcessor) : List MqttInput → Option Payload
  | [] => none
  | i :: is => (lastAttributes texts (p.step texts i).1 is).or (p.attributesAt texts i)

theorem lastAttributes_concat (is : List MqttInput) (i : MqttInput) (p : MqttProcessor) :
    p.lastAttributes texts (is ++ [i]) =
      (((mqtt texts).run p is).attributesAt texts i).or (p.lastAttributes texts is) := by
  induction is generalizing p with
  | nil =>
    show (none : Option Payload).or (p.attributesAt texts i) = (p.attributesAt texts i).or none
    rw [Option.none_or, Option.or_none]
  | cons j is ih =>
    show (lastAttributes texts _ (is ++ [i])).or _ = _
    rw [ih, Option.or_assoc]
    rfl

theorem changeUnit_select (p : MqttProcessor) (sources : Sources) :
    (p.changeUnit sources).1.select = p.select := by
  unfold changeUnit
  split
  · rfl
  · dsimp only
    split <;> rfl

theorem changeUnit_attributes (p : MqttProcessor) (sources : Sources) (broker : Broker) :
    retained broker (p.changeUnit sources).2 .selectedAttributes = broker .selectedAttributes := by
  unfold changeUnit
  split
  · rfl
  · dsimp only
    split <;> rfl

theorem publishManual_attributes (texts : MqttTexts) (p : MqttProcessor) (broker : Broker) :
    retained broker (p.publishManual texts).2 .selectedAttributes = broker .selectedAttributes :=
  retained_other (fun q item => by rw [topic_publishChanged item]; decide) broker

theorem changeState_attributes (p : MqttProcessor) (sources : Sources) (force : Bool) (broker : Broker) :
    retained broker (p.changeState texts sources force).2 .selectedAttributes = broker .selectedAttributes := by
  refine retained_other (fun q item => ?_) broker
  rcases List.mem_append.mp item with item | item
  · rw [topic_publishChanged item]
    decide
  · rw [topic_publishChanged item]
    decide

/-- Of a change, its recipes' part alone is of the selection. -/
theorem onChange_attributes (p : MqttProcessor) (sources : Sources) (force : Bool) (broker : Broker) :
    (p.onChange texts sources force).1.select = (p.changeRecipes sources.recipes).1.select ∧
      retained broker (p.onChange texts sources force).2 .selectedAttributes =
        retained broker (p.changeRecipes sources.recipes).2 .selectedAttributes := by
  constructor
  · exact changeUnit_select _ _
  · unfold onChange
    dsimp only
    rw [retained_append, retained_append, retained_append, retained_append, publishManual_attributes,
      changeSnapshot_retained, changeState_attributes, changeUnit_attributes]

/-- Publishing the selection publishes its attributes. -/
theorem publishSelected_attributes (current : p.select.Current) (broker : Broker) :
    retained broker p.publishSelected .selectedAttributes = some (p.select.attributes p.unitOr) := by
  rw [retained_selected current]
  exact Function.update_self _ _ _

/-- What a change of the recipes leaves of the selection, and what it publishes of it. -/
theorem changeRecipes_attributes (p : MqttProcessor) (recipes : List Recipe) (broker : Broker) :
    retained broker (p.changeRecipes recipes).2 .selectedAttributes =
      if options recipes = p.select.options then broker .selectedAttributes
      else some ((p.changeRecipes recipes).1.select.attributes p.unitOr) := by
  unfold changeRecipes
  dsimp only
  by_cases same : options recipes = p.select.options
  · rw [if_neg (not_not.mpr same), if_pos same]
    split <;> rfl
  · rw [if_pos same, if_neg same]
    set select := { p.select with recipes := recipes, options := options recipes }
    exact publishSelected_attributes (p := { p with select := select }.publishRecipes.1)
      (select.reselect_current rfl) _

theorem changeUnit_unit (p : MqttProcessor) (sources : Sources) :
    (p.changeUnit sources).1.unit = (sources.status.map OvenStatus.temperatureUnit).or p.unit := by
  unfold changeUnit
  cases sources.status with
  | none => rfl
  | some status =>
    dsimp only
    split <;> rfl

/-- Publishing all there is publishes the attributes of what is selected then, and nothing of the selection is
left to publish. -/
theorem republished_attributes {sources : Sources} (listed : p.select.recipes = sources.recipes)
    (made : p.select.options = options sources.recipes)
    (told : (sources.status.map OvenStatus.temperatureUnit).or p.unit = p.unit) (broker : Broker) :
    retained broker (p.publishDiscovery.2 ++ Topic.availability.retains (.text "online") ::
        p.publishDiscovery.1.publishRecipes.2 ++ (p.republished.onChange texts sources true).2)
        .selectedAttributes =
      some ((p.republished.onChange texts sources true).1.select.attributes
        (p.republished.onChange texts sources true).1.unitOr) := by
  obtain ⟨options', recipes'⟩ := reselect_same p.select
  have current := p.select.reselect_current (by rw [made, listed])
  have selects : p.republished.select = p.select.reselect := rfl
  have same : options sources.recipes = p.republished.select.options := by rw [selects, options', made]
  have silent : p.republished.changeRecipes sources.recipes =
      ({ p.republished with select := { p.republished.select with recipes := sources.recipes } }, []) := by
    unfold changeRecipes
    rw [if_neg (not_not.mpr same), if_pos (by rw [selects, recipes', listed])]
  have select : (p.republished.onChange texts sources true).1.select = p.select.reselect := by
    rw [(onChange_attributes p.republished sources true broker).1, silent]
    show { p.select.reselect with recipes := sources.recipes } = p.select.reselect
    rw [← listed, ← recipes']
  have unit : (p.republished.onChange texts sources true).1.unitOr = p.unitOr := by
    show ((p.republished.changeRecipes sources.recipes).1.changeUnit sources).1.unit.getD "C" = p.unit.getD "C"
    rw [changeUnit_unit, silent]
    exact congrArg (Option.getD · "C") told
  rw [select, unit, retained_append, (onChange_attributes p.republished sources true _).2, silent,
    retained_append]
  exact publishSelected_attributes (p := p.publishDiscovery.1.publishRecipes.1) current _

/-- **What a turn does to the attributes**, while the connection is up. -/
theorem step_attributes (current : (∃ payload, i = .selectRecipe payload) → p.select.Current)
    (up : ∀ keeps, i ≠ .dropped keeps) (broker : Broker) :
    retained broker (p.step texts i).2 .selectedAttributes =
      (p.attributesAt texts i).or (broker .selectedAttributes) := by
  cases i with
  | connected sources =>
    refine republished_attributes (p := { p with
      select := { p.select with recipes := sources.recipes, options := options sources.recipes }
      unit := (sources.status.map OvenStatus.temperatureUnit).or p.unit }) rfl rfl ?_ broker
    show Option.or _ (Option.or _ _) = _
    rw [← Option.or_assoc, Option.or_self]
  | changed sources =>
    have select : (p.onChange texts sources false).1.select = _ := (onChange_attributes p sources false broker).1
    have attributes : retained broker (p.onChange texts sources false).2 .selectedAttributes = _ :=
      (onChange_attributes p sources false broker).2
    show retained broker (p.onChange texts sources false).2 .selectedAttributes =
      (if _ then none else some ((p.onChange texts sources false).1.select.attributes p.unitOr)).or _
    rw [attributes, select, changeRecipes_attributes]
    split <;> rfl
  | selectRecipe payload =>
    unfold attributesAt step
    dsimp only
    cases found : p.select.options.find? fun o => o.1 = trim payload with
    | none => rfl
    | some o =>
      have current := recipeSelect_current p.select (.selectRecipe payload) (current ⟨payload, rfl⟩)
      have next : recipeSelect.next p.select (.selectRecipe payload) = (p.select.selectRecipe payload).1 := rfl
      rw [next, RecipeSelect.selectRecipe, found] at current
      exact publishSelected_attributes (p := { p with select := { p.select with selected := some o.2 } })
        current broker
  | setManual field payload =>
    unfold step
    dsimp only
    generalize p.manual.set field (trim payload) = answered
    obtain ⟨manual, answer⟩ := answered
    cases answer with
    | ok _ => exact publishManual_attributes texts _ broker
    | error reason => exact publishManual_attributes texts { p with manual := manual } broker
  | commandFailed command reason => rfl
  | dropped keeps => exact absurd rfl (up keeps)

end MqttProcessor

/-- What is served as far as the broker was told, from a connect on and until the connection drops. -/
def MqttInput.told (last : Option Sources) : MqttInput → Option Sources
  | .connected sources => some sources
  | .changed sources => last.map fun _ => sources
  | .dropped _ => none
  | .selectRecipe _ | .setManual _ _ | .commandFailed _ _ => last

/-- One event. -/
theorem mqttBroker_knows (texts : MqttTexts) (s : MqttProcessor × Broker) (last : Option Sources) (i : MqttInput)
    (knows : ∀ sources, last = some sources → Knows texts sources s.1 s.2) (sources : Sources)
    (told : i.told last = some sources) :
    Knows texts sources ((mqttBroker texts).next s i).1 ((mqttBroker texts).next s i).2 := by
  obtain ⟨p, broker⟩ := s
  cases i with
  | connected read =>
    obtain rfl := Option.some.inj told
    exact MqttProcessor.onConnected_knows read
  | changed read =>
    obtain ⟨before, isLast, rfl⟩ := Option.map_eq_some_iff.mp told
    exact MqttProcessor.onChange_follows (knows before isLast) read
  | selectRecipe payload => exact MqttProcessor.selectRecipe_follows (knows sources told) payload
  | setManual field payload => exact MqttProcessor.setManual_follows (knows sources told) field payload
  | commandFailed command reason => exact knows sources told
  | dropped keeps => cases told

/-- **What the processor knows**, over any run from a connect on and until the connection drops. -/
theorem run_knows (texts : MqttTexts) (localMode : Bool) (broker : Broker) (is : List MqttInput)
    (sources : Sources) (told : is.foldl MqttInput.told none = some sources) :
    Knows texts sources ((mqttBroker texts).run (.new localMode, broker) is).1
      ((mqttBroker texts).run (.new localMode, broker) is).2 := by
  have all : (mqttBroker texts).Each (fun _ _ => True) (MqttProcessor.new localMode, broker) is :=
    Machine.each_iff.mpr fun _ _ _ _ => trivial
  have start : ∀ sources, (none : Option Sources) = some sources →
      Knows texts sources (MqttProcessor.new localMode) broker := by
    intro sources untold
    cases untold
  have knows : ∀ sources, is.foldl MqttInput.told none = some sources → Knows texts sources _ _ :=
    @Machine.Each.invariant_noted _ _ _ (mqttBroker texts) (fun _ _ => True) _ _ MqttInput.told
      (fun s last => ∀ sources, last = some sources → Knows texts sources s.1 s.2)
      (fun s last i knows _ => mqttBroker_knows texts s last i knows) is none start all
  exact knows sources told

/-- From a connect on, the broker holds the attributes that were published last. -/
theorem run_attributes (texts : MqttTexts) (localMode : Bool) (broker : Broker) (is : List MqttInput)
    (up : (is.foldl MqttInput.told none).isSome) :
    ((mqttBroker texts).run (.new localMode, broker) is).2 .selectedAttributes =
      (MqttProcessor.new localMode).lastAttributes texts is := by
  induction is using List.reverseRecOn with
  | nil => cases up
  | append_singleton is i ih =>
    rw [Machine.run_append, MqttProcessor.lastAttributes_concat]
    rw [List.foldl_append] at up
    have same : ((mqttBroker texts).run (.new localMode, broker) is).1 = (mqtt texts).run (.new localMode) is :=
      (mqtt texts).noting_run_fst _ _ _ is
    have knows := run_knows texts localMode broker is
    generalize (mqttBroker texts).run (.new localMode, broker) is = s at same knows ih ⊢
    obtain ⟨p, held⟩ := s
    obtain rfl : p = (mqtt texts).run (.new localMode) is := same
    generalize (mqtt texts).run (.new localMode) is = p at knows ⊢
    have connected : (∀ sources, i ≠ .connected sources) → (is.foldl MqttInput.told none).isSome := by
      intro other
      cases i with
      | connected sources => exact absurd rfl (other sources)
      | changed sources => exact Option.isSome_map.symm.trans up
      | dropped keeps => cases up
      | selectRecipe | setManual | commandFailed => exact up
    have notDropped : ∀ keeps, i ≠ .dropped keeps := by
      rintro keeps rfl
      cases up
    have current : (∃ payload, i = .selectRecipe payload) → p.select.Current := by
      rintro ⟨payload, rfl⟩
      obtain ⟨sources, told⟩ := Option.isSome_iff_exists.mp up
      exact (knows sources told).current
    have turn : Broker.turn texts p held i .selectedAttributes =
        (p.attributesAt texts i).or (held .selectedAttributes) := by
      rw [← MqttProcessor.step_attributes current notDropped held]
      cases i with
      | dropped keeps => exact absurd rfl (notDropped keeps)
      | _ => rfl
    show Broker.turn texts p held i .selectedAttributes = _
    rw [turn]
    -- A connect publishes them, and before any other input they are as they were.
    cases i with
    | connected sources => rfl
    | _ => rw [← ih (connected fun sources eq => by cases eq)]

/-- **The broker holds what is served.** From a connect on, whatever comes until the connection drops, and
whatever the broker held before, it holds what the processor read last; and of what is selected, the attributes
that were published last, with the selection. -/
theorem retained_mirrors (texts : MqttTexts) (localMode : Bool) (broker : Broker) (is : List MqttInput)
    (sources : Sources) (told : is.foldl MqttInput.told none = some sources) :
    HoldsServed texts sources ((mqttBroker texts).run (.new localMode, broker) is).1
        ((mqttBroker texts).run (.new localMode, broker) is).2 ∧
      ((mqttBroker texts).run (.new localMode, broker) is).2 .selectedAttributes =
        (MqttProcessor.new localMode).lastAttributes texts is :=
  ⟨(run_knows texts localMode broker is sources told).toHoldsServed,
    run_attributes texts localMode broker is (by rw [told]; rfl)⟩

namespace Kitchen

/-- A kitchen whose oven has told nothing yet, with a recipe. -/
def unheard (connected : Bool) : Sources where
  status := none
  currentCook := none
  recipes := [⟨"toast", "Toast", 0, [], .own⟩]
  cookProgress := none
  upstream := ⟨connected, 0, none⟩
  now := 1714564800

/-- The texts of an oven that has told nothing, and of the manual cook nobody set up. -/
def unheardTexts : MqttTexts where
  stateJson _ _ connected _ :=
    if connected then "\x7b\"connected\":true,\"mode\":\"unknown\"\x7d"
    else "\x7b\"connected\":false,\"mode\":\"unknown\"\x7d"
  manualState _ _ := "\x7b\"at_end\":\"Keep holding\",\"elements\":\"Rear\",\"ends\":\"Timer\"," ++
    "\"mode\":\"Oven (dry bulb)\",\"preheat\":\"No preheat\",\"probe_target_c\":60.0,\"problem\":null," ++
    "\"steam_pct\":0.0,\"summary\":\"Cook · 180 °C dry · 30 min\",\"temperature_c\":180.0,\"timer_mins\":30\x7d"

/-- The kitchen with a tart, and with stages for the toast. -/
def heard (stages : List Stage) : Sources :=
  { unheard true with
    recipes := [⟨"toast", "Toast", stages.length, stages, .own⟩, ⟨"tart", "Tart", 0, [], .bookmarked⟩] }

/-- The broker is lost and found, and the oven comes. A recipe is added and one chosen, and then that is given
another stage. -/
def brokerRuns : List MqttInput :=
  [.connected (unheard false), .dropped fun _ => false, .changed (unheard true), .connected (unheard true),
    .changed (heard [roast]), .selectRecipe "Toast", .changed (heard [roast, roast])]

end Kitchen

open Kitchen in
/-- The broker that was lost holds that the oven is connected, and the toast as it was when it was chosen. -/
theorem retained_mirrors_unheard :
    HoldsServed unheardTexts (heard [roast, roast])
        ((mqttBroker unheardTexts).run (.new true, fun _ => none) brokerRuns).1
        ((mqttBroker unheardTexts).run (.new true, fun _ => none) brokerRuns).2 ∧
      ((mqttBroker unheardTexts).run (.new true, fun _ => none) brokerRuns).2 .selectedAttributes =
        (MqttProcessor.new true).lastAttributes unheardTexts brokerRuns :=
  retained_mirrors unheardTexts true (fun _ => none) brokerRuns (heard [roast, roast]) rfl

end AnovaOven
