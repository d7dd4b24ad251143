import AnovaOven.Lib.Machine
import AnovaOven.Processors.LocalStore.Normalize

/-!
# The recipe select (`processors/mqtt/recipes.rs`, `processors/mqtt.rs`)

The recipes as Home Assistant sees them: the options of a select, and which recipe choosing one selects. Of
the processor these are its recipes, their options and the selected id. A published recipe is its option
and the recipe its attributes are read from.
-/

namespace AnovaOven

/-- The order of `options`: by title, then by id. -/
def optionOrder (a b : Recipe) : Ordering := (compare a.title b.title).then (compare a.id b.id)

/-- The recipes as `options` sorts them. -/
def sortedRecipes (recipes : List Recipe) : List Recipe :=
  recipes.mergeSort fun a b => (optionOrder a b).isLE

/-- The option of the recipe that is the nth of its title. -/
def optionText (title : String) (nth : Nat) : String :=
  if nth = 1 then title else title ++ " (" ++ toString nth ++ ")"

/-- The loop of `options`, with its last title and how many recipes of it have come. -/
def optionsFrom (previous : Option String) (nth : Nat) : List Recipe → List (String × String)
  | [] => []
  | recipe :: rest =>
    let nth := if previous = some recipe.title then nth + 1 else 1
    (optionText recipe.title nth, recipe.id) :: optionsFrom (some recipe.title) nth rest

/-- `options`: each option with the recipe id it stands for. -/
def options (recipes : List Recipe) : List (String × String) :=
  optionsFrom none 0 (sortedRecipes recipes)

/-- The processor's part in the select. -/
structure RecipeSelect where
  recipes : List Recipe
  options : List (String × String)
  selected : Option String
  deriving Repr, DecidableEq

namespace RecipeSelect

/-- The select of a processor that starts. -/
def new : RecipeSelect := ⟨[], [], none⟩

/-- `publish_recipes`' choice: the selected recipe while it has an option, the first one's otherwise. -/
def reselect (select : RecipeSelect) : RecipeSelect :=
  if select.selected.any fun id => select.options.any fun o => o.2 = id then select
  else { select with selected := select.options.head?.map Prod.snd }

/-- `publish_selected`: the selected recipe, with its option. -/
def shown (select : RecipeSelect) : Option (String × Recipe) :=
  select.selected.bind fun id =>
    (select.options.find? fun o => o.2 = id).bind fun (title, _) =>
      (select.recipes.find? fun recipe => recipe.id = id).map fun recipe => (title, recipe)

/-- `publish_recipes`: what is selected of the options, published. -/
def publishRecipes (select : RecipeSelect) : RecipeSelect × List (Option (String × Recipe)) :=
  (select.reselect, [select.reselect.shown])

/-- `on_connected`: the options are made anew. -/
def onConnected (recipes : List Recipe) (select : RecipeSelect) :
    RecipeSelect × List (Option (String × Recipe)) :=
  { select with recipes := recipes, options := AnovaOven.options recipes }.publishRecipes

/-- `on_change`: options that changed replace the old ones. -/
def onChange (recipes : List Recipe) (select : RecipeSelect) :
    RecipeSelect × List (Option (String × Recipe)) :=
  let options := AnovaOven.options recipes
  if options ≠ select.options then
    { select with recipes := recipes, options := options }.publishRecipes
  else if recipes.length = select.recipes.length then ({ select with recipes := recipes }, [])
  else (select, [])

/-- `on_command`'s `select_recipe`: the first option that the trimmed payload names. -/
def selectRecipe (payload : String) (select : RecipeSelect) :
    RecipeSelect × List (Option (String × Recipe)) :=
  match select.options.find? fun o => o.1 = trim payload with
  | some (_, id) =>
    let select := { select with selected := some id }
    (select, [select.shown])
  | none => (select, [])

end RecipeSelect

/-- What the select takes in. -/
inductive SelectEvent where
  | connected (recipes : List Recipe)
  | changed (recipes : List Recipe)
  | selectRecipe (payload : String)

/-- The select as a machine, with what it publishes of the selected recipe. -/
def recipeSelect : Machine RecipeSelect SelectEvent (Option (String × Recipe)) where
  step select
    | .connected recipes => select.onConnected recipes
    | .changed recipes => select.onChange recipes
    | .selectRecipe payload => select.selectRecipe payload

end AnovaOven
