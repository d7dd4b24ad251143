import AnovaOven.Laws.Runs

/-!
# Accepted starts

Which start commands a state accepts and what each starts (`Starts`), and what an accepted start does:
`start`'s state (`Starts.next`) and its two effects (`Starts.effects`).
-/

namespace AnovaOven

variable {env : Env} {fresh : Fresh} {s : SmState} {cmd : StateMachineCommand} {recipe : Recipe}
variable {started : StartedFrom}

/-! ## Accepted starts -/

/-- The recipe a manual start makes of its stages. -/
def manualRecipe (fresh : Fresh) (title : String) (stages : List Stage) : Recipe where
  id := "manual-" ++ fresh.manualId
  title := title
  stageCount := cookStageCount stages
  stages := stages
  source := .own

/-- The start commands a state accepts, with the recipe each starts and what it was made from. -/
inductive Starts (env : Env) (s : SmState) : StateMachineCommand → Recipe → StartedFrom → Prop where
  | recipe (recipeId : String) (recipe : Recipe) (known : s.connectivity.cookerId.isSome)
      (found : s.recipes.find? (fun r => r.id = recipeId) = some recipe) :
      Starts env s (.startCook recipeId) recipe (.recipe recipe.id)
  | manual (title : String) (stages : List Stage) (known : s.connectivity.cookerId.isSome) :
      Starts env s (.startManualCook title stages) (manualRecipe env.fresh title stages)
        (.manual title (cookStageCount stages))

/-- An accepted start is reduced by `start`. -/
theorem Starts.reduce (h : Starts env s cmd recipe started) :
    reduceCommand env s cmd = (start env s recipe started).reply := by
  cases h with
  | recipe recipeId recipe known found =>
    show (startCook env s recipeId).reply = _
    unfold startCook
    rw [if_neg (by simpa [← Option.isSome_iff_ne_none] using known), found]
  | manual title stages known =>
    show (startManualCook env s title stages).reply = _
    unfold startManualCook
    rw [if_neg (by simpa [← Option.isSome_iff_ne_none] using known)]
    rfl

/-- Whether a command starts a cook. -/
def StateMachineCommand.startsCook : StateMachineCommand → Bool
  | .startCook _ => true
  | .startManualCook _ _ => true
  | _ => false

/-- A start command is refused, or it starts something. -/
theorem start_cases (env : Env) (s : SmState) (starting : cmd.startsCook) :
    (∃ e, reduceCommand env s cmd = (refuse s e).reply) ∨
      ∃ recipe started, Starts env s cmd recipe started := by
  cases cmd with
  | startCook recipeId =>
    show (∃ e, (startCook env s recipeId).reply = _) ∨ _
    unfold startCook
    split
    · exact .inl ⟨_, rfl⟩
    · rename_i known
      split
      · exact .inl ⟨_, rfl⟩
      · rename_i recipe found
        refine .inr ⟨recipe, _, .recipe recipeId recipe ?_ found⟩
        simpa [Option.isSome_iff_ne_none] using known
  | startManualCook title stages =>
    show (∃ e, (startManualCook env s title stages).reply = _) ∨ _
    unfold startManualCook
    split
    · exact .inl ⟨_, rfl⟩
    · rename_i known
      refine .inr ⟨_, _, .manual title stages ?_⟩
      simpa [Option.isSome_iff_ne_none] using known
  | _ => cases starting

/-- A start command is accepted exactly where it starts something. -/
theorem accepted_iff_starts (starting : cmd.startsCook) :
    (reduceCommand env s cmd).reply = .unit (.ok ()) ↔
      ∃ recipe started, Starts env s cmd recipe started := by
  constructor
  · intro accepted
    rcases start_cases env s starting with ⟨e, refused⟩ | starts
    · rw [refused] at accepted
      cases accepted
    · exact starts
  · rintro ⟨recipe, started, h⟩
    rw [h.reduce]
    rfl

/-- **A start's effects.** The oven is sent the stages, and the store hears what the cook was made
from and what it asks of the server. -/
theorem Starts.effects (h : Starts env s cmd recipe started) :
    stateMachine.effects s (env, .command cmd) =
      [.ws (.sendStart env.fresh.requestId (mintedCookId env.fresh) recipe.id
          (startedStages env.fresh recipe.stages)),
        .store (.patchCookRecipeRef (mintedCookId env.fresh) started
          (CookExtras.fromStages (startedStages env.fresh recipe.stages)))] := by
  show (reduceCommand env s cmd).effects = _
  rw [h.reduce]
  rfl

/-- The stages a start sends, and the cook it sends them for. -/
theorem Starts.sends (h : Starts env s cmd recipe started) {requestId cookId recipeId : String}
    {sent : List Stage}
    (sends : .ws (.sendStart requestId cookId recipeId sent) ∈
      stateMachine.effects s (env, .command cmd)) :
    cookId = mintedCookId env.fresh ∧ sent = startedStages env.fresh recipe.stages := by
  rw [h.effects] at sends
  rcases List.mem_cons.mp sends with own | other
  · cases own
    exact ⟨rfl, rfl⟩
  · cases List.mem_singleton.mp other

theorem Starts.next (h : Starts env s cmd recipe started) :
    stateMachine.next s (env, .command cmd) = (start env s recipe started).state := by
  show (reduceCommand env s cmd).state = _
  rw [h.reduce]
  rfl

theorem rewritePreheatStageIds_length (stages : List Stage) :
    (rewritePreheatStageIds stages).length = stages.length := by
  induction stages with
  | nil => rfl
  | cons stage rest ih =>
    cases rest with
    | nil => rfl
    | cons next rest => exact congrArg (· + 1) ih

theorem startedStages_length (fresh : Fresh) (stages : List Stage) :
    (startedStages fresh stages).length = stages.length := by
  unfold startedStages
  rw [List.length_mapIdx, rewritePreheatStageIds_length]

namespace Kitchen

/-- The store's list of recipes comes in. -/
def lists (recipes : List Recipe) : Env × Input :=
  (Kitchen.env "", .event (.store (.recipesRefreshed (.ok recipes))))

/-- The state machine once the cooker and the recipes are known. -/
def ready (recipes : List Recipe) : SmState :=
  stateMachine.run (SmState.init true 0) [found, lists recipes]

/-- The start of a recipe in a kitchen that lists it alone. -/
theorem starts_listed (recipe : Recipe) :
    Starts (Kitchen.env "start") (ready [recipe]) (.startCook recipe.id) recipe (.recipe recipe.id) :=
  .recipe recipe.id recipe (by rfl)
    (by show [recipe].find? (fun r => r.id = recipe.id) = some recipe; simp)

end Kitchen

end AnovaOven
