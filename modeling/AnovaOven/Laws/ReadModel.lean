import AnovaOven.Laws.Failures

/-!
# Laws of the published read model

**When the read model lags** (`readModel_current_iff`): every reduction that changes the status, the
cook, the recipes or the history publishes them, but a start. The cook it seeds is published by
whatever publishes next.
-/

namespace AnovaOven

variable {env : Env} {s : SmState} {i : Env × Input}

/-! ## What the read model shows -/

/-- The read model shows the state: its status, its cook, its recipes and its history. -/
structure ReadModel.Shows (model : ReadModel) (s : SmState) : Prop where
  status : model.status = s.status
  currentCook : model.currentCook = s.currentCook
  recipes : model.recipes = s.recipes
  history : model.history = s.history

theorem toReadModel_shows (s : SmState) : s.toReadModel.Shows s := ⟨rfl, rfl, rfl, rfl⟩

/-- Two states that show the same. -/
structure Looks (s s' : SmState) : Prop where
  status : s'.status = s.status
  currentCook : s'.currentCook = s.currentCook
  recipes : s'.recipes = s.recipes
  history : s'.history = s.history

theorem Looks.refl (s : SmState) : Looks s s := ⟨rfl, rfl, rfl, rfl⟩

theorem ReadModel.Shows.looks {model : ReadModel} {s' : SmState} (h : model.Shows s)
    (same : Looks s s') : model.Shows s' :=
  ⟨h.status.trans same.status.symm, h.currentCook.trans same.currentCook.symm,
    h.recipes.trans same.recipes.symm, h.history.trans same.history.symm⟩

/-! ## Dispatching -/

/-- Once the read model was published, it is what stays published. -/
theorem dispatchReadModel_published (s : SmState) (effects : List SmEffect) :
    dispatchReadModel s s.toReadModel effects = s.toReadModel := by
  induction effects with
  | nil => rfl
  | cons effect effects ih => cases effect <;> exact ih

theorem dispatchReadModel_publishes {s : SmState} {effects : List SmEffect} (model : ReadModel)
    (publishes : .publishReadModel ∈ effects) :
    dispatchReadModel s model effects = s.toReadModel := by
  induction effects generalizing model with
  | nil => cases publishes
  | cons effect effects ih =>
    rcases List.mem_cons.mp publishes with rfl | later
    · exact dispatchReadModel_published s effects
    · exact ih _ later

theorem dispatchReadModel_silent {s : SmState} {effects : List SmEffect} (model : ReadModel)
    (silent : .publishReadModel ∉ effects) : dispatchReadModel s model effects = model := by
  induction effects generalizing model with
  | nil => rfl
  | cons effect effects ih =>
    rw [List.mem_cons, not_or] at silent
    cases effect with
    | publishReadModel => exact absurd rfl silent.1
    | _ => exact ih model silent.2

/-! ## What each reduction shows and publishes -/

/-- A reduction that shows nothing new, or publishes what it shows. -/
def Publishes (s : SmState) (i : Env × Input) : Prop :=
  Looks s (stateMachine.next s i) ∨ .publishReadModel ∈ stateMachine.effects s i

/-- An answer to a command shows nothing new. -/
theorem applyCommandAck_looks (s : SmState) (requestId status : String) :
    Looks s (applyCommandAck s requestId status).1 := by
  unfold applyCommandAck
  split
  · split
    · dsimp only
      split <;> exact ⟨rfl, rfl, rfl, rfl⟩
    · exact ⟨rfl, rfl, rfl, rfl⟩
  · split
    · exact ⟨rfl, rfl, rfl, rfl⟩
    · unfold ackControl
      split <;> exact ⟨rfl, rfl, rfl, rfl⟩

theorem stopCook_looks (fresh : Fresh) (s : SmState) : Looks s (stopCook fresh s).state := by
  rcases stopCook_cases fresh s with ⟨e, h⟩ | ⟨_, _, _, controls, h⟩ <;> rw [h] <;>
    exact ⟨rfl, rfl, rfl, rfl⟩

theorem wsEvent_publishes (env : Env) (s : SmState) (event : WsEvent) :
    Publishes s (env, .event (.ws event)) := by
  cases event with
  | apoState status cook =>
    refine .inr ?_
    rw [apoState_effects]
    simp only [List.mem_append, List.mem_singleton, or_true, true_or]
  | commandAck requestId status => exact .inl (applyCommandAck_looks s requestId status)
  | _ => exact .inl ⟨rfl, rfl, rfl, rfl⟩

theorem storeEvent_publishes (env : Env) (s : SmState) (event : StoreEvent) :
    Publishes s (env, .event (.store event)) := by
  cases event with
  | recipesRefreshed result =>
    cases result with
    | ok recipes => exact .inr List.mem_cons_self
    | error e => exact .inl (Looks.refl s)
  | historyRefreshed result =>
    cases result with
    | ok history => exact .inr List.mem_cons_self
    | error e => exact .inl (Looks.refl s)
  | currentCookFetched reason result =>
    cases result with
    | ok cook => exact .inr List.mem_cons_self
    | error e => exact .inl (Looks.refl s)
  | recipeRefPatched cookId recipeId result =>
    cases result <;> exact .inl (Looks.refl s)
  | manualCookTitleResolved cookKey result =>
    rcases result with e | _ | ⟨title, id⟩
    · exact .inl (Looks.refl s)
    · exact .inl (Looks.refl s)
    · exact .inr List.mem_cons_self

/-- A command other than a start. -/
theorem command_publishes (env : Env) (s : SmState) {cmd : StateMachineCommand}
    (other : cmd.startsCook = false) : Publishes s (env, .command cmd) := by
  cases cmd with
  | startCook recipeId => cases other
  | startManualCook title stages => cases other
  | stopCook => exact .inl (stopCook_looks env.fresh s)
  | linkCurrentCook recipeId title =>
    unfold Publishes
    show Looks s (linkCurrentCook s recipeId title).state ∨
      .publishReadModel ∈ (linkCurrentCook s recipeId title).effects
    unfold linkCurrentCook
    split
    · exact .inl (Looks.refl s)
    · exact .inr (List.mem_cons_of_mem _ List.mem_cons_self)
  | control request =>
    refine .inl ?_
    show Looks s (reduceCommand env s (.control request)).state
    unfold reduceCommand
    dsimp only
    split <;> exact ⟨rfl, rfl, rfl, rfl⟩
  | _ => exact .inl (Looks.refl s)

/-- **Publishing.** Every reduction but an accepted start publishes what it changes. -/
theorem publishes_or_starts (s : SmState) (i : Env × Input) :
    Publishes s i ∨
      ∃ cmd recipe started, i.2 = .command cmd ∧ Starts i.1 s cmd recipe started := by
  obtain ⟨env, input⟩ := i
  cases input with
  | event evt =>
    cases evt with
    | ws event => exact .inl (wsEvent_publishes env s event)
    | store event => exact .inl (storeEvent_publishes env s event)
    | tick kind => exact .inl (.inl (Looks.refl s))
  | command cmd =>
    cases starting : cmd.startsCook with
    | false => exact .inl (command_publishes env s starting)
    | true =>
      rcases start_cases env s starting with ⟨e, refused⟩ | ⟨recipe, started, starts⟩
      · refine .inl (.inl ?_)
        show Looks s (reduceCommand env s cmd).state
        rw [refused]
        exact Looks.refl s
      · exact .inr ⟨cmd, recipe, started, rfl, starts⟩

/-! ## Runs -/

/-- A start the state accepts seeds the very cook it shows. -/
def SeedsNothingNew (s : SmState) (i : Env × Input) : Prop :=
  ∀ cmd recipe started, i.2 = .command cmd → Starts i.1 s cmd recipe started →
    ∃ cook, s.currentCook = some cook ∧ ShowsStart i.1 recipe started cook

/-- The start's part: it publishes nothing, so the read model shows its state only where the cook it
seeds is the one shown already. -/
theorem start_shows_iff {model : ReadModel} (h : model.Shows s) {cmd : StateMachineCommand}
    {recipe : Recipe} {started : StartedFrom} (starts : Starts env s cmd recipe started) :
    (dispatchReadModel (stateMachine.next s (env, .command cmd)) model
        (stateMachine.effects s (env, .command cmd))).Shows (stateMachine.next s (env, .command cmd)) ↔
      ∃ cook, s.currentCook = some cook ∧ ShowsStart env recipe started cook := by
  rw [starts.next, starts.effects, dispatchReadModel_silent model (by simp),
    ← start_currentCook_iff env s recipe started]
  constructor
  · intro shown
    exact shown.currentCook.symm.trans h.currentCook
  · intro same
    exact ⟨h.status, h.currentCook.trans same.symm, h.recipes, h.history⟩

/-- Starts are reduced alike, whichever recipe they are of. -/
theorem Starts.unique {cmd : StateMachineCommand} {recipe recipe' : Recipe}
    {started started' : StartedFrom} (h : Starts env s cmd recipe started)
    (h' : Starts env s cmd recipe' started') : recipe = recipe' ∧ started = started' := by
  cases h with
  | recipe recipeId recipe known found =>
    cases h' with
    | recipe _ _ _ found' =>
      obtain rfl := Option.some.inj (found.symm.trans found')
      exact ⟨rfl, rfl⟩
  | manual title stages known =>
    cases h' with
    | manual => exact ⟨rfl, rfl⟩

/-- One reduction: a read model that showed the state shows it again exactly where no accepted start
seeds a new cook. -/
theorem shows_next_iff {model : ReadModel} (h : model.Shows s) (i : Env × Input) :
    (dispatchReadModel (stateMachine.next s i) model (stateMachine.effects s i)).Shows
        (stateMachine.next s i) ↔ SeedsNothingNew s i := by
  obtain ⟨env, input⟩ := i
  by_cases starting : ∃ cmd recipe started, input = .command cmd ∧ Starts env s cmd recipe started
  · obtain ⟨cmd, recipe, started, rfl, starts⟩ := starting
    rw [start_shows_iff h starts]
    constructor
    · intro shown cmd' recipe' started' isCommand starts'
      cases isCommand
      obtain ⟨rfl, rfl⟩ := starts.unique starts'
      exact shown
    · intro seeds
      exact seeds cmd recipe started rfl starts
  · have quiet : SeedsNothingNew s (env, input) := by
      intro cmd recipe started isCommand starts
      exact absurd ⟨cmd, recipe, started, isCommand, starts⟩ starting
    refine iff_of_true ?_ quiet
    rcases publishes_or_starts s (env, input) with (same | publishes) | starts
    · by_cases publishes : .publishReadModel ∈ stateMachine.effects s (env, input)
      · rw [dispatchReadModel_publishes model publishes]
        exact toReadModel_shows _
      · rw [dispatchReadModel_silent model publishes]
        exact h.looks same
    · rw [dispatchReadModel_publishes model publishes]
      exact toReadModel_shows _
    · exact absurd starts starting

/-- The read model shows the state once a message is reduced and its effects are dispatched. -/
def ShowsAfter (p : SmState × ReadModel) (i : Env × Input) : Prop :=
  (stateMachineProcessor.next p i).2.Shows (stateMachineProcessor.next p i).1

/-- **The published read model.** It shows the state after every message of a run exactly where no
start the run accepts seeds a cook that isn't the one shown already. -/
theorem readModel_current_iff (localMode : Bool) (tolerance : ℚ) (is : List (Env × Input)) :
    stateMachineProcessor.Each ShowsAfter (SmState.init localMode tolerance, .empty) is ↔
      stateMachine.Each SeedsNothingNew (SmState.init localMode tolerance) is := by
  have start : ReadModel.empty.Shows (SmState.init localMode tolerance) := ⟨rfl, rfl, rfl, rfl⟩
  have law : ∀ (p : SmState × ReadModel) (i : Env × Input), p.2.Shows p.1 →
      (ShowsAfter p i ↔ SeedsNothingNew p.1 i) := fun p i shown => shows_next_iff shown i
  calc stateMachineProcessor.Each ShowsAfter (SmState.init localMode tolerance, .empty) is
    _ ↔ stateMachineProcessor.Each (fun p i => SeedsNothingNew p.1 i)
          (SmState.init localMode tolerance, .empty) is :=
      Machine.Each.iff_of_invariant (I := fun p => p.2.Shows p.1)
        (fun p i shown seeds => (law p i shown).mpr seeds) law start
    _ ↔ stateMachine.Each SeedsNothingNew (SmState.init localMode tolerance) is :=
      Machine.noting_each _ _ _ _

/-- A start of bread, once the oven is there: the published read model shows no cook, and the state
has one. -/
theorem readModel_lags :
    ¬ ∀ is : List (Env × Input), stateMachineProcessor.Each ShowsAfter (SmState.new, .empty) is := by
  intro always
  have shown := (always [Kitchen.found,
    (Kitchen.env "start", .command (.startManualCook "Roast" [Kitchen.roast]))]).2.1
  exact absurd shown.currentCook (by decide)

end AnovaOven
