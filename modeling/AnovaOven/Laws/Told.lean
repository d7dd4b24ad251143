import AnovaOven.Laws.Reports

/-!
# What the store is told

**The store hears of the cook last reported, and of no other** (`effects_tell`): apart from a start
and a link, a step's store commands tell it of the oven's cook as the state after the step has it, or
of nothing. Most of a step's effects go to the oven (`OffStore`).
-/

namespace AnovaOven

variable {env : Env} {fresh : Fresh} {s : SmState} {i : Env × Input}

/-! ## Effects that don't go to the store -/

/-- Whether an effect is a command to the store. -/
def SmEffect.toStore : SmEffect → Bool
  | .store _ => true
  | _ => false

/-- Effects none of which goes to the store. -/
def OffStore (effects : List SmEffect) : Prop := ∀ effect ∈ effects, effect.toStore = false

@[simp] theorem offStore_nil : OffStore [] := fun _ h => by cases h

@[simp] theorem offStore_cons (effect : SmEffect) (effects : List SmEffect) :
    OffStore (effect :: effects) ↔ effect.toStore = false ∧ OffStore effects :=
  List.forall_mem_cons

@[simp] theorem offStore_append (before after : List SmEffect) :
    OffStore (before ++ after) ↔ OffStore before ∧ OffStore after :=
  List.forall_mem_append

theorem lampOn_offStore (fresh : Fresh) (s : SmState) (seenBefore : Bool) (status : OvenStatus) :
    OffStore (lampOn fresh s seenBefore status).2 := by
  unfold lampOn
  split <;> simp [sendControl, SmEffect.toStore]

theorem lampOff_offStore (fresh : Fresh) (s : SmState) : OffStore (lampOff fresh s).2 := by
  unfold lampOff
  split <;> simp [sendControl, SmEffect.toStore]

theorem stopCook_offStore (fresh : Fresh) (s : SmState) :
    OffStore (stopCook fresh s).effects := by
  rcases stopCook_cases fresh s with ⟨e, h⟩ | ⟨_, _, _, controls, h⟩ <;> rw [h]
  · exact offStore_nil
  · simpa [SmEffect.toStore] using lampOff_offStore fresh s

theorem turnOffWhenDone_offStore (fresh : Fresh) (s : SmState) :
    OffStore (turnOffWhenDone fresh s).2 := by
  unfold turnOffWhenDone
  split
  · exact offStore_nil
  · rename_i cookId _
    have stopped := stopCook_offStore fresh { s with turnedOff := some cookId }
    dsimp only
    split
    · exact stopped
    · exact offStore_nil

theorem settlePreheat_offStore (env : Env) (s : SmState) (status : OvenStatus) :
    OffStore (settlePreheat env s status).2.2 := by
  rcases (settlePreheat_frame env s status).effects with h | ⟨requestId, stageId, h⟩ <;> rw [h]
  · exact offStore_nil
  · simp [SmEffect.toStore]

theorem ackControl_offStore (s : SmState) (requestId status : String) :
    OffStore (ackControl s requestId status).2 := by
  unfold ackControl
  split
  · exact offStore_nil
  · dsimp only
    split <;> simp [commandFailed, SmEffect.toStore]

/-! ## Silence -/

/-- Whether an effect tells the store of the oven's cook. -/
def SmEffect.tellsOfCook : SmEffect → Bool
  | .store (.ovenReported _) => true
  | .store (.fetchCurrentCook _ (some _)) => true
  | _ => false

/-- Effects that tell the store of no cook. -/
def Silent (effects : List SmEffect) : Prop := ∀ effect ∈ effects, effect.tellsOfCook = false

@[simp] theorem silent_nil : Silent [] := fun _ h => by cases h

@[simp] theorem silent_cons (effect : SmEffect) (effects : List SmEffect) :
    Silent (effect :: effects) ↔ effect.tellsOfCook = false ∧ Silent effects :=
  List.forall_mem_cons

@[simp] theorem silent_append (before after : List SmEffect) :
    Silent (before ++ after) ↔ Silent before ∧ Silent after :=
  List.forall_mem_append

theorem silent_one {effect : SmEffect} (h : effect.tellsOfCook = false) : Silent [effect] :=
  (silent_cons effect []).mpr ⟨h, silent_nil⟩

theorem OffStore.silent {effects : List SmEffect} (h : OffStore effects) : Silent effects := by
  intro effect item
  have off := h effect item
  cases effect with
  | store cmd => cases off
  | _ => rfl

/-- A fetch carries no cook while a start is pending, and where none was reported. -/
theorem fetchCurrentCook_silent (s : SmState) (reason : CurrentCookReason) :
    (fetchCurrentCook s reason).tellsOfCook = false ↔
      s.lifecycle = .startPending ∨ s.ovenCook = none := by
  unfold fetchCurrentCook
  by_cases pending : s.lifecycle = .startPending
  · rw [if_pos pending]
    exact iff_of_true rfl (.inl pending)
  · rw [if_neg pending]
    cases s.ovenCook <;> simp [SmEffect.tellsOfCook, pending]

/-- The messages that may tell the store of the oven's cook. -/
def mayTell : Input → Bool
  | .event (.ws (.apoState _ _)) => true
  | .event (.ws (.commandAck _ _)) => true
  | .event (.store (.recipeRefPatched _ _ (.ok ()))) => true
  | .event (.tick .currentCookRefresh) => true
  | _ => false

/-- No other message tells the store of a cook. -/
theorem effects_silent (s : SmState) (env : Env) {input : Input} (h : mayTell input = false) :
    Silent (stateMachine.effects s (env, input)) := by
  cases input with
  | command cmd =>
    show Silent (reduceCommand env s cmd).effects
    cases cmd with
    | startCook recipeId =>
      show Silent (startCook env s recipeId).effects
      unfold startCook
      split
      · exact silent_nil
      · split
        · exact silent_nil
        · simp [start, SmEffect.tellsOfCook]
    | startManualCook title stages =>
      show Silent (startManualCook env s title stages).effects
      unfold startManualCook
      split
      · exact silent_nil
      · simp [start, SmEffect.tellsOfCook]
    | stopCook => exact (stopCook_offStore env.fresh s).silent
    | linkCurrentCook recipeId title =>
      show Silent (linkCurrentCook s recipeId title).effects
      unfold linkCurrentCook
      split
      · exact silent_nil
      · simp [SmEffect.tellsOfCook]
    | control request =>
      unfold reduceCommand
      dsimp only
      split
      · exact silent_nil
      · simp [sendControl, SmEffect.tellsOfCook]
    | refreshRecipes => exact silent_one rfl
    | _ => exact silent_nil
  | event evt =>
    cases evt with
    | ws event =>
      cases event with
      | apoState status cook => cases h
      | commandAck requestId status => cases h
      | _ => exact silent_nil
    | store event =>
      show Silent (reduceStoreEvent s event).2
      cases event with
      | recipeRefPatched cookId recipeId result =>
        cases result with
        | ok => cases h
        | error e => exact silent_nil
      | manualCookTitleResolved cookKey result =>
        rcases result with e | (_ | ⟨title, recipeId⟩) <;>
          simp [reduceStoreEvent, SmEffect.tellsOfCook]
      | recipesRefreshed result => cases result <;> simp [reduceStoreEvent, SmEffect.tellsOfCook]
      | historyRefreshed result => cases result <;> simp [reduceStoreEvent, SmEffect.tellsOfCook]
      | currentCookFetched reason result =>
        cases result <;> simp [reduceStoreEvent, SmEffect.tellsOfCook]
    | tick kind =>
      cases kind with
      | currentCookRefresh => cases h
      | pendingTimeout => exact silent_nil
      | _ => exact silent_one rfl

/-! ## Telling of the cook last reported -/

/-- An effect that tells the store of a cook, if of any: it starts and links none. -/
def SmEffect.Tells (cook : Option OvenCook) : SmEffect → Prop
  | .store (.ovenReported told) => told = cook
  | .store (.fetchCurrentCook _ (some told)) => some told = cook
  | .store (.patchCookRecipeRef _ _ _) => False
  | .store (.linkCookToRecipe _ _) => False
  | _ => True

/-- Effects that tell the store of a cook, if of any. -/
def Tells (cook : Option OvenCook) (effects : List SmEffect) : Prop :=
  ∀ effect ∈ effects, effect.Tells cook

variable {cook : Option OvenCook}

@[simp] theorem tells_nil : Tells cook [] := fun _ h => by cases h

@[simp] theorem tells_cons (effect : SmEffect) (effects : List SmEffect) :
    Tells cook (effect :: effects) ↔ effect.Tells cook ∧ Tells cook effects :=
  List.forall_mem_cons

@[simp] theorem tells_append (before after : List SmEffect) :
    Tells cook (before ++ after) ↔ Tells cook before ∧ Tells cook after :=
  List.forall_mem_append

theorem OffStore.tells {effects : List SmEffect} (h : OffStore effects) : Tells cook effects := by
  intro effect item
  have off := h effect item
  cases effect with
  | store cmd => cases off
  | _ => trivial

/-- A fetch tells of the oven's cook. -/
theorem fetchCurrentCook_tells (reported : s.ovenCook = cook) (reason : CurrentCookReason) :
    (fetchCurrentCook s reason).Tells cook := by
  subst reported
  unfold fetchCurrentCook
  split
  · trivial
  · cases told : s.ovenCook with
    | none => trivial
    | some oven => exact rfl

theorem startedCooking_ovenCook (fresh : Fresh) (s : SmState) (status : OvenStatus) :
    (startedCooking fresh s status).1.ovenCook = s.ovenCook :=
  congrArg (fun kept => kept.standing.ovenCook) (startedCooking_selfActing fresh s status)

theorem stoppedCooking_ovenCook (s : SmState) : (stoppedCooking s).1.ovenCook = s.ovenCook := rfl

theorem settlePreheat_ovenCook (env : Env) (s : SmState) (status : OvenStatus) :
    (settlePreheat env s status).1.ovenCook = s.ovenCook :=
  congrArg (fun kept => kept.standing.ovenCook) (settlePreheat_selfActing env s status)

/-! ## Every step -/

theorem startedCooking_tells (fresh : Fresh) (s : SmState) (status : OvenStatus) :
    Tells s.ovenCook (startedCooking fresh s status).2 := by
  unfold startedCooking
  dsimp only
  rw [tells_append]
  refine ⟨(lampOn_offStore _ _ _ _).tells, ?_⟩
  rw [tells_cons, tells_cons]
  refine ⟨fetchCurrentCook_tells ?_ _, trivial, tells_nil⟩
  exact startedCooking_ovenCook fresh s status

theorem recordStatus_tells (fresh : Fresh) (s : SmState) (status : OvenStatus) :
    Tells s.ovenCook (recordStatus fresh s status).2 := by
  unfold recordStatus
  dsimp only
  rw [tells_append, tells_append]
  refine ⟨⟨?_, ?_⟩, ?_⟩
  · split
    · exact startedCooking_tells fresh s status
    · exact tells_nil
  · split
    · simp [stoppedCooking, SmEffect.Tells]
    · exact tells_nil
  · split
    · rw [tells_cons]
      refine ⟨fetchCurrentCook_tells ?_ _, tells_nil⟩
      cases status.isCooking <;> cases s.reportsCooking <;>
        simp [startedCooking_ovenCook, stoppedCooking_ovenCook]
    · exact tells_nil

theorem apoState_tells (env : Env) (s : SmState) (status : OvenStatus) (cook : Option OvenCook) :
    Tells cook (stateMachine.effects s (env, .event (.ws (.apoState status cook)))) := by
  have recorded := recordStatus_tells env.fresh
    (settlePreheat env { s with ovenCook := cook } status).1
    (settlePreheat env { s with ovenCook := cook } status).2.1
  rw [settlePreheat_ovenCook] at recorded
  rw [apoState_effects]
  simp only [tells_append, tells_cons, tells_nil, and_true]
  refine ⟨⟨?_, ⟨recorded, (turnOffWhenDone_offStore _ _).tells⟩, trivial⟩,
    (settlePreheat_offStore _ _ _).tells⟩
  split <;> simp [SmEffect.Tells]

theorem commandAck_tells (s : SmState) (requestId status : String) :
    Tells s.ovenCook (applyCommandAck s requestId status).2 := by
  unfold applyCommandAck
  dsimp only
  split
  · split
    · rw [tells_cons]
      refine ⟨fetchCurrentCook_tells ?_ _, tells_nil⟩
      split <;> rfl
    · simp [commandFailed, SmEffect.Tells]
  · split
    · simp [commandFailed, SmEffect.Tells]
    · exact (ackControl_offStore s requestId status).tells

/-- The messages that start or link a cook. -/
def startsOrLinks : Input → Bool
  | .command (.startCook _) => true
  | .command (.startManualCook _ _) => true
  | .command (.linkCurrentCook _ _) => true
  | _ => false

/-- **The store hears of the cook last reported, and of no other.** -/
theorem effects_tell (s : SmState) (i : Env × Input) (other : startsOrLinks i.2 = false) :
    Tells (stateMachine.next s i).ovenCook (stateMachine.effects s i) := by
  rw [next_ovenCook]
  obtain ⟨env, input⟩ := i
  cases input with
  | command cmd =>
    show Tells s.ovenCook (reduceCommand env s cmd).effects
    cases cmd with
    | stopCook => exact (stopCook_offStore env.fresh s).tells
    | control request =>
      unfold reduceCommand
      dsimp only
      split
      · exact tells_nil
      · simp [sendControl, SmEffect.Tells]
    | refreshRecipes => simp [reduceCommand, SmEffect.Tells]
    | startCook recipeId => cases other
    | startManualCook title stages => cases other
    | linkCurrentCook recipeId title => cases other
    | _ => exact tells_nil
  | event evt =>
    cases evt with
    | ws event =>
      cases event with
      | apoState status cook => exact apoState_tells env s status cook
      | commandAck requestId status => exact commandAck_tells s requestId status
      | _ => exact tells_nil
    | store event =>
      show Tells s.ovenCook (reduceStoreEvent s event).2
      cases event with
      | recipesRefreshed result => cases result <;> simp [reduceStoreEvent, SmEffect.Tells]
      | historyRefreshed result => cases result <;> simp [reduceStoreEvent, SmEffect.Tells]
      | currentCookFetched reason result =>
        cases result <;> simp [reduceStoreEvent, SmEffect.Tells]
      | recipeRefPatched cookId recipeId result =>
        cases result with
        | ok => exact (tells_cons _ _).mpr ⟨fetchCurrentCook_tells rfl _, tells_nil⟩
        | error e => exact tells_nil
      | manualCookTitleResolved cookKey result =>
        rcases result with e | (_ | ⟨title, recipeId⟩) <;>
          simp [reduceStoreEvent, SmEffect.Tells]
    | tick kind =>
      show Tells s.ovenCook (reduceTick s kind)
      cases kind with
      | currentCookRefresh =>
        unfold reduceTick
        dsimp only
        split
        · exact (tells_cons _ _).mpr ⟨fetchCurrentCook_tells rfl _, tells_nil⟩
        · exact tells_nil
      | _ => simp [reduceTick, SmEffect.Tells]

end AnovaOven
