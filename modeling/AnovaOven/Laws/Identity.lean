import AnovaOven.Laws.Journal
import AnovaOven.Laws.Starts
import AnovaOven.Server

/-!
# A started cook keeps its identity

A cook's identity is what the server knows of it that the oven doesn't: the title and the recipe it
was started under, and its extras. The store keeps it in the journal, and a report of the cook that
finds another journal, or none, makes the cook one the server didn't start (`identityOf`).

**Exact condition** (`started_cook_identity_iff`): between an accepted start and the oven's first
report of the cook, the identity lasts exactly as long as no message tells the store of the oven's
cook before (`Disturbs`): the hold-back ends with the first idle report, and the second one tells
(`second_idle_report_loses`).
-/

namespace AnovaOven

open Machine

/-! ## Identity -/

/-- What the server knows of a cook that the oven doesn't. -/
structure Identity where
  title : String
  recipeId : Option String
  extras : CookExtras
  deriving Repr, DecidableEq

/-- The identity of a cook the server didn't start. -/
def Identity.manual : Identity := ⟨manualTitle, none, .empty⟩

/-- A current cook bears an identity over the oven's stages. -/
structure Identity.Borne (identity : Identity) (stages : List Stage) (current : CurrentCook) :
    Prop where
  title : current.recipeTitle = identity.title
  recipeId : current.recipeId = identity.recipeId
  stages : current.stages = identity.extras.apply stages

/-- Two identities that no current cook tells apart. -/
structure Identity.Same (a b : Identity) : Prop where
  title : a.title = b.title
  recipeId : a.recipeId = b.recipeId
  extras : ∀ stages, a.extras.apply stages = b.extras.apply stages

namespace ActiveCook

def identity (active : ActiveCook) : Identity :=
  ⟨active.recipeTitle, active.recipeId, active.extras⟩

end ActiveCook

/-- Extras that no stages show are none. -/
theorem extras_empty {extras : CookExtras}
    (h : ∀ stages, extras.apply stages = CookExtras.empty.apply stages) : extras = .empty := by
  obtain ⟨turnOff, prompts⟩ := extras
  have off : turnOff = false := by
    have flag := congrArg (List.map Stage.turnOffAtEnd) (h [Kitchen.roast])
    cases turnOff
    · rfl
    · simp [CookExtras.apply, CookExtras.applyTurnOff, CookExtras.empty] at flag
  have none : prompts = [] := by
    cases prompts with
    | nil => rfl
    | cons entry rest =>
      have prompt := congrArg (List.map Stage.prompt) (h [{ Kitchen.roast with id := some entry.1 }])
      simp [CookExtras.apply, CookExtras.applyTurnOff, CookExtras.empty] at prompt
  rw [off, none]
  rfl

namespace LocalStore

/-- The identity the journal has of a cook: of one the server didn't start, where the journal isn't of
the cook. -/
def identityOf (store : LocalStore) (cookId : String) : Identity :=
  match store.disk.active with
  | some active => if active.cookId = cookId then active.identity else .manual
  | none => .manual

variable {store : LocalStore} {cookId : String} {now : Moment}

/-- The journal's identities depend on the journal alone. -/
theorem identityOf_congr {store' : LocalStore} (same : store'.disk.active = store.disk.active) :
    store'.identityOf cookId = store.identityOf cookId := by
  unfold identityOf
  rw [same]

/-- A report of a cook keeps its identity. -/
theorem journalled_identity {cook : OvenCook} (own : cook.cookId = cookId) :
    (store.journalled now cook).identity = store.identityOf cookId := by
  subst own
  unfold journalled identityOf
  split
  · rename_i none
    rw [none]
    rfl
  · rename_i active journal
    rw [journal]
    dsimp only
    split <;> rfl

/-- A journal of a cook has that cook's identity, and no other's. -/
theorem identityOf_some {active : ActiveCook} (journal : store.disk.active = some active) :
    store.identityOf cookId =
      if active.cookId = cookId then active.identity else .manual := by
  unfold identityOf
  rw [journal]

theorem identityOf_other {active : Option ActiveCook} (journal : store.disk.active = active)
    (other : active.map (·.cookId) ≠ some cookId) : store.identityOf cookId = .manual := by
  cases active with
  | none =>
    unfold identityOf
    rw [journal]
  | some active =>
    rw [identityOf_some journal, if_neg fun same => other (congrArg some same)]

/-! ## What keeps it -/

/-- An operation of the cook keeps its identity. -/
theorem perform_identity {op : StoreOp} (ofCook : op.OfCook cookId) :
    (store.perform op).identityOf cookId = store.identityOf cookId := by
  rcases store.perform_ofCook ofCook with same | ⟨cook, now, own, reported⟩
  · exact identityOf_congr same
  · rw [identityOf_some reported, journalled_cookId, if_pos own, journalled_identity own]

theorem run_identity (store : LocalStore) {block : List StoreOp}
    (ofCook : ∀ op ∈ block, op.OfCook cookId) :
    (storeOps.run store block).identityOf cookId = store.identityOf cookId :=
  run_keeps (m := storeOps) (I := fun s => identityOf s cookId = store.identityOf cookId)
    (fun _ op item same => (perform_identity (ofCook op item)).trans same) rfl

/-- The current cook of a cook bears its identity. -/
theorem currentCook_borne (store : LocalStore) (now : Moment) (cook : OvenCook)
    (own : cook.cookId = cookId) :
    ∃ current, (store.currentCook (some cook) now).2 = .ok (some current) ∧
      (store.identityOf cookId).Borne cook.stages current := by
  obtain ⟨active, _, result, journal⟩ := store.currentCook_active now cook
  refine ⟨_, result, ?_⟩
  have same : active.identity = store.identityOf cookId := by
    rcases journal with ⟨journal, mine⟩ | rfl
    · rw [identityOf_some journal, if_pos (mine.trans own)]
    · exact journalled_identity own
  rw [← same]
  exact ⟨rfl, rfl, rfl⟩

/-- After its report, and more operations of it, the journal is of the cook, seen. -/
theorem run_seen (store : LocalStore) {block : List StoreOp} (ofCook : ∀ op ∈ block, op.OfCook cookId)
    {cook : OvenCook} {now : Moment} (reported : .ovenReported (some cook) now ∈ block) :
    ∃ active lastSeenAt, (storeOps.run store block).disk.active = some active ∧
      active.cookId = cookId ∧ active.lastSeenAt = some lastSeenAt := by
  obtain ⟨before, after, rfl⟩ := List.append_of_mem reported
  rw [run_append, run_cons]
  refine run_keeps (m := storeOps) (I := fun s => ∃ active lastSeenAt,
    s.disk.active = some active ∧ active.cookId = cookId ∧ active.lastSeenAt = some lastSeenAt)
    ?_ ?_
  · rintro s op item ⟨active, lastSeenAt, journal, own, seen⟩
    have ofCook := ofCook op (List.mem_append_right _ (List.mem_cons_of_mem _ item))
    rcases s.perform_ofCook ofCook with same | ⟨cook, now, own, reported⟩
    · exact ⟨active, lastSeenAt, same.trans journal, own, seen⟩
    · exact ⟨_, _, reported, (journalled_cookId cook).trans own, journalled_seen cook⟩
  · have own := ofCook _ reported
    exact ⟨_, _, reconcile_active .., (journalled_cookId cook).trans own, journalled_seen cook⟩

end LocalStore

/-- A store keeps a cook under an identity: through any operations of the cook, its current cook
bears the identity; and once the cook is reported and then found gone, its history entry bears the
title. -/
structure KeepsIdentity (store : LocalStore) (cookId : String) (identity : Identity) : Prop where
  current : ∀ block : List StoreOp, (∀ op ∈ block, op.OfCook cookId) →
    ∀ (cook : OvenCook) (now : Moment), cook.cookId = cookId →
      ∃ current, ((storeOps.run store block).currentCook (some cook) now).2 = .ok (some current) ∧
        identity.Borne cook.stages current
  history : ∀ block : List StoreOp, (∀ op ∈ block, op.OfCook cookId) →
    (∃ cook now, .ovenReported (some cook) now ∈ block) →
    ∀ (ending : StoreOp) (now : Moment), ending.Leaves cookId now →
      ∃ entry, (storeOps.run store block).ended ending = [(cookId, entry)] ∧
        entry.recipeTitle = identity.title

/-- A store keeps a cook under the identity its journal has of the cook, and no other. -/
theorem keepsIdentity_iff {store : LocalStore} {cookId : String} {identity : Identity} :
    KeepsIdentity store cookId identity ↔ (store.identityOf cookId).Same identity := by
  constructor
  · intro keeps
    have borne := fun stages => keeps.current [] (by simp) ⟨cookId, stages, [], 0⟩
      ⟨0, "", fun _ => none⟩ rfl
    have journal := fun stages => store.currentCook_borne ⟨0, "", fun _ => none⟩
      ⟨cookId, stages, [], 0⟩ (rfl : _ = cookId)
    have both : ∀ stages, ∃ current, (store.identityOf cookId).Borne stages current ∧
        identity.Borne stages current := by
      intro stages
      obtain ⟨a, ha, wanted⟩ := borne stages
      obtain ⟨b, hb, had⟩ := journal stages
      obtain rfl := Option.some.inj (Except.ok.inj (ha.symm.trans hb))
      exact ⟨a, had, wanted⟩
    obtain ⟨current, had, wanted⟩ := both []
    refine ⟨had.title.symm.trans wanted.title, had.recipeId.symm.trans wanted.recipeId, ?_⟩
    intro stages
    obtain ⟨current, had, wanted⟩ := both stages
    exact had.stages.symm.trans wanted.stages
  · intro same
    constructor
    · intro block ofCook cook now own
      obtain ⟨current, result, borne⟩ := (storeOps.run store block).currentCook_borne now cook own
      rw [store.run_identity ofCook] at borne
      exact ⟨current, result, borne.title.trans same.title, borne.recipeId.trans same.recipeId,
        borne.stages.trans (same.extras _)⟩
    · rintro block ofCook ⟨cook, seenAt, reported⟩ ending now leaves
      obtain ⟨active, lastSeenAt, journal, own, seen⟩ :=
        store.run_seen ofCook reported
      have identity := store.run_identity ofCook
      rw [LocalStore.identityOf_some journal, if_pos own] at identity
      subst own
      refine ⟨_, LocalStore.ended_of_leaves _ now journal seen leaves, ?_⟩
      exact (congrArg Identity.title identity).trans same.title

/-! ## What the store is told -/

namespace LocalStore

variable {read : Bytes → Option HistoryEntry} {store : LocalStore} {cookId : String} {now : Moment}
  {cook : Option OvenCook} {cmd : StoreCommand}

/-- A command that tells of no cook, and starts and links none, leaves the journal. -/
theorem handle_quiet (tells : (SmEffect.store cmd).Tells cook)
    (silent : (SmEffect.store cmd).tellsOfCook = false) :
    (store.handle read now cmd).1.identityOf cookId = store.identityOf cookId := by
  cases cmd with
  | fetchCurrentCook reason ovenCook =>
    cases ovenCook with
    | none => rfl
    | some cook => cases silent
  | ovenReported ovenCook => cases silent
  | patchCookRecipeRef => cases tells
  | linkCookToRecipe => cases tells
  | _ => rfl

/-- What a command that tells of a cook leaves in the journal. -/
theorem handle_told (read : Bytes → Option HistoryEntry) (store : LocalStore) (now : Moment)
    (tells : (SmEffect.store cmd).Tells cook)
    (telling : (SmEffect.store cmd).tellsOfCook) :
    (store.handle read now cmd).1.disk.active = cook.map (store.journalled now) ∨
      ∃ active, cook.map (·.cookId) = some active.cookId ∧ store.disk.active = some active ∧
        (store.handle read now cmd).1.disk.active = some active := by
  cases cmd with
  | fetchCurrentCook reason ovenCook =>
    cases ovenCook with
    | none => cases telling
    | some fetched =>
      obtain rfl : some fetched = cook := tells
      obtain ⟨active, after, _, journal⟩ := store.currentCook_active now fetched
      rcases journal with ⟨journal, own⟩ | rfl
      · exact .inr ⟨active, congrArg some own.symm, journal, after⟩
      · exact .inl after
  | ovenReported ovenCook =>
    obtain rfl : ovenCook = cook := tells
    exact .inl (reconcile_active ..)
  | _ => cases telling

/-- A command that tells of the cook keeps its identity. -/
theorem handle_own (tells : (SmEffect.store cmd).Tells cook)
    (own : cook.map (·.cookId) = some cookId) :
    (store.handle read now cmd).1.identityOf cookId = store.identityOf cookId := by
  cases telling : (SmEffect.store cmd).tellsOfCook with
  | false => exact handle_quiet tells telling
  | true =>
    rcases handle_told read store now tells telling with
      told | ⟨active, _, journal, kept⟩
    · obtain ⟨oven, rfl, mine⟩ := Option.map_eq_some_iff.mp own
      rw [identityOf_some told, journalled_cookId, if_pos mine, journalled_identity mine]
    · exact identityOf_congr (kept.trans journal.symm)

/-- A command that tells of another cook, or of none, loses it. -/
theorem handle_other (tells : (SmEffect.store cmd).Tells cook)
    (telling : (SmEffect.store cmd).tellsOfCook) (other : cook.map (·.cookId) ≠ some cookId) :
    (store.handle read now cmd).1.identityOf cookId = .manual := by
  rcases handle_told read store now tells telling with
    told | ⟨active, mine, _, kept⟩
  · apply identityOf_other told
    rw [map_journalled]
    exact other
  · exact identityOf_other kept (by simpa [mine] using other)

end LocalStore

variable {read : Bytes → Option HistoryEntry} {store : LocalStore} {cookId : String}
  {cook : Option OvenCook} {effects : List SmEffect} {clock : Nat → Moment}

theorem mem_storeCommands {command : Moment × StoreCommand}
    (item : command ∈ storeCommands clock effects) : .store command.2 ∈ effects := by
  obtain ⟨k, bound, rfl⟩ := List.mem_mapIdx.mp item
  obtain ⟨effect, mem, same⟩ := List.mem_filterMap.mp (List.getElem_mem bound)
  cases effect with
  | store cmd =>
    obtain rfl := Option.some.inj same
    exact mem
  | _ => cases same

/-- Effects that tell of no cook keep every identity. -/
theorem identity_silent (tells : Tells cook effects) (silent : Silent effects) :
    ((localStore read).run store (storeCommands clock effects)).identityOf cookId =
      store.identityOf cookId :=
  run_keeps (m := localStore read)
    (I := fun s => s.identityOf cookId = store.identityOf cookId)
    (fun _ _ item same => (LocalStore.handle_quiet (tells _ (mem_storeCommands item))
      (silent _ (mem_storeCommands item))).trans same) rfl

/-- Effects that tell of the cook keep its identity. -/
theorem identity_own (tells : Tells cook effects) (own : cook.map (·.cookId) = some cookId) :
    ((localStore read).run store (storeCommands clock effects)).identityOf cookId =
      store.identityOf cookId :=
  run_keeps (m := localStore read)
    (I := fun s => s.identityOf cookId = store.identityOf cookId)
    (fun _ _ item same => (LocalStore.handle_own (tells _ (mem_storeCommands item)) own).trans same)
    rfl

/-- A lost identity stays lost, where no effect tells of the cook. -/
theorem identity_lost (tells : Tells cook effects) (other : cook.map (·.cookId) ≠ some cookId)
    (commands : List (Moment × StoreCommand))
    (asked : ∀ command ∈ commands, .store command.2 ∈ effects)
    (lost : store.identityOf cookId = .manual) :
    ((localStore read).run store commands).identityOf cookId = .manual := by
  refine run_keeps (m := localStore read) (I := fun s => s.identityOf cookId = .manual)
    (fun s command item lost => ?_) lost
  have tells := tells _ (asked command item)
  cases telling : (SmEffect.store command.2).tellsOfCook with
  | false => exact (LocalStore.handle_quiet tells telling).trans lost
  | true => exact LocalStore.handle_other tells telling other

/-- Effects that tell of another cook, or of none, lose it. -/
theorem identity_told (tells : Tells cook effects) (told : ¬ Silent effects)
    (other : cook.map (·.cookId) ≠ some cookId) :
    ((localStore read).run store (storeCommands clock effects)).identityOf cookId = .manual := by
  obtain ⟨effect, mem, telling⟩ : ∃ effect ∈ effects, effect.tellsOfCook = true := by
    simpa [Silent] using told
  obtain ⟨cmd, rfl⟩ : ∃ cmd, effect = .store cmd := by
    cases effect with
    | store cmd => exact ⟨cmd, rfl⟩
    | _ => cases telling
  have asked : cmd ∈ effects.filterMap SmEffect.storeCommand :=
    List.mem_filterMap.mpr ⟨_, mem, rfl⟩
  obtain ⟨k, bound, rfl⟩ := List.getElem_of_mem asked
  have item : (clock k, (effects.filterMap SmEffect.storeCommand)[k]) ∈
      storeCommands clock effects := List.mem_mapIdx.mpr ⟨k, bound, rfl⟩
  obtain ⟨before, after, split⟩ := List.append_of_mem item
  rw [split, run_append, run_cons]
  refine identity_lost tells other after (fun command item => ?_)
    (LocalStore.handle_other (tells _ mem) telling other)
  exact mem_storeCommands (split ▸ List.mem_append_right _ (List.mem_cons_of_mem _ item))

/-! ## From the start to the first report -/

/-- The messages that may come between a start and the oven's first report of its cook: no start, stop
or link, and no reports but idle ones that aren't of the cook. -/
def Between (cookId : String) : Input → Prop
  | .command (.startCook _) => False
  | .command (.startManualCook _ _) => False
  | .command .stopCook => False
  | .command (.linkCurrentCook _ _) => False
  | .event (.ws (.apoState status cook)) =>
    status.isCooking = false ∧ cook.map (·.cookId) ≠ some cookId
  | _ => True

/-- The messages among them that tell the store of the oven's cook: an idle report with no start
pending, and what fetches a cook the oven has reported with no start pending: the start's ok ack
(which may itself end the pending start), the answer to the start's journal, and the refresh of a
running cook. -/
def Disturbs (s : SmState) : Input → Prop
  | .event (.ws (.apoState _ _)) => s.lifecycle ≠ .startPending
  | .event (.ws (.commandAck requestId answer)) =>
    s.awaitsStart requestId ∧ ackOk answer ∧ s.ovenCook ≠ none ∧
      (s.lifecycle ≠ .startPending ∨ s.localMode ∧ s.reportsCooking)
  | .event (.store (.recipeRefPatched _ _ (.ok ()))) =>
    s.lifecycle ≠ .startPending ∧ s.ovenCook ≠ none
  | .event (.tick .currentCookRefresh) => s.lifecycle = .cooking ∧ s.ovenCook ≠ none
  | _ => False

variable {s : SmState} {env : Env}

/-- A report tells the store, unless a start is pending. -/
theorem apoState_silent_iff (status : OvenStatus) (oven : Option OvenCook)
    (idle : status.isCooking = false) :
    Silent (stateMachine.effects s (env, .event (.ws (.apoState status oven)))) ↔
      s.lifecycle = .startPending := by
  constructor
  · intro silent
    by_contra pending
    rw [apoState_effects, if_pos pending] at silent
    simp [SmEffect.tellsOfCook] at silent
  · exact fun pending => apoState_held env status oven pending (by simp [idle])

/-- The start's ok ack fetches, from a cooking lifecycle where the ack itself ends the start. -/
theorem startAck_fetches {requestId answer : String} (mine : s.awaitsStart requestId)
    (ok : ackOk answer) :
    ∃ s' : SmState,
      (applyCommandAck s requestId answer).2 = [fetchCurrentCook s' .startCommandAccepted] ∧
        s'.ovenCook = s.ovenCook ∧
        s'.lifecycle = if s.localMode && s.reportsCooking then .cooking else s.lifecycle := by
  unfold applyCommandAck
  rw [if_pos mine, if_pos ok]
  refine ⟨_, rfl, ?_, ?_⟩
  · split <;> rfl
  · show SmState.lifecycle (ite ((s.localMode && s.reportsCooking) = true) _ _) = _
    split <;> rfl

/-- An ack tells the store where it is the start's, and fetches a cook. -/
theorem commandAck_silent_iff (requestId answer : String) :
    Silent (applyCommandAck s requestId answer).2 ↔
      ¬ Disturbs s (.event (.ws (.commandAck requestId answer))) := by
  unfold Disturbs
  by_cases mine : s.awaitsStart requestId
  · by_cases ok : ackOk answer
    · obtain ⟨s', fetches, oven, lifecycle⟩ := startAck_fetches mine ok
      rw [fetches, silent_cons, fetchCurrentCook_silent, oven, lifecycle]
      by_cases resolves : s.localMode && s.reportsCooking
      · have both := Bool.and_eq_true_iff.mp resolves
        simp [mine, ok, both]
      · have neither : ¬ (s.localMode = true ∧ s.reportsCooking = true) := fun both =>
          resolves (Bool.and_eq_true_iff.mpr both)
        by_cases pending : s.lifecycle = .startPending <;>
          simp [resolves, mine, ok, neither, pending]
    · unfold applyCommandAck
      rw [if_pos mine, if_neg ok]
      simp [mine, ok, commandFailed, SmEffect.tellsOfCook]
  · refine iff_of_true ?_ (fun disturbs => mine disturbs.1)
    unfold applyCommandAck
    rw [if_neg mine]
    split
    · simp [commandFailed, SmEffect.tellsOfCook]
    · exact (ackControl_offStore s requestId answer).silent

/-- Only a message that may tell the store disturbs. -/
theorem Disturbs.mayTell {input : Input} (h : Disturbs s input) : mayTell input = true := by
  unfold Disturbs at h
  split at h
  · rfl
  · rfl
  · rfl
  · rfl
  · cases h

/-- The messages between that tell the store are those that disturb. -/
theorem silent_iff {input : Input} (between : Between cookId input) :
    Silent (stateMachine.effects s (env, input)) ↔ ¬ Disturbs s input := by
  cases may : mayTell input with
  | false =>
    apply iff_of_true (effects_silent s env may)
    intro disturbs
    rw [disturbs.mayTell] at may
    cases may
  | true =>
    unfold mayTell at may
    split at may
    · rw [apoState_silent_iff _ _ between.1]
      exact not_not.symm
    · exact commandAck_silent_iff _ _
    · show Silent [fetchCurrentCook s .startCommandAccepted] ↔ _
      simp [fetchCurrentCook_silent, Disturbs, imp_iff_not_or]
    · show Silent (reduceTick s .currentCookRefresh) ↔ _
      unfold reduceTick Disturbs
      cases lifecycle : s.lifecycle <;> simp [fetchCurrentCook_silent, lifecycle]
    · cases may

/-- An accepted start, and the identity it gives its cook: a saved recipe's, where its file in the
store is the recipe the state machine has, or the title given with the stages. -/
inductive AcceptedStart (server : Server) (env : Env) : Input → Identity → Prop where
  | recipe (recipeId : String) (recipe : Recipe)
      (known : server.sm.connectivity.cookerId.isSome)
      (found : server.sm.recipes.find? (fun r => r.id = recipeId) = some recipe)
      (kept : server.store.recipe recipe.id = some recipe) :
      AcceptedStart server env (.command (.startCook recipeId))
        ⟨recipe.title, some recipe.id,
          CookExtras.fromStages (startedStages env.fresh recipe.stages)⟩
  | manual (title : String) (stages : List Stage)
      (known : server.sm.connectivity.cookerId.isSome) :
      AcceptedStart server env (.command (.startManualCook title stages))
        ⟨title, none, CookExtras.fromStages (startedStages env.fresh stages)⟩

/-- A report of a cook. -/
def ReportOf (cookId : String) : Input → Prop
  | .event (.ws (.apoState _ (some cook))) => cook.cookId = cookId
  | _ => False

variable {server : Server} {identity : Identity} {i : ServerInput}

/-- A turn reduces the message, and handles its store commands. -/
theorem serverMachine_next (server : Server) (i : ServerInput) :
    (serverMachine read).next server i =
      ⟨stateMachine.next server.sm (i.env, i.input),
        (localStore read).run server.store
          (storeCommands i.clock (stateMachine.effects server.sm (i.env, i.input)))⟩ := rfl

/-- The title a store opens the journal of a started cook under. -/
def LocalStore.startedTitle (store : LocalStore) : StartedFrom → String
  | .recipe recipeId => ((store.recipe recipeId).map fun recipe => recipe.title).getD manualTitle
  | .manual title _ => title

/-- A start's cook has the title of what it was made from, and the start's extras. -/
theorem started_identity {ws : WsCommand} {cookId : String} {started : StartedFrom}
    {extras : CookExtras}
    (effects : stateMachine.effects server.sm (i.env, i.input) =
      [.ws ws, .store (.patchCookRecipeRef cookId started extras)]) :
    ((serverMachine read).next server i).store.identityOf cookId =
      ⟨server.store.startedTitle started, started.recipeId, extras⟩ := by
  rw [serverMachine_next, effects]
  cases started with
  | recipe recipeId =>
    show (server.store.carryOut
      (server.store.cookStarted cookId recipeId extras (i.clock 0)).1).identityOf cookId =
        ⟨((server.store.recipe recipeId).map fun recipe => recipe.title).getD manualTitle,
          some recipeId, extras⟩
    unfold LocalStore.cookStarted
    cases server.store.recipe recipeId with
    | none =>
      have journal := server.store.journalStart_active (i.clock 0) cookId (some recipeId) manualTitle
        0 extras
      exact (LocalStore.identityOf_some journal).trans (if_pos rfl)
    | some recipe =>
      have journal := server.store.journalStart_active (i.clock 0) cookId (some recipeId) recipe.title
        (cookStageCount recipe.stages) extras
      exact (LocalStore.identityOf_some journal).trans (if_pos rfl)
  | manual title stageCount =>
    have journal := server.store.journalStart_active (i.clock 0) cookId none title stageCount extras
    exact (LocalStore.identityOf_some journal).trans (if_pos rfl)

/-- An accepted start's cook has its identity in the journal. -/
theorem AcceptedStart.journalled (h : AcceptedStart server i.env i.input identity) :
    ((serverMachine read).next server i).store.identityOf (mintedCookId i.env.fresh) =
      identity := by
  obtain ⟨env, input, clock⟩ := i
  cases h with
  | recipe recipeId recipe known found kept =>
    have starts : Starts env server.sm (.startCook recipeId) recipe (.recipe recipe.id) :=
      .recipe recipeId recipe known found
    rw [started_identity starts.effects]
    show (⟨((server.store.recipe recipe.id).map fun recipe => recipe.title).getD manualTitle, _, _⟩ :
      Identity) = _
    rw [kept]
    rfl
  | manual title stages known =>
    have starts : Starts env server.sm (.startManualCook title stages)
        (manualRecipe env.fresh title stages) (.manual title (cookStageCount stages)) :=
      .manual title stages known
    exact started_identity (i := ⟨env, .command (.startManualCook title stages), clock⟩)
      starts.effects

/-- What the messages between keep: the oven's last report is not of the cook. -/
theorem Between.next (read : Bytes → Option HistoryEntry) (between : Between cookId i.input)
    (unseen : server.sm.ovenCook.map (·.cookId) ≠ some cookId) :
    ((serverMachine read).next server i).sm.ovenCook.map (·.cookId) ≠ some cookId := by
  rw [serverMachine_next, next_ovenCook]
  obtain ⟨env, input, clock⟩ := i
  dsimp only
  split
  · exact between.2
  · exact unseen

theorem Between.other (between : Between cookId i.input) : startsOrLinks i.input = false := by
  obtain ⟨env, input, clock⟩ := i
  cases input with
  | command cmd => cases cmd <;> first | rfl | cases between
  | event evt => rfl

/-- **Between the start and the first report**: where no message disturbs, the cook keeps its
identity; where one does, it becomes one the server didn't start. -/
theorem between_identity (read : Bytes → Option HistoryEntry) {between : List ServerInput}
    (all : ∀ i ∈ between, Between cookId i.input)
    (unseen : server.sm.ovenCook.map (·.cookId) ≠ some cookId) :
    ((serverMachine read).Each (fun server i => ¬ Disturbs server.sm i.input) server between →
      ((serverMachine read).run server between).store.identityOf cookId =
        server.store.identityOf cookId) ∧
    (¬ (serverMachine read).Each (fun server i => ¬ Disturbs server.sm i.input) server between →
      ((serverMachine read).run server between).store.identityOf cookId = .manual) := by
  induction between generalizing server with
  | nil => exact ⟨fun _ => rfl, fun disturbed => absurd trivial disturbed⟩
  | cons i between ih =>
    have first := all i List.mem_cons_self
    have later := first.next read unseen
    have tells := effects_tell server.sm (i.env, i.input) first.other
    obtain ⟨kept, lost⟩ := ih (fun j item => all j (List.mem_cons_of_mem i item)) later
    have silent := @silent_iff cookId server.sm i.env i.input first
    by_cases disturbs : Disturbs server.sm i.input
    · -- from here on the journal is of another cook, or of none
      have manual : ((serverMachine read).next server i).store.identityOf cookId = .manual :=
        identity_told tells (fun h => silent.mp h disturbs) later
      refine ⟨fun each => absurd disturbs each.1, ?_⟩
      intro _
      by_cases rest : (serverMachine read).Each (fun server i => ¬ Disturbs server.sm i.input)
          ((serverMachine read).next server i) between
      · exact (kept rest).trans manual
      · exact lost rest
    · have same : ((serverMachine read).next server i).store.identityOf cookId =
          server.store.identityOf cookId := identity_silent tells (silent.mpr disturbs)
      exact ⟨fun each => (kept each.2).trans same,
        fun disturbed => lost fun rest => disturbed ⟨disturbs, rest⟩⟩

/-- The first report keeps what the journal has. -/
theorem reportOf_identity (report : ReportOf cookId i.input) :
    ((serverMachine read).next server i).store.identityOf cookId =
      server.store.identityOf cookId := by
  obtain ⟨env, input, clock⟩ := i
  unfold ReportOf at report
  split at report
  · rename_i status cook same
    obtain rfl : input = _ := same
    exact identity_own (apoState_tells env server.sm status (some cook)) (congrArg some report)
  · cases report

/-- **A started cook keeps its identity** exactly where no message between its accepted start and the
oven's first report of it tells the store of the oven's cook before, or the identity is that of a
cook the server didn't start. -/
theorem started_cook_identity_iff (read : Bytes → Option HistoryEntry) (server : Server)
    (start : ServerInput) (identity : Identity)
    (accepted : AcceptedStart server start.env start.input identity)
    (minted : server.sm.ovenCook.map (·.cookId) ≠ some (mintedCookId start.env.fresh))
    (between : List ServerInput)
    (idle : ∀ i ∈ between, Between (mintedCookId start.env.fresh) i.input)
    (report : ServerInput) (first : ReportOf (mintedCookId start.env.fresh) report.input) :
    KeepsIdentity ((serverMachine read).run server (start :: between ++ [report])).store
        (mintedCookId start.env.fresh) identity ↔
      (serverMachine read).Each (fun server i => ¬ Disturbs server.sm i.input)
          ((serverMachine read).next server start) between ∨
        identity = .manual := by
  have unseen : ((serverMachine read).next server start).sm.ovenCook.map (·.cookId) ≠
      some (mintedCookId start.env.fresh) := by
    rw [serverMachine_next, next_ovenCook]
    obtain ⟨env, input, clock⟩ := start
    cases accepted <;> exact minted
  obtain ⟨kept, lost⟩ := between_identity read idle unseen
  rw [keepsIdentity_iff, List.cons_append, run_cons, run_append, run_cons, run_nil,
    reportOf_identity first]
  by_cases each : (serverMachine read).Each (fun server i => ¬ Disturbs server.sm i.input)
      ((serverMachine read).next server start) between
  · rw [kept each, accepted.journalled]
    exact iff_of_true ⟨rfl, rfl, fun _ => rfl⟩ (.inl each)
  · rw [lost each]
    constructor
    · rintro ⟨title, recipeId, extras⟩
      right
      obtain ⟨_, _, set⟩ := identity
      cases title
      cases recipeId
      obtain rfl : set = .empty := extras_empty fun stages => (extras stages).symm
      rfl
    · rintro (undisturbed | rfl)
      · exact absurd undisturbed each
      · exact ⟨rfl, rfl, fun _ => rfl⟩

/-! ## Idle reports alone -/

/-- An accepted start is pending. -/
theorem AcceptedStart.pending (h : AcceptedStart server i.env i.input identity) :
    ((serverMachine read).next server i).sm.lifecycle = .startPending := by
  obtain ⟨env, input, clock⟩ := i
  rw [serverMachine_next]
  cases h with
  | recipe recipeId recipe known found kept =>
    show (startCook env server.sm recipeId).state.lifecycle = _
    unfold startCook
    rw [if_neg (by simpa [← Option.isSome_iff_ne_none] using known), found]
    rfl
  | manual title stages known =>
    show (startManualCook env server.sm title stages).state.lifecycle = _
    unfold startManualCook
    rw [if_neg (by simpa [← Option.isSome_iff_ne_none] using known)]
    rfl

/-- An idle report ends a pending start. -/
theorem idleReport_settles (read : Bytes → Option HistoryEntry)
    (idle : idleReport (i.env, i.input))
    (pending : server.sm.lifecycle = .startPending) :
    ((serverMachine read).next server i).sm.lifecycle = .idle := by
  obtain ⟨env, input, clock⟩ := i
  unfold idleReport at idle
  split at idle
  · rename_i status cook same
    obtain rfl : input = _ := same
    have observed := idleReport_phase server.sm env cook (by simpa using idle)
    have lifecycle : (phase server.sm).lifecycle = .startPending := pending
    show (phase _).lifecycle = _
    rw [serverMachine_next, observed]
    unfold Phase.observe Phase.rollBack
    cases (phase server.sm).cooking with
    | none => simp [lifecycle]
    | some cooking => cases cooking <;> simp [lifecycle]
  · cases idle

/-- Of idle reports after a start, the first finds it pending and the second tells the store. -/
theorem idleReports_undisturbed_iff (read : Bytes → Option HistoryEntry)
    {between : List ServerInput}
    (idle : ∀ i ∈ between, idleReport (i.env, i.input))
    (pending : server.sm.lifecycle = .startPending) :
    (serverMachine read).Each (fun server i => ¬ Disturbs server.sm i.input) server between ↔
      between.length ≤ 1 := by
  have disturbs_iff : ∀ (server : Server) (i : ServerInput), idleReport (i.env, i.input) →
      (Disturbs server.sm i.input ↔ server.sm.lifecycle ≠ .startPending) := by
    intro server i idle
    obtain ⟨env, input, clock⟩ := i
    unfold idleReport at idle
    split at idle
    · rename_i status cook same
      obtain rfl : input = _ := same
      exact Iff.rfl
    · cases idle
  match between with
  | [] => exact iff_of_true trivial (by simp)
  | [i] =>
    have quiet := (disturbs_iff server i (idle i (by simp))).not.mpr (not_not.mpr pending)
    exact iff_of_true ⟨quiet, trivial⟩ (by simp)
  | i :: j :: rest =>
    refine iff_of_false (fun each => each.2.1 ?_) (by simp)
    have settled := idleReport_settles read (idle i (by simp)) pending
    apply (disturbs_iff _ j (idle j (by simp))).mpr
    rw [settled]
    simp

/-- **Idle reports.** With nothing but idle reports between an accepted start and the first report of
its cook, the cook keeps its identity exactly where there is at most one of them. -/
theorem idle_reports_keep_iff (server : Server) (start : ServerInput)
    (accepted : AcceptedStart server start.env start.input identity)
    (minted : server.sm.ovenCook.map (·.cookId) ≠ some (mintedCookId start.env.fresh))
    (between : List ServerInput)
    (idle : ∀ i ∈ between, idleReport (i.env, i.input))
    (others : ∀ i ∈ between, Between (mintedCookId start.env.fresh) i.input)
    (report : ServerInput) (first : ReportOf (mintedCookId start.env.fresh) report.input) :
    KeepsIdentity ((serverMachine read).run server (start :: between ++ [report])).store
        (mintedCookId start.env.fresh) identity ↔
      between.length ≤ 1 ∨ identity = .manual := by
  rw [← idleReports_undisturbed_iff read idle accepted.pending]
  exact started_cook_identity_iff read server start identity accepted minted between others report
    first

/-! ## A kitchen's server -/

namespace Kitchen

/-- An idle oven's server in local mode. -/
def idleServer : Server := ⟨stateMachine.run (SmState.init true 0) [found, reports "idle"], emptyStore⟩

/-- A message to the server. -/
def receives (i : Env × Input) : ServerInput := ⟨i.1, i.2, fun _ => moment "2023-11-14T22:13:20Z"⟩

def reportsCook (cookId : String) : Env × Input :=
  (Kitchen.env "", .event (.ws (.apoState (status "cook") (some (ovenCook cookId)))))

/-- The identity of a roast started with its stages. -/
def roastIdentity : Identity :=
  ⟨"Roast", none, CookExtras.fromStages (startedStages (Kitchen.env "roast").fresh [roast])⟩

end Kitchen

/-- A roast that one idle report arrives after the start of keeps its identity. -/
theorem started_cook_identity_roast :
    KeepsIdentity
      ((serverMachine fun _ => none).run Kitchen.idleServer
        [Kitchen.receives (Kitchen.starts "roast"), Kitchen.receives (Kitchen.reports "idle"),
          Kitchen.receives (Kitchen.reportsCook "ios-roast")]).store
      "ios-roast" Kitchen.roastIdentity :=
  (started_cook_identity_iff (fun _ => none) Kitchen.idleServer
    (Kitchen.receives (Kitchen.starts "roast")) Kitchen.roastIdentity
    (.manual "Roast" [Kitchen.roast] (by decide)) (by decide)
    [Kitchen.receives (Kitchen.reports "idle")]
    (fun i item => List.mem_singleton.mp item ▸ ⟨by decide, by simp⟩)
    (Kitchen.receives (Kitchen.reportsCook "ios-roast")) (by rfl)).mpr
    (.inl ⟨fun disturbs => disturbs (by decide), trivial⟩)

/-- A second idle report before the oven takes the roast up drops its journal: the roast is then one
the server didn't start. -/
theorem second_idle_report_loses :
    ¬ ∀ (server : Server) (start : ServerInput) (identity : Identity),
      AcceptedStart server start.env start.input identity →
      server.sm.ovenCook.map (·.cookId) ≠ some (mintedCookId start.env.fresh) →
      ∀ between : List ServerInput,
        (∀ i ∈ between, Between (mintedCookId start.env.fresh) i.input) →
        ∀ report : ServerInput, ReportOf (mintedCookId start.env.fresh) report.input →
          KeepsIdentity
            ((serverMachine fun _ => none).run server (start :: between ++ [report])).store
            (mintedCookId start.env.fresh) identity := by
  intro always
  have keeps := always Kitchen.idleServer (Kitchen.receives (Kitchen.starts "roast"))
    Kitchen.roastIdentity (.manual "Roast" [Kitchen.roast] (by decide)) (by decide)
    [Kitchen.receives (Kitchen.reports "idle"), Kitchen.receives (Kitchen.reports "idle")]
    (fun i item => by
      obtain rfl : i = Kitchen.receives (Kitchen.reports "idle") := by simpa using item
      exact ⟨by decide, by simp⟩)
    (Kitchen.receives (Kitchen.reportsCook "ios-roast")) (by rfl)
  exact absurd (keepsIdentity_iff.mp keeps).title (by decide)

end AnovaOven
