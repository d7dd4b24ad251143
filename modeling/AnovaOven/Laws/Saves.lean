import AnovaOven.Laws.Local
import AnovaOven.Processors.Http

/-!
# Saves and the cooks they link

A save reads the current cook, writes a recipe of its stages, and links the current cook to it: the one
there is then. Neither the link nor its journalling says which cook it is for.

Which cook the current one is isn't kept by the state machine. A history variable (`Shown`) tells it, by
the starts and by the fetches the replies answer (`shownAfter_isSome`).

**A save links its own cook** (`links_own_cook`), where nothing the server awaits or has asked is of
another cook when the save reads, and no other cook is started or told of up to the link. A start by
another client in between has its cook linked (`other_cook_linked`).
-/

namespace AnovaOven

variable {read : Bytes → Option HistoryEntry}

/-! ## The journal's cook -/

/-- The cook the journal is of. -/
def LocalStore.journalCook (store : LocalStore) : Option String :=
  store.disk.active.map (·.cookId)

/-- The journal's cook after a command: the one the command names. -/
def StoreCommand.journals (journal : Option String) : StoreCommand → Option String
  | fetchCurrentCook _ (some cook) => some cook.cookId
  | ovenReported ovenCook => ovenCook.map (·.cookId)
  | patchCookRecipeRef cookId _ _ => some cookId
  | _ => journal

/-- The journal's cook once the commands that wait are handled. -/
def LocalServer.journalCook (s : LocalServer) : Option String :=
  s.commands.foldl StoreCommand.journals s.far.journalCook

theorem handle_journalCook (store : LocalStore) (now : Moment) (cmd : StoreCommand) :
    (store.handle read now cmd).1.journalCook = cmd.journals store.journalCook := by
  cases cmd with
  | fetchCurrentCook reason ovenCook =>
    cases ovenCook with
    | none => rfl
    | some cook =>
      obtain ⟨active, after, _, journal⟩ := store.currentCook_active now cook
      refine (congrArg (Option.map (·.cookId)) after).trans (congrArg some ?_)
      rcases journal with ⟨_, own⟩ | rfl
      · exact own
      · exact LocalStore.journalled_cookId ..
  | ovenReported ovenCook =>
    apply (congrArg (Option.map (·.cookId)) (store.reconcile_active now ovenCook)).trans
    exact LocalStore.map_journalled ..
  | patchCookRecipeRef cookId started extras =>
    cases started with
    | recipe recipeId =>
      exact congrArg (Option.map (·.cookId)) (store.journalStart_active now ..)
    | manual title count =>
      exact congrArg (Option.map (·.cookId)) (store.journalStart_active now ..)
  | linkCookToRecipe recipeId title =>
    show (store.disk.carryOut (store.linkCook recipeId title)).active.map (·.cookId) = _
    unfold LocalStore.linkCook LocalStore.journalCook
    cases journal : store.disk.active with
    | none => exact congrArg (Option.map (·.cookId)) journal
    | some active => rfl
  | refreshRecipes | refreshHistory | resolveManualCookTitle => rfl

/-- The commands asked at a turn are what changes the journal's cook to come. -/
theorem next_journalCook (s : LocalServer) (t : LocalTurn) :
    LocalServer.journalCook ((localMachine read).next s t) =
      (((localMachine read).effects s t).filterMap (Duplex.asked localWiring)).foldl
        StoreCommand.journals s.journalCook := by
  have spec := Duplex.step_spec localWiring stateMachine (storeFiles read) s t
  show LocalServer.journalCook
      ((Duplex.machine localWiring stateMachine (storeFiles read)).step s t).1 =
    (((Duplex.machine localWiring stateMachine (storeFiles read)).step s t).2.filterMap
      (Duplex.asked localWiring)).foldl StoreCommand.journals s.journalCook
  generalize (Duplex.machine localWiring stateMachine (storeFiles read)).step s t = result at spec ⊢
  cases spec with
  | near i own =>
    simp [Duplex.nearStep, LocalServer.journalCook, Function.comp_def, List.filterMap_map]
  | far i own =>
    cases i with
    | command => cases own
    | recipes recipes => rfl
  | took now cmd rest waiting ready =>
    show rest.foldl StoreCommand.journals (s.far.handle read now cmd).1.journalCook = _
    rw [handle_journalCook, LocalServer.journalCook, waiting]
    simp [Function.comp_def, List.filterMap_cons]
  | heard env event rest waiting =>
    simp [Duplex.nearStep, LocalServer.journalCook, Function.comp_def, List.filterMap_cons]
  | idle => rfl

/-! ## The cook shown -/

/-- The cook a command names. -/
def StoreCommand.names : StoreCommand → Option String
  | fetchCurrentCook _ ovenCook => ovenCook.map (·.cookId)
  | ovenReported ovenCook => ovenCook.map (·.cookId)
  | patchCookRecipeRef cookId _ _ => some cookId
  | _ => none

/-- The cook a fetch names, if it is one and names one. -/
def StoreCommand.fetchNames : StoreCommand → Option (Option String)
  | fetchCurrentCook _ ovenCook => some (ovenCook.map (·.cookId))
  | _ => none

/-- The cook a turn starts. -/
def startedCook (s : LocalServer) : LocalTurn → Option String
  | .near i => match signal s.near i with
    | .start _ => some (mintedCookId i.1.fresh)
    | _ => none
  | _ => none

/-- Which cook is the state machine's current cook, and the cooks named by the fetches that are not
answered yet, oldest first. It notes every turn, and no turn reads it. -/
structure Shown where
  current : Option String
  asked : List (Option String)

/-- A turn shows the cook it starts, or the one a reply is of, or the one shown before, or none. -/
def Shown.note (read : Bytes → Option HistoryEntry) (s : LocalServer) (g : Shown) (t : LocalTurn) :
    Shown :=
  let effects := (localMachine read).effects s t
  let asked := g.asked ++
    effects.filterMap fun e => (Duplex.asked localWiring e).bind StoreCommand.fetchNames
  let replies := effects.filterMap LocalEffect.reply
  { current :=
      if ((localMachine read).next s t).near.currentCook = none then none
      else match startedCook s t with
        | some cookId => some cookId
        | none => if true ∈ replies then asked.head?.join else g.current
    asked := asked.drop replies.length }

/-- No cook, or the one meant. -/
def NoOther (cook x : Option String) : Prop := x = none ∨ x = cook

/-- Nothing the server knows, awaits or has asked is of another cook. -/
structure StaysOn (cook : Option String) (s : LocalServer) (g : Shown) : Prop where
  current : NoOther cook g.current
  asked : ∀ named ∈ g.asked, NoOther cook named
  journal : NoOther cook s.journalCook

/-- A turn that starts no cook, and tells the store of no other. -/
structure Quiet (read : Bytes → Option HistoryEntry) (cook : Option String) (s : LocalServer)
    (t : LocalTurn) : Prop where
  starts : ¬ StartsCook s t
  names : ∀ cmd ∈ ((localMachine read).effects s t).filterMap (Duplex.asked localWiring),
    NoOther cook cmd.names

variable {cook : Option String} {s : LocalServer} {g : Shown} {t : LocalTurn}

theorem NoOther.journals {journal : Option String} {cmd : StoreCommand} (h : NoOther cook journal)
    (names : NoOther cook cmd.names) : NoOther cook (cmd.journals journal) := by
  cases cmd with
  | fetchCurrentCook reason ovenCook =>
    cases ovenCook with
    | none => exact h
    | some oven => exact names
  | ovenReported | patchCookRecipeRef => exact names
  | refreshRecipes | refreshHistory | resolveManualCookTitle | linkCookToRecipe => exact h

theorem NoOther.foldl_journals {cmds : List StoreCommand} {journal : Option String}
    (h : NoOther cook journal) (names : ∀ cmd ∈ cmds, NoOther cook cmd.names) :
    NoOther cook (cmds.foldl StoreCommand.journals journal) := by
  induction cmds generalizing journal with
  | nil => exact h
  | cons cmd cmds ih =>
    exact ih (h.journals (names cmd List.mem_cons_self))
      fun cmd mem => names cmd (List.mem_cons_of_mem _ mem)

/-- A cook named by a fetch is one the fetch names. -/
theorem names_of_fetchNames {cmd : StoreCommand} {named : Option String}
    (h : cmd.fetchNames = some named) : named = cmd.names := by
  cases cmd with
  | fetchCurrentCook reason ovenCook => exact (Option.some.inj h).symm
  | refreshRecipes | refreshHistory | resolveManualCookTitle | linkCookToRecipe | ovenReported
  | patchCookRecipeRef => cases h

theorem not_startedCook (h : ¬ StartsCook s t) : startedCook s t = none := by
  cases t with
  | near i =>
    cases is : signal s.near i with
    | start requestId => exact absurd ⟨i, requestId, rfl, is⟩ h
    | quiet | stop | report | ack | fetched => simp only [startedCook, is]
  | far | take | hear => rfl

/-- **A quiet turn stays on the cook.** -/
theorem StaysOn.next (h : StaysOn cook s g) (quiet : Quiet read cook s t) :
    StaysOn cook ((localMachine read).next s t) (g.note read s t) := by
  have asked : ∀ named ∈ g.asked ++ ((localMachine read).effects s t).filterMap
      (fun e => (Duplex.asked localWiring e).bind StoreCommand.fetchNames),
      NoOther cook named := by
    intro named mem
    rcases List.mem_append.mp mem with mem | mem
    · exact h.asked named mem
    · obtain ⟨e, item, asks⟩ := List.mem_filterMap.mp mem
      obtain ⟨cmd, asks, fetch⟩ := Option.bind_eq_some_iff.mp asks
      exact names_of_fetchNames fetch ▸ quiet.names cmd (List.mem_filterMap.mpr ⟨e, item, asks⟩)
  refine ⟨?_, fun named mem => asked named (List.mem_of_mem_drop mem), ?_⟩
  · simp only [Shown.note, not_startedCook quiet.starts]
    split_ifs
    · exact .inl rfl
    · -- The reply is of the oldest fetch.
      generalize g.asked ++ _ = awaited at asked
      cases awaited with
      | nil => exact .inl rfl
      | cons named _ => exact asked named List.mem_cons_self
    · exact h.current
  · rw [next_journalCook]
    exact h.journal.foldl_journals quiet.names

/-! ### The history variable is of the current cook -/

/-- A cook is only shown by a start or by a reply. -/
theorem Phase.step_hasCook {localMode : Bool} {p : Phase} {sig : Signal}
    (h : (p.step localMode sig).hasCook = true) :
    p.hasCook = true ∨ (∃ requestId, sig = .start requestId) ∨ sig = .fetched true := by
  have observed : ∀ cooking, (p.observe cooking).hasCook = true → p.hasCook = true := by
    intro cooking shows
    unfold Phase.observe Phase.rollBack at shows
    cases cooking <;> grind
  cases sig with
  | quiet | stop => exact .inl h
  | start requestId => exact .inr (.inl ⟨requestId, rfl⟩)
  | report cooking turnOff => cases turnOff <;> exact .inl (observed cooking h)
  | ack requestId ok =>
    unfold Phase.step Phase.acked at h
    grind
  | fetched hasCook => exact .inr (.inr (congrArg Signal.fetched h))

/-- Only a reply with a result is the signal of one. -/
theorem fetched_of_signal {s : SmState} {i : Env × Input} {hasCook : Bool}
    (h : signal s i = .fetched hasCook) :
    ∃ reason cook, i.2 = .event (.store (.currentCookFetched reason (.ok cook))) := by
  have accepts : ∀ (outcome : Outcome) sig, accepted outcome sig = .fetched hasCook →
      sig = .fetched hasCook := by
    intro outcome sig h
    unfold accepted at h
    split at h
    · exact h
    · cases h
  unfold signal at h
  split at h
  · cases accepts _ _ h
  · cases accepts _ _ h
  · cases accepts _ _ h
  · cases h
  · cases h
  · exact ⟨_, _, by assumption⟩
  · cases h

/-- A turn that shows a cook starts it, hears of it, or shows it still. -/
theorem shows_cook (read : Bytes → Option HistoryEntry) {s : LocalServer} {t : LocalTurn}
    (h : ((localMachine read).next s t).near.currentCook.isSome = true) :
    s.near.currentCook.isSome = true ∨ StartsCook s t ∨
      ((localMachine read).effects s t).filterMap LocalEffect.reply = [true] := by
  have reduced : ∀ i : Env × Input, (stateMachine.next s.near i).currentCook.isSome = true →
      s.near.currentCook.isSome = true ∨ (∃ requestId, signal s.near i = .start requestId) ∨
        signal s.near i = .fetched true := by
    intro i shows
    have step := congrArg Phase.hasCook (phase_next s.near i)
    exact Phase.step_hasCook (step.symm.trans shows)
  have spec := Duplex.step_spec localWiring stateMachine (storeFiles read) s t
  rw [localMachine, Machine.next] at h
  rw [localMachine, Machine.effects]
  generalize (Duplex.machine localWiring stateMachine (storeFiles read)).step s t = result at spec h ⊢
  cases spec with
  | near i own =>
    rcases reduced i h with shown | ⟨requestId, starts⟩ | fetched
    · exact .inl shown
    · exact .inr (.inl ⟨i, requestId, rfl, starts⟩)
    · obtain ⟨reason, cook, input⟩ := fetched_of_signal fetched
      replace own : (!i.2.fromStore) = true := own
      rw [input] at own
      cases own
  | far i own => exact .inl h
  | took now cmd rest waiting ready => exact .inl h
  | heard env event rest waiting =>
    rcases reduced _ h with shown | ⟨requestId, starts⟩ | fetched
    · exact .inl shown
    · cases event with
      | currentCookFetched reason result => cases result <;> cases starts
      | recipesRefreshed | historyRefreshed | recipeRefPatched | manualCookTitleResolved =>
        cases starts
    · obtain ⟨reason, cook, input⟩ := fetched_of_signal fetched
      cases input
      refine .inr (.inr ?_)
      simp [LocalEffect.reply, StoreEvent.fetched, Except.toBool]
  | idle => exact .inl h

/-- At most one reply is heard at a turn. -/
theorem replies_at_most_one (s : LocalServer) (t : LocalTurn) {reply : Bool}
    (h : reply ∈ ((localMachine read).effects s t).filterMap LocalEffect.reply) :
    ((localMachine read).effects s t).filterMap LocalEffect.reply = [reply] := by
  obtain ⟨e, mem, is⟩ := List.mem_filterMap.mp h
  cases e with
  | near | far | took => cases is
  | heard event =>
    obtain ⟨_, _, _, _, effects, _⟩ := Duplex.heard_spec mem
    apply (congrArg (List.filterMap LocalEffect.reply) effects).trans
    rw [List.filterMap_cons, is, List.filterMap_map]
    exact congrArg _ (List.filterMap_eq_nil_iff.mpr fun _ _ => rfl)

/-- The history variable has a cook where the state machine shows one, and awaits what it awaits. -/
structure Agrees (s : LocalServer) (g : Shown) : Prop where
  current : g.current.isSome = s.near.currentCook.isSome
  asked : g.asked.map Option.isSome = s.unanswered

theorem map_fetchNames (cmd : StoreCommand) :
    cmd.fetchNames.map Option.isSome = cmd.fetches := by
  cases cmd with
  | fetchCurrentCook reason ovenCook => cases ovenCook <;> rfl
  | refreshRecipes | refreshHistory | ovenReported | patchCookRecipeRef | resolveManualCookTitle
  | linkCookToRecipe => rfl

theorem Agrees.next {s : LocalServer} {g : Shown} (h : Agrees s g) (t : LocalTurn) :
    Agrees ((localMachine read).next s t) (g.note read s t) := by
  have queue : (g.asked ++ ((localMachine read).effects s t).filterMap
      (fun e => (Duplex.asked localWiring e).bind StoreCommand.fetchNames)).map Option.isSome =
      ((localMachine read).effects s t).filterMap LocalEffect.reply ++
        LocalServer.unanswered ((localMachine read).next s t) := by
    rw [← unanswered_step, List.map_append, h.asked, List.map_filterMap]
    congr 2
    funext e
    show ((Duplex.asked localWiring e).bind StoreCommand.fetchNames).map Option.isSome =
      (Duplex.asked localWiring e).bind StoreCommand.fetches
    cases Duplex.asked localWiring e with
    | none => rfl
    | some cmd => exact map_fetchNames cmd
  constructor
  · cases shown : ((localMachine read).next s t).near.currentCook with
    | none => simp [Shown.note, shown]
    | some cook =>
      simp only [Shown.note, shown, reduceCtorEq, if_false, Option.isSome_some]
      cases started : startedCook s t with
      | some cookId => rfl
      | none =>
        dsimp only
        split_ifs with replied
        · -- The oldest fetch names a cook, since its reply has one.
          rw [replies_at_most_one s t replied] at queue
          generalize g.asked ++ _ = awaited at queue ⊢
          cases awaited with
          | nil => cases queue
          | cons named _ => exact (List.cons.inj queue).1
        · rw [h.current]
          rcases shows_cook read (t := t) (by rw [shown]; rfl) with still | starts | reply
          · exact still
          · obtain ⟨i, requestId, rfl, isStart⟩ := starts
            rw [startedCook, isStart] at started
            cases started
          · exact absurd (reply ▸ List.mem_singleton_self true) replied
  · simp only [Shown.note, List.map_drop, queue, List.drop_left]

/-! ## Runs of saves -/

variable {S : Saves}

/-- What the saves start with. -/
def savesInit (preheatToleranceC : ℚ) (store : LocalStore) : Saves :=
  ⟨localInit preheatToleranceC store, []⟩

/-- What is shown after a turn. -/
def Saves.note (read : Bytes → Option HistoryEntry) (S : Saves) (g : Shown) (t : SaveTurn) : Shown :=
  match S.turn t with
  | none => g
  | some t => g.note read S.server t

/-- What is shown after a run. -/
def shownAfter (read : Bytes → Option HistoryEntry) (start : Saves) (turns : List SaveTurn) : Shown :=
  (((savesMachine read).noting (Saves.note read)).run (start, ⟨none, []⟩) turns).2

/-- What is shown after a run goes on from what was shown before. -/
theorem shownAfter_append (start : Saves) (past later : List SaveTurn) :
    shownAfter read start (past ++ later) =
      (((savesMachine read).noting (Saves.note read)).run
        ((savesMachine read).run start past, shownAfter read start past) later).2 := by
  have state := Machine.noting_run_fst (m := savesMachine read) (Saves.note read) ⟨none, []⟩ start past
  rw [shownAfter, Machine.run_append, ← state]
  rfl

/-- A turn of the server's that starts no cook, and tells the store of no other. -/
def SaveQuiet (read : Bytes → Option HistoryEntry) (cook : Option String) (S : Saves) :
    SaveTurn → Prop
  | .server t => Quiet read cook S.server t
  | .save _ | .step _ _ => True

/-- A turn of the state machine that sends the store at most a command that names no cook is quiet. -/
theorem quiet_near {env : Env} {cmd : StateMachineCommand} (cook : Option String)
    (starts : signal s.near (env, .command cmd) = .quiet)
    (names : ∀ asked ∈ (stateMachine.effects s.near (env, .command cmd)).filterMap
      SmEffect.storeCommand, asked.names = none) : Quiet read cook s (.near (env, .command cmd)) where
  starts := by
    rintro ⟨i, requestId, ⟨⟩, isStart⟩
    rw [starts] at isStart
    cases isStart
  names := by
    intro asked mem
    refine .inl (names asked ?_)
    have effects : (localMachine read).effects s (.near (env, .command cmd)) =
        (stateMachine.effects s.near (env, .command cmd)).map .near := rfl
    rw [effects, List.filterMap_map] at mem
    exact mem

/-- The steps of saves are quiet. -/
theorem SaveStep.turn_quiet {step : SaveStep} {c : SaveContext} {title : Option String}
    (cook : Option String) (h : step.turn c title s.far = some t) : Quiet read cook s t := by
  cases step with
  | read =>
    cases h
    exact quiet_near cook rfl fun asked mem => absurd mem List.not_mem_nil
  | check | done => cases h
  | create saved =>
    simp only [SaveStep.turn] at h
    split at h
    · cases h
      exact ⟨by rintro ⟨_, _, ⟨⟩, _⟩, fun cmd mem => absurd mem List.not_mem_nil⟩
    · cases h
  | refresh recipe =>
    cases h
    exact quiet_near cook rfl fun asked mem => by rw [List.mem_singleton.mp mem]; rfl
  | link recipe =>
    cases h
    apply quiet_near cook rfl
    intro asked mem
    have effects : stateMachine.effects s.near (c.env, .command (.linkCurrentCook recipe.id
      recipe.title)) = (linkCurrentCook s.near recipe.id recipe.title).effects := rfl
    rw [effects] at mem
    unfold linkCurrentCook at mem
    split at mem
    · exact absurd mem List.not_mem_nil
    · rw [List.mem_singleton.mp mem]
      rfl

theorem SaveQuiet.turn {t : SaveTurn} (quiet : SaveQuiet read cook S t) {turn : LocalTurn}
    (h : S.turn t = some turn) : Quiet read cook S.server turn := by
  cases t with
  | server t =>
    simp only [Saves.turn] at h
    split_ifs at h
    cases h
    exact quiet
  | save title => cases h
  | step k c =>
    obtain ⟨save, _, turns⟩ := Option.bind_eq_some_iff.mp h
    exact SaveStep.turn_quiet cook turns

/-- The server of a turn. -/
theorem saves_next_server (S : Saves) (t : SaveTurn) :
    ((savesMachine read).next S t).server =
      match S.turn t with
      | none => S.server
      | some turn => (localMachine read).next S.server turn := by
  show (S.step read t).1.server = _
  unfold Saves.step
  cases S.turn t <;> rfl

theorem StaysOn.save {t : SaveTurn} (h : StaysOn cook S.server g) (quiet : SaveQuiet read cook S t) :
    StaysOn cook ((savesMachine read).next S t).server (S.note read g t) := by
  rw [saves_next_server, Saves.note]
  cases turns : S.turn t with
  | none => exact h
  | some turn => exact h.next (quiet.turn turns)

/-- **Quiet turns stay on the cook.** -/
theorem stays_over_saves {turns : List SaveTurn} (h : StaysOn cook S.server g)
    (quiet : (savesMachine read).Each (SaveQuiet read cook) S turns) :
    StaysOn cook ((savesMachine read).run S turns).server
      (((savesMachine read).noting (Saves.note read)).run (S, g) turns).2 := by
  induction turns generalizing S g with
  | nil => exact h
  | cons t turns ih => exact ih (h.save quiet.1) quiet.2

theorem Agrees.save {t : SaveTurn} (h : Agrees S.server g) :
    Agrees ((savesMachine read).next S t).server (S.note read g t) := by
  rw [saves_next_server, Saves.note]
  cases S.turn t with
  | none => exact h
  | some turn => exact h.next turn

/-- **What is shown is the current cook.** After any run, a cook is noted where the state machine has
one. -/
theorem shownAfter_isSome (preheatToleranceC : ℚ) (store : LocalStore) (turns : List SaveTurn) :
    (shownAfter read (savesInit preheatToleranceC store) turns).current.isSome =
      ((savesMachine read).run (savesInit preheatToleranceC store) turns).server.near.currentCook.isSome
    := by
  have agrees : ∀ (S : Saves) (g : Shown) (turns : List SaveTurn), Agrees S.server g →
      Agrees ((savesMachine read).run S turns).server
        (((savesMachine read).noting (Saves.note read)).run (S, g) turns).2 := by
    intro S g turns start
    induction turns generalizing S g with
    | nil => exact start
    | cons t turns ih => exact ih _ _ start.save
  exact (agrees _ _ turns ⟨rfl, rfl⟩).current

/-! ## The server under the saves -/

/-- The server's part of an effect. -/
def SaveEffect.ofServer : SaveEffect → Option LocalEffect
  | server e => some e
  | answered _ _ => none

/-- The commands a run's effects took. -/
def tookOf (effects : List SaveEffect) : List StoreCommand :=
  (effects.filterMap SaveEffect.ofServer).filterMap DuplexEffect.toTook

theorem stepped_ofServer (S : Saves) (t : SaveTurn) :
    (S.stepped t).2.filterMap SaveEffect.ofServer = [] := by
  cases t with
  | server | save => rfl
  | step k c =>
    simp only [Saves.stepped]
    split
    · rfl
    · rw [List.filterMap_map]
      exact List.filterMap_eq_nil_iff.mpr fun reply _ => rfl

/-- A run of saves is a run of their server. -/
theorem saves_server (read : Bytes → Option HistoryEntry) (S : Saves) (turns : List SaveTurn) : ∃ serverTurns,
    ((savesMachine read).run S turns).server = (localMachine read).run S.server serverTurns ∧
      ((savesMachine read).trace S turns).filterMap SaveEffect.ofServer =
        (localMachine read).trace S.server serverTurns := by
  induction turns generalizing S with
  | nil => exact ⟨[], rfl, rfl⟩
  | cons t turns ih =>
    obtain ⟨rest, run, trace⟩ := ih ((savesMachine read).next S t)
    have answers := stepped_ofServer S t
    have effects : (savesMachine read).effects S t = (S.step read t).2 := rfl
    rw [saves_next_server] at run trace
    rw [Machine.run_cons, Machine.trace_cons, List.filterMap_append, run, trace, effects]
    unfold Saves.step
    cases S.turn t with
    | none => exact ⟨rest, rfl, by simp [answers]⟩
    | some turn =>
      refine ⟨turn :: rest, rfl, ?_⟩
      simp [answers, SaveEffect.ofServer, Function.comp_def]

/-- Once the commands that waited are handled, and no more, the journal is of the cook they leave. -/
theorem journal_when_taken (S : Saves) (turns : List SaveTurn) (waiting : List StoreCommand)
    (isFirst : waiting <+: S.server.commands)
    (count : (tookOf ((savesMachine read).trace S turns)).length = waiting.length) :
    ((savesMachine read).run S turns).server.far.journalCook =
      waiting.foldl StoreCommand.journals S.server.far.journalCook := by
  obtain ⟨serverTurns, run, trace⟩ := saves_server read S turns
  rw [tookOf, trace] at count
  have taken := Duplex.taken_first (w := localWiring) (a := stateMachine) isFirst count
  rw [run, ← taken]
  have own : ∀ (store : LocalStore) (i : StoreInput), localWiring.ownFar i = true →
      ((storeFiles read).next store i).journalCook = store.journalCook := by
    intro store i own
    cases i with
    | command => cases own
    | recipes => rfl
  exact Duplex.far_view (a := stateMachine) own
    (fun store now cmd => handle_journalCook store now cmd) S.server serverTurns

/-! ## A save, from its read to its link -/

/-- A save of a run that gets to its link: the turn it reads the current cook at, and the turn its link
reaches the state machine at. -/
structure SaveRun (read : Bytes → Option HistoryEntry) (start : Saves) (turns : List SaveTurn) where
  number : Nat
  past : List SaveTurn
  reading : SaveContext
  mid : List SaveTurn
  linking : SaveContext
  rest : List SaveTurn
  split : turns = past ++ .step number reading :: mid ++ .step number linking :: rest
  reads : ∃ title, ((savesMachine read).run start past).saves[number]? = some (title, .read)
  links : ∃ title recipe, ((savesMachine read).run start (past ++ .step number reading :: mid)).saves[number]? =
    some (title, .link recipe)

namespace SaveRun

variable {start : Saves} {turns : List SaveTurn} (r : SaveRun read start turns)

/-- The turns before the link. -/
def before : List SaveTurn := r.past ++ .step r.number r.reading :: r.mid

/-- The saves when this one reads. -/
def readAt : Saves := (savesMachine read).run start r.past

/-- The saves when this one links. -/
def linkAt : Saves := (savesMachine read).run start r.before

/-- The cook whose stages are saved: the one shown when the save reads. -/
def savedCook : Option String := (shownAfter read start r.past).current

/-- Whether the state machine has a cook to link. -/
def accepted : Bool := r.linkAt.server.near.currentCook.isSome

/-- The link's turn in the store's channel comes after some turns: the commands asked before it have
been taken. -/
def Taken (later : List SaveTurn) : Prop :=
  (tookOf ((savesMachine read).trace
    ((savesMachine read).next r.linkAt (.step r.number r.linking)) later)).length =
      r.linkAt.server.commands.length

/-- The store when it takes the link. -/
def journalAt (later : List SaveTurn) : LocalStore :=
  ((savesMachine read).run ((savesMachine read).next r.linkAt (.step r.number r.linking))
    later).server.far

/-- The link gives the saved recipe's name to the cook that was saved alone: in the state machine, where
the current cook is that cook, and in the journal, which is of it when the store takes the link. -/
structure LinksOwnCook : Prop where
  current : ∀ cookId, (shownAfter read start r.before).current = some cookId → r.savedCook = some cookId
  journal : r.accepted = true → ∀ later now rest, r.rest = later ++ .server (.take now) :: rest →
    r.Taken later → ∀ active, (r.journalAt later).disk.active = some active →
      r.savedCook = some active.cookId

/-- When the save reads, what the server awaits and has asked of the store is of the cook it shows, and
from then to the link no cook is started and the store is told of no other. -/
structure Undisturbed : Prop where
  settled : StaysOn r.savedCook r.readAt.server (shownAfter read start r.past)
  quiet : (savesMachine read).Each (SaveQuiet read r.savedCook)
    ((savesMachine read).next r.readAt (.step r.number r.reading)) r.mid

/-- What the link turn is for the server. -/
theorem link_turn : ∃ recipe : Recipe, r.linkAt.turn (.step r.number r.linking) =
    some (.near (r.linking.env, .command (.linkCurrentCook recipe.id recipe.title))) := by
  obtain ⟨title, recipe, links⟩ := r.links
  refine ⟨recipe, ?_⟩
  show (r.linkAt.saves[r.number]?).bind _ = _
  rw [linkAt, before, links]
  rfl

/-- After an accepted link, its command waits behind those asked before it. -/
theorem link_asked (accepted : r.accepted = true) : ∃ recipe : Recipe,
    ((savesMachine read).next r.linkAt (.step r.number r.linking)).server.commands =
      r.linkAt.server.commands ++ [.linkCookToRecipe recipe.id recipe.title] ∧
    ((savesMachine read).next r.linkAt (.step r.number r.linking)).server.far =
      r.linkAt.server.far := by
  obtain ⟨recipe, turns⟩ := r.link_turn
  obtain ⟨shown, isShown⟩ := Option.isSome_iff_exists.mp accepted
  refine ⟨recipe, ?_⟩
  rw [saves_next_server, turns]
  refine ⟨?_, rfl⟩
  show r.linkAt.server.commands ++ (linkCurrentCook r.linkAt.server.near recipe.id
    recipe.title).effects.filterMap SmEffect.storeCommand = _
  rw [linkCurrentCook, isShown]
  rfl

/-- What the store takes when the link's turn has come is the link. -/
theorem takes_link (accepted : r.accepted = true) {later : List SaveTurn} (taken : r.Taken later) :
    ∃ (recipe : Recipe) (rest : List StoreCommand),
      ((savesMachine read).run ((savesMachine read).next r.linkAt (.step r.number r.linking))
        later).server.commands = .linkCookToRecipe recipe.id recipe.title :: rest := by
  obtain ⟨recipe, commands, _⟩ := r.link_asked accepted
  obtain ⟨serverTurns, run, trace⟩ := saves_server read
    ((savesMachine read).next r.linkAt (.step r.number r.linking)) later
  rw [Taken, tookOf, trace] at taken
  have order := Duplex.commands_in_order (w := localWiring) (a := stateMachine) (b := storeFiles read)
    ((savesMachine read).next r.linkAt (.step r.number r.linking)).server serverTurns
  rw [Duplex.taken_first (w := localWiring) (a := stateMachine) (commands ▸ List.prefix_append _ _)
    taken, commands, List.append_assoc, List.append_cancel_left_eq] at order
  exact ⟨recipe, _, run ▸ order.symm⟩

/-- An undisturbed save stays on its cook up to its link. -/
theorem stays (undisturbed : r.Undisturbed) :
    StaysOn r.savedCook r.linkAt.server (shownAfter read start r.before) := by
  rw [linkAt, before, Machine.run_append, shownAfter_append]
  exact stays_over_saves undisturbed.settled ⟨trivial, undisturbed.quiet⟩

end SaveRun

/-- **A save links its own cook**, where it is undisturbed. -/
theorem links_own_cook (read : Bytes → Option HistoryEntry) (preheatToleranceC : ℚ)
    (store : LocalStore) (turns : List SaveTurn)
    (r : SaveRun read (savesInit preheatToleranceC store) turns) (undisturbed : r.Undisturbed) :
    r.LinksOwnCook := by
  have stays := r.stays undisturbed
  constructor
  · intro cookId shown
    rcases stays.current with none | own
    · rw [none] at shown
      cases shown
    · exact own.symm.trans shown
  · intro accepted later now rest _ taken active journal
    obtain ⟨recipe, commands, far⟩ := r.link_asked accepted
    have isFirst : r.linkAt.server.commands <+:
        ((savesMachine read).next r.linkAt (.step r.number r.linking)).server.commands :=
      commands ▸ List.prefix_append _ _
    have left := journal_when_taken _ later _ isFirst taken
    rw [far] at left
    have isActive : (r.journalAt later).journalCook = some active.cookId := by
      rw [LocalStore.journalCook, journal]
      rfl
    rcases stays.journal with none | own
    · exact absurd (isActive.symm.trans (left.trans none)) (by simp)
    · exact own.symm.trans (left.symm.trans isActive)

namespace Kitchen

/-- Everything works, and the saved recipe's id is `saved`. -/
def context : SaveContext := ⟨env "", "saved", fun index => toString index, none, none⟩

def stepsSave : SaveTurn := .step 0 context
def startsRoast : SaveTurn := .server (.near (starts "roast"))
def startsStew : SaveTurn := .server (.near (starts "stew"))

/-- The oven reports the roast. -/
def reportsRoast : SaveTurn := .server (.near (reportsCook "ios-roast"))

/-- The store takes a command. -/
def storeTakes : SaveTurn := .server takes

/-- A roast is started, reported and saved, and reported again between the save's steps. The store takes that
report, and the link after it. -/
def quietSave : SaveRun (fun _ => none) (savesInit 0 emptyStore)
    [.server (.near found), startsRoast, storeTakes, reportsRoast, storeTakes, storeTakes, .save none,
      stepsSave, stepsSave, reportsRoast, stepsSave, stepsSave, stepsSave, storeTakes, storeTakes,
      storeTakes] where
  number := 0
  past := [.server (.near found), startsRoast, storeTakes, reportsRoast, storeTakes, storeTakes, .save none]
  reading := context
  mid := [stepsSave, reportsRoast, stepsSave, stepsSave]
  linking := context
  rest := [storeTakes, storeTakes, storeTakes]
  split := rfl
  reads := ⟨none, rfl⟩
  links := ⟨none, _, rfl⟩

/-- The saves after the first of the steps between the reading and the link. -/
def quietMid : Saves :=
  (savesMachine fun _ => none).run quietSave.readAt [.step quietSave.number quietSave.reading, stepsSave]

/-- A report of the roast starts no cook, and tells of no other. -/
theorem quietMid_report :
    Quiet (fun _ => none) quietSave.savedCook quietMid.server (.near (reportsCook "ios-roast")) where
  starts := by
    rintro ⟨i, requestId, isReport, starts⟩
    cases isReport
    cases starts
  names := by
    have saved : quietSave.savedCook = some "ios-roast" := by decide +kernel
    have named : ∀ cmd ∈ ((localMachine fun _ => none).effects quietMid.server
        (.near (reportsCook "ios-roast"))).filterMap (Duplex.asked localWiring),
        cmd.names = some "ios-roast" := by decide +kernel
    exact fun cmd asked => .inr ((named cmd asked).trans saved.symm)

/-- A roast is started and saved, and another client starts a stew before the link. -/
def crossedSave : SaveRun (fun _ => none) (savesInit 0 emptyStore)
    [.server (.near found), startsRoast, .save none, stepsSave, startsStew, stepsSave, stepsSave,
      stepsSave, stepsSave] where
  number := 0
  past := [.server (.near found), startsRoast, .save none]
  reading := context
  mid := [startsStew, stepsSave, stepsSave, stepsSave]
  linking := context
  rest := []
  split := rfl
  reads := ⟨none, rfl⟩
  links := ⟨none, _, rfl⟩

end Kitchen

open Kitchen in
/-- The roast that is saved is linked, in the state machine and in the journal that the store has then. -/
theorem links_own_cook_quiet :
    quietSave.LinksOwnCook ∧ quietSave.accepted = true ∧ quietSave.Taken [storeTakes, storeTakes] ∧
      (quietSave.journalAt [storeTakes, storeTakes]).disk.active.map (·.cookId) = some "ios-roast" := by
  have asked : ∀ named ∈ (shownAfter (fun _ => none) (savesInit 0 emptyStore) quietSave.past).asked,
      named = quietSave.savedCook := by decide +kernel
  have undisturbed : quietSave.Undisturbed := by
    refine ⟨⟨.inr ?_, fun named item => .inr (asked named item), .inr ?_⟩, trivial, quietMid_report, trivial,
      trivial, trivial⟩
    · rfl
    · decide +kernel
  refine ⟨links_own_cook (fun _ => none) 0 emptyStore _ quietSave undisturbed, by decide +kernel, ?_,
    by decide +kernel⟩
  unfold SaveRun.Taken
  decide +kernel

/-- Another client's stew is linked to the recipe of the roast. -/
theorem other_cook_linked : ¬ Kitchen.crossedSave.LinksOwnCook := by
  intro law
  have own := law.current "ios-stew" rfl
  exact absurd own (by decide)

end AnovaOven
