import AnovaOven.Laws.SelfStops

/-!
# Laws of the settling preheat

**Preheats advance only when settled** (`preheats_settle`): where a watched preheat is never another
cook's under the same id, the server starts the stage after a preheat, or has it wait for the user, only
once the visit's own reports have been near the target for the settle window, or the oven has said that
the preheat waits, and starts a stage at most once a visit.

The watch is by stage id alone, so a cook started again over itself goes on with the watch of the one
before (`preheat_inherited`).
-/

namespace AnovaOven

/-! ## What a report makes of a watch -/

/-- An effect that starts a stage. -/
def SmEffect.startsStage : SmEffect → Bool
  | .ws (.control _ (.startStage _)) => true
  | _ => false

/-- What a report on a preheat makes of its watch: whether it is near the target, whether the oven says
that the preheat waits, how many stages the server starts and whether it has the preheat wait. -/
inductive WatchStep (watch : PreheatWatch) (now : Nat) :
    (near waits : Bool) → (started : Nat) → (raised : Bool) → PreheatWatch → Prop
  | ovenWaits (near : Bool) :
    WatchStep watch now near true 0 false { watch with reached := true }
  | reached (isReached : watch.reached = true) (near raised : Bool) :
    WatchStep watch now near false 0 raised watch
  | short (unreached : watch.reached = false) :
    WatchStep watch now false false 0 false { watch with nearSince := none, reached := false }
  | near (unreached : watch.reached = false) :
    WatchStep watch now true false 0 false
      { watch with nearSince := some (watch.nearSince.getD now), reached := false }
  | settled (unreached : watch.reached = false)
    (spell : watch.nearSince.getD now + preheatSettleWindow ≤ now) {started : Nat}
    (once : started ≤ 1) (raised : Bool) :
    WatchStep watch now true false started raised
      { watch with nearSince := some (watch.nearSince.getD now), reached := true }

variable {env : Env} {s : SmState} {i : Env × Input} {status : OvenStatus} {cook : Option OvenCook}
variable {stageId : String} {target : ℚ} {next : Stage}

/-- **One report.** What `settlePreheat` does on a watched preheat is one step of its watch. -/
theorem settlePreheat_watch (env : Env)
    (watched : watchedPreheat s status = some (stageId, target, next)) :
    ∃ watch, (settlePreheat env s status).1.preheatWatch = some watch ∧
      WatchStep (watchOf s.preheatWatch stageId) env.now
        (decide (target - s.preheatToleranceC ≤ status.currentTemperatureC))
        status.stageTransitionPendingUserAction
        ((settlePreheat env s status).2.2.countP SmEffect.startsStage)
        (!status.stageTransitionPendingUserAction &&
          (settlePreheat env s status).2.1.stageTransitionPendingUserAction) watch := by
  unfold settlePreheat
  rw [watched]
  dsimp only
  generalize watchOf s.preheatWatch stageId = watch
  cases waits : status.stageTransitionPendingUserAction with
  | true => exact ⟨_, rfl, .ovenWaits _⟩
  | false =>
    rw [if_neg Bool.false_ne_true]
    cases isReached : watch.reached with
    | true => exact ⟨_, rfl, .reached isReached _ _⟩
    | false =>
      rw [if_neg Bool.false_ne_true]
      by_cases short : status.currentTemperatureC < target - s.preheatToleranceC
      · rw [if_pos short, decide_eq_false (not_le.mpr short)]
        simp only [waits]
        exact ⟨_, rfl, .short isReached⟩
      · rw [if_neg short, decide_eq_true (not_lt.mp short)]
        by_cases waiting : env.now - watch.nearSince.getD env.now < preheatSettleWindow
        · rw [if_pos waiting]
          simp only [waits]
          exact ⟨_, rfl, .near isReached⟩
        · rw [if_neg waiting]
          have spell : watch.nearSince.getD env.now + preheatSettleWindow ≤ env.now := by
            unfold preheatSettleWindow at waiting ⊢
            omega
          split
          · exact ⟨_, rfl, .settled isReached spell (Nat.zero_le 1) _⟩
          · split
            · exact ⟨_, rfl, .settled isReached spell (Nat.zero_le 1) _⟩
            · exact ⟨_, rfl, .settled isReached spell (Nat.le_refl 1) _⟩

/-! ## The reports of a visit -/

/-- A report on a preheat, and what the server made of it. -/
structure PreheatReport where
  cookId : String
  stageId : String
  now : Nat
  /-- It reads at or above the target less the tolerance. -/
  near : Bool
  /-- The oven says that the preheat waits for the user. -/
  waits : Bool
  /-- How many stages the server starts. -/
  started : Nat
  /-- The server says that the preheat waits for the user. -/
  raised : Bool
  deriving DecidableEq

/-- How many stages a step starts that no client asked for. -/
def selfStarts (s : SmState) (i : Env × Input) : Nat :=
  match i.2 with
  | .command _ => 0
  | .event _ => (stateMachine.effects s i).countP SmEffect.startsStage

/-- Whether a status says that the preheat waits for the user. -/
def saysWaiting (status : Option OvenStatus) : Bool :=
  status.any fun status => status.stageTransitionPendingUserAction

/-- A step has the cook wait for the user where the oven doesn't say so. -/
def selfRaises (s : SmState) (i : Env × Input) : Bool :=
  !saysWaiting (((reportOf i.2).map Prod.fst).or s.status) && saysWaiting (stateMachine.next s i).status

/-- The report on a watched preheat a step answers. -/
def preheatReport (s : SmState) (i : Env × Input) : Option PreheatReport :=
  match reportOf i.2 with
  | some (status, some cook) =>
    (watchedPreheat { s with ovenCook := some cook } status).map fun (stageId, target, _) =>
      { cookId := cook.cookId
        stageId := stageId
        now := i.1.now
        near := target - s.preheatToleranceC ≤ status.currentTemperatureC
        waits := status.stageTransitionPendingUserAction
        started := selfStarts s i
        raised := selfRaises s i }
  | _ => none

/-- Two reports of one cook on one preheat. -/
def PreheatReport.SameVisit (r r' : PreheatReport) : Prop :=
  r.cookId = r'.cookId ∧ r.stageId = r'.stageId

instance (r r' : PreheatReport) : Decidable (r.SameVisit r') :=
  inferInstanceAs (Decidable (_ ∧ _))

/-- The reports of the visit before a report that goes on with it: none where it is another's. -/
def goesOn (visit : List PreheatReport) (r : PreheatReport) : List PreheatReport :=
  if ∀ r' ∈ visit, r'.SameVisit r then visit else []

/-- A step's part in the visit: the latest reports in a row of one cook on one preheat. -/
def noteVisit (s : SmState) (visit : List PreheatReport) (i : Env × Input) : List PreheatReport :=
  if (reportOf i.2).isNone then visit
  else match preheatReport s i with
    | none => []
    | some r => goesOn visit r ++ [r]

/-- The state machine, with the visit it is in. -/
def visits : Machine (SmState × List PreheatReport) (Env × Input) SmEffect :=
  stateMachine.noting noteVisit

/-- Reports near the target from a time on. -/
def NearSince (since : Nat) (block : List PreheatReport) : Prop :=
  (∀ r ∈ block, r.near) ∧ ∃ first ∈ block.head?, first.now = since

/-- Reports near the target that span the settle window. -/
def Spell (block : List PreheatReport) : Prop :=
  (∀ r ∈ block, r.near) ∧
    ∃ first ∈ block.head?, ∃ last ∈ block.getLast?, first.now + preheatSettleWindow ≤ last.now

theorem NearSince.concat {since : Nat} {block : List PreheatReport} (h : NearSince since block)
    {r : PreheatReport} (near : r.near) : NearSince since (block ++ [r]) := by
  obtain ⟨all, first, isFirst, at_⟩ := h
  refine ⟨?_, first, ?_, at_⟩
  · intro r' mem
    rcases List.mem_append.mp mem with before | now
    · exact all r' before
    · rw [List.mem_singleton.mp now]
      exact near
  · rw [List.head?_append]
    exact Option.or_eq_some_iff.mpr (.inl isFirst)

theorem nearSince_singleton {r : PreheatReport} (near : r.near) : NearSince r.now [r] :=
  ⟨fun r' mem => by rw [List.mem_singleton.mp mem]; exact near, r, rfl, rfl⟩

/-- A spell ends with a report the settle window after its first. -/
theorem NearSince.spell {since : Nat} {block : List PreheatReport} {r : PreheatReport}
    (h : NearSince since (block ++ [r])) (long : since + preheatSettleWindow ≤ r.now) :
    Spell (block ++ [r]) := by
  obtain ⟨all, first, isFirst, rfl⟩ := h
  exact ⟨all, first, isFirst, r, List.getLast?_concat, long⟩

/-- What a visit has of its watch: since when it has been near the target, where it isn't reached yet,
that it has settled or the oven has said that it waits, where it is, and that it has started at most one
stage, none before it is reached. -/
structure Watched (visit : List PreheatReport) (watch : PreheatWatch) : Prop where
  near : watch.reached = false → ∀ since, watch.nearSince = some since →
    ∃ block, block <:+ visit ∧ NearSince since block
  reached : watch.reached = true →
    (∃ block, block <:+: visit ∧ Spell block) ∨ ∃ r ∈ visit, r.waits
  unstarted : watch.reached = false → (visit.map PreheatReport.started).sum = 0
  once : (visit.map PreheatReport.started).sum ≤ 1

/-- A new watch has nothing to show. -/
theorem watched_new (stageId : String) : Watched [] ⟨stageId, none, false⟩ where
  near := by
    intro _ since isSince
    cases isSince
  reached := by
    intro isReached
    cases isReached
  unstarted _ := rfl
  once := Nat.zero_le 1

variable {visit : List PreheatReport} {watch watch' : PreheatWatch} {r : PreheatReport}

/-- The reports near the target go on with one that is. -/
theorem Watched.spell (h : Watched visit watch) (unreached : watch.reached = false) (near : r.near) :
    ∃ block, block <:+ visit ∧ NearSince (watch.nearSince.getD r.now) (block ++ [r]) := by
  cases isSince : watch.nearSince with
  | none => exact ⟨[], List.nil_suffix, nearSince_singleton near⟩
  | some since =>
    obtain ⟨block, suffix, nearSince⟩ := h.near unreached since isSince
    exact ⟨block, suffix, nearSince.concat near⟩

theorem suffix_concat {block visit : List PreheatReport} (h : block <:+ visit) (r : PreheatReport) :
    block ++ [r] <:+ visit ++ [r] := by
  obtain ⟨before, rfl⟩ := h
  exact ⟨before, (List.append_assoc before block [r]).symm⟩

/-- What was told is told of a longer visit. -/
theorem Watched.reached_concat (h : Watched visit watch) (isReached : watch.reached = true)
    (r : PreheatReport) :
    (∃ block, block <:+: visit ++ [r] ∧ Spell block) ∨ ∃ r' ∈ visit ++ [r], r'.waits := by
  rcases h.reached isReached with ⟨block, inside, spell⟩ | ⟨r', mem, waits⟩
  · exact .inl ⟨block, inside.trans (List.prefix_append visit [r]).isInfix, spell⟩
  · exact .inr ⟨r', List.mem_append_left [r] mem, waits⟩

theorem started_concat (visit : List PreheatReport) (r : PreheatReport) :
    ((visit ++ [r]).map PreheatReport.started).sum =
      (visit.map PreheatReport.started).sum + r.started := by
  rw [List.map_append, List.sum_append]
  rfl

/-- What a report on a preheat has to show for what the server makes of it. -/
structure Justified (visit : List PreheatReport) (r : PreheatReport) : Prop where
  started : 0 < r.started → ∃ block, block <:+ visit ∧ Spell block
  raised : r.raised → (∃ block, block <:+: visit ∧ Spell block) ∨ ∃ r' ∈ visit, r'.waits
  once : (visit.map PreheatReport.started).sum ≤ 1

/-- **One report of a visit.** A step of the watch keeps what the visit tells of it, and shows for what
the server makes of the report. -/
theorem Watched.step (h : Watched visit watch)
    (step : WatchStep watch r.now r.near r.waits r.started r.raised watch') :
    Watched (visit ++ [r]) watch' ∧ Justified (visit ++ [r]) r := by
  have count := started_concat visit r
  obtain ⟨cookId, stageId, now, near, waits, started, raised⟩ := r
  dsimp only at step count
  cases step with
  | ovenWaits =>
    have told : ∃ r' ∈ visit ++ [⟨cookId, stageId, now, near, true, 0, false⟩],
        PreheatReport.waits r' :=
      ⟨_, List.mem_append_right visit (List.mem_singleton_self _), rfl⟩
    have once := count.trans_le h.once
    exact ⟨⟨nofun, fun _ => .inr told, nofun, once⟩, nofun, nofun, once⟩
  | reached isReached =>
    have told := h.reached_concat isReached ⟨cookId, stageId, now, near, false, 0, raised⟩
    have once := count.trans_le h.once
    refine ⟨⟨?_, fun _ => told, ?_, once⟩, nofun, fun _ => told, once⟩
    · intro unreached
      cases isReached.symm.trans unreached
    · intro unreached
      cases isReached.symm.trans unreached
  | short unreached =>
    have never := count.trans (h.unstarted unreached)
    exact ⟨⟨nofun, nofun, fun _ => never, never.trans_le (Nat.zero_le 1)⟩, nofun, nofun,
      never.trans_le (Nat.zero_le 1)⟩
  | near unreached =>
    have never := count.trans (h.unstarted unreached)
    obtain ⟨block, suffix, nearSince⟩ :=
      h.spell (r := ⟨cookId, stageId, now, true, false, 0, false⟩) unreached rfl
    refine ⟨⟨?_, nofun, fun _ => never, never.trans_le (Nat.zero_le 1)⟩, nofun, nofun,
      never.trans_le (Nat.zero_le 1)⟩
    rintro - since ⟨⟩
    exact ⟨_, suffix_concat suffix _, nearSince⟩
  | settled unreached long single =>
    obtain ⟨block, suffix, nearSince⟩ :=
      h.spell (r := ⟨cookId, stageId, now, true, false, started, raised⟩) unreached rfl
    have spell := nearSince.spell long
    have suffix := suffix_concat suffix ⟨cookId, stageId, now, true, false, started, raised⟩
    rw [h.unstarted unreached, Nat.zero_add] at count
    have once := count.trans_le single
    exact ⟨⟨nofun, fun _ => .inl ⟨_, suffix.isInfix, spell⟩, nofun, once⟩,
      fun _ => ⟨_, suffix, spell⟩, fun _ => .inl ⟨_, suffix.isInfix, spell⟩, once⟩

/-! ## What a message starts and raises -/

theorem lampOn_starts (fresh : Fresh) (s : SmState) (seenBefore : Bool) (status : OvenStatus) :
    (lampOn fresh s seenBefore status).2.countP SmEffect.startsStage = 0 := by
  unfold lampOn
  split <;> rfl

theorem lampOff_starts (fresh : Fresh) (s : SmState) :
    (lampOff fresh s).2.countP SmEffect.startsStage = 0 := by
  unfold lampOff
  split <;> rfl

theorem recordStatus_starts (fresh : Fresh) (s : SmState) (status : OvenStatus) :
    (recordStatus fresh s status).2.countP SmEffect.startsStage = 0 := by
  unfold recordStatus
  dsimp only
  rw [List.countP_append, List.countP_append]
  have started : (if status.isCooking && !s.reportsCooking then startedCooking fresh s status
      else (s, [])).2.countP SmEffect.startsStage = 0 := by
    split
    · unfold startedCooking
      dsimp only
      rw [List.countP_append, lampOn_starts]
      rfl
    · rfl
  generalize (if status.isCooking && !s.reportsCooking then startedCooking fresh s status
    else (s, [])) = part at started ⊢
  rw [started, Nat.zero_add]
  refine Nat.add_eq_zero_iff.mpr ⟨?_, ?_⟩
  · split <;> rfl
  · split <;> rfl

theorem turnOffWhenDone_starts (fresh : Fresh) (s : SmState) :
    (turnOffWhenDone fresh s).2.countP SmEffect.startsStage = 0 := by
  unfold turnOffWhenDone
  cases cookToTurnOff s with
  | none => rfl
  | some cookId =>
    dsimp only
    rcases stopCook_cases fresh { s with turnedOff := some cookId } with
      ⟨e, h⟩ | ⟨_, _, _, controls, h⟩ <;> rw [h]
    · rfl
    · show (_ ++ _ : List SmEffect).countP _ = 0
      rw [List.countP_append, lampOff_starts]
      rfl

/-- A report starts the stages its settled preheat does. -/
theorem selfStarts_report (env : Env) (s : SmState) (status : OvenStatus) (cook : Option OvenCook) :
    selfStarts s (env, .event (.ws (.apoState status cook))) =
      (settlePreheat env { s with ovenCook := cook } status).2.2.countP SmEffect.startsStage := by
  unfold selfStarts
  dsimp only
  have report : (if s.lifecycle ≠ .startPending then
      [.store (.ovenReported cook)] else []).countP SmEffect.startsStage = 0 := by
    split <;> rfl
  rw [apoState_effects]
  simp only [List.countP_append, report, recordStatus_starts, turnOffWhenDone_starts]
  exact Nat.zero_add _

theorem ackControl_starts (s : SmState) (requestId status : String) :
    (ackControl s requestId status).2.countP SmEffect.startsStage = 0 := by
  unfold ackControl
  split
  · rfl
  · dsimp only
    split <;> rfl

/-- Only reports start a stage. -/
theorem selfStarts_other (other : reportOf i.2 = none) : selfStarts s i = 0 := by
  obtain ⟨env, input⟩ := i
  cases input with
  | command cmd => rfl
  | event evt =>
    cases evt with
    | ws event =>
      cases event with
      | apoState status cook => cases other
      | commandAck requestId status =>
        show (applyCommandAck s requestId status).2.countP SmEffect.startsStage = 0
        unfold applyCommandAck
        split
        · split <;> rfl
        · split
          · rfl
          · exact ackControl_starts s requestId status
      | _ => rfl
    | store event =>
      show (reduceStoreEvent s event).2.countP SmEffect.startsStage = 0
      unfold reduceStoreEvent
      split <;> rfl
    | tick kind =>
      show (reduceTick s kind).countP SmEffect.startsStage = 0
      unfold reduceTick
      split
      · split <;> rfl
      all_goals rfl

/-- A report has the preheat wait where its settled preheat does. -/
theorem selfRaises_report (env : Env) (s : SmState) (status : OvenStatus) (cook : Option OvenCook) :
    selfRaises s (env, .event (.ws (.apoState status cook))) =
      (!status.stageTransitionPendingUserAction &&
        (settlePreheat env { s with ovenCook := cook } status).2.1.stageTransitionPendingUserAction) := by
  have isStatus := congrArg SelfActing.status (apoState_selfActing env s status cook)
  change (stateMachine.next s _).status = _ at isStatus
  unfold selfRaises
  rw [isStatus]
  rfl

/-- Only reports have a preheat wait. -/
theorem selfRaises_other (other : reportOf i.2 = none) : selfRaises s i = false := by
  have isStatus : (stateMachine.next s i).status = s.status :=
    congrArg SelfActing.status (next_selfActing other)
  unfold selfRaises
  rw [isStatus, other]
  exact Bool.not_and_self _

/-! ## Runs -/

/-- What the state has of the visit: its reports are of the oven's cook, on the preheat it watches. -/
structure OnVisit (s : SmState) (visit : List PreheatReport) : Prop where
  ofCook : ∀ r ∈ visit, s.ovenCook.map (fun cook => cook.cookId) = some r.cookId
  ofStage : ∀ r ∈ visit, s.preheatWatch.map (fun watch => watch.stageId) = some r.stageId
  watched : ∀ watch, s.preheatWatch = some watch → Watched visit watch

/-- A report that finds its preheat watched, and the watch not new, is of the cook of the report before
it. -/
def OneCook (s : SmState) (i : Env × Input) : Prop :=
  ∀ report ∈ reportOf i.2, ∀ cook ∈ report.2,
    ∀ preheat ∈ watchedPreheat { s with ovenCook := report.2 } report.1, ∀ watch ∈ s.preheatWatch,
      watch.stageId = preheat.1 → watch.nearSince.isSome ∨ watch.reached →
        s.ovenCook.map (fun before => before.cookId) = some cook.cookId

instance (s : SmState) (i : Env × Input) : Decidable (OneCook s i) := by
  unfold OneCook
  infer_instance

/-- A step starts stages and has a preheat wait only on a report of a watched preheat, and then the visit
justifies it. -/
structure JustifiedStep (s : SmState) (visit : List PreheatReport) (i : Env × Input) : Prop where
  onPreheat : 0 < selfStarts s i ∨ selfRaises s i → (preheatReport s i).isSome
  justified : ∀ r ∈ preheatReport s i, Justified visit r

theorem watchOf_stageId (kept : Option PreheatWatch) (stageId : String) :
    (watchOf kept stageId).stageId = stageId := by
  unfold watchOf
  split
  · rename_i watch isKept
    exact of_decide_eq_true (Option.filter_eq_some_iff.mp isKept).2
  · rfl

theorem WatchStep.keepsStage {now started : Nat} {near waits raised : Bool}
    (h : WatchStep watch now near waits started raised watch') : watch'.stageId = watch.stageId := by
  cases h <;> rfl

/-- A report goes on with a visit of its own cook on its own preheat, or starts one. -/
theorem goesOn_cases (visit : List PreheatReport) (r : PreheatReport) :
    (goesOn visit r = visit ∧ ∀ r' ∈ visit, r'.SameVisit r) ∨ goesOn visit r = [] := by
  unfold goesOn
  split
  · rename_i same
    exact .inl ⟨rfl, same⟩
  · exact .inr rfl

theorem sameVisit_of_mem {r r' : PreheatReport} (mem : r' ∈ goesOn visit r ++ [r]) :
    r'.SameVisit r := by
  rcases List.mem_append.mp mem with before | now
  · rcases goesOn_cases visit r with ⟨kept, same⟩ | ended
    · rw [kept] at before
      exact same r' before
    · rw [ended] at before
      cases before
  · rw [List.mem_singleton.mp now]
    exact ⟨rfl, rfl⟩

/-- The watch a report goes on with, and the reports it has to show for it. -/
theorem OnVisit.goesOn (h : OnVisit s visit) {r : PreheatReport}
    (oneCook : ∀ watch ∈ s.preheatWatch, watch.stageId = r.stageId →
      watch.nearSince.isSome ∨ watch.reached →
        s.ovenCook.map (fun before => before.cookId) = some r.cookId) :
    Watched (goesOn visit r) (watchOf s.preheatWatch r.stageId) := by
  by_cases kept : ∃ watch, s.preheatWatch = some watch ∧ watch.stageId = r.stageId
  · obtain ⟨watch, isWatch, same⟩ := kept
    have isKept : watchOf s.preheatWatch r.stageId = watch := by
      unfold watchOf
      rw [isWatch, Option.filter_some, if_pos (decide_eq_true same)]
    rw [isKept]
    by_cases new : watch.nearSince.isSome ∨ watch.reached
    · -- the watch has something to show, and it is this cook's
      have ofCook := oneCook watch isWatch same new
      have all : ∀ r' ∈ visit, r'.SameVisit r := by
        intro r' mem
        have cookOf := (h.ofCook r' mem).symm.trans ofCook
        have stageOf := h.ofStage r' mem
        rw [isWatch] at stageOf
        exact ⟨Option.some.inj cookOf, (Option.some.inj stageOf).symm.trans same⟩
      unfold AnovaOven.goesOn
      rw [if_pos all]
      exact h.watched watch isWatch
    · rcases goesOn_cases visit r with ⟨kept, _⟩ | ended
      · rw [kept]
        exact h.watched watch isWatch
      · obtain ⟨stageId, nearSince, reached⟩ := watch
        rw [not_or, Option.not_isSome_iff_eq_none, Bool.not_eq_true] at new
        obtain ⟨rfl, rfl⟩ : nearSince = none ∧ reached = false := new
        rw [ended]
        exact watched_new stageId
  · -- another preheat, or none before: the visit starts here
    have isNew : watchOf s.preheatWatch r.stageId = ⟨r.stageId, none, false⟩ := by
      unfold watchOf
      split
      · rename_i watch isKept
        obtain ⟨isWatch, same⟩ := Option.filter_eq_some_iff.mp isKept
        exact absurd ⟨watch, isWatch, of_decide_eq_true same⟩ kept
      · rfl
    have starts : AnovaOven.goesOn visit r = [] := by
      rcases goesOn_cases visit r with ⟨goesOn, same⟩ | ended
      · rw [goesOn, List.eq_nil_iff_forall_not_mem]
        intro r' mem
        obtain ⟨watch, isWatch, stageOf⟩ := Option.map_eq_some_iff.mp (h.ofStage r' mem)
        exact kept ⟨watch, isWatch, stageOf.trans (same r' mem).2⟩
      · exact ended
    rw [isNew, starts]
    exact watched_new r.stageId

theorem onVisit_other (h : OnVisit s visit) (other : reportOf i.2 = none) :
    OnVisit (stateMachine.next s i) (noteVisit s visit i) ∧
      JustifiedStep s (noteVisit s visit i) i := by
  have kept := next_selfActing (s := s) other
  have isWatch : (stateMachine.next s i).preheatWatch = s.preheatWatch :=
    congrArg SelfActing.preheatWatch kept
  have isCook : (stateMachine.next s i).ovenCook = s.ovenCook := by
    rw [next_ovenCook]
    split
    · rename_i isReport
      rw [isReport] at other
      cases other
    · rfl
  have isVisit : noteVisit s visit i = visit := by
    unfold noteVisit
    rw [other]
    rfl
  have noReport : preheatReport s i = none := by
    unfold preheatReport
    rw [other]
  rw [isVisit]
  refine ⟨⟨?_, ?_, ?_⟩, ?_, ?_⟩
  · rw [isCook]
    exact h.ofCook
  · rw [isWatch]
    exact h.ofStage
  · rw [isWatch]
    exact h.watched
  · rw [selfStarts_other other, selfRaises_other other]
    rintro (⟨⟨⟩⟩ | ⟨⟨⟩⟩)
  · rw [noReport]
    exact nofun

/-- A report that is on no watched preheat ends the visit. -/
theorem onVisit_off (s : SmState) (visit : List PreheatReport)
    (off : watchedPreheat { s with ovenCook := cook } status = none) :
    OnVisit (stateMachine.next s (env, .event (.ws (.apoState status cook))))
        (noteVisit s visit (env, .event (.ws (.apoState status cook)))) ∧
      JustifiedStep s (noteVisit s visit (env, .event (.ws (.apoState status cook))))
        (env, .event (.ws (.apoState status cook))) := by
  have settled : settlePreheat env { s with ovenCook := cook } status =
      ({ s with ovenCook := cook, preheatWatch := none }, status, []) := by
    unfold settlePreheat
    rw [off]
  have isWatch := congrArg SelfActing.preheatWatch (apoState_selfActing env s status cook)
  change (stateMachine.next s _).preheatWatch = _ at isWatch
  have noReport : preheatReport s (env, .event (.ws (.apoState status cook))) = none := by
    cases cook with
    | none => rfl
    | some cook =>
      show (watchedPreheat _ _).map _ = none
      rw [off]
      rfl
  have isVisit : noteVisit s visit (env, .event (.ws (.apoState status cook))) = [] := by
    unfold noteVisit
    rw [noReport]
    rfl
  rw [isVisit]
  refine ⟨⟨nofun, nofun, ?_⟩, ?_, ?_⟩
  · rw [isWatch, settled]
    exact nofun
  · rw [selfStarts_report, selfRaises_report, settled]
    rintro (⟨⟨⟩⟩ | raises)
    exact absurd raises (by simp)
  · rw [noReport]
    exact nofun

/-- **A report on a watched preheat** leaves its cook and its watch, a step on from the one kept. -/
theorem preheatReport_spec {r : PreheatReport} (h : preheatReport s i = some r) :
    (reportOf i.2).isSome ∧
      (stateMachine.next s i).ovenCook.map (fun cook => cook.cookId) = some r.cookId ∧
      (∃ watch, (stateMachine.next s i).preheatWatch = some watch ∧
        WatchStep (watchOf s.preheatWatch r.stageId) r.now r.near r.waits r.started r.raised watch) ∧
      (OneCook s i → ∀ watch ∈ s.preheatWatch, watch.stageId = r.stageId →
        watch.nearSince.isSome ∨ watch.reached →
          s.ovenCook.map (fun before => before.cookId) = some r.cookId) := by
  unfold preheatReport at h
  split at h
  · rename_i status cook isReport
    obtain ⟨env, input⟩ := i
    obtain rfl := eq_of_reportOf isReport
    obtain ⟨⟨stageId, target, next⟩, on, rfl⟩ := Option.map_eq_some_iff.mp h
    obtain ⟨watch, isWatch, step⟩ := settlePreheat_watch env on
    have kept := apoState_selfActing env s status (some cook)
    rw [← selfStarts_report, ← selfRaises_report] at step
    refine ⟨rfl, ?_, ⟨watch, (congrArg SelfActing.preheatWatch kept).trans isWatch, step⟩, ?_⟩
    · exact congrArg (fun kept => kept.standing.ovenCook.map fun cook => cook.cookId) kept
    · intro oneCook
      exact oneCook _ rfl cook rfl _ on
  · cases h

/-- A report on a watched preheat goes on with the visit, and its watch makes the step the visit shows. -/
theorem onVisit_on (h : OnVisit s visit) (oneCook : OneCook s i) {r : PreheatReport}
    (on : preheatReport s i = some r) :
    OnVisit (stateMachine.next s i) (noteVisit s visit i) ∧
      JustifiedStep s (noteVisit s visit i) i := by
  obtain ⟨isReport, isCook, ⟨watch, isWatch, step⟩, ofCook⟩ := preheatReport_spec on
  obtain ⟨watched, justified⟩ := (h.goesOn (ofCook oneCook)).step step
  have isVisit : noteVisit s visit i = goesOn visit r ++ [r] := by
    unfold noteVisit
    rw [if_neg (by simpa [← Option.isSome_iff_ne_none] using isReport), on]
  rw [isVisit]
  refine ⟨⟨?_, ?_, ?_⟩, ?_, ?_⟩
  · intro r' mem
    rw [isCook, (sameVisit_of_mem mem).1]
  · intro r' mem
    rw [isWatch, (sameVisit_of_mem mem).2, Option.map_some, step.keepsStage, watchOf_stageId]
  · intro watch' isWatch'
    rw [isWatch] at isWatch'
    obtain rfl := Option.some.inj isWatch'
    exact watched
  · intro _
    rw [on]
    rfl
  · intro r' isR
    rw [on] at isR
    obtain rfl := Option.some.inj isR
    exact justified

/-- **One message.** What the state has of the visit it has after the next message, and the visit
justifies the step. -/
theorem onVisit_next (h : OnVisit s visit) (oneCook : OneCook s i) :
    OnVisit (stateMachine.next s i) (noteVisit s visit i) ∧
      JustifiedStep s (noteVisit s visit i) i := by
  cases on : preheatReport s i with
  | some r => exact onVisit_on h oneCook on
  | none =>
    cases isReport : reportOf i.2 with
    | none => exact onVisit_other h isReport
    | some report =>
      obtain ⟨status, cook⟩ := report
      obtain ⟨env, input⟩ := i
      obtain rfl := eq_of_reportOf isReport
      apply onVisit_off s visit
      cases cook with
      | none => rfl
      | some cook => exact Option.map_eq_none_iff.mp on

/-- **Preheats advance only when settled.** In every run in which a watched preheat is never another
cook's, the server starts a stage or has a preheat wait of itself only on a report of a watched preheat:
a stage after a spell near the target that ends with the report, a wait after such a spell in the visit
or the oven's own word in it; and it starts at most one stage a visit. -/
theorem preheats_settle (localMode : Bool) (toleranceC : ℚ) (is : List (Env × Input))
    (oneCook : stateMachine.Each OneCook (.init localMode toleranceC) is) :
    visits.Each (fun p i => JustifiedStep p.1 (noteVisit p.1 p.2 i) i)
      (.init localMode toleranceC, []) is := by
  have start : OnVisit (.init localMode toleranceC) [] := ⟨nofun, nofun, nofun⟩
  have each : visits.Each (fun p i => OneCook p.1 i) (.init localMode toleranceC, []) is :=
    (Machine.noting_each noteVisit [] _ _).mpr oneCook
  refine Machine.Each.law (I := fun p => OnVisit p.1 p.2) ?_ ?_ start each
  · rintro ⟨s, visit⟩ i h oneCook
    exact (onVisit_next h oneCook).1
  · rintro ⟨s, visit⟩ i h oneCook
    exact (onVisit_next h oneCook).2

namespace Kitchen

/-- An oven that preheats to 180 degrees, with a stage after it, for a cook. -/
def preheatCook (cookId : String) : OvenCook :=
  ⟨cookId, [{ roast with kind := "preheat", id := some "bread-preheat" },
    { roast with id := some "bread" }], [], 0⟩

/-- A report of a cook's preheat at a reading, so many milliseconds on. -/
def preheatsAt (cookId : String) (celsius : ℚ) (now : Nat) : Env × Input :=
  ({ Kitchen.env "report" with now := now }, .event (.ws (.apoState
    { Kitchen.status "cook" with temperatureC := celsius, activeStageIndex := some 0 }
    (some (preheatCook cookId)))))

/-- A preheat that settles. -/
def settlingPreheat : List (Env × Input) :=
  [found, preheatsAt "one" 179 0, preheatsAt "one" 179 10000, preheatsAt "one" 179 20000]

/-- A cook started over itself just as its preheat has come near. -/
def restartedPreheat : List (Env × Input) :=
  [found, preheatsAt "one" 179 0, preheatsAt "two" 179 10000]

end Kitchen

/-- A preheat that stays within two degrees is settled. -/
theorem preheats_settle_bread :
    visits.Each (fun p i => JustifiedStep p.1 (noteVisit p.1 p.2 i) i) (.init true 2, [])
      Kitchen.settlingPreheat :=
  preheats_settle true 2 Kitchen.settlingPreheat (by decide +kernel)

example : (visits.run (.init true 2, []) Kitchen.settlingPreheat).2.map PreheatReport.started =
    [0, 1, 0] := by
  decide +kernel

/-- A spell has more than one report. -/
theorem Spell.one_lt {block : List PreheatReport} (h : Spell block) : 1 < block.length := by
  obtain ⟨_, first, isFirst, last, isLast, long⟩ := h
  match block with
  | [] => cases isFirst
  | [r] =>
    have same : first = last := (Option.some.inj isFirst).symm.trans (Option.some.inj isLast)
    rw [same] at long
    unfold preheatSettleWindow at long
    omega
  | _ :: _ :: rest => exact Nat.lt_add_left rest.length (Nat.lt_add_one 1)

/-- A cook started over itself goes on with the other's watch: its next stage is started on its first
report. -/
theorem preheat_inherited :
    ¬ ∀ (toleranceC : ℚ) (is : List (Env × Input)),
      (is.map fun i => i.1.now).IsChain (· ≤ ·) →
        visits.Each (fun p i => JustifiedStep p.1 (noteVisit p.1 p.2 i) i) (.init true toleranceC, [])
          is := by
  intro always
  obtain ⟨-, -, inherited, -⟩ := always 2 Kitchen.restartedPreheat (by decide)
  have starts : (preheatReport
      (visits.run (.init true 2, []) (Kitchen.restartedPreheat.take 2)).1
      (Kitchen.preheatsAt "two" 179 10000)).map PreheatReport.started = some 1 := by
    decide +kernel
  obtain ⟨r, isReport, started⟩ := Option.map_eq_some_iff.mp starts
  obtain ⟨block, suffix, spell⟩ := (inherited.justified r isReport).started (by omega)
  have single : block.length ≤ 1 := suffix.length_le.trans (by decide +kernel)
  exact absurd spell.one_lt (by omega)

end AnovaOven
