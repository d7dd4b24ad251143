import AnovaOven.Laws.Identity
import AnovaOven.Local

/-!
# Replies of the store

The store answers each fetch with one reply, and replies come in the order of their fetches
(`fetch_answers`). A fetch that names no cook of the oven is refused, and the state machine makes
nothing of a refusal, so only a fetch that names one can do harm when its reply is late.

**No stale reply** (`no_stale_reply`), where no fetch that names a cook is unanswered when a start is
accepted or the oven goes idle. A reply that was on its way then overwrites the cook the start
installed (`late_reply_replaces`), or shows the ended cook on an idle oven (`late_reply_revives`).
-/

namespace AnovaOven

variable {read : Bytes → Option HistoryEntry} {s : LocalServer} {t : LocalTurn}

/-! ## Fetches and replies -/

/-- A fetch, by whether it names a cook of the oven. -/
def StoreCommand.fetches : StoreCommand → Option Bool
  | fetchCurrentCook _ ovenCook => some ovenCook.isSome
  | _ => none

/-- A reply to a fetch, by whether it is a success. -/
def StoreEvent.fetched : StoreEvent → Option Bool
  | currentCookFetched _ result => some result.toBool
  | _ => none

/-- The fetches asked and not answered yet, oldest first, by whether they name a cook. -/
def LocalServer.unanswered (s : LocalServer) : List Bool :=
  Duplex.unanswered StoreCommand.fetches StoreEvent.fetched s

/-- The fetch an effect asks. -/
def LocalEffect.fetch (e : LocalEffect) : Option Bool :=
  (Duplex.asked localWiring e).bind StoreCommand.fetches

/-- The reply an effect is the hearing of. -/
def LocalEffect.reply (e : LocalEffect) : Option Bool := e.toHeard.bind StoreEvent.fetched

theorem refreshed_fetched (store : LocalStore) (recorded : Bool) :
    (store.refreshed read recorded).filterMap StoreEvent.fetched = [] := by
  cases recorded <;> rfl

/-- The store answers a fetch with one reply, a success where it names a cook. -/
theorem handle_fetched (store : LocalStore) (now : Moment) (cmd : StoreCommand) :
    (store.handle read now cmd).2.filterMap StoreEvent.fetched = cmd.fetches.toList := by
  cases cmd with
  | fetchCurrentCook reason ovenCook =>
    cases ovenCook with
    | none => rfl
    | some cook =>
      obtain ⟨active, _, answer, _⟩ := store.currentCook_active now cook
      show [StoreEvent.currentCookFetched reason (store.currentCook (some cook) now).2].filterMap
        StoreEvent.fetched = [true]
      rw [answer]
      rfl
  | patchCookRecipeRef cookId started extras =>
    cases started <;> exact refreshed_fetched _ _
  | ovenReported ovenCook => exact refreshed_fetched _ _
  | refreshRecipes | refreshHistory | linkCookToRecipe | resolveManualCookTitle => rfl

/-- **Each fetch has its reply.** -/
theorem fetch_answers (read : Bytes → Option HistoryEntry) : Duplex.Answers localWiring
    (storeFiles read) StoreCommand.fetches StoreEvent.fetched where
  own store i own := by
    cases i with
    | command now cmd => cases own
    | recipes recipes => rfl
  taken store now cmd := by
    show ((store.handle read now cmd).2.filterMap some).filterMap StoreEvent.fetched = _
    rw [List.filterMap_some, handle_fetched]

theorem unanswered_step (s : LocalServer) (t : LocalTurn) :
    s.unanswered ++ ((localMachine read).effects s t).filterMap LocalEffect.fetch =
      ((localMachine read).effects s t).filterMap LocalEffect.reply ++
        LocalServer.unanswered ((localMachine read).next s t) :=
  Duplex.answers_step (fetch_answers read) s t

/-! ## Stale replies -/

/-- A start is accepted at a turn. -/
def StartsCook (s : LocalServer) (t : LocalTurn) : Prop :=
  ∃ i requestId, t = .near i ∧ signal s.near i = .start requestId

/-- The oven is reported idle at a turn, and was reported cooking before. -/
def WentIdle (read : Bytes → Option HistoryEntry) (s : LocalServer) (t : LocalTurn) : Prop :=
  s.near.reportsCooking = true ∧ ((localMachine read).next s t).near.reportsCooking = false

/-- A turn of the state machine hears a reply to a fetch. -/
def HearsReply (read : Bytes → Option HistoryEntry) (s : LocalServer) (env : Env) : Prop :=
  ∃ reason result, .heard (.currentCookFetched reason result) ∈
    (localMachine read).effects s (.hear env)

/-- The reply heard next is to a fetch issued before: fewer replies have been heard in the whole run
than fetches had been issued then. -/
def Stale (read : Bytes → Option HistoryEntry) (start : LocalServer) (past since : List LocalTurn) :
    Prop :=
  (((localMachine read).trace start (past ++ since)).filterMap LocalEffect.reply).length <
    (((localMachine read).trace start past).filterMap LocalEffect.fetch).length

instance (start : LocalServer) (past since : List LocalTurn) :
    Decidable (Stale read start past since) :=
  inferInstanceAs (Decidable (_ < _))

/-- A cook as it was, under whatever label a link gives it. -/
def CurrentCook.Relabels (cook' cook : CurrentCook) : Prop :=
  cook' = { cook with recipeId := cook'.recipeId, recipeTitle := cook'.recipeTitle }

/-- What a stale reply must leave alone. -/
structure NoStaleReply (read : Bytes → Option HistoryEntry) (start : LocalServer)
    (turns : List LocalTurn) : Prop where
  /-- A reply to a fetch issued before a start leaves the cook the start installed. -/
  started : ∀ past t mid env rest, turns = past ++ t :: mid ++ .hear env :: rest →
    StartsCook ((localMachine read).run start past) t → Stale read start past (t :: mid) →
    HearsReply read ((localMachine read).run start (past ++ t :: mid)) env →
    ∀ cook cook', ((localMachine read).run start (past ++ [t])).near.currentCook = some cook →
      ((localMachine read).run start (past ++ t :: mid)).near.currentCook = some cook' →
      cook'.Relabels cook →
      ((localMachine read).run start (past ++ t :: mid ++ [.hear env])).near.currentCook =
        some cook'
  /-- A reply to a fetch issued before the oven went idle doesn't show a cook on an idle oven. -/
  idle : ∀ past t mid env rest, turns = past ++ t :: mid ++ .hear env :: rest →
    WentIdle read ((localMachine read).run start past) t → Stale read start past (t :: mid) →
    HearsReply read ((localMachine read).run start (past ++ t :: mid)) env →
    ((localMachine read).run start (past ++ t :: mid)).near.reportsCooking = false →
    ((localMachine read).run start (past ++ t :: mid)).near.lifecycle = .idle →
    ((localMachine read).run start (past ++ t :: mid)).near.currentCook = none →
    ((localMachine read).run start (past ++ t :: mid ++ [.hear env])).near.currentCook = none

/-- When a start is accepted or the oven goes idle, no fetch that names a cook is unanswered. -/
def NoneAwaited (read : Bytes → Option HistoryEntry) (s : LocalServer) (t : LocalTurn) : Prop :=
  StartsCook s t ∨ WentIdle read s t → true ∉ s.unanswered

/-- A stale reply was unanswered at the turn it is older than. -/
theorem stale_unanswered {start : LocalServer} {past since : List LocalTurn} {env : Env}
    {reason : CurrentCookReason} {result : Except StoreError (Option CurrentCook)}
    (empty : start.unanswered = []) (stale : Stale read start past since)
    (hears : .heard (.currentCookFetched reason result) ∈
      (localMachine read).effects ((localMachine read).run start (past ++ since)) (.hear env)) :
    result.toBool ∈ LocalServer.unanswered ((localMachine read).run start past) := by
  have queue := (localMachine read).run_queues LocalServer.unanswered LocalEffect.fetch
    LocalEffect.reply unanswered_step start past
  rw [empty, List.nil_append] at queue
  rw [Stale, Machine.trace_append, List.filterMap_append, queue, List.length_append,
    List.length_append, Nat.add_lt_add_iff_left] at stale
  obtain ⟨_, _, _, _, effects, _⟩ := Duplex.heard_spec hears
  rw [Machine.run_append] at effects
  have takes : (((localMachine read).effects ((localMachine read).run ((localMachine read).run start past)
      since) (.hear env)).filterMap LocalEffect.reply) = [result.toBool] := by
    apply (congrArg (List.filterMap LocalEffect.reply) effects).trans
    simp [LocalEffect.reply, StoreEvent.fetched]
  exact Machine.mem_kept_of_taken unanswered_step takes stale

/-- A stale reply changes nothing, where no fetch that names a cook was unanswered. -/
theorem stale_quiet {start : LocalServer} {past since : List LocalTurn} {env : Env}
    (empty : start.unanswered = []) (stale : Stale read start past since)
    (settled : true ∉ LocalServer.unanswered ((localMachine read).run start past))
    (hears : HearsReply read ((localMachine read).run start (past ++ since)) env) :
    ((localMachine read).run start (past ++ since ++ [.hear env])).near =
      ((localMachine read).run start (past ++ since)).near := by
  obtain ⟨reason, result, hears⟩ := hears
  have unanswered := stale_unanswered empty stale hears
  cases result with
  | ok cook => exact absurd unanswered settled
  | error e =>
    obtain ⟨_, _, same, _, _, next⟩ := Duplex.heard_spec hears
    cases same
    rw [Machine.run_append]
    exact next

/-- **No stale reply.** In a run at whose starts and idle edges no fetch that names a cook is
unanswered, a reply to a fetch issued before a start leaves the cook the start installed, and one to a
fetch issued before the oven went idle shows no cook on the idle oven. -/
theorem no_stale_reply (read : Bytes → Option HistoryEntry) (preheatToleranceC : ℚ)
    (store : LocalStore) (turns : List LocalTurn)
    (settled : (localMachine read).Each (NoneAwaited read) (localInit preheatToleranceC store) turns) :
    NoStaleReply read (localInit preheatToleranceC store) turns := by
  have each := Machine.each_iff.mp settled
  constructor
  · intro past t mid env rest split starts stale hears cook cook' _ shown _
    have here := each past t (mid ++ .hear env :: rest) (by rw [split, List.append_assoc]; rfl)
    rw [stale_quiet rfl stale (here (.inl starts)) hears]
    exact shown
  · intro past t mid env rest split idle stale hears _ _ shown
    have here := each past t (mid ++ .hear env :: rest) (by rw [split, List.append_assoc]; rfl)
    rw [stale_quiet rfl stale (here (.inr idle)) hears]
    exact shown

namespace Kitchen

/-- The server of an oven that has been told of, over an empty store. -/
def kitchen : LocalServer := localInit 0 emptyStore

def takes : LocalTurn := .take (moment "2023-11-14T22:13:20Z")
def hears : LocalTurn := .hear (env "")

/-- A roast is started, and then a stew while the roast's start is pending. The reply to the fetch in
between, which names no cook, is heard after both. -/
def twoStarts : List LocalTurn :=
  [.near found, .near (starts "roast"), .near (env "", .event (.tick .currentCookRefresh)),
    .near (starts "stew"), takes, takes, hears, hears]

/-- The reply to the fetch of a cook that runs is heard after another cook is started. -/
def startBeforeReply : List LocalTurn :=
  [.near found, .near (reportsCook "other"), .near (starts "roast"), takes, takes, hears]

/-- The reply to the fetch of a cook that runs is heard after the oven went idle. -/
def idleBeforeReply : List LocalTurn :=
  [.near found, .near (reportsCook "other"), .near (reports "idle"), takes, takes, hears]

theorem twoStarts_settled : (localMachine fun _ => none).Each (NoneAwaited fun _ => none) kitchen
    twoStarts :=
  ⟨fun _ => by decide, fun _ => by decide, fun _ => by decide, fun _ => by decide, fun _ => by decide,
    fun _ => by decide, fun _ => by decide, fun _ => by decide, trivial⟩

end Kitchen

theorem no_stale_reply_twoStarts :
    NoStaleReply (fun _ => none) Kitchen.kitchen Kitchen.twoStarts :=
  no_stale_reply (fun _ => none) 0 Kitchen.emptyStore Kitchen.twoStarts Kitchen.twoStarts_settled

open Kitchen in
/-- A start while a fetch of the oven's cook is unanswered: its reply takes the start's cook away. -/
theorem late_reply_replaces : ¬ NoStaleReply (fun _ => none) kitchen startBeforeReply := by
  intro law
  have kept := law.started [.near found, .near (reportsCook "other")] (.near (starts "roast"))
    [takes, takes] (Kitchen.env "") [] rfl ⟨_, "roast", rfl, rfl⟩ (by decide)
    ⟨_, _, List.mem_cons_self⟩ _ _ rfl rfl rfl
  exact absurd kept (by decide)

open Kitchen in
/-- The oven goes idle while a fetch of its cook is unanswered: its reply shows the cook again. -/
theorem late_reply_revives : ¬ NoStaleReply (fun _ => none) kitchen idleBeforeReply := by
  intro law
  have kept := law.idle [.near found, .near (reportsCook "other")] (.near (reports "idle"))
    [takes, takes] (Kitchen.env "") [] rfl ⟨rfl, rfl⟩ (by decide) ⟨_, _, List.mem_cons_self⟩
    rfl rfl rfl
  exact absurd kept (by decide)

end AnovaOven
