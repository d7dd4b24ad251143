import AnovaOven.Laws.Liveness
import AnovaOven.Processors.Ws.Freshness

/-!
# Laws of the cloud's freshness

The cloud sends its last snapshot again on every connection, so a frame alone doesn't tell that the oven is
there.

**What is served as connected** (`upstream_connected`): just while a connection is open, and nothing has told
that the oven is gone since the last news of it. News is a frame with another timestamp than the one before
it had, on whatever connection that came.

**A silent oven is told of** (`silent_told`): a connection that is held past its deadline, with nothing fresh
on it, is given up, and the oven isn't shown again until it is heard of, whatever is sent on the connections
that follow. A connection that ends sooner puts the deadline off.
-/

namespace AnovaOven

namespace Liveness

theorem trackTransition_socket (l : Liveness) (was : Bool) (now : Nat) :
    (l.trackTransition was now).connected = l.connected := by
  unfold trackTransition
  split_ifs <;> rfl

theorem setConnected_connected (l : Liveness) (connected : Bool) (now : Nat) :
    (l.setConnected connected now).connected = connected := trackTransition_socket _ _ _

theorem setConnected_ovenOnline (l : Liveness) (connected : Bool) (now : Nat) :
    (l.setConnected connected now).ovenOnline = l.ovenOnline := trackTransition_ovenOnline _ _ _

theorem setOvenOnline_connected (l : Liveness) (online : Bool) (told : Option Nat) (now seen : Nat) :
    (l.setOvenOnline online told now seen).connected = l.connected := by
  rw [setOvenOnline_eq]
  exact trackTransition_socket _ _ _

theorem setOvenOnline_ovenOnline (l : Liveness) (online : Bool) (told : Option Nat) (now seen : Nat) :
    (l.setOvenOnline online told now seen).ovenOnline = online := by
  rw [setOvenOnline_eq]
  exact trackTransition_ovenOnline _ _ _

end Liveness

/-- What a verdict makes of the oven: a replay says nothing. -/
def Freshness.tells : Freshness → Option Bool
  | fresh => some true
  | replay => none
  | offline => some false

theorem Freshness.tells_true {verdict : Option Freshness} :
    verdict.bind tells = some true ↔ verdict = some .fresh := by
  rcases verdict with _ | _ | _ | _ <;> simp [tells]

namespace Upstream

/-! ## A turn -/

/-- The state frame that a turn takes, on an open connection. -/
def takes (u : Upstream) : UpstreamInput → Option (WsClocks × FrameReport)
  | .turn clocks report (.frame (.payload (.ok (.apoState _)))) =>
    if u.ws.connection.isSome then some (clocks, report) else none
  | _ => none

/-- The watchdog's turn comes, and it is due. -/
def expires (config : WsConfig) (u : Upstream) : UpstreamInput → Bool
  | .watchdog clocks => u.ws.connection.isSome && u.due config clocks
  | .turn _ _ _ => false

/-- What a turn says of the oven. -/
def verdict (config : WsConfig) (u : Upstream) (i : UpstreamInput) : Option Freshness :=
  if u.expires config i then some .offline
  else (u.takes i).map fun (clocks, report) => config.classifyState report u.lastUpdated clocks.timestamp

/-- What a turn does. -/
inductive Turned (config : WsConfig) (u : Upstream) : UpstreamInput → Upstream → Prop
  | opened (clocks : WsClocks) (report : FrameReport) (connection : WsConnection)
    (was : u.ws.connection = none) :
    Turned config u (.turn clocks report .connect) { u.opens clocks with ws := ⟨some connection⟩ }
  | observed (clocks : WsClocks) (report : FrameReport) (oven : OvenState) (was : u.ws.connection.isSome) :
    Turned config u (.turn clocks report (.frame (.payload (.ok (.apoState oven)))))
      { u.observe config clocks report with ws := u.ws }
  | closed (clocks : WsClocks) (report : FrameReport) (input : WsInput)
    (silent : u.takes (.turn clocks report input) = none) :
    Turned config u (.turn clocks report input)
      { u.tell [.setConnected false (clocks.millis 0)] with ws := ⟨none⟩ }
  | expired (clocks : WsClocks) (due : u.expires config (.watchdog clocks)) :
    Turned config u (.watchdog clocks) { u.tell [.setOvenOnline false none (clocks.millis 0) (clocks.millis 1),
      .setConnected false (clocks.millis 2)] with ws := ⟨none⟩ }
  | stays (i : UpstreamInput) (ws : WsState) (same : ws.connection.isSome = u.ws.connection.isSome)
    (silent : u.verdict config i = none) : Turned config u i { u with ws := ws }

/-- A command leaves a connection open, or ends it. -/
theorem command_cases (turn : WsTurn) (connection : WsConnection) (cmd : WsCommand) :
    (WsState.command turn connection cmd).1.connection = some connection ∧
        (WsState.command turn connection cmd).2.any WsEffect.disconnects = false ∨
      WsState.command turn connection cmd = WsState.disconnect := by
  unfold WsState.command
  split
  · exact .inl ⟨rfl, rfl⟩
  · split
    · exact .inl ⟨rfl, rfl⟩
    · exact .inr rfl

theorem step_turned (config : WsConfig) (u : Upstream) (i : UpstreamInput) :
    u.Turned config i ((upstream config).next u i) := by
  show u.Turned config i (u.step config i).1
  obtain ⟨⟨connection⟩, lastUpdated, lastStateFrame, liveness⟩ := u
  cases connection with
  | none =>
    cases i with
    | watchdog clocks => exact .stays _ ⟨none⟩ rfl rfl
    | turn clocks report input =>
      cases input with
      | connect => exact .opened clocks report ⟨none⟩ rfl
      | connectFailed => exact .closed clocks report .connectFailed rfl
      | frame frame =>
        refine .stays _ ⟨none⟩ rfl ?_
        rcases frame with _ | _ | _ | ⟨detail | ⟨oven | ⟨_ | id⟩ | _ | _ | _⟩⟩ <;> rfl
      | ended | command => exact .stays _ ⟨none⟩ rfl rfl
  | some connection =>
    cases i with
    | watchdog clocks =>
      unfold step
      dsimp only
      split
      · rename_i due
        exact .expired clocks due
      · rename_i early
        refine .stays _ ⟨some connection⟩ rfl ?_
        unfold verdict
        rw [if_neg (by simpa [expires] using early)]
        rfl
    | turn clocks report input =>
      cases input with
      | connect | connectFailed => exact .stays _ ⟨some connection⟩ rfl rfl
      | ended => exact .closed clocks report .ended rfl
      | command turn cmd =>
        rcases command_cases turn connection cmd with ⟨open', quiet⟩ | ended
        · have held : (step config ⟨⟨some connection⟩, lastUpdated, lastStateFrame, liveness⟩
              (.turn clocks report (.command turn cmd))).1 =
                ⟨(WsState.command turn connection cmd).1, lastUpdated, lastStateFrame, liveness⟩ := by
            unfold step WsState.step
            simp only [quiet]
            rfl
          rw [held]
          exact .stays _ _ (congrArg Option.isSome open') rfl
        · have lost : (step config ⟨⟨some connection⟩, lastUpdated, lastStateFrame, liveness⟩
              (.turn clocks report (.command turn cmd))).1 =
                { tell ⟨⟨some connection⟩, lastUpdated, lastStateFrame, liveness⟩
                  [.setConnected false (clocks.millis 0)] with ws := ⟨none⟩ } := by
            unfold step WsState.step
            simp only [ended]
            rfl
          rw [lost]
          exact .closed clocks report _ rfl
      | frame frame =>
        rcases frame with _ | _ | _ | ⟨detail | ⟨oven | ⟨_ | id⟩ | _ | _ | _⟩⟩
        case payload.ok.apoState => exact .observed clocks report oven rfl
        case payload.ok.apoWifiList.some => exact .stays _ ⟨some ⟨some id⟩⟩ rfl rfl
        all_goals exact .stays _ ⟨some connection⟩ rfl rfl

variable {config : WsConfig}

theorem takes_frame {u : Upstream} {clocks : WsClocks} {report : FrameReport} {oven : OvenState}
    (was : u.ws.connection.isSome) :
    u.takes (.turn clocks report (.frame (.payload (.ok (.apoState oven))))) = some (clocks, report) :=
  if_pos was

/-- A state frame on an open connection is judged. -/
theorem verdict_frame {u : Upstream} {clocks : WsClocks} {report : FrameReport} {oven : OvenState}
    (was : u.ws.connection.isSome) :
    u.verdict config (.turn clocks report (.frame (.payload (.ok (.apoState oven))))) =
      some (config.classifyState report u.lastUpdated clocks.timestamp) := by
  unfold verdict
  rw [takes_frame was]
  rfl

/-- A state frame tells the tracker what it says of the oven, and puts the deadline off where it is fresh. -/
theorem observe_spec (config : WsConfig) (u : Upstream) (clocks : WsClocks) (report : FrameReport) :
    (u.observe config clocks report).liveness.connected = u.liveness.connected ∧
      (u.observe config clocks report).liveness.ovenOnline =
        ((config.classifyState report u.lastUpdated clocks.timestamp).tells).getD u.liveness.ovenOnline ∧
      (u.observe config clocks report).lastStateFrame =
        (if config.classifyState report u.lastUpdated clocks.timestamp = .fresh then clocks.instant
          else u.lastStateFrame) ∧
      (u.observe config clocks report).lastUpdated = report.updatedTimestamp.or u.lastUpdated := by
  unfold observe
  cases config.classifyState report u.lastUpdated clocks.timestamp with
  | fresh =>
    refine ⟨?_, ?_, rfl, rfl⟩
    · exact (u.liveness.recordState (clocks.millis 0)).setOvenOnline_connected true none (clocks.millis 1)
        (clocks.millis 2)
    · exact (u.liveness.recordState (clocks.millis 0)).setOvenOnline_ovenOnline true none (clocks.millis 1)
        (clocks.millis 2)
  | replay => exact ⟨rfl, rfl, rfl, rfl⟩
  | offline =>
    refine ⟨?_, ?_, rfl, rfl⟩
    · exact u.liveness.setOvenOnline_connected false _ (clocks.millis 0) (clocks.millis 1)
    · exact u.liveness.setOvenOnline_ovenOnline false _ (clocks.millis 0) (clocks.millis 1)

/-- What a turn tells of the oven is its verdict, and the socket is up while a connection is open. -/
theorem next_tells (u : Upstream) (i : UpstreamInput) :
    ((upstream config).next u i).liveness.ovenOnline =
        ((u.verdict config i).bind Freshness.tells).getD u.liveness.ovenOnline ∧
      (u.liveness.connected = u.ws.connection.isSome →
        ((upstream config).next u i).liveness.connected =
          ((upstream config).next u i).ws.connection.isSome) := by
  have turned := step_turned config u i
  generalize (upstream config).next u i = u' at turned
  cases turned with
  | opened clocks report connection was =>
    exact ⟨u.liveness.setConnected_ovenOnline true (clocks.millis 0),
      fun _ => u.liveness.setConnected_connected true (clocks.millis 0)⟩
  | observed clocks report oven was =>
    obtain ⟨socket, online, _, _⟩ := u.observe_spec config clocks report
    rw [verdict_frame was]
    exact ⟨online, fun linked => socket.trans linked⟩
  | closed clocks report input silent =>
    have none' : u.verdict config (.turn clocks report input) = none := by
      unfold verdict
      rw [silent]
      rfl
    rw [none']
    exact ⟨u.liveness.setConnected_ovenOnline false (clocks.millis 0),
      fun _ => u.liveness.setConnected_connected false (clocks.millis 0)⟩
  | expired clocks due =>
    have gone : u.verdict config (.watchdog clocks) = some .offline := if_pos due
    rw [gone]
    have online := u.liveness.setOvenOnline_ovenOnline false none (clocks.millis 0) (clocks.millis 1)
    refine ⟨(Liveness.setConnected_ovenOnline _ false (clocks.millis 2)).trans online, ?_⟩
    exact fun _ => Liveness.setConnected_connected _ false (clocks.millis 2)
  | stays i ws same silent =>
    rw [silent]
    exact ⟨rfl, fun linked => linked.trans same.symm⟩

/-- The timestamp that a turn sees. -/
def sees (u : Upstream) (i : UpstreamInput) : Option String :=
  (u.takes i).bind fun taken => taken.2.updatedTimestamp

theorem next_sees (u : Upstream) (i : UpstreamInput) :
    ((upstream config).next u i).lastUpdated = (u.sees i).or u.lastUpdated := by
  have turned := step_turned config u i
  generalize (upstream config).next u i = u' at turned
  cases turned with
  | opened clocks report connection was => rfl
  | observed clocks report oven was =>
    obtain ⟨_, _, _, updated⟩ := u.observe_spec config clocks report
    unfold sees
    rw [takes_frame was]
    exact updated
  | closed clocks report input silent =>
    unfold sees
    rw [silent]
    rfl
  | expired clocks due => rfl
  | stays i ws same silent =>
    unfold sees
    have untaken : u.takes i = none := by
      unfold verdict at silent
      split at silent
      · cases silent
      · exact Option.map_eq_none_iff.mp silent
    rw [untaken]
    rfl

/-- A turn, as the processor without its watchdog takes it. -/
def reading (config : WsConfig) (u : Upstream) (i : UpstreamInput) : WsInput :=
  match i with
  | .turn _ _ input => input
  | .watchdog _ => if u.expires config i then .ended else .frame .ping

theorem step_reads (config : WsConfig) (u : Upstream) (i : UpstreamInput) :
    ((u.step config i).1.ws, (u.step config i).2) = u.ws.step (u.reading config i) := by
  cases i with
  | turn clocks report input => rfl
  | watchdog clocks =>
    obtain ⟨⟨connection⟩, lastUpdated, lastStateFrame, liveness⟩ := u
    cases connection with
    | none => rfl
    | some connection =>
      unfold reading expires step
      dsimp only
      split <;> simp [*, WsState.step, WsState.receive]

/-- **The watchdog** does nothing to the processor but end its socket. -/
theorem upstream_simulates (config : WsConfig) :
    Machine.Simulates (upstream config) AnovaOven.ws Upstream.ws (reading config) id where
  next u i := congrArg Prod.fst (u.step_reads config i)
  effects u i := (List.map_id _).trans (congrArg Prod.snd (u.step_reads config i))

/-! ## What is served as connected -/

/-- A timestamp is the last one a run saw, on whatever connection it came. -/
def SeenLast (config : WsConfig) (u : Upstream) (past : List UpstreamInput) (updated : String) : Prop :=
  ∃ earlier j between, past = earlier ++ j :: between ∧
    ((upstream config).run u earlier).sees j = some updated ∧
    (upstream config).Each (fun u i => u.sees i = none)
      ((upstream config).next ((upstream config).run u earlier) j) between

/-- The last timestamp is set by the frames that have one. -/
def updatedWatch (config : WsConfig) : Machine.Stopwatch (upstream config) Upstream.lastUpdated where
  sets u i := u.sees i ≠ none
  reading u i := u.sees i
  set u i sees := by
    obtain ⟨updated, isSeen⟩ := Option.ne_none_iff_exists'.mp sees
    rw [next_sees, isSeen]
    rfl
  left u i unseen := by
    rw [next_sees, not_not.mp unseen]
    rfl

theorem lastUpdated_run (config : WsConfig) {u : Upstream} (fresh : u.lastUpdated = none) (past : List UpstreamInput)
    (updated : String) :
    ((upstream config).run u past).lastUpdated = some updated ↔ SeenLast config u past updated := by
  have untouched : ∀ v rest, (updatedWatch config).Untouched v rest ↔
      (upstream config).Each (fun u i => u.sees i = none) v rest := by
    intro v rest
    rw [Machine.Stopwatch.Untouched, Machine.each_iff, Machine.each_iff]
    simp [updatedWatch]
  constructor
  · intro shown
    rcases (updatedWatch config).run_shows u past with ⟨_, shows⟩ | ⟨earlier, j, between, last, shows⟩
    · rw [shown, fresh] at shows
      cases shows
    · exact ⟨earlier, j, between, last.split, shows.symm.trans shown, (untouched _ _).mp last.untouched⟩
  · rintro ⟨earlier, j, between, rfl, isSeen, unseen⟩
    have shows := (updatedWatch config).run_untouched ((untouched _ _).mpr unseen)
    rw [Machine.run_append, Machine.run_cons, shows, next_sees, isSeen]
    rfl

/-- A turn brings news of the oven: a state frame that says the oven is online, with a timestamp that isn't
too old and isn't the one of the frame before it. -/
def News (config : WsConfig) (u : Upstream) (past : List UpstreamInput) (i : UpstreamInput) : Prop :=
  ∃ clocks report, ((upstream config).run u past).takes i = some (clocks, report) ∧
    report.systemInfo.bind SystemInfo.online ≠ some false ∧
    ∀ updated, report.updatedTimestamp = some updated →
      ¬ SeenLast config u past updated ∧ config.tooOld updated clocks.timestamp = false

theorem classifyState_fresh (report : FrameReport) (lastUpdated : Option String) (now : Int) :
    config.classifyState report lastUpdated now = .fresh ↔
      report.systemInfo.bind SystemInfo.online ≠ some false ∧
        ∀ updated, report.updatedTimestamp = some updated →
          lastUpdated ≠ some updated ∧ config.tooOld updated now = false := by
  unfold WsConfig.classifyState
  cases told : report.updatedTimestamp with
  | none => split <;> simp [*]
  | some updated =>
    dsimp only
    split_ifs <;> simp [*]

/-- A fresh frame is news. -/
theorem verdict_fresh {u : Upstream} (fresh : u.lastUpdated = none) (past : List UpstreamInput)
    (i : UpstreamInput) :
    ((upstream config).run u past).verdict config i = some .fresh ↔ News config u past i := by
  have shown := lastUpdated_run config fresh past
  unfold News
  generalize (upstream config).run u past = v at shown
  unfold verdict
  cases taken : v.takes i with
  | none =>
    constructor
    · intro isFresh
      split at isFresh <;> cases isFresh
    · rintro ⟨clocks, report, isTaken, _⟩
      cases isTaken
  | some frame =>
    obtain ⟨clocks, report⟩ := frame
    have unexpired : v.expires config i = false := by
      cases i with
      | watchdog clocks => cases taken
      | turn clocks report input => rfl
    rw [unexpired, if_neg (by decide), Option.map_some, Option.some.injEq, classifyState_fresh]
    simp only [← shown]
    constructor
    · rintro ⟨online, new⟩
      exact ⟨clocks, report, rfl, online, new⟩
    · rintro ⟨_, _, same, online, new⟩
      obtain ⟨rfl, rfl⟩ := Prod.mk.inj (Option.some.inj same)
      exact ⟨online, new⟩

/-- A turn says nothing of the oven. -/
def Silent (config : WsConfig) (u : Upstream) (i : UpstreamInput) : Prop :=
  (u.verdict config i).bind Freshness.tells = none

/-- The tracker's flag for the oven is set by the turns that say something of it. -/
def onlineWatch (config : WsConfig) :
    Machine.Stopwatch (upstream config) fun u => u.liveness.ovenOnline where
  sets u i := ¬ Silent config u i
  reading u i := ((u.verdict config i).bind Freshness.tells).getD true
  set u i speaks := by
    obtain ⟨told, isTold⟩ := Option.ne_none_iff_exists'.mp speaks
    rw [(next_tells u i).1, isTold]
    rfl
  left u i silent := by
    rw [(next_tells u i).1, not_not.mp silent]
    rfl

theorem untouched_silent {u : Upstream} {is : List UpstreamInput} :
    (onlineWatch config).Untouched u is ↔ (upstream config).Each (Silent config) u is := by
  rw [Machine.Stopwatch.Untouched, Machine.each_iff, Machine.each_iff]
  simp only [onlineWatch, not_not]

/-- The socket is up while a connection is open. -/
theorem linked_run {u : Upstream} (linked : u.liveness.connected = u.ws.connection.isSome)
    (is : List UpstreamInput) : ((upstream config).run u is).liveness.connected =
      ((upstream config).run u is).ws.connection.isSome :=
  Machine.run_keeps (I := fun u => u.liveness.connected = u.ws.connection.isSome)
    (fun u i _ linked => (next_tells u i).2 linked) linked

end Upstream

/-- **What is served as connected.** The server tells that the oven is connected just while a connection is
open, and either nothing was ever said of the oven, or what was said of it last was news: a frame sent again,
on this connection or another, is none. -/
theorem upstream_connected (config : WsConfig) (timeout started : Nat) (is : List UpstreamInput) :
    ((upstream config).run (.new (.new timeout started)) is).liveness.isConnected = true ↔
      ((upstream config).run (.new (.new timeout started)) is).ws.connection.isSome = true ∧
        ((upstream config).Each (Upstream.Silent config) (.new (.new timeout started)) is ∨
          ∃ past i rest, is = past ++ i :: rest ∧
            Upstream.News config (.new (.new timeout started)) past i ∧
            (upstream config).Each (Upstream.Silent config)
              ((upstream config).run (.new (.new timeout started)) (past ++ [i])) rest) := by
  generalize isStart : Upstream.new (.new timeout started) = u
  have linked : u.liveness.connected = u.ws.connection.isSome := by
    rw [← isStart]
    rfl
  have fresh : u.lastUpdated = none := by
    rw [← isStart]
    rfl
  have online : u.liveness.ovenOnline = true := by
    rw [← isStart]
    rfl
  unfold Liveness.isConnected
  rw [Upstream.linked_run linked, Bool.and_eq_true]
  refine and_congr_right fun _ => ?_
  constructor
  · intro shown
    rcases (Upstream.onlineWatch config).run_shows u is with ⟨untouched, _⟩ | ⟨past, i, rest, last, shows⟩
    · exact .inl (Upstream.untouched_silent.mp untouched)
    · refine .inr ⟨past, i, rest, last.split, ?_, ?_⟩
      · rw [← Upstream.verdict_fresh fresh, ← Freshness.tells_true]
        obtain ⟨told, isTold⟩ := Option.ne_none_iff_exists'.mp last.sets
        have reads : ((((upstream config).run u past).verdict config i).bind Freshness.tells).getD true = true :=
          shows.symm.trans shown
        rw [isTold] at reads ⊢
        exact congrArg some reads
      · rw [Machine.run_append]
        exact Upstream.untouched_silent.mp last.untouched
  · rintro (silent | ⟨past, i, rest, rfl, news, silent⟩)
    · exact ((Upstream.onlineWatch config).run_untouched (Upstream.untouched_silent.mpr silent)).trans online
    · have isFresh := (Upstream.verdict_fresh fresh past i).mpr news
      have shows := (Upstream.onlineWatch config).run_untouched (Upstream.untouched_silent.mpr silent)
      rw [Machine.run_append, Machine.run_cons, Machine.run_nil] at shows
      rw [Machine.run_append, Machine.run_cons, shows, (Upstream.next_tells _ i).1, isFresh]
      rfl

/-! ## An oven that falls silent -/

namespace Upstream

variable {config : WsConfig} {slack : Nat} {t : Nat}

/-- A turn's frame, if it has one, isn't fresh. -/
def Stale (config : WsConfig) (u : Upstream) (i : UpstreamInput) : Prop := u.verdict config i ≠ some .fresh

instance Stale.decidable (config : WsConfig) (u : Upstream) (i : UpstreamInput) : Decidable (u.Stale config i) :=
  inferInstanceAs (Decidable (_ ≠ _))

/-- An open connection isn't lost at a turn, but to the watchdog. -/
def Held (config : WsConfig) (u : Upstream) (i : UpstreamInput) : Prop :=
  u.ws.connection.isSome → u.expires config i ∨ ((upstream config).next u i).ws.connection.isSome

instance Held.decidable (config : WsConfig) (u : Upstream) (i : UpstreamInput) : Decidable (u.Held config i) :=
  inferInstanceAs (Decidable (_ → _))

/-- The watchdog comes before any turn that is later than some slack past its deadline. -/
def Prompt (config : WsConfig) (slack : Nat) (u : Upstream) (i : UpstreamInput) : Prop :=
  u.ws.connection.isSome → u.expires config i ∨
    i.clocks.instant ≤ u.lastStateFrame + config.stateTimeout + slack

instance Prompt.decidable (config : WsConfig) (slack : Nat) (u : Upstream) (i : UpstreamInput) :
    Decidable (u.Prompt config slack i) := inferInstanceAs (Decidable (_ → _))

/-- A turn that isn't fresh leaves an oven that is shown as gone. -/
theorem next_gone {u : Upstream} {i : UpstreamInput} (stale : u.Stale config i)
    (gone : u.liveness.ovenOnline = false) : ((upstream config).next u i).liveness.ovenOnline = false := by
  rw [(next_tells u i).1, gone]
  rcases told : u.verdict config i with _ | _ | _ | _
  · rfl
  · exact absurd told stale
  · rfl
  · rfl

/-- A watchdog that is due shows the oven as gone. -/
theorem next_expires {u : Upstream} {i : UpstreamInput} (due : u.expires config i) :
    ((upstream config).next u i).liveness.ovenOnline = false := by
  have told : u.verdict config i = some .offline := if_pos due
  rw [(next_tells u i).1, told]
  rfl

/-- On an open connection a turn that isn't fresh leaves the deadline. -/
theorem next_deadline {u : Upstream} {i : UpstreamInput} (stale : u.Stale config i)
    (open' : u.ws.connection.isSome) :
    ((upstream config).next u i).lastStateFrame = u.lastStateFrame := by
  have turned := step_turned config u i
  generalize (upstream config).next u i = u' at turned
  cases turned with
  | opened clocks report connection was =>
    rw [was] at open'
    cases open'
  | observed clocks report oven was =>
    obtain ⟨_, _, deadline, _⟩ := u.observe_spec config clocks report
    refine deadline.trans (if_neg fun isFresh => stale ?_)
    rw [verdict_frame was, isFresh]
  | closed clocks report input silent => rfl
  | expired clocks due => rfl
  | stays i ws same silent => rfl

/-- A deadline is measured from an instant that has been. -/
theorem next_since {u : Upstream} {i : UpstreamInput} (before : u.lastStateFrame ≤ t)
    (now : i.clocks.instant ≤ t) : ((upstream config).next u i).lastStateFrame ≤ t := by
  have turned := step_turned config u i
  generalize (upstream config).next u i = u' at turned
  cases turned with
  | opened clocks report connection was => exact now
  | observed clocks report oven was =>
    obtain ⟨_, _, deadline, _⟩ := u.observe_spec config clocks report
    refine Nat.le_trans (Nat.le_of_eq deadline) ?_
    split
    · exact now
    · exact before
  | closed clocks report input silent => exact before
  | expired clocks due => exact before
  | stays i ws same silent => exact before

/-- The connection that was open is open still, with the deadline it had; or the oven is shown as gone. -/
structure Waits (t : Nat) (u : Upstream) : Prop where
  open' : u.ws.connection.isSome
  since : u.lastStateFrame ≤ t

/-- A turn on a connection that waits is in time, or gives it up. -/
theorem next_waits {u : Upstream} {i : UpstreamInput} (waits : u.Waits t) (stale : u.Stale config i)
    (held : u.Held config i) (prompt : u.Prompt config slack i) :
    ((upstream config).next u i).liveness.ovenOnline = false ∨
      ((upstream config).next u i).Waits t ∧ i.clocks.instant ≤ t + config.stateTimeout + slack := by
  rcases prompt waits.open' with due | inTime
  · exact .inl (next_expires due)
  · rcases held waits.open' with due | kept
    · exact .inl (next_expires due)
    · refine .inr ⟨⟨kept, ?_⟩, ?_⟩
      · rw [next_deadline stale waits.open']
        exact waits.since
      · have since := waits.since
        omega

/-- A run on a connection that waits is in time, or gives it up. -/
theorem run_waits {u : Upstream} {is : List UpstreamInput} (waits : u.Waits t)
    (stale : (upstream config).Each (Stale config) u is) (held : (upstream config).Each (Held config) u is)
    (prompt : (upstream config).Each (Prompt config slack) u is) :
    ((upstream config).run u is).liveness.ovenOnline = false ∨
      ∀ i ∈ is, i.clocks.instant ≤ t + config.stateTimeout + slack := by
  induction is generalizing u with
  | nil => exact .inr fun i item => absurd item List.not_mem_nil
  | cons i is ih =>
    rcases next_waits waits stale.1 held.1 prompt.1 with gone | ⟨waits', inTime⟩
    · exact .inl (Machine.Each.invariant (I := fun u => u.liveness.ovenOnline = false)
        (fun u i gone stale => next_gone stale gone) gone stale.2)
    · rcases ih waits' stale.2 held.2 prompt.2 with gone | later
      · exact .inl gone
      · exact .inr (List.forall_mem_cons.mpr ⟨inTime, later⟩)

end Upstream

/-- **A silent oven is told of.** Where a connection is open, nothing fresh comes from then on, it isn't lost but
to the watchdog, and the watchdog comes with at most some slack, then once a turn is later than the timeout and
that slack, the oven is shown as gone, and is so whatever connections follow. -/
theorem silent_told (config : WsConfig) (timeout started t slack : Nat) (past mid rest : List UpstreamInput)
    (open' : ((upstream config).run (.new (.new timeout started)) past).ws.connection.isSome = true)
    (before : ∀ i ∈ past, i.clocks.instant ≤ t)
    (stale : (upstream config).Each (Upstream.Stale config)
      ((upstream config).run (.new (.new timeout started)) past) (mid ++ rest))
    (held : (upstream config).Each (Upstream.Held config)
      ((upstream config).run (.new (.new timeout started)) past) mid)
    (prompt : (upstream config).Each (Upstream.Prompt config slack)
      ((upstream config).run (.new (.new timeout started)) past) mid)
    (late : ∃ i ∈ mid, t + config.stateTimeout + slack < i.clocks.instant) :
    ((upstream config).run (.new (.new timeout started)) (past ++ (mid ++ rest))).liveness.isConnected =
      false := by
  have since : ((upstream config).run (.new (.new timeout started)) past).lastStateFrame ≤ t :=
    Machine.run_keeps (I := fun u : Upstream => u.lastStateFrame ≤ t)
      (fun u i item since => Upstream.next_since since (before i item)) (Nat.zero_le t)
  obtain ⟨staleMid, staleRest⟩ := Machine.each_append.mp stale
  rw [Machine.run_append, Machine.run_append]
  have gone : ((upstream config).run ((upstream config).run (.new (.new timeout started)) past)
      mid).liveness.ovenOnline = false := by
    rcases Upstream.run_waits ⟨open', since⟩ staleMid held prompt with gone | inTime
    · exact gone
    · obtain ⟨i, item, isLate⟩ := late
      exact absurd (inTime i item) (Nat.not_le.mpr isLate)
  have stays := Machine.Each.invariant (I := fun u => u.liveness.ovenOnline = false)
    (fun u i gone stale => Upstream.next_gone stale gone) gone staleRest
  unfold Liveness.isConnected
  rw [stays, Bool.and_false]

namespace Kitchen

/-- Twenty seconds, and the one timestamp that is sent. -/
def cloudConfig : WsConfig where
  stateTimeout := 20000000000
  parseTimestamp text := if text = "2024-05-01T12:00:00Z" then some 1714564800000000000 else none

/-- The clocks, some seconds after noon. -/
def afterNoon (secs : Nat) : WsClocks where
  instant := secs * 1000000000
  timestamp := 1714564800000000000 + secs * 1000000000
  millis _ := 1714564800000 + secs * 1000

/-- An oven that is idle. -/
def idleOven : OvenState where
  nodes := ⟨false, none, ⟨⟨20, none⟩, ⟨20, none⟩, "dry"⟩, none, ⟨0, 0, "idle"⟩⟩
  state := ⟨"idle", "C", []⟩
  cook := none

/-- The frame of noon, whenever it comes. -/
def noonFrame (secs : Nat) : UpstreamInput :=
  .turn (afterNoon secs) ⟨some "2024-05-01T12:00:00Z", some ⟨some true, none⟩⟩
    (.frame (.payload (.ok (.apoState idleOven))))

/-- A connection that is made. -/
def connects (secs : Nat) : UpstreamInput := .turn (afterNoon secs) ⟨none, none⟩ .connect

end Kitchen

/-- The frame of noon comes again and again, and the oven is shown as gone. -/
theorem silent_told_noon :
    ((upstream Kitchen.cloudConfig).run (.new (.new 20 1714564800000)) ([Kitchen.connects 1, Kitchen.noonFrame 2] ++
      ([Kitchen.noonFrame 12, .watchdog (Kitchen.afterNoon 23)] ++
        [Kitchen.connects 28, Kitchen.noonFrame 29]))).liveness.isConnected = false :=
  silent_told Kitchen.cloudConfig 20 1714564800000 2000000000 0 [Kitchen.connects 1, Kitchen.noonFrame 2]
    [Kitchen.noonFrame 12, .watchdog (Kitchen.afterNoon 23)] [Kitchen.connects 28, Kitchen.noonFrame 29]
    (by decide) (by decide) (by decide) (by decide) (by decide) (by decide)

end AnovaOven
