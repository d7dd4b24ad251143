import AnovaOven.Cloud
import AnovaOven.Laws.Runs
import AnovaOven.Laws.Told
import Mathlib.Data.List.Nodup

/-!
# What becomes of a start or a stop in cloud mode

A command waits in its channel across reconnects, and a new connection is not told its cooker at
once. A start or a stop taken in between is only logged, and one whose send fails ends the connection;
neither is answered, though the user has had a success reply.

**None dropped, exactly when** (`none_dropped_exactly`): a run drops no start and no stop exactly when each
is taken by a connection that knows its cooker and takes the text, under distinct request ids and a
cloud that answers only what it was sent. That the condition is enough needs neither.

**The processor's cooker is the state machine's** (`heard_connection`): what the state machine makes of
the events on their way is the connection there is. So where the state machine knows a cooker and no
end of a connection is on its way to it, what is taken is deliverable (`deliverable_where_heard`).
-/

namespace AnovaOven

variable {s : CloudServer} {t : CloudTurn} {preheatToleranceC : ℚ}

/-! ## A command taken -/

/-- Whether a command starts or stops a cook. -/
def WsCommand.cooks : WsCommand → Bool
  | sendStart _ _ _ _ | sendStop _ => true
  | control _ _ => false

/-- A turn writes a command to its socket, for the cooker its connection knows. -/
def Written (s : CloudServer) (t : CloudTurn) (cmd : WsCommand) : Prop :=
  ∃ connection cooker stageId json, s.far.connection = some connection ∧
    connection.cookerId = some cooker ∧ cmd.cloudJson stageId cooker = some json ∧
    .far (.written json) ∈ cloudMachine.effects s t

/-- A failing ack of a request id is among what was said. -/
def FailureTold (said : List CloudEffect) (requestId : String) : Prop :=
  ∃ status, ackOk status = false ∧ .far (.event (.commandAck requestId status)) ∈ said

/-- Every start and stop a run takes is written for a known cooker, or its failure is told, then or
later. -/
def NoneDropped (preheatToleranceC : ℚ) (turns : List CloudTurn) : Prop :=
  ∀ past t rest, turns = past ++ t :: rest →
    let s := cloudMachine.run (cloudInit preheatToleranceC) past
    ∀ cmd, .took cmd ∈ cloudMachine.effects s t → cmd.cooks = true →
      Written s t cmd ∨ FailureTold (cloudMachine.trace s (t :: rest)) cmd.requestId

/-- A turn that takes a start or a stop does so with its connection's cooker known, and the socket
takes the text. -/
def Deliverable (s : CloudServer) : CloudTurn → Prop
  | .take turn => ∀ connection cmd, s.far.connection = some connection →
    s.commands.head? = some cmd → cmd.cooks = true →
      connection.cookerId.isSome = true ∧ turn.sent = true
  | _ => True

/-- A start or a stop has a text for every cooker. -/
theorem cloudJson_isSome {cmd : WsCommand} (cooks : cmd.cooks = true) (stageId : Nat → String)
    (cooker : String) : ∃ json, cmd.cloudJson stageId cooker = some json := by
  cases cmd with
  | sendStop requestId => exact ⟨_, rfl⟩
  | sendStart requestId cookId recipeId stages => exact ⟨_, rfl⟩
  | control requestId ctl => exact absurd cooks Bool.false_ne_true

/-- A turn that takes a command: it is the channel's oldest, and the connection is open. -/
theorem cloud_took {cmd : WsCommand} (h : .took cmd ∈ cloudMachine.effects s t) :
    ∃ turn connection rest, t = .take turn ∧ s.far.connection = some connection ∧
      s.commands = cmd :: rest ∧ cloudMachine.effects s t =
        .took cmd :: (WsState.command turn connection cmd).2.map .far := by
  obtain ⟨turn, rest, rfl, waiting, ready, effects⟩ := Duplex.took_spec h
  obtain ⟨connection, isOpen⟩ := Option.isSome_iff_exists.mp ready
  have step : WsState.step s.far (.command turn cmd) = WsState.command turn connection cmd := by
    simp only [WsState.step, isOpen]
  refine ⟨turn, connection, rest, rfl, isOpen, waiting, effects.trans ?_⟩
  rw [← step]
  rfl

/-- A start or a stop taken with its cooker known is written where the socket takes it. -/
theorem command_written {turn : WsTurn} {connection : WsConnection} {cooker : String}
    {cmd : WsCommand} {json : Json} (known : connection.cookerId = some cooker)
    (text : cmd.cloudJson turn.stageId cooker = some json) (sent : turn.sent = true) :
    WsState.command turn connection cmd = (⟨some connection⟩, [.written json]) := by
  simp only [WsState.command, known, Option.bind_some, text, sent, if_true]

/-- **Enough.** A run all of whose starts and stops are deliverable when they are taken drops none. -/
theorem none_dropped (turns : List CloudTurn)
    (deliverable : cloudMachine.Each Deliverable (cloudInit preheatToleranceC) turns) :
    NoneDropped preheatToleranceC turns := by
  rintro past t rest split s cmd taken cooks
  obtain ⟨turn, connection, rest', rfl, isOpen, waiting, effects⟩ := cloud_took taken
  obtain ⟨known, sent⟩ := Machine.each_iff.mp deliverable past _ rest split connection cmd isOpen
    (by rw [waiting, List.head?_cons]) cooks
  obtain ⟨cooker, known⟩ := Option.isSome_iff_exists.mp known
  obtain ⟨json, text⟩ := cloudJson_isSome cooks turn.stageId cooker
  refine .inl ⟨connection, cooker, turn.stageId, json, isOpen, known, text, ?_⟩
  rw [effects, command_written known text sent]
  exact List.mem_cons_of_mem _ List.mem_cons_self

/-! ## What an undeliverable command leaves -/

/-- The request id a text carries. -/
def textId (json : Json) : Option String := (json.get "requestId").bind Json.asStr

/-- The request id of what an effect writes. -/
def writtenId (e : CloudEffect) : Option String :=
  e.toFar.bind fun effect => match effect with
    | .written json => textId json
    | .event _ => none

/-- The request id of the command an effect takes. -/
def tookId (e : CloudEffect) : Option String := e.toTook.map WsCommand.requestId

/-- The cloud answers what it was sent: each of its responses carries the request id of a text
written before. -/
def CloudAnswers (preheatToleranceC : ℚ) (turns : List CloudTurn) : Prop :=
  ∀ past requestId status rest,
    turns = past ++ .far (.frame (.payload (.ok (.response requestId status)))) :: rest →
      requestId ∈ (cloudMachine.trace (cloudInit preheatToleranceC) past).filterMap writtenId

/-- A text carries its command's request id. -/
theorem cloudJson_textId {cmd : WsCommand} {stageId : Nat → String} {cooker : String}
    {json : Json} (text : cmd.cloudJson stageId cooker = some json) :
    textId json = some cmd.requestId := by
  cases cmd with
  | sendStop requestId | sendStart requestId cookId recipeId stages =>
    injection text with text
    rw [← text]
    rfl
  | control requestId ctl => cases text

/-- What the processor does on taking a command writes at most that command. -/
theorem command_writes (turn : WsTurn) (connection : WsConnection) (cmd : WsCommand) :
    (((WsState.command turn connection cmd).2.map DuplexEffect.far).filterMap writtenId).Sublist
      [cmd.requestId] := by
  cases text : connection.cookerId.bind fun id => cmd.cloudJson turn.stageId id with
  | none =>
    simp only [WsState.command, text]
    exact List.nil_sublist _
  | some json =>
    obtain ⟨cooker, _, ofCooker⟩ := Option.bind_eq_some_iff.mp text
    have carried := cloudJson_textId ofCooker
    cases sent : turn.sent with
    | true =>
      simp only [WsState.command, text, sent, if_true]
      have once : [DuplexEffect.far (WsEffect.written json)].filterMap writtenId =
          [cmd.requestId] := List.filterMap_cons_some carried
      exact once ▸ List.Sublist.refl _
    | false =>
      simp only [WsState.command, text, sent, Bool.false_eq_true, if_false]
      exact List.nil_sublist _

/-- Only a command writes to the socket. -/
theorem own_writes_none {far : WsState} {i : WsInput} {json : Json} (own : i.isCommand = false) :
    WsEffect.written json ∉ ws.effects far i := by
  show WsEffect.written json ∉ (WsState.step far i).2
  obtain ⟨connection⟩ := far
  cases i with
  | command turn cmd => cases own
  | connect | connectFailed | ended =>
    cases connection <;> simp [WsState.step, WsState.disconnect]
  | frame frame =>
    cases connection with
    | none => simp [WsState.step]
    | some connection =>
      cases frame with
      | ping | pong | close => simp [WsState.step, WsState.receive]
      | payload message =>
        rcases message with detail | event
        · simp [WsState.step, WsState.receive]
        · cases event with
          | apoWifiList cookerId =>
            cases cookerId <;> simp [WsState.step, WsState.receive, WsState.handleEvent]
          | apoState | userState | response | unknown =>
            simp [WsState.step, WsState.receive, WsState.handleEvent]

/-- Only a response of the cloud's acks. -/
theorem ws_acks {far : WsState} {i : WsInput} {requestId status : String}
    (h : WsEffect.event (.commandAck requestId status) ∈ ws.effects far i) :
    i = .frame (.payload (.ok (.response requestId status))) := by
  replace h : WsEffect.event (.commandAck requestId status) ∈ (WsState.step far i).2 := h
  obtain ⟨connection⟩ := far
  cases connection with
  | none => cases i <;> simp [WsState.step, WsState.disconnect] at h
  | some connection =>
    cases i with
    | connect | connectFailed | ended => simp [WsState.step, WsState.disconnect] at h
    | command turn cmd =>
      simp only [WsState.step, WsState.command] at h
      cases text : connection.cookerId.bind fun id => cmd.cloudJson turn.stageId id with
      | none => simp [text] at h
      | some json => cases sent : turn.sent <;> simp [text, sent, WsState.disconnect] at h
    | frame frame =>
      cases frame with
      | ping | pong | close => simp [WsState.step, WsState.receive] at h
      | payload message =>
        rcases message with detail | event
        · simp [WsState.step, WsState.receive] at h
        · cases event with
          | apoWifiList cookerId =>
            cases cookerId <;> simp [WsState.step, WsState.receive, WsState.handleEvent] at h
          | apoState | userState | unknown =>
            simp [WsState.step, WsState.receive, WsState.handleEvent] at h
          | response =>
            simp only [WsState.step, WsState.receive, WsState.handleEvent, List.mem_singleton] at h
            injection h with same
            injection same with ids statuses
            rw [ids, statuses]

theorem took_of {connection : WsConnection} {cmd : WsCommand}
    (isOpen : s.far.connection = some connection) (waiting : s.commands.head? = some cmd)
    (turn : WsTurn) : .took cmd ∈ cloudMachine.effects s (.take turn) := by
  obtain ⟨rest, waiting⟩ := List.head?_eq_some_iff.mp waiting
  have ready : cloudWiring.ready s.far = true := by
    show s.far.connection.isSome = true
    rw [isOpen, Option.isSome_some]
  exact Duplex.take_effects waiting ready turn ▸ List.mem_cons_self

/-- **At most what it takes.** A turn writes no more than the commands it takes. -/
theorem step_writes (s : CloudServer) (t : CloudTurn) :
    ((cloudMachine.effects s t).filterMap writtenId).Sublist
      ((cloudMachine.effects s t).filterMap tookId) := by
  by_cases taken : ∃ cmd, .took cmd ∈ cloudMachine.effects s t
  · obtain ⟨cmd, taken⟩ := taken
    obtain ⟨turn, connection, rest, rfl, _, _, effects⟩ := cloud_took taken
    rw [effects, List.filterMap_cons_none rfl,
      List.filterMap_cons_some (f := tookId) (b := cmd.requestId) rfl]
    exact (command_writes turn connection cmd).trans
      (List.Sublist.cons_cons _ (List.nil_sublist _))
  · have silent : (cloudMachine.effects s t).filterMap writtenId = [] := by
      apply List.filterMap_eq_nil_iff.mpr
      intro e mem
      cases e with
      | near | took | heard => rfl
      | far d =>
        cases d with
        | event => rfl
        | written json =>
          rcases Duplex.far_spec mem with ⟨i, rfl, own, mem⟩ | ⟨turn, cmd, rfl, took, _⟩
          · exact absurd mem (own_writes_none (Bool.not_eq_true' _ ▸ own))
          · exact absurd ⟨cmd, took⟩ taken
    exact silent ▸ List.nil_sublist _

theorem trace_writes (s : CloudServer) (turns : List CloudTurn) :
    ((cloudMachine.trace s turns).filterMap writtenId).Sublist
      ((cloudMachine.trace s turns).filterMap tookId) := by
  induction turns generalizing s with
  | nil => exact List.Sublist.refl _
  | cons t turns ih =>
    rw [Machine.trace_cons, List.filterMap_append, List.filterMap_append]
    exact (step_writes s t).append (ih _)

/-- An ack is the processor's word of a response from the cloud. -/
theorem acked_by_cloud {requestId status : String}
    (h : .far (.event (.commandAck requestId status)) ∈ cloudMachine.effects s t) :
    t = .far (.frame (.payload (.ok (.response requestId status)))) := by
  rcases Duplex.far_spec h with ⟨i, rfl, own, mem⟩ | ⟨turn, cmd, rfl, took, mem⟩
  · rw [ws_acks mem]
  · cases ws_acks mem

/-- An undeliverable command that is taken is not written. -/
theorem command_silent {turn : WsTurn} {connection : WsConnection} {cmd : WsCommand}
    (undeliverable : ¬ (connection.cookerId.isSome = true ∧ turn.sent = true)) (json : Json) :
    WsEffect.written json ∉ (WsState.command turn connection cmd).2 := by
  cases text : connection.cookerId.bind fun id => cmd.cloudJson turn.stageId id with
  | none => simp [WsState.command, text]
  | some other =>
    obtain ⟨cooker, known, _⟩ := Option.bind_eq_some_iff.mp text
    have unsent : turn.sent = false := by
      rw [known] at undeliverable
      exact Bool.eq_false_iff.mpr fun sent => undeliverable ⟨rfl, sent⟩
    simp [WsState.command, text, unsent, WsState.disconnect]

theorem unwritten_of {turn : WsTurn} {connection : WsConnection} {cmd : WsCommand}
    (isOpen : s.far.connection = some connection)
    (taken : .took cmd ∈ cloudMachine.effects s (.take turn))
    (undeliverable : ¬ (connection.cookerId.isSome = true ∧ turn.sent = true)) (json : Json) :
    .far (.written json) ∉ cloudMachine.effects s (.take turn) := by
  obtain ⟨turn', connection', _, same, isOpen', _, effects⟩ := cloud_took taken
  injection same with same
  obtain rfl : connection' = connection := Option.some.inj (isOpen'.symm.trans isOpen)
  subst same
  rw [effects]
  intro mem
  rcases List.mem_cons.mp mem with mem | mem
  · cases mem
  · obtain ⟨d, mem, same⟩ := List.mem_map.mp mem
    injection same with same
    exact command_silent undeliverable json (same ▸ mem)

/-- What was written before and after a command is taken that isn't written carries other ids. -/
theorem unwritten_id {s : CloudServer} {t : CloudTurn} {cmd : WsCommand} {mid rest : List CloudTurn}
    {said : List CloudEffect} (took : .took cmd ∈ cloudMachine.effects s t)
    (silent : ∀ json, .far (.written json) ∉ cloudMachine.effects s t)
    (distinct : ((said ++ cloudMachine.trace s (t :: mid ++ rest)).filterMap tookId).Nodup)
    (before : (said.filterMap writtenId).Sublist (said.filterMap tookId)) :
    cmd.requestId ∉ (said ++ cloudMachine.trace s (t :: mid)).filterMap writtenId := by
  obtain ⟨turn, connection, _, rfl, _, _, effects⟩ := cloud_took took
  have unwritten : (cloudMachine.effects s (.take turn)).filterMap writtenId = [] := by
    apply List.filterMap_eq_nil_iff.mpr
    intro e mem
    cases e with
    | near | took | heard => rfl
    | far d =>
      cases d with
      | event => rfl
      | written json => exact absurd mem (silent json)
  have first : cmd.requestId ∈ (cloudMachine.effects s (.take turn)).filterMap tookId :=
    List.mem_filterMap.mpr ⟨_, took, rfl⟩
  rw [List.cons_append, Machine.trace_cons, Machine.trace_append, List.filterMap_append,
    List.filterMap_append, List.filterMap_append, List.nodup_append'] at distinct
  obtain ⟨_, later, apart⟩ := distinct
  rw [List.nodup_append'] at later
  rw [Machine.trace_cons, List.filterMap_append, List.filterMap_append, unwritten, List.nil_append]
  intro mem
  rcases List.mem_append.mp mem with mem | mem
  · exact apart (before.subset mem) (List.mem_append_left _ first)
  · exact later.2.2 first (List.mem_append_left _ ((trace_writes _ mid).subset mem))

/-- **Not without.** Under distinct request ids, and a cloud that answers what it was sent, a run that
drops none has each start and stop deliverable when it is taken. -/
theorem deliverable_of_none_dropped (turns : List CloudTurn)
    (distinct : ((cloudMachine.trace (cloudInit preheatToleranceC) turns).filterMap tookId).Nodup)
    (answers : CloudAnswers preheatToleranceC turns) (none : NoneDropped preheatToleranceC turns) :
    cloudMachine.Each Deliverable (cloudInit preheatToleranceC) turns := by
  apply Machine.each_iff.mpr
  intro past t rest split
  cases t with
  | near | far | hear => trivial
  | take turn =>
    intro connection cmd isOpen waiting cooks
    by_contra undeliverable
    generalize state : cloudMachine.run (cloudInit preheatToleranceC) past = s at isOpen waiting
    have taken : .took cmd ∈ cloudMachine.effects s (.take turn) := took_of isOpen waiting turn
    have silent : ∀ json, .far (.written json) ∉ cloudMachine.effects s (.take turn) :=
      unwritten_of isOpen taken undeliverable
    rcases none past _ rest split cmd (state.symm ▸ taken) cooks with written | ⟨status, _, told⟩
    · obtain ⟨_, _, _, json, _, _, _, mem⟩ := written
      exact silent json (state ▸ mem)
    · obtain ⟨mid, t, last, later, mem⟩ := Machine.mem_trace told
      obtain rfl := acked_by_cloud mem
      cases mid with
      | nil => cases later
      | cons t mid =>
        injection later with same later
        subst same later
        have answered := answers (past ++ .take turn :: mid) _ status last (by simpa using split)
        rw [split, Machine.trace_append, state] at distinct
        rw [Machine.trace_append, state] at answered
        exact unwritten_id taken silent distinct (trace_writes _ past) answered

/-- **None dropped, exactly when.** A run whose starts and stops are deliverable when they are taken
drops none of them; and, under distinct request ids and a cloud that answers what it was sent, no
other run does. -/
theorem none_dropped_exactly (preheatToleranceC : ℚ) (turns : List CloudTurn) :
    (cloudMachine.Each Deliverable (cloudInit preheatToleranceC) turns →
      NoneDropped preheatToleranceC turns) ∧
    (((cloudMachine.trace (cloudInit preheatToleranceC) turns).filterMap tookId).Nodup →
      CloudAnswers preheatToleranceC turns → NoneDropped preheatToleranceC turns →
        cloudMachine.Each Deliverable (cloudInit preheatToleranceC) turns) :=
  ⟨none_dropped turns, deliverable_of_none_dropped turns⟩

namespace Kitchen

def taking : WsTurn := ⟨true, fun index => toString index⟩

/-- A connection is made and told its cooker, and the state machine hears of both. -/
def discovery : List CloudTurn :=
  [.far .connect, .far (.frame (.payload (.ok (.apoWifiList (some "cooker"))))), .hear (env ""),
    .hear (env "")]

/-- A cook is started, and the start is delivered. -/
def delivered : List CloudTurn := discovery ++ [.near (starts "start"), .take taking]

/-- The cook is stopped, and the connection is lost and made again. -/
def reconnected : List CloudTurn :=
  delivered ++ [.near (env "stop", .command .stopCook), .far .ended, .far .connect]

end Kitchen

theorem none_dropped_delivered : NoneDropped 0 Kitchen.delivered := by
  refine (none_dropped_exactly 0 Kitchen.delivered).1
    ⟨trivial, trivial, trivial, trivial, trivial, ?_, trivial⟩
  rintro connection cmd isOpen - -
  obtain rfl : WsConnection.mk (some "cooker") = connection := Option.some.inj isOpen
  exact ⟨rfl, rfl⟩

/-- A stop taken by a connection that isn't told its cooker yet is lost, whatever comes after, as long
as the cloud doesn't answer a request it never got. -/
theorem stop_lost (rest : List CloudTurn)
    (unanswered : ∀ status, .far (.frame (.payload (.ok (.response "stop" status)))) ∉ rest) :
    ¬ NoneDropped 0 (Kitchen.reconnected ++ .take Kitchen.taking :: rest) := by
  intro noneDropped
  rcases noneDropped Kitchen.reconnected (.take Kitchen.taking) rest rfl (.sendStop "stop")
    List.mem_cons_self rfl with written | ⟨status, _, told⟩
  · obtain ⟨connection, cooker, _, _, isOpen, known, _⟩ := written
    obtain rfl : WsConnection.mk none = connection := Option.some.inj isOpen
    cases known
  · obtain ⟨past, t, later, split, mem⟩ := Machine.mem_trace told
    obtain rfl := acked_by_cloud mem
    cases past with
    | nil => cases split
    | cons t past =>
      injection split with _ split
      exact unanswered status (split ▸ List.mem_append_right _ List.mem_cons_self)

theorem stop_dropped : ¬ NoneDropped 0 (Kitchen.reconnected ++ [.take Kitchen.taking]) :=
  stop_lost [] fun _ => List.not_mem_nil

/-! ## The connection the state machine has heard of -/

/-- The connectivity an open connection is to the state machine. -/
def WsState.connectivity (far : WsState) : Connectivity :=
  (far.connection.map fun connection => Connectivity.connected connection.cookerId).getD
    .disconnected

/-- What hearing an event makes of the connectivity. -/
def Connectivity.hearing (c : Connectivity) : WsEvent → Connectivity
  | .connected => c.onConnected
  | .disconnected => .disconnected
  | .cookerDiscovered id => .connected (some id)
  | _ => c

/-- A step's connectivity: an event of the oven's side is heard, and nothing else changes it. -/
theorem next_connectivity (s : SmState) (env : Env) (event : WsEvent) :
    (stateMachine.next s (env, .event (.ws event))).connectivity =
      s.connectivity.hearing event := by
  apply (congrArg Standing.connectivity (next_standing s _)).trans
  cases event <;> rfl

theorem next_connectivity_own (s : SmState) {i : Env × Input} (own : i.2.fromWs = false) :
    (stateMachine.next s i).connectivity = s.connectivity := by
  apply (congrArg Standing.connectivity (next_standing s i)).trans
  obtain ⟨env, input⟩ := i
  rcases input with cmd | (event | event | kind)
  · rfl
  · cases own
  · rfl
  · rfl

/-- What the processor tells of a turn is what the turn makes of its connection. -/
theorem ws_tells (far : WsState) (i : WsInput) :
    ((ws.effects far i).filterMap WsEffect.wsEvent).foldl Connectivity.hearing far.connectivity =
      (ws.next far i).connectivity := by
  show (((WsState.step far i).2).filterMap WsEffect.wsEvent).foldl _ _ =
    (WsState.step far i).1.connectivity
  obtain ⟨_ | connection⟩ := far
  · cases i <;> rfl
  · cases i with
    | connect | connectFailed | ended => rfl
    | command turn cmd =>
      simp only [WsState.step, WsState.command]
      cases connection.cookerId.bind fun id => cmd.cloudJson turn.stageId id with
      | none => rfl
      | some json => cases sent : turn.sent <;> rfl
    | frame frame =>
      cases frame with
      | ping | pong | close => rfl
      | payload message =>
        rcases message with detail | event
        · rfl
        · cases event with
          | apoWifiList cookerId => cases cookerId <;> rfl
          | apoState | userState | response | unknown => rfl

/-- The state machine's connectivity once it has heard what is on its way. -/
def CloudServer.heard (s : CloudServer) : Connectivity :=
  s.events.foldl Connectivity.hearing s.near.connectivity

theorem step_heard (s : CloudServer) (t : CloudTurn) (agree : s.heard = s.far.connectivity) :
    CloudServer.heard (cloudMachine.next s t) = (cloudMachine.next s t).far.connectivity := by
  have spec := Duplex.step_spec cloudWiring stateMachine ws s t
  show CloudServer.heard ((Duplex.machine cloudWiring stateMachine ws).step s t).1 =
    ((Duplex.machine cloudWiring stateMachine ws).step s t).1.far.connectivity
  generalize (Duplex.machine cloudWiring stateMachine ws).step s t = result at spec ⊢
  cases spec with
  | near i own =>
    show s.events.foldl _ (stateMachine.next s.near i).connectivity = s.far.connectivity
    rw [next_connectivity_own s.near (Bool.not_eq_true' _ ▸ own)]
    exact agree
  | far i own =>
    show (s.events ++ _).foldl _ s.near.connectivity = (ws.next s.far i).connectivity
    rw [List.foldl_append, ← ws_tells, ← agree]
    rfl
  | took turn cmd rest waiting ready =>
    show (s.events ++ _).foldl _ s.near.connectivity =
      (ws.next s.far (.command turn cmd)).connectivity
    rw [List.foldl_append, ← ws_tells, ← agree]
    rfl
  | heard env event rest waiting =>
    show rest.foldl _ (stateMachine.next s.near (env, .event (.ws event))).connectivity =
      s.far.connectivity
    rw [next_connectivity, ← agree, CloudServer.heard, waiting]
    rfl
  | idle => exact agree

/-- **The processor's cooker is the state machine's.** What the state machine makes of the events on
their way is the connection there is. -/
theorem heard_connection (turns : List CloudTurn) :
    CloudServer.heard (cloudMachine.run (cloudInit preheatToleranceC) turns) =
      (cloudMachine.run (cloudInit preheatToleranceC) turns).far.connectivity :=
  cloudMachine.run_keeps (I := fun s => CloudServer.heard s = s.far.connectivity)
    (fun s t _ => step_heard s t) rfl

/-- Events other than the connection's end leave a known cooker known. -/
theorem hearing_known {events : List WsEvent} {c : Connectivity} (known : c.cookerId.isSome = true)
    (kept : .disconnected ∉ events) :
    (events.foldl Connectivity.hearing c).cookerId.isSome = true := by
  induction events generalizing c with
  | nil => exact known
  | cons event events ih =>
    refine ih ?_ fun mem => kept (List.mem_cons_of_mem _ mem)
    cases event with
    | disconnected => exact absurd List.mem_cons_self kept
    | connected =>
      cases c with
      | disconnected => cases known
      | connected cookerId => exact known
    | cookerDiscovered id => rfl
    | apoState | commandAck | parseError => exact known

/-- **Where the state machine knows a cooker**, and no end of a connection is on its way to it, the
open connection knows its cooker: what is taken then is deliverable, if the socket takes it. -/
theorem deliverable_where_heard (turns : List CloudTurn)
    (known : (cloudMachine.run (cloudInit preheatToleranceC) turns).near.connectivity.cookerId.isSome
      = true)
    (kept : .disconnected ∉ (cloudMachine.run (cloudInit preheatToleranceC) turns).events)
    (turn : WsTurn) (sent : turn.sent = true) :
    Deliverable (cloudMachine.run (cloudInit preheatToleranceC) turns) (.take turn) := by
  have heard := hearing_known known kept
  rw [← CloudServer.heard, heard_connection] at heard
  intro connection cmd isOpen _ _
  rw [WsState.connectivity, isOpen] at heard
  obtain ⟨_ | cooker⟩ := connection
  · cases heard
  · exact ⟨rfl, sent⟩

end AnovaOven
