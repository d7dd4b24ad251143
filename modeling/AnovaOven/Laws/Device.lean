import AnovaOven.Processors.Device
import Mathlib.Data.List.Nodup

/-!
# The device processor acknowledges every command once

A command comes off the channel, and from then on it is pending or has had its one ack. Acks come
from four arms of the loop that share the pending list, and each of them balances: what was pending
and what was taken is what is pending after it and what it acks (`step_balanced`).

**Accounted once** (`commands_accounted`): under distinct request ids, at every moment of a run each
command taken is pending and unacked, or gone and acked once. An `ok` ack comes after the event of the
state that lists its id, and a `timeout` ack no sooner than its command's deadline.
-/

namespace AnovaOven

variable {config : DeviceConfig} {turn : DeviceTurn} {d : DeviceState}

/-! ## What is taken, what is pending, what is acked -/

/-- The request id of the command a turn takes from the channel. -/
def DeviceInput.taken : DeviceInput → List String
  | .command cmd => [cmd.requestId]
  | _ => []

/-- The request ids of the commands a run's turns take. -/
def takenIds (turns : List (DeviceTurn × DeviceInput)) : List String :=
  turns.flatMap fun i => i.2.taken

/-- The request ids of the pending commands. -/
def DeviceState.pendingIds (d : DeviceState) : List String := d.pending.map fun p => p.id

/-- The request id an effect acknowledges, whatever the status. -/
def DeviceEffect.acks : DeviceEffect → Option String
  | .event (.commandAck requestId _) => some requestId
  | _ => none

/-- A turn's result balances what was pending and what it took. -/
def Balanced (d : DeviceState) (taken : List String) (result : DeviceState × List DeviceEffect) :
    Prop :=
  (d.pendingIds ++ taken).Perm (result.1.pendingIds ++ result.2.filterMap DeviceEffect.acks)

/-- A result that leaves the pending commands and acks none balances. -/
theorem balanced_of_unchanged {result : DeviceState × List DeviceEffect}
    (same : result.1.pending = d.pending)
    (silent : result.2.filterMap DeviceEffect.acks = []) : Balanced d [] result := by
  rw [Balanced, silent, DeviceState.pendingIds, DeviceState.pendingIds, same]

/-- Acks of one status, one for each of some pending commands, acknowledge these. -/
theorem acks_sendAck (ps : List PendingAck) (status : String) :
    (ps.map fun p => DeviceState.sendAck p.id status).filterMap DeviceEffect.acks =
      ps.map fun p => p.id := by
  rw [List.filterMap_map]
  exact congrFun List.filterMap_eq_map ps

/-- The pending commands that a test takes and those it leaves are those there were. -/
theorem partition_balances (ps : List PendingAck) (test : PendingAck → Bool) :
    (ps.map fun p => p.id).Perm
      (((ps.partition test).2.map fun p => p.id) ++ (ps.partition test).1.map fun p => p.id) := by
  rw [List.partition_eq_filter_filter, ← List.map_append]
  apply List.Perm.map
  exact (List.filter_append_perm test ps).symm.trans List.perm_append_comm

/-! ## Each arm balances -/

theorem openSession_balanced (deviceId : String) :
    Balanced d [] (d.openSession turn deviceId) := by
  apply balanced_of_unchanged
  · unfold DeviceState.openSession
    cases d.current <;> cases turn.sent <;> rfl
  · unfold DeviceState.openSession
    cases d.current <;> cases turn.sent <;> rfl

theorem endSession_balanced : Balanced d [] d.endSession := balanced_of_unchanged rfl rfl

theorem observe_balanced (oven : OvenState) : Balanced d [] (d.observe turn oven) := by
  show (d.pendingIds ++ []).Perm (_ ++ (_ :: _).filterMap _)
  rw [List.append_nil, List.filterMap_cons_none rfl, acks_sendAck]
  exact partition_balances d.pending _

/-- An arm that ends the session on top of another's result balances where the other does. -/
theorem Balanced.ended {taken : List String} {d' : DeviceState} {effects : List DeviceEffect}
    (h : Balanced d taken (d', effects)) :
    Balanced d taken (d'.endSession.1, effects ++ d'.endSession.2) := by
  have silent : (effects ++ d'.endSession.2).filterMap DeviceEffect.acks =
      effects.filterMap DeviceEffect.acks := by
    rw [List.filterMap_append]
    exact List.append_nil _
  rw [Balanced, silent]
  exact h

theorem handleMessage_balanced (frame : DeviceFrame) :
    Balanced d [] (d.handleMessage config turn frame).1 := by
  cases frame with
  | ping | pong | close | binary => exact balanced_of_unchanged rfl rfl
  | text message =>
    rcases message with detail | event
    · exact balanced_of_unchanged rfl rfl
    · cases event with
      | state oven => exact observe_balanced oven
      | other action =>
        simp only [DeviceState.handleMessage]
        split_ifs
        · cases config.timeZone <;> exact balanced_of_unchanged rfl rfl
        · exact balanced_of_unchanged rfl rfl

theorem receive_balanced (frame : DeviceFrame) : Balanced d [] (d.receive config turn frame) := by
  have handled : Balanced d [] (d.handleMessage config turn frame).1 := handleMessage_balanced frame
  unfold DeviceState.receive
  cases keep : (d.handleMessage config turn frame).2 with
  | true => simpa only [keep, if_true] using handled
  | false => simpa only [keep, Bool.false_eq_true, if_false] using handled.ended

theorem expire_balanced : Balanced d [] (d.expire turn) := by
  show (d.pendingIds ++ []).Perm (_ ++ (List.map _ _).filterMap _)
  rw [List.append_nil, acks_sendAck]
  exact partition_balances d.pending _

theorem command_balanced (cmd : WsCommand) :
    Balanced d [cmd.requestId] (d.command config turn cmd) := by
  unfold DeviceState.command
  dsimp only
  split_ifs
  · exact List.Perm.refl _
  · show (d.pendingIds ++ [cmd.requestId]).Perm (List.map _ (d.pending ++ [_]) ++ [])
    rw [List.append_nil, List.map_append]
    exact List.Perm.refl _
  · exact List.Perm.refl _

/-- **Balance.** What a turn finds pending and takes, it leaves pending or acks, each as often. -/
theorem step_balanced (d : DeviceState) (i : DeviceTurn × DeviceInput) :
    Balanced d i.2.taken ((device config).step d i) := by
  obtain ⟨turn, input⟩ := i
  show Balanced d input.taken (d.step config turn input)
  cases input with
  | session deviceId => exact openSession_balanced deviceId
  | message frame =>
    simp only [DeviceState.step]
    split_ifs
    · exact receive_balanced frame
    · exact balanced_of_unchanged rfl rfl
  | lost =>
    simp only [DeviceState.step]
    split_ifs
    · exact endSession_balanced
    · exact balanced_of_unchanged rfl rfl
  | healthcheck =>
    simp only [DeviceState.step]
    split_ifs <;> exact balanced_of_unchanged rfl rfl
  | stateTimeout =>
    simp only [DeviceState.step]
    split_ifs
    · exact endSession_balanced
    · exact balanced_of_unchanged rfl rfl
  | deadline => exact expire_balanced
  | command cmd => exact command_balanced cmd

/-- Over a run, the commands taken are those pending and those acked, each as often. -/
theorem run_balanced (start : Nat) (turns : List (DeviceTurn × DeviceInput)) :
    (takenIds turns).Perm
      (((device config).run (.new start) turns).pendingIds ++
        ((device config).trace (.new start) turns).filterMap DeviceEffect.acks) :=
  (device config).run_conserves DeviceState.pendingIds (fun i => i.2.taken) DeviceEffect.acks
    step_balanced (.new start) turns

/-! ## When acks come -/

/-- Why a turn acks: a state lists the pending command, its deadline has come, no oven is connected,
or the send failed. -/
inductive AckCause (d : DeviceState) (turn : DeviceTurn) : DeviceInput → String → String → Prop where
  | listed (oven : OvenState) (p : PendingAck) (pending : p ∈ d.pending)
      (handled : p.id ∈ oven.state.processedCommandIds) :
      AckCause d turn (.message (.text (.ok (.state oven)))) p.id "ok"
  | expired (p : PendingAck) (pending : p ∈ d.pending) (due : p.deadline ≤ turn.now) :
      AckCause d turn .deadline p.id "timeout"
  | refused (cmd : WsCommand) (closed : d.current = none) :
      AckCause d turn (.command cmd) cmd.requestId "disconnected"
  | unsent (cmd : WsCommand) (failed : turn.sent = false) :
      AckCause d turn (.command cmd) cmd.requestId "send failed"

theorem mem_map_sendAck {ps : List PendingAck} {id status sent : String}
    (h : DeviceState.sendAck id status ∈ ps.map fun p => DeviceState.sendAck p.id sent) :
    ∃ p ∈ ps, p.id = id ∧ sent = status := by
  obtain ⟨p, mem, same⟩ := List.mem_map.mp h
  injection same with same
  injection same with ids statuses
  exact ⟨p, mem, ids, statuses⟩

/-- What a test takes of a list was in it and passes. -/
theorem mem_partition {α : Type*} {xs : List α} {test : α → Bool} {x : α}
    (h : x ∈ (xs.partition test).1) : x ∈ xs ∧ test x = true := by
  rw [List.partition_eq_filter_filter] at h
  exact List.mem_filter.mp h

theorem mem_partition_rest {α : Type*} {xs : List α} {test : α → Bool} {x : α}
    (h : x ∈ (xs.partition test).2) : x ∈ xs := by
  rw [List.partition_eq_filter_filter] at h
  exact List.mem_of_mem_filter h

/-- A frame leaves no command pending that wasn't. -/
theorem receive_pending {frame : DeviceFrame} {p : PendingAck}
    (h : p ∈ (d.receive config turn frame).1.pending) : p ∈ d.pending := by
  have handled : p ∈ (d.handleMessage config turn frame).1.1.pending := by
    unfold DeviceState.receive at h
    cases keep : (d.handleMessage config turn frame).2 with
    | true => simpa only [keep, if_true] using h
    | false =>
      simp only [keep, Bool.false_eq_true, if_false] at h
      exact h
  cases frame with
  | ping | pong | close | binary => exact handled
  | text message =>
    rcases message with detail | event
    · exact handled
    · cases event with
      | state oven => exact mem_partition_rest handled
      | other action =>
        simp only [DeviceState.handleMessage] at handled
        split_ifs at handled
        · cases zone : config.timeZone <;> simpa only [zone] using handled
        · exact handled

/-- A frame that isn't a state acks nothing. -/
theorem receive_silent {frame : DeviceFrame}
    (other : ∀ oven, frame ≠ .text (.ok (.state oven))) (id status : String) :
    DeviceState.sendAck id status ∉ (d.receive config turn frame).2 := by
  have handled : ∀ e ∈ (d.handleMessage config turn frame).1.2, e ≠ DeviceState.sendAck id status := by
    cases frame with
    | ping | pong | close | binary => exact fun e mem => absurd mem List.not_mem_nil
    | text message =>
      rcases message with detail | event
      · rintro e mem rfl
        simp [DeviceState.handleMessage, DeviceState.sendAck] at mem
      · cases event with
        | state oven => exact absurd rfl (other oven)
        | other action =>
          rintro e mem rfl
          simp only [DeviceState.handleMessage] at mem
          split_ifs at mem
          · cases zone : config.timeZone <;>
              simp [zone, DeviceState.sendAck, DeviceState.sendCommand] at mem
          · exact absurd mem List.not_mem_nil
  intro mem
  unfold DeviceState.receive at mem
  cases keep : (d.handleMessage config turn frame).2 with
  | true => exact handled _ (by simpa only [keep, if_true] using mem) rfl
  | false =>
    simp only [keep, Bool.false_eq_true, if_false] at mem
    rcases List.mem_append.mp mem with mem | mem
    · exact handled _ mem rfl
    · simp [DeviceState.endSession, DeviceState.sendAck] at mem

/-- Every ack has its cause. -/
theorem step_ack {input : DeviceInput} {id status : String}
    (h : DeviceState.sendAck id status ∈ (d.step config turn input).2) :
    AckCause d turn input id status := by
  cases input with
  | session deviceId =>
    simp only [DeviceState.step, DeviceState.openSession, DeviceState.endSession] at h
    split_ifs at h <;> simp [DeviceState.sendAck, DeviceState.sendCommand] at h
  | message frame =>
    simp only [DeviceState.step] at h
    split_ifs at h
    · by_cases state : ∃ oven, frame = .text (.ok (.state oven))
      · obtain ⟨oven, rfl⟩ := state
        rcases List.mem_cons.mp h with event | acked
        · simp [DeviceState.sendAck] at event
        · obtain ⟨p, mem, rfl, rfl⟩ := mem_map_sendAck acked
          obtain ⟨pending, handled⟩ := mem_partition mem
          exact .listed oven p pending (List.contains_iff_mem.mp handled)
      · exact absurd h (receive_silent (fun oven same => state ⟨oven, same⟩) id status)
    · exact absurd h List.not_mem_nil
  | lost =>
    simp only [DeviceState.step, DeviceState.endSession] at h
    split_ifs at h <;> simp [DeviceState.sendAck] at h
  | healthcheck =>
    simp only [DeviceState.step, DeviceState.endSession] at h
    split_ifs at h <;> simp [DeviceState.sendAck, DeviceState.sendCommand] at h
  | stateTimeout =>
    simp only [DeviceState.step, DeviceState.endSession] at h
    split_ifs at h <;> simp [DeviceState.sendAck] at h
  | deadline =>
    obtain ⟨p, mem, rfl, rfl⟩ := mem_map_sendAck h
    obtain ⟨pending, due⟩ := mem_partition mem
    exact .expired p pending (of_decide_eq_true due)
  | command cmd =>
    simp only [DeviceState.step, DeviceState.command, DeviceState.endSession] at h
    split_ifs at h with closed sent
    · injection List.mem_singleton.mp h with same
      injection same with ids statuses
      subst ids statuses
      exact .refused cmd (Option.isNone_iff_eq_none.mp closed)
    · simp [DeviceState.sendAck] at h
    · simp only [DeviceState.sendAck, List.cons_append, List.nil_append, List.mem_cons, reduceCtorEq,
        DeviceEffect.event.injEq, WsEvent.commandAck.injEq, List.not_mem_nil, or_false,
        false_or] at h
      obtain ⟨rfl, rfl⟩ := h
      exact .unsent cmd (Bool.eq_false_iff.mpr sent)

/-- A command pending after a turn was pending before it or is the one the turn took, due an ack
timeout later. -/
theorem step_pending {input : DeviceInput} {p : PendingAck}
    (h : p ∈ (d.step config turn input).1.pending) :
    p ∈ d.pending ∨ ∃ cmd, input = .command cmd ∧ cmd.requestId = p.id ∧
      p.deadline = turn.now + config.ackTimeout := by
  cases input with
  | session deviceId =>
    simp only [DeviceState.step, DeviceState.openSession, DeviceState.endSession] at h
    split_ifs at h <;> exact .inl h
  | message frame =>
    simp only [DeviceState.step] at h
    split_ifs at h
    · exact .inl (receive_pending h)
    · exact .inl h
  | lost | healthcheck | stateTimeout =>
    simp only [DeviceState.step, DeviceState.endSession] at h
    split_ifs at h <;> exact .inl h
  | deadline => exact .inl (mem_partition_rest h)
  | command cmd =>
    simp only [DeviceState.step, DeviceState.command, DeviceState.endSession] at h
    split_ifs at h
    · exact .inl h
    · rcases List.mem_append.mp h with kept | taken
      · exact .inl kept
      · obtain rfl := List.mem_singleton.mp taken
        exact .inr ⟨cmd, rfl, rfl, rfl⟩
    · exact .inl h

/-- Every pending command was taken at an earlier turn, and is due an ack timeout after it. -/
def Dated (config : DeviceConfig) (d : DeviceState) (past : List (DeviceTurn × DeviceInput)) : Prop :=
  ∀ p ∈ d.pending, ∃ turn cmd, (turn, DeviceInput.command cmd) ∈ past ∧ cmd.requestId = p.id ∧
    p.deadline = turn.now + config.ackTimeout

theorem run_dated (start : Nat) (turns : List (DeviceTurn × DeviceInput)) :
    Dated config ((device config).run (.new start) turns) turns := by
  apply Machine.run_past (I := Dated config)
  · intro p pending
    exact absurd pending List.not_mem_nil
  · rintro d past ⟨turn, input⟩ dated p pending
    rcases step_pending pending with pending | ⟨cmd, rfl, ids, due⟩
    · obtain ⟨turn, cmd, mem, rest⟩ := dated p pending
      exact ⟨turn, cmd, List.mem_append_left _ mem, rest⟩
    · exact ⟨turn, cmd, List.mem_append_right _ (List.mem_singleton_self _), ids, due⟩

/-! ## Accounted once -/

/-- How often a request id is pending. -/
def DeviceState.pendingCount (d : DeviceState) (id : String) : Nat := d.pendingIds.count id

/-- How often effects acknowledge a request id. -/
def ackCount (said : List DeviceEffect) (id : String) : Nat :=
  (said.filterMap DeviceEffect.acks).count id

/-- The command taken under an id is pending and has had no ack, or has had one and isn't pending. -/
def Accounted (d : DeviceState) (said : List DeviceEffect) (id : String) : Prop :=
  (d.pendingCount id = 1 ∧ ackCount said id = 0) ∨ (d.pendingCount id = 0 ∧ ackCount said id = 1)

/-- A turn after a run's first ones acks when it may: with `ok` after the event of a state that lists
the id, with `timeout` once the deadline of the command taken under the id has come. -/
structure AcksInTime (config : DeviceConfig) (past : List (DeviceTurn × DeviceInput))
    (i : DeviceTurn × DeviceInput) (said : List DeviceEffect) : Prop where
  ok : ∀ id before after, said = before ++ DeviceState.sendAck id "ok" :: after →
    ∃ oven, i.2 = .message (.text (.ok (.state oven))) ∧ id ∈ oven.state.processedCommandIds ∧
      .event (.apoState (toOvenStatus oven) (toOvenCook oven)) ∈ before
  timeout : ∀ id, DeviceState.sendAck id "timeout" ∈ said →
    ∃ turn cmd, (turn, DeviceInput.command cmd) ∈ past ∧ cmd.requestId = id ∧
      turn.now + config.ackTimeout ≤ i.1.now

/-- An ack of a state's turn follows the state's event. -/
theorem observed_first {oven : OvenState} {id status : String} {before after : List DeviceEffect}
    (h : (d.step config turn (.message (.text (.ok (.state oven))))).2 =
      before ++ DeviceState.sendAck id status :: after) :
    .event (.apoState (toOvenStatus oven) (toOvenCook oven)) ∈ before := by
  simp only [DeviceState.step] at h
  split_ifs at h
  · replace h : DeviceEffect.event (.apoState (toOvenStatus oven) (toOvenCook oven)) :: _ = _ := h
    cases before with
    | nil =>
      injection h with first
      injection first with first
      cases first
    | cons e before =>
      injection h with first
      rw [first]
      exact List.mem_cons_self
  · exact absurd h.symm (List.append_ne_nil_of_right_ne_nil _ (List.cons_ne_nil _ _))

/-- The acks of a turn after a run come in time. -/
theorem acks_in_time (start : Nat) (past : List (DeviceTurn × DeviceInput))
    (i : DeviceTurn × DeviceInput) :
    AcksInTime config past i
      ((device config).effects ((device config).run (.new start) past) i) := by
  obtain ⟨turn, input⟩ := i
  constructor
  · intro id before after said
    have acked : DeviceState.sendAck id "ok" ∈ before ++ DeviceState.sendAck id "ok" :: after :=
      List.mem_append_right _ List.mem_cons_self
    rw [← said] at acked
    generalize status : "ok" = sent at acked
    cases step_ack acked with
    | listed oven p pending handled => exact ⟨oven, rfl, handled, observed_first said⟩
    | expired | refused | unsent => exact absurd status (by decide)
  · intro id acked
    generalize status : "timeout" = sent at acked
    cases step_ack acked with
    | listed | refused | unsent => exact absurd status (by decide)
    | expired p pending due =>
      obtain ⟨taken, cmd, mem, ids, deadline⟩ := run_dated start past p pending
      exact ⟨taken, cmd, mem, ids, deadline ▸ due⟩

/-- **Accounted once.** Under distinct request ids, at every moment of a run each command taken so far
is pending and unacked, or gone and acked once; and every turn's acks come in time. -/
theorem commands_accounted (config : DeviceConfig) (start : Nat)
    (turns : List (DeviceTurn × DeviceInput)) (unique : (takenIds turns).Nodup) :
    (∀ past, past <+: turns → ∀ id ∈ takenIds past,
      Accounted ((device config).run (.new start) past) ((device config).trace (.new start) past)
        id) ∧
    ∀ past i rest, turns = past ++ i :: rest → AcksInTime config past i
      ((device config).effects ((device config).run (.new start) past) i) := by
  constructor
  · rintro past ⟨rest, rfl⟩ id taken
    have distinct : (takenIds past).Nodup := by
      rw [takenIds, List.flatMap_append] at unique
      exact unique.of_append_left
    have balance := (@run_balanced config start past).count_eq id
    rw [List.count_eq_one_of_mem distinct taken, List.count_append] at balance
    unfold Accounted DeviceState.pendingCount ackCount
    omega
  · intro past i rest _
    exact acks_in_time start past i

namespace Counter

def setup : DeviceConfig := ⟨1200000, none, 15000⟩

def atTime (now : Nat) : DeviceTurn := ⟨now, true, "own", fun _ => "stage"⟩

/-- A stop is sent, the connection is lost, and a second stop is refused before the first expires. -/
def lostTurns : List (DeviceTurn × DeviceInput) :=
  [(atTime 0, .session "oven"), (atTime 1, .command (.sendStop "first")), (atTime 2, .lost),
    (atTime 3, .command (.sendStop "second")), (atTime 15001, .deadline)]

end Counter

theorem commands_accounted_lost :
    ((device Counter.setup).trace (.new 0) Counter.lostTurns).filterMap DeviceEffect.acks =
        ["second", "first"] ∧
      Accounted ((device Counter.setup).run (.new 0) Counter.lostTurns)
        ((device Counter.setup).trace (.new 0) Counter.lostTurns) "first" := by
  have accounted := (commands_accounted Counter.setup 0 Counter.lostTurns (by decide)).1
    Counter.lostTurns (List.prefix_refl _)
  exact ⟨by decide, accounted "first" (by decide)⟩

end AnovaOven
