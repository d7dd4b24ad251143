import AnovaOven.Channels
import AnovaOven.Laws.Device
import AnovaOven.Laws.Journal
import AnovaOven.Laws.Runs

/-!
# Laws of the server's channels

**Deadlock** (`Tasks.deadlocked_iff`): the state machine and a processor wait for each other exactly when
every place of the loop they send around is taken, and then for good (`Tasks.deadlocked_step`).

**Room enough** (`channels_flow`): they never come to it in a run in which two places of each loop are
free before every move. A flood of refreshes takes them all (`channels_deadlock`).
-/

namespace AnovaOven

/-! ## The loops -/

/-- Whether an effect is sent to the store. -/
def SmEffect.forStore : SmEffect → Bool
  | .store _ => true
  | _ => false

/-- Whether an effect is sent to the device. -/
def SmEffect.forDevice : SmEffect → Bool
  | .ws _ => true
  | _ => false

namespace Tasks

/-- The state machine's next effect is one to send to the store. -/
def sendsToStore (t : Tasks) : Bool := t.dispatching.head?.any SmEffect.forStore

/-- The state machine's next effect is one to send to the device. -/
def sendsToDevice (t : Tasks) : Bool := t.dispatching.head?.any SmEffect.forDevice

/-- The state machine and a processor wait for each other. -/
def Deadlocked (t : Tasks) : Prop :=
  Spoke.Deadlock t.smEvt t.toStore t.sendsToStore ∨ Spoke.Deadlock t.smEvt t.toDevice t.sendsToDevice

/-- The places taken of the loop through the store. -/
def storeLoop (t : Tasks) : Nat := Spoke.loop t.smEvt t.toStore t.sendsToStore

/-- The places taken of the loop through the device. -/
def deviceLoop (t : Tasks) : Nat := Spoke.loop t.smEvt t.toDevice t.sendsToDevice

variable {t : Tasks} {read : Bytes → Option HistoryEntry} {config : DeviceConfig} {move : Move}

/-- **Deadlock.** The state machine and a processor wait for each other exactly when all the places of
their loop are taken: 515 through the store, 419 through the device. -/
theorem deadlocked_iff : t.Deadlocked ↔ t.storeLoop = 515 ∨ t.deviceLoop = 419 :=
  or_congr Spoke.deadlock_iff Spoke.deadlock_iff

/-! ## What a move takes up -/

/-- A move takes up at most one place of each loop. -/
structure TakesOne (t t' : Tasks) : Prop where
  store : t'.storeLoop ≤ t.storeLoop + 1
  device : t'.deviceLoop ≤ t.deviceLoop + 1

theorem takesOne_refl (t : Tasks) : TakesOne t t := ⟨Nat.le_succ _, Nat.le_succ _⟩

/-- A message takes up the state machine's place in the loop its first effect is sent around. -/
theorem reduced_takesOne (t : Tasks) (env : Env) (input : Input) :
    (t.reduced env input).storeLoop ≤ t.smEvt.queue.length + t.toStore.taken + 1 ∧
      (t.reduced env input).deviceLoop ≤ t.smEvt.queue.length + t.toDevice.taken + 1 :=
  ⟨Nat.add_le_add_left (Bool.toNat_le _) _, Nat.add_le_add_left (Bool.toNat_le _) _⟩

theorem onCommand_takesOne (t : Tasks) (env : Env) (cmd : StateMachineCommand) :
    TakesOne t (t.onCommand env cmd) := by
  unfold onCommand
  split
  · obtain ⟨store, device⟩ := t.reduced_takesOne env (.command cmd)
    constructor
    · apply store.trans
      unfold storeLoop Spoke.loop
      omega
    · apply device.trans
      unfold deviceLoop Spoke.loop
      omega
  · exact takesOne_refl t

/-- An event frees the place it had. -/
theorem onEvent_takesOne (t : Tasks) (env : Env) : TakesOne t (t.onEvent env) := by
  unfold onEvent
  split
  · rename_i evt smEvt _ received
    obtain ⟨store, device⟩ := reduced_takesOne { t with smEvt := smEvt } env (.event evt)
    have shorter := congrArg List.length (Channel.queue_receive received)
    rw [List.length_cons] at shorter
    dsimp only at store device
    constructor
    · apply store.trans
      unfold storeLoop Spoke.loop
      omega
    · apply device.trans
      unfold deviceLoop Spoke.loop
      omega
  · exact takesOne_refl t

/-- An effect that is sent leaves its place to the next one's, and takes up one of the channel. -/
theorem dispatch_takesOne (t : Tasks) : TakesOne t t.dispatch := by
  unfold dispatch
  split
  · exact takesOne_refl t
  · rename_i cmd rest isNext
    split
    · rename_i toDevice accepted
      have taken := Spoke.taken_accept accepted
      have sends : t.sendsToDevice := by simp [sendsToDevice, isNext, SmEffect.forDevice]
      constructor
      · exact Nat.add_le_add_left ((Bool.toNat_le _).trans (Nat.le_add_left 1 _)) _
      · unfold deviceLoop Spoke.loop
        dsimp only
        rw [sends, taken]
        exact Nat.add_le_add_left (Bool.toNat_le _) _
    · exact takesOne_refl t
  · rename_i cmd rest isNext
    split
    · rename_i toStore accepted
      have taken := Spoke.taken_accept accepted
      have sends : t.sendsToStore := by simp [sendsToStore, isNext, SmEffect.forStore]
      constructor
      · unfold storeLoop Spoke.loop
        dsimp only
        rw [sends, taken]
        exact Nat.add_le_add_left (Bool.toNat_le _) _
      · exact Nat.add_le_add_left ((Bool.toNat_le _).trans (Nat.le_add_left 1 _)) _
    · exact takesOne_refl t
  all_goals
    constructor
    · exact Nat.add_le_add_left ((Bool.toNat_le _).trans (Nat.le_add_left 1 _)) _
    · exact Nat.add_le_add_left ((Bool.toNat_le _).trans (Nat.le_add_left 1 _)) _

/-- A move that is not the state machine's takes up a place of a loop where its channels do. -/
theorem takesOne_of_others {t' : Tasks} (kept : t'.dispatching = t.dispatching)
    (store : t'.smEvt.queue.length + t'.toStore.taken ≤ t.smEvt.queue.length + t.toStore.taken + 1)
    (device : t'.smEvt.queue.length + t'.toDevice.taken ≤
      t.smEvt.queue.length + t.toDevice.taken + 1) : TakesOne t t' := by
  have sendsToStore : t'.sendsToStore = t.sendsToStore := by
    unfold Tasks.sendsToStore
    rw [kept]
  have sendsToDevice : t'.sendsToDevice = t.sendsToDevice := by
    unfold Tasks.sendsToDevice
    rw [kept]
  constructor
  · unfold storeLoop Spoke.loop
    rw [sendsToStore]
    omega
  · unfold deviceLoop Spoke.loop
    rw [sendsToDevice]
    omega

theorem onTick_takesOne (t : Tasks) (kind : TickKind) : TakesOne t (t.onTick kind) := by
  unfold onTick
  split
  · rename_i smEvt sent
    have longer : smEvt.queue.length = t.smEvt.queue.length + 1 := by
      rw [Channel.queue_send sent, List.length_append]
      rfl
    refine takesOne_of_others rfl ?_ ?_
    · dsimp only
      omega
    · dsimp only
      omega
  · exact takesOne_refl t

theorem onStoreCommand_takesOne (read : Bytes → Option HistoryEntry) (t : Tasks) (now : Moment) :
    TakesOne t (t.onStoreCommand read now) := by
  unfold onStoreCommand
  split
  · rename_i cmd toStore taken
    refine takesOne_of_others rfl ?_ (Nat.le_succ _)
    exact (Nat.add_le_add_left (Spoke.taken_take taken _) _).trans (Nat.le_succ _)
  · exact takesOne_refl t

theorem onDeviceCommand_takesOne (config : DeviceConfig) (t : Tasks) (turn : DeviceTurn) :
    TakesOne t (t.onDeviceCommand config turn) := by
  unfold onDeviceCommand
  split
  · rename_i cmd toDevice taken
    refine takesOne_of_others rfl (Nat.le_succ _) ?_
    exact (Nat.add_le_add_left (Spoke.taken_take taken _) _).trans (Nat.le_succ _)
  · exact takesOne_refl t

/-- What the oven does takes up the device's hand. -/
theorem onOven_takesOne (config : DeviceConfig) (t : Tasks) (turn : DeviceTurn) (input : DeviceInput) :
    TakesOne t (t.onOven config turn input) := by
  unfold onOven
  split
  · refine takesOne_of_others rfl (Nat.le_succ _) ?_
    dsimp only
    unfold Spoke.taken
    dsimp only
    omega
  · exact takesOne_refl t

theorem deliverStore_takesOne (t : Tasks) : TakesOne t t.deliverStore := by
  have taken := t.toStore.taken_deliver StateMachineEvent.store t.smEvt
  have longer := t.toStore.length_deliver StateMachineEvent.store t.smEvt
  refine takesOne_of_others rfl ?_ ?_
  · unfold deliverStore
    dsimp only
    omega
  · unfold deliverStore
    dsimp only
    omega

theorem deliverDevice_takesOne (t : Tasks) : TakesOne t t.deliverDevice := by
  have taken := t.toDevice.taken_deliver StateMachineEvent.ws t.smEvt
  have longer := t.toDevice.length_deliver StateMachineEvent.ws t.smEvt
  refine takesOne_of_others rfl ?_ ?_
  · unfold deliverDevice
    dsimp only
    omega
  · unfold deliverDevice
    dsimp only
    omega

/-- **One move** takes up at most one place of each loop. -/
theorem step_takesOne (read : Bytes → Option HistoryEntry) (config : DeviceConfig) (t : Tasks)
    (move : Move) : TakesOne t (t.step read config move) := by
  cases move with
  | command env cmd => exact onCommand_takesOne t env cmd
  | event env => exact onEvent_takesOne t env
  | dispatch => exact dispatch_takesOne t
  | tick kind => exact onTick_takesOne t kind
  | store now => exact onStoreCommand_takesOne read t now
  | storeSend =>
    exact takesOne_of_others rfl (Nat.add_le_add_left t.toStore.taken_send _) (Nat.le_succ _)
  | storeForward =>
    refine takesOne_of_others rfl ?_ (Nat.le_succ _)
    exact (Nat.add_le_add_left (Nat.le_of_eq t.toStore.taken_forward) _).trans (Nat.le_succ _)
  | storeDeliver => exact deliverStore_takesOne t
  | recipes recipes => exact takesOne_of_others rfl (Nat.le_succ _) (Nat.le_succ _)
  | oven turn input => exact onOven_takesOne config t turn input
  | device turn => exact onDeviceCommand_takesOne config t turn
  | deviceSend =>
    exact takesOne_of_others rfl (Nat.le_succ _) (Nat.add_le_add_left t.toDevice.taken_send _)
  | deviceForward =>
    refine takesOne_of_others rfl (Nat.le_succ _) ?_
    exact (Nat.add_le_add_left (Nat.le_of_eq t.toDevice.taken_forward) _).trans (Nat.le_succ _)
  | deviceDeliver => exact deliverDevice_takesOne t

/-! ## For good -/

/-- A state machine that waits with an effect takes no message. -/
theorem waits_onCommand (waits : t.dispatching ≠ []) (env : Env) (cmd : StateMachineCommand) :
    t.onCommand env cmd = t := by
  unfold onCommand
  rw [if_neg (by rwa [List.isEmpty_iff])]

theorem waits_onEvent (waits : t.dispatching ≠ []) (env : Env) : t.onEvent env = t := by
  unfold onEvent
  split
  · rename_i idle _
    exact absurd idle waits
  · rfl

theorem full_onTick (full : t.smEvt.IsFull) (kind : TickKind) : t.onTick kind = t := by
  unfold onTick
  rw [Channel.send_isFull full]

theorem full_deliverStore (full : t.smEvt.IsFull) : t.deliverStore = t := by
  unfold deliverStore
  rw [Spoke.deliver_isFull _ _ full]

theorem full_deliverDevice (full : t.smEvt.IsFull) : t.deliverDevice = t := by
  unfold deliverDevice
  rw [Spoke.deliver_isFull _ _ full]

theorem Deadlocked.full (h : t.Deadlocked) : t.smEvt.IsFull := by
  rcases h with h | h
  · exact h.full
  · exact h.full

theorem Deadlocked.waits (h : t.Deadlocked) : t.dispatching ≠ [] := by
  intro idle
  rcases h with h | h
  · have sends := h.sends
    unfold sendsToStore at sends
    rw [idle] at sends
    cases sends
  · have sends := h.sends
    unfold sendsToDevice at sends
    rw [idle] at sends
    cases sends

/-- The state machine's effect is refused. -/
theorem Deadlocked.dispatch (h : t.Deadlocked) : t.dispatch = t := by
  unfold Tasks.dispatch
  split
  · rfl
  · rename_i cmd rest isNext
    rcases h with h | h
    · have sends := h.sends
      simp [sendsToStore, isNext, SmEffect.forStore] at sends
    · rw [h.stuck.accept]
  · rename_i cmd rest isNext
    rcases h with h | h
    · rw [h.stuck.accept]
    · have sends := h.sends
      simp [sendsToDevice, isNext, SmEffect.forDevice] at sends
  all_goals
    rename_i isNext
    rcases h with h | h
    · have sends := h.sends
      simp [sendsToStore, isNext, SmEffect.forStore] at sends
    · have sends := h.sends
      simp [sendsToDevice, isNext, SmEffect.forDevice] at sends

/-- **For good.** No move ends a deadlock: the tasks of its loop wait, and the other processor's moves
don't touch it. -/
theorem deadlocked_step (h : t.Deadlocked) (move : Move) :
    (t.step read config move).Deadlocked := by
  unfold step
  cases move with
  | command env cmd =>
    dsimp only
    rw [waits_onCommand h.waits]
    exact h
  | event env =>
    dsimp only
    rw [waits_onEvent h.waits]
    exact h
  | dispatch =>
    dsimp only
    rw [h.dispatch]
    exact h
  | tick kind =>
    dsimp only
    rw [full_onTick h.full]
    exact h
  | storeDeliver =>
    dsimp only
    rw [full_deliverStore h.full]
    exact h
  | deviceDeliver =>
    dsimp only
    rw [full_deliverDevice h.full]
    exact h
  | recipes recipes => exact h
  | store now =>
    dsimp only
    unfold onStoreCommand
    rcases h with h | h
    · rw [h.stuck.take]
      exact .inl h
    · split
      · exact .inr h
      · exact .inr h
  | storeSend =>
    rcases h with h | h
    · refine .inl ?_
      show Spoke.Deadlock t.smEvt t.toStore.send t.sendsToStore
      rw [h.stuck.send]
      exact h
    · exact .inr h
  | storeForward =>
    rcases h with h | h
    · refine .inl ?_
      show Spoke.Deadlock t.smEvt t.toStore.forward t.sendsToStore
      rw [h.stuck.forward]
      exact h
    · exact .inr h
  | oven turn input =>
    dsimp only
    unfold onOven
    rcases h with h | h
    · split
      · exact .inl h
      · exact .inl h
    · rw [if_neg (by simp [h.stuck.hand])]
      exact .inr h
  | device turn =>
    dsimp only
    unfold onDeviceCommand
    rcases h with h | h
    · split
      · exact .inl h
      · exact .inl h
    · rw [h.stuck.take]
      exact .inr h
  | deviceSend =>
    rcases h with h | h
    · exact .inl h
    · refine .inr ?_
      show Spoke.Deadlock t.smEvt t.toDevice.send t.sendsToDevice
      rw [h.stuck.send]
      exact h
  | deviceForward =>
    rcases h with h | h
    · exact .inl h
    · refine .inr ?_
      show Spoke.Deadlock t.smEvt t.toDevice.forward t.sendsToDevice
      rw [h.stuck.forward]
      exact h

end Tasks

/-! ## Runs -/

/-- Two places of each loop are free. -/
def RoomForTwo (t : Tasks) (_ : Move) : Prop := t.storeLoop ≤ 513 ∧ t.deviceLoop ≤ 417

instance (t : Tasks) (move : Move) : Decidable (RoomForTwo t move) :=
  inferInstanceAs (Decidable (_ ∧ _))

/-- **Room enough.** In every run in which two places of each loop are free before every move, the state
machine and a processor never wait for each other. -/
theorem channels_flow (read : Bytes → Option HistoryEntry) (config : DeviceConfig)
    (preheatToleranceC : ℚ) (store : LocalStore) (now : Nat) (moves : List Move)
    (room : (tasks read config).Each RoomForTwo (.new preheatToleranceC store now) moves) :
    ¬ ((tasks read config).run (.new preheatToleranceC store now) moves).Deadlocked := by
  rcases List.eq_nil_or_concat moves with rfl | ⟨before, move, rfl⟩
  · exact fun deadlocked => deadlocked.waits rfl
  · rw [List.concat_eq_append] at room ⊢
    obtain ⟨storeRoom, deviceRoom⟩ := (Machine.each_append.mp room).2.1
    rw [Machine.run_append, Tasks.deadlocked_iff]
    have takes := Tasks.step_takesOne read config
      ((tasks read config).run (.new preheatToleranceC store now) before) move
    rintro (all | all)
    · have most := Nat.le_trans (Nat.le_of_eq all.symm) takes.store
      omega
    · have most := Nat.le_trans (Nat.le_of_eq all.symm) takes.device
      omega

namespace Kitchen

/-- A timer's refresh of the recipes, around the store and back. -/
def refreshes : List Move :=
  [.tick .recipesRefresh, .event (Kitchen.env "tick"), .dispatch, .store (moment ""), .storeSend,
    .storeForward, .storeDeliver, .event (Kitchen.env "answer"), .dispatch]

end Kitchen

/-- A timer's refresh leaves room enough. -/
theorem channels_flow_refresh :
    ¬ ((tasks (fun _ => none) Counter.setup).run (.new 0 Kitchen.emptyStore 0)
      Kitchen.refreshes).Deadlocked :=
  channels_flow (fun _ => none) Counter.setup 0 Kitchen.emptyStore 0 Kitchen.refreshes (by decide)

/-! ## A flood -/

/-- The tasks in a flood of recipe refreshes: how many events wait for the state machine and answers of
the store for its forwarder, how many refreshes wait for the store, and whether the state machine sends
one, the store has its answer in hand and the forwarder holds one. -/
structure Flooded (events answers commands : Nat) (sends inHand held : Bool) (t : Tasks) : Prop where
  dispatching : t.dispatching = if sends then [.store .refreshRecipes] else []
  events : t.smEvt.queue.length = events
  commands : t.toStore.commands.queue = List.replicate commands .refreshRecipes
  hand : t.toStore.hand.length = inHand.toNat
  answers : t.toStore.answers.queue.length = answers
  held : t.toStore.held.isSome = held

namespace Flooded

variable {events answers commands : Nat} {sends inHand held : Bool} {t : Tasks}

/-- A client asks for a refresh. -/
theorem command (h : Flooded events answers commands false inHand held t) (env : Env) :
    Flooded events answers commands true inHand held (t.onCommand env .refreshRecipes) := by
  unfold Tasks.onCommand
  rw [if_pos (by rw [h.dispatching]; rfl)]
  exact { h with dispatching := rfl }

/-- The state machine sends it on. -/
theorem dispatch (h : Flooded events answers commands true inHand held t) (room : commands < 128) :
    Flooded events answers (commands + 1) false inHand held t.dispatch := by
  have waiting := congrArg List.length h.commands
  rw [List.length_replicate] at waiting
  obtain ⟨queued, sent, isQueue⟩ := Channel.send_room (c := t.toStore.commands)
    (by rw [waiting]; exact room) StoreCommand.refreshRecipes
  have accepted : t.toStore.accept .refreshRecipes = some { t.toStore with commands := queued } := by
    unfold Spoke.accept
    rw [sent]
    rfl
  have isNext : t.dispatching = [.store .refreshRecipes] := h.dispatching
  unfold Tasks.dispatch
  rw [isNext]
  dsimp only
  rw [accepted]
  refine { h with dispatching := rfl, commands := ?_ }
  rw [isQueue, h.commands, List.replicate_succ']

/-- The store takes one. -/
theorem store (h : Flooded events answers (commands + 1) sends false held t)
    (read : Bytes → Option HistoryEntry) (now : Moment) :
    Flooded events answers commands sends true held (t.onStoreCommand read now) := by
  obtain ⟨left, received, isLeft⟩ := Channel.receive_cons (h.commands.trans List.replicate_succ)
  have taken : t.toStore.take =
      some (.refreshRecipes, { t.toStore with commands := left, hand := [] }) := by
    unfold Spoke.take
    rw [received, List.length_eq_zero_iff.mp h.hand]
  unfold Tasks.onStoreCommand
  rw [taken]
  exact { h with commands := isLeft, hand := rfl }

/-- The store sends its answer. -/
theorem storeSend (h : Flooded events answers commands sends true held t) (room : answers < 128) :
    Flooded events (answers + 1) commands sends false held { t with toStore := t.toStore.send } := by
  obtain ⟨answer, inHand⟩ := List.length_eq_one_iff.mp h.hand
  obtain ⟨queued, sent, isQueue⟩ := Channel.send_room (c := t.toStore.answers)
    (by rw [h.answers]; exact room) answer
  have sends : t.toStore.send = { t.toStore with hand := [], answers := queued } := by
    unfold Spoke.send
    rw [inHand]
    dsimp only
    rw [sent]
  rw [sends]
  refine { h with hand := rfl, answers := ?_ }
  dsimp only
  rw [isQueue, List.length_append, h.answers]
  rfl

/-- The forwarder takes an answer. -/
theorem storeForward (h : Flooded events (answers + 1) commands sends inHand false t) :
    Flooded events answers commands sends inHand true
      { t with toStore := t.toStore.forward } := by
  obtain ⟨answer, queue, isQueue⟩ := List.exists_cons_of_length_eq_add_one h.answers
  obtain ⟨left, received, isLeft⟩ := Channel.receive_cons isQueue
  have notHeld : t.toStore.held = none := Option.not_isSome_iff_eq_none.mp (by simp [h.held])
  have forwards : t.toStore.forward =
      { t.toStore with held := some answer, answers := left } := by
    unfold Spoke.forward
    rw [notHeld, received]
  have fewer := h.answers
  rw [isQueue, List.length_cons] at fewer
  rw [forwards]
  refine { h with answers := ?_, held := rfl }
  dsimp only
  rw [isLeft]
  exact Nat.succ.inj fewer

/-- The forwarder hands it on. -/
theorem storeDeliver (h : Flooded events answers commands sends inHand true t) (room : events < 256) :
    Flooded (events + 1) answers commands sends inHand false t.deliverStore := by
  obtain ⟨answer, isHeld⟩ := Option.isSome_iff_exists.mp h.held
  obtain ⟨queued, sent, isQueue⟩ := Channel.send_room (c := t.smEvt)
    (by rw [h.events]; exact room) (StateMachineEvent.store answer)
  have delivers : t.toStore.deliver StateMachineEvent.store t.smEvt =
      ({ t.toStore with held := none }, queued) := by
    unfold Spoke.deliver
    rw [isHeld]
    dsimp only
    rw [sent]
  unfold Tasks.deliverStore
  rw [delivers]
  refine { h with events := ?_, held := rfl }
  dsimp only
  rw [isQueue, List.length_append, h.events]
  rfl

end Flooded

namespace Kitchen

/-- A client's refresh, sent on to the store. -/
def asks : List Move := [.command (Kitchen.env "refresh") .refreshRecipes, .dispatch]

/-- A refresh that the store answers. -/
def answered : List Move := asks ++ [.store (moment ""), .storeSend]

/-- A refresh whose answer waits for the state machine. -/
def arrived : List Move := answered ++ [.storeForward, .storeDeliver]

/-- A refresh whose answer the forwarder holds. -/
def forwarded : List Move := answered ++ [.storeForward]

/-- A refresh that the store has taken. -/
def taken : List Move := asks ++ [.store (moment "")]

/-- A flood of refreshes, with the state machine always taking the next one before its events: their
answers fill its channel, then the forwarder's hand and the store's channel, then the store's hand; the
refreshes fill the channel to the store, and one more waits. -/
def flood : List Move :=
  (List.replicate 256 arrived).flatten ++ forwarded ++ (List.replicate 128 answered).flatten ++
    taken ++ (List.replicate 128 asks).flatten ++
    [.command (Kitchen.env "refresh") .refreshRecipes]

end Kitchen

variable (read : Bytes → Option HistoryEntry) (config : DeviceConfig) {t : Tasks}

theorem flooded_arrived {events : Nat} (room : events < 256)
    (h : Flooded events 0 0 false false false t) :
    Flooded (events + 1) 0 0 false false false ((tasks read config).run t Kitchen.arrived) :=
  ((((((h.command _).dispatch (by decide)).store read _).storeSend (by decide)).storeForward).storeDeliver
    room)

theorem flooded_answered {events answers : Nat} {held : Bool} (room : answers < 128)
    (h : Flooded events answers 0 false false held t) :
    Flooded events (answers + 1) 0 false false held ((tasks read config).run t Kitchen.answered) :=
  (((h.command _).dispatch (by decide)).store read _).storeSend room

theorem flooded_asks {events answers commands : Nat} {inHand held : Bool} (room : commands < 128)
    (h : Flooded events answers commands false inHand held t) :
    Flooded events answers (commands + 1) false inHand held ((tasks read config).run t Kitchen.asks) :=
  (h.command _).dispatch room

theorem flooded_forwarded {events : Nat} (h : Flooded events 0 0 false false false t) :
    Flooded events 0 0 false false true ((tasks read config).run t Kitchen.forwarded) :=
  ((((h.command _).dispatch (by decide)).store read _).storeSend (by decide)).storeForward

theorem flooded_taken {events answers : Nat} {held : Bool}
    (h : Flooded events answers 0 false false held t) :
    Flooded events answers 0 false true held ((tasks read config).run t Kitchen.taken) :=
  ((h.command _).dispatch (by decide)).store read _

theorem flooded_sends {events answers commands : Nat} {inHand held : Bool}
    (h : Flooded events answers commands false inHand held t) (env : Env) :
    Flooded events answers commands true inHand held
      ((tasks read config).run t [.command env .refreshRecipes]) :=
  h.command env

/-- The flood takes every place of the loop through the store. -/
theorem flood_fills (h : Flooded 0 0 0 false false false t) :
    Flooded 256 128 128 true true true ((tasks read config).run t Kitchen.flood) := by
  have full := Machine.run_repeat (m := tasks read config) (n := 256)
    (I := fun k t => Flooded k 0 0 false false false t)
    (fun _ room _ h => flooded_arrived read config room h) h
  have answers := Machine.run_repeat (m := tasks read config) (n := 128)
    (I := fun k t => Flooded 256 k 0 false false true t)
    (fun _ room _ h => flooded_answered read config room h) (flooded_forwarded read config full)
  have waiting := Machine.run_repeat (m := tasks read config) (n := 128)
    (I := fun k t => Flooded 256 128 k false true true t)
    (fun _ room _ h => flooded_asks read config room h) (flooded_taken read config answers)
  unfold Kitchen.flood
  simp only [Machine.run_append]
  exact flooded_sends read config waiting (Kitchen.env "refresh")

/-- The state machine and the store come to wait for each other. -/
theorem channels_deadlock :
    ¬ ∀ (read : Bytes → Option HistoryEntry) (config : DeviceConfig) (preheatToleranceC : ℚ)
      (store : LocalStore) (now : Nat) (moves : List Move),
      ¬ ((tasks read config).run (.new preheatToleranceC store now) moves).Deadlocked := by
  intro always
  refine always (fun _ => none) Counter.setup 0 Kitchen.emptyStore 0 Kitchen.flood (.inl ?_)
  have start : Flooded 0 0 0 false false false (.new 0 Kitchen.emptyStore 0) :=
    ⟨rfl, rfl, rfl, rfl, rfl, rfl⟩
  have filled := flood_fills (fun _ => none) Counter.setup start
  refine ⟨?_, ⟨?_, ?_, filled.answers, filled.held⟩, filled.events⟩
  · unfold Tasks.sendsToStore
    rw [filled.dispatching]
    rfl
  · exact (congrArg List.length filled.commands).trans List.length_replicate
  · intro noHand
    have inHand := filled.hand
    rw [noHand] at inHand
    cases inHand

end AnovaOven
