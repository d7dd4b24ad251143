import Mathlib.Data.List.Basic

/-!
# Bounded channels, and the processors behind them

A channel holds no more than its capacity: who sends to a full one waits. A spoke is a processor that a
hub commands over a channel. It answers over another one, and a forwarder carries its answers on to the
hub, one at a time.

**A spoke is stuck** (`stuck_iff`) exactly when all its places are taken: both channels are full, the
processor has an answer in hand and the forwarder holds one. Where the hub sends to it then, and its own
channel is full, **they wait for each other** (`deadlock_iff`).
-/

universe u v

/-- A queue within its capacity, oldest first. -/
structure Channel (α : Type u) (capacity : Nat) where
  queue : List α
  bounded : queue.length ≤ capacity

namespace Channel

variable {α : Type u} {capacity : Nat}

def empty : Channel α capacity := ⟨[], Nat.zero_le capacity⟩

/-- Whoever sends to it waits. -/
def IsFull (c : Channel α capacity) : Prop := c.queue.length = capacity

instance (c : Channel α capacity) : Decidable c.IsFull :=
  inferInstanceAs (Decidable (_ = _))

/-- A message handed over: none where the sender waits. -/
def send (c : Channel α capacity) (x : α) : Option (Channel α capacity) :=
  if room : c.queue.length < capacity then
    some ⟨c.queue ++ [x], by rw [List.length_append]; exact room⟩
  else none

/-- The oldest message taken: none where there is none. -/
def receive : Channel α capacity → Option (α × Channel α capacity)
  | ⟨[], _⟩ => none
  | ⟨x :: queue, bounded⟩ => some (x, ⟨queue, Nat.le_of_succ_le bounded⟩)

/-- A message handed over by a sender that won't wait: it is lost where there is no room. -/
def trySend (c : Channel α capacity) (x : α) : Channel α capacity := (c.send x).getD c

variable {c c' : Channel α capacity} {x : α}

theorem isFull_iff : c.IsFull ↔ capacity ≤ c.queue.length :=
  ⟨fun full => Nat.le_of_eq full.symm, fun full => Nat.le_antisymm c.bounded full⟩

theorem send_isFull (full : c.IsFull) (x : α) : c.send x = none :=
  dif_neg (by rw [full]; exact Nat.lt_irrefl capacity)

theorem send_room (room : c.queue.length < capacity) (x : α) :
    ∃ c', c.send x = some c' ∧ c'.queue = c.queue ++ [x] :=
  ⟨_, dif_pos room, rfl⟩

theorem queue_send (h : c.send x = some c') : c'.queue = c.queue ++ [x] := by
  unfold send at h
  split at h
  · obtain rfl := Option.some.inj h
    rfl
  · cases h

theorem queue_trySend (c : Channel α capacity) (x : α) :
    (c.trySend x).queue = c.queue ++ [x] ∨ (c.trySend x).queue = c.queue := by
  unfold trySend
  cases h : c.send x with
  | none => exact .inr rfl
  | some c' => exact .inl (queue_send h)

theorem queue_receive (h : c.receive = some (x, c')) : c.queue = x :: c'.queue := by
  obtain ⟨queue, bounded⟩ := c
  cases queue with
  | nil => cases h
  | cons y queue =>
    obtain ⟨rfl, rfl⟩ := Prod.mk.inj (Option.some.inj h)
    rfl

theorem receive_cons {queue : List α} (h : c.queue = x :: queue) :
    ∃ c', c.receive = some (x, c') ∧ c'.queue = queue := by
  obtain ⟨_, bounded⟩ := c
  subst h
  exact ⟨_, rfl, rfl⟩

end Channel

/-- A processor behind its channels: the commands it hasn't taken, the answers to the one it has taken
that it hasn't sent, the answers it has sent, and the one the forwarder holds. -/
structure Spoke (μ : Type u) (ν : Type v) (commandCapacity answerCapacity : Nat) where
  commands : Channel μ commandCapacity
  hand : List ν
  answers : Channel ν answerCapacity
  held : Option ν

namespace Spoke

variable {μ : Type u} {ν : Type v} {m n : Nat}

def empty : Spoke μ ν m n := ⟨.empty, [], .empty, none⟩

/-- A command handed over by the hub: none where the hub waits. -/
def accept (k : Spoke μ ν m n) (command : μ) : Option (Spoke μ ν m n) :=
  (k.commands.send command).map fun commands => { k with commands := commands }

/-- The processor's next command: none while it has answers in hand, and where there is no command. -/
def take (k : Spoke μ ν m n) : Option (μ × Spoke μ ν m n) :=
  match k.hand, k.commands.receive with
  | [], some (command, commands) => some (command, { k with commands := commands })
  | _, _ => none

/-- The processor sends the next answer it has in hand, where its channel has room. -/
def send (k : Spoke μ ν m n) : Spoke μ ν m n :=
  match k.hand with
  | [] => k
  | answer :: hand => match k.answers.send answer with
    | some answers => { k with hand := hand, answers := answers }
    | none => k

/-- The forwarder takes the next answer, where it holds none. -/
def forward (k : Spoke μ ν m n) : Spoke μ ν m n :=
  match k.held, k.answers.receive with
  | none, some (answer, answers) => { k with held := some answer, answers := answers }
  | _, _ => k

/-- The forwarder hands the answer it holds to the hub, where the hub's channel has room. -/
def deliver {α : Type*} {capacity : Nat} (wrap : ν → α) (k : Spoke μ ν m n)
    (hub : Channel α capacity) : Spoke μ ν m n × Channel α capacity :=
  match k.held with
  | none => (k, hub)
  | some answer => match hub.send (wrap answer) with
    | some hub => ({ k with held := none }, hub)
    | none => (k, hub)

/-- Nothing in it moves, unless the hub takes what the forwarder holds. -/
structure Stuck (k : Spoke μ ν m n) : Prop where
  commands : k.commands.IsFull
  hand : k.hand ≠ []
  answers : k.answers.IsFull
  held : k.held.isSome

/-- The places that are taken: those of the channels, the processor's hand and the forwarder's. -/
def taken (k : Spoke μ ν m n) : Nat :=
  k.commands.queue.length + min 1 k.hand.length + k.answers.queue.length + k.held.toList.length

variable {k k' : Spoke μ ν m n} {command : μ} {α : Type*} {capacity : Nat} {wrap : ν → α}
variable {hub : Channel α capacity}

/-- **A spoke is stuck** exactly when all its places are taken. -/
theorem stuck_iff : k.Stuck ↔ k.taken = m + n + 2 := by
  obtain ⟨⟨commands, commandsBounded⟩, hand, ⟨answers, answersBounded⟩, held⟩ := k
  constructor
  · rintro ⟨full, hand, full', held⟩
    have inHand := List.length_pos_iff.mpr hand
    obtain ⟨answer, rfl⟩ := Option.isSome_iff_exists.mp held
    unfold Channel.IsFull at full full'
    dsimp only at full full' inHand
    simp only [taken, full, full', Option.toList_some, List.length_singleton]
    omega
  · intro all
    have heldBounded : held.toList.length ≤ 1 := by
      cases held <;> simp
    simp only [taken] at all
    refine ⟨Channel.isFull_iff.mpr ?_, ?_, Channel.isFull_iff.mpr ?_, ?_⟩
    · dsimp only
      omega
    · rintro rfl
      rw [List.length_nil] at all
      omega
    · dsimp only
      omega
    · cases held with
      | none =>
        rw [Option.toList_none, List.length_nil] at all
        omega
      | some answer => rfl

theorem taken_le (k : Spoke μ ν m n) : k.taken ≤ m + n + 2 := by
  have commands := k.commands.bounded
  have answers := k.answers.bounded
  have held : k.held.toList.length ≤ 1 := by
    cases k.held <;> simp
  unfold taken
  omega

/-! ## What a move takes up -/

theorem taken_accept (h : k.accept command = some k') : k'.taken = k.taken + 1 := by
  obtain ⟨commands, sent, rfl⟩ := Option.map_eq_some_iff.mp h
  simp only [taken, Channel.queue_send sent, List.length_append, List.length_singleton]
  omega

/-- A processor that takes a command takes up no place, however many its answers. -/
theorem taken_take (h : k.take = some (command, k')) (hand : List ν) :
    ({ k' with hand := hand } : Spoke μ ν m n).taken ≤ k.taken := by
  unfold take at h
  split at h
  · rename_i command' commands noHand received
    obtain ⟨rfl, rfl⟩ := Prod.mk.inj (Option.some.inj h)
    simp only [taken, Channel.queue_receive received, noHand, List.length_cons, List.length_nil]
    omega
  · cases h

theorem taken_send (k : Spoke μ ν m n) : k.send.taken ≤ k.taken + 1 := by
  unfold send
  split
  · exact Nat.le_succ k.taken
  · rename_i answer hand inHand
    split
    · rename_i answers sent
      simp only [taken, Channel.queue_send sent, inHand, List.length_append, List.length_cons,
        List.length_nil]
      omega
    · exact Nat.le_succ k.taken

theorem taken_forward (k : Spoke μ ν m n) : k.forward.taken = k.taken := by
  unfold forward
  split
  · rename_i answer answers notHeld received
    simp only [taken, Channel.queue_receive received, notHeld, Option.toList_some,
      Option.toList_none, List.length_cons, List.length_nil]
    omega
  · rfl

/-- What a forwarder hands over takes up at the hub the place it leaves. -/
theorem taken_deliver (wrap : ν → α) (k : Spoke μ ν m n) (hub : Channel α capacity) :
    (k.deliver wrap hub).1.taken + (k.deliver wrap hub).2.queue.length =
      k.taken + hub.queue.length := by
  unfold deliver
  split
  · rfl
  · rename_i answer isHeld
    split
    · rename_i hub' sent
      simp only [taken, Channel.queue_send sent, isHeld, Option.toList_some, Option.toList_none,
        List.length_append, List.length_singleton, List.length_nil]
      omega
    · rfl

/-- A forwarder hands over one answer at most. -/
theorem length_deliver (wrap : ν → α) (k : Spoke μ ν m n) (hub : Channel α capacity) :
    (k.deliver wrap hub).2.queue.length ≤ hub.queue.length + 1 := by
  unfold deliver
  split
  · exact Nat.le_succ _
  · split
    · rename_i hub' sent
      rw [Channel.queue_send sent, List.length_append]
      exact Nat.le_refl _
    · exact Nat.le_succ _

/-! ## What a stuck spoke does -/

theorem Stuck.accept (h : k.Stuck) (command : μ) : k.accept command = none := by
  unfold Spoke.accept
  rw [Channel.send_isFull h.commands]
  rfl

theorem Stuck.take (h : k.Stuck) : k.take = none := by
  unfold Spoke.take
  split
  · rename_i noHand _
    exact absurd noHand h.hand
  · rfl

theorem Stuck.send (h : k.Stuck) : k.send = k := by
  unfold Spoke.send
  split
  · rfl
  · rw [Channel.send_isFull h.answers]

theorem Stuck.forward (h : k.Stuck) : k.forward = k := by
  unfold Spoke.forward
  split
  · rename_i notHeld _
    have held := h.held
    rw [notHeld] at held
    cases held
  · rfl

theorem deliver_isFull (wrap : ν → α) (k : Spoke μ ν m n) (full : hub.IsFull) :
    k.deliver wrap hub = (k, hub) := by
  unfold deliver
  split
  · rfl
  · rw [Channel.send_isFull full]

/-! ## Around the hub -/

/-- The hub and a spoke wait for each other: the hub sends to the spoke, which is stuck, and whose
forwarder finds the hub's own channel full. -/
structure Deadlock (hub : Channel α capacity) (k : Spoke μ ν m n) (sends : Bool) : Prop where
  sends : sends = true
  stuck : k.Stuck
  full : hub.IsFull

/-- The places taken of the loop around the hub and a spoke: the hub's own is taken while it sends to the
spoke. -/
def loop (hub : Channel α capacity) (k : Spoke μ ν m n) (sends : Bool) : Nat :=
  hub.queue.length + k.taken + sends.toNat

variable {sends : Bool}

/-- **Deadlock.** The hub and a spoke wait for each other exactly when every place of their loop is
taken. -/
theorem deadlock_iff : Deadlock hub k sends ↔ loop hub k sends = capacity + (m + n + 2) + 1 := by
  have answers := hub.bounded
  have taken := k.taken_le
  have own := sends.toNat_le
  unfold loop
  constructor
  · rintro ⟨rfl, stuck, full⟩
    rw [stuck_iff.mp stuck, full]
    rfl
  · intro all
    refine ⟨?_, stuck_iff.mpr (by omega), Channel.isFull_iff.mpr (by omega)⟩
    exact Bool.toNat_eq_one.mp (by omega)

end Spoke
