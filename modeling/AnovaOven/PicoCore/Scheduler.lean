import AnovaOven.Lib.Machine
import AnovaOven.Lib.Unordered

/-!
# The pico's event queue (`anova-oven-pico-core/src/scheduler.rs`)

The bounded queue of what the API task is to do next: one entry a kind, each with the tick it is due
at. The vector it is kept in has room for `eventQueueCapacity` entries, which the queue carries with
it.
-/

namespace AnovaOven

/-- `Duration::from_secs`, in ticks. -/
def ticksOfSecs (secs : Nat) : Nat := secs * 1000000

/-- `Duration::from_millis`, in ticks. -/
def ticksOfMillis (millis : Nat) : Nat := millis * 1000

/-- `EVENT_QUEUE_CAPACITY`. -/
def eventQueueCapacity : Nat := 16

/-- `EventKind`. -/
inductive EventKind where
  | pollStatus
  | pollCurrentCook
  | pollRecipes
  | apiStart
  | apiStop
  | apiNextStage
  deriving Repr, DecidableEq

/-- `EventKind::priority`: a command goes before a poll due at the same tick. -/
def EventKind.priority : EventKind → UInt8
  | apiStart | apiStop | apiNextStage => 0
  | _ => 1

/-- `ScheduledEvent`. Instants are ticks since boot. -/
structure ScheduledEvent where
  kind : EventKind
  executionTime : Nat
  priority : UInt8
  deriving Repr, DecidableEq

/-- `EnqueueMode`. -/
inductive EnqueueMode where
  | preferEarlier
  | replace
  deriving Repr, DecidableEq

/-- The time an entry of a kind already queued is due at, once the kind is enqueued again. -/
def EnqueueMode.retime : EnqueueMode → Nat → Nat → Nat
  | preferEarlier, existing, executionTime => min existing executionTime
  | replace, _, executionTime => executionTime

/-- An entry of a kind that is enqueued again. -/
def ScheduledEvent.retimed (event : ScheduledEvent) (mode : EnqueueMode) (executionTime : Nat) :
    ScheduledEvent :=
  { event with executionTime := mode.retime event.executionTime executionTime }

/-- `QueueOverflow`. -/
structure QueueOverflow where
  deriving Repr, DecidableEq

/-- The order `soonest_index` scans by: the time, then the priority. -/
def ScheduledEvent.before (a b : ScheduledEvent) : Bool :=
  a.executionTime < b.executionTime || (a.executionTime = b.executionTime && a.priority < b.priority)

/-- `EventQueue`: a `heapless` vector of entries. -/
structure EventQueue where
  events : List ScheduledEvent
  fits : events.length ≤ eventQueueCapacity
  deriving Repr

namespace EventQueue

/-- `EventQueue::new`. -/
def new : EventQueue := ⟨[], Nat.zero_le _⟩

/-- The entry at an index, retimed. -/
def retimeAt (q : EventQueue) (i : Nat) (mode : EnqueueMode) (executionTime : Nat) :
    EventQueue where
  events := q.events.modify i fun event => event.retimed mode executionTime
  fits := by
    rw [List.length_modify]
    exact q.fits

/-- `heapless::Vec::push`, on a vector with room. -/
def push (q : EventQueue) (event : ScheduledEvent) (room : q.events.length < eventQueueCapacity) :
    EventQueue where
  events := q.events ++ [event]
  fits := by
    rw [List.length_append]
    exact room

/-- `EventQueue::enqueue`. -/
def enqueue (q : EventQueue) (kind : EventKind) (executionTime : Nat) (mode : EnqueueMode) :
    Except QueueOverflow Unit × EventQueue :=
  match q.events.findIdx? fun event => event.kind = kind with
  | some i => (.ok (), q.retimeAt i mode executionTime)
  | none =>
    if room : q.events.length < eventQueueCapacity then
      (.ok (), q.push ⟨kind, executionTime, kind.priority⟩ room)
    else (.error ⟨⟩, q)

/-- The soonest entry with its index, as `soonest_index` finds it. -/
def soonest (q : EventQueue) : Option (ScheduledEvent × Nat) :=
  Unordered.least (fun a b => a.1.before b.1) q.events.zipIdx

/-- `EventQueue::next_due_at`. -/
def nextDueAt (q : EventQueue) : Option Nat := q.soonest.map fun found => found.1.executionTime

/-- `EventQueue::has_pending`. -/
def hasPending (q : EventQueue) (kind : EventKind) : Bool :=
  q.events.any fun event => event.kind = kind

/-- `heapless::Vec::swap_remove`. -/
def swapRemove (q : EventQueue) (i : Nat) : EventQueue where
  events := Unordered.swapRemove q.events i
  fits := by
    rw [Unordered.length_swapRemove]
    exact Nat.le_trans (Nat.sub_le _ 1) q.fits

/-- `EventQueue::pop_due`. -/
def popDue (q : EventQueue) (now : Nat) : Option ScheduledEvent × EventQueue :=
  match q.soonest with
  | none => (none, q)
  | some (event, i) =>
    if event.executionTime > now then (none, q) else (some event, q.swapRemove i)

end EventQueue

/-! ## The queue as a machine -/

/-- What is asked of the queue. -/
inductive QueueOp where
  | enqueue (kind : EventKind) (executionTime : Nat) (mode : EnqueueMode)
  | popDue (now : Nat)

/-- What the queue answers. -/
inductive QueueAnswer where
  | enqueued (result : Except QueueOverflow Unit)
  | popped (event : Option ScheduledEvent)

/-- One operation. -/
def EventQueue.operate (q : EventQueue) : QueueOp → EventQueue × List QueueAnswer
  | .enqueue kind executionTime mode =>
    let (result, q) := q.enqueue kind executionTime mode
    (q, [.enqueued result])
  | .popDue now =>
    let (event, q) := q.popDue now
    (q, [.popped event])

/-- The queue as a machine: its runs are the sequences of operations. -/
def eventQueue : Machine EventQueue QueueOp QueueAnswer := ⟨EventQueue.operate⟩

end AnovaOven
