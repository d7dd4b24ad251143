import AnovaOven.PicoCore.Scheduler

/-!
# Laws of the event queue

**The queue is a timetable** (`eventQueue_timetable`): whatever is asked of it, the queue answers as a
finite map from kinds of events to the ticks they are due at, though its vector is in no order and
every pop moves the last entry. What a tie answers is left open: the map has no order, and the one
the vector happens to be in isn't kept by `swap_remove`.
-/

namespace AnovaOven

/-! ## The timetable -/

/-- What the queue stands for: when each kind of event is due, where one is to come. -/
abbrev Timetable := EventKind → Option Nat

namespace Timetable

/-- The empty timetable. -/
def empty : Timetable := fun _ => none

/-- The time a kind is due at once it is asked for again. -/
def merge : EnqueueMode → Option Nat → Nat → Nat
  | .preferEarlier, some existing, executionTime => min existing executionTime
  | _, _, executionTime => executionTime

/-- Whether a kind due at a tick goes before another due at its own: by the tick, then by the
kind. -/
def Precedes (kind : EventKind) (time : Nat) (kind' : EventKind) (time' : Nat) : Prop :=
  time < time' ∨ time = time' ∧ kind.priority < kind'.priority

/-- What an operation may answer, and the timetable it leaves: asking for a kind sets its time and
nothing else, and a pop takes one that is due, with nothing before it. -/
inductive Step : Timetable → QueueOp → List QueueAnswer → Timetable → Prop
  | enqueue (table : Timetable) (kind : EventKind) (executionTime : Nat) (mode : EnqueueMode) :
    Step table (.enqueue kind executionTime mode) [.enqueued (.ok ())]
      (Function.update table kind (some (merge mode (table kind) executionTime)))
  | nothingDue (table : Timetable) (now : Nat)
    (later : ∀ kind time, table kind = some time → now < time) :
    Step table (.popDue now) [.popped none] table
  | pop (table : Timetable) (now : Nat) (event : ScheduledEvent)
    (queued : table event.kind = some event.executionTime)
    (priority : event.priority = event.kind.priority) (due : event.executionTime ≤ now)
    (least : ∀ kind time, table kind = some time →
      ¬ Precedes kind time event.kind event.executionTime) :
    Step table (.popDue now) [.popped (some event)] (Function.update table event.kind none)

end Timetable

/-! ## The queue's invariant -/

namespace EventQueue

variable {q : EventQueue} {kind : EventKind} {event : ScheduledEvent}

/-- The timetable the queue's entries are. -/
def timetable (q : EventQueue) : Timetable := fun kind =>
  (Unordered.find ScheduledEvent.kind q.events kind).map ScheduledEvent.executionTime

/-- One entry a kind, each with its kind's priority. -/
structure Tidy (q : EventQueue) : Prop where
  keyed : Unordered.Keyed ScheduledEvent.kind q.events
  priority : ∀ event ∈ q.events, event.priority = event.kind.priority

theorem tidy_new : new.Tidy := ⟨List.nodup_nil, by simp [new]⟩

theorem timetable_new : new.timetable = Timetable.empty := rfl

theorem Tidy.timetable_eq_some (tidy : q.Tidy) {time : Nat} :
    q.timetable kind = some time ↔
      ∃ event ∈ q.events, event.kind = kind ∧ event.executionTime = time := by
  unfold timetable
  rw [Option.map_eq_some_iff]
  constructor
  · rintro ⟨event, found, isTime⟩
    obtain ⟨item, isKind⟩ := tidy.keyed.find_eq_some.mp found
    exact ⟨event, item, isKind, isTime⟩
  · rintro ⟨event, item, isKind, isTime⟩
    exact ⟨event, tidy.keyed.find_eq_some.mpr ⟨item, isKind⟩, isTime⟩

theorem Tidy.timetable_mem (tidy : q.Tidy) (item : event ∈ q.events) :
    q.timetable event.kind = some event.executionTime :=
  tidy.timetable_eq_some.mpr ⟨event, item, rfl, rfl⟩

theorem timetable_eq_none :
    q.timetable kind = none ↔ ∀ event ∈ q.events, event.kind ≠ kind := by
  unfold timetable
  rw [Option.map_eq_none_iff, Unordered.find_eq_none]

theorem hasPending_iff : q.hasPending kind ↔ (q.timetable kind).isSome := by
  rw [Option.isSome_iff_ne_none, ne_eq, timetable_eq_none]
  simp [hasPending]

/-- Every kind there is. -/
def kinds : List EventKind :=
  [.pollStatus, .pollCurrentCook, .pollRecipes, .apiStart, .apiStop, .apiNextStage]

/-- The queue has room for an entry of every kind. -/
theorem Tidy.room (tidy : q.Tidy) : q.events.length < eventQueueCapacity := by
  have all : q.events.map ScheduledEvent.kind ⊆ kinds := by
    intro kind _
    cases kind <;> decide
  have few := (List.subperm_of_subset tidy.keyed all).length_le
  rw [List.length_map] at few
  exact Nat.lt_of_le_of_lt few (by decide)

/-! ## Asking for an event -/

/-- An entry with a new time keeps its kind and its priority. -/
theorem Tidy.retimeAt (tidy : q.Tidy) (i : Nat) (mode : EnqueueMode) (executionTime : Nat) :
    (q.retimeAt i mode executionTime).Tidy where
  keyed := tidy.keyed.modify fun _ => rfl
  priority := by
    intro event item
    obtain ⟨j, at'⟩ := List.mem_iff_getElem?.mp item
    change (q.events.modify i _)[j]? = some event at at'
    rw [List.getElem?_modify] at at'
    obtain ⟨existing, isExisting, rfl⟩ := Option.map_eq_some_iff.mp at'
    have kept := tidy.priority existing (List.mem_of_getElem? isExisting)
    split <;> exact kept

/-- A change of the entry of one kind is one of its time. -/
theorem timetable_update {q' : EventQueue} {e : Option ScheduledEvent}
    (h : Unordered.find ScheduledEvent.kind q'.events =
      Function.update (Unordered.find ScheduledEvent.kind q.events) kind e) :
    q'.timetable = Function.update q.timetable kind (e.map ScheduledEvent.executionTime) := by
  funext other
  unfold timetable
  rw [h]
  by_cases same : other = kind
  · subst same
    rw [Function.update_self, Function.update_self]
  · rw [Function.update_of_ne same, Function.update_of_ne same]

/-- **Asking for an event.** No kind overflows the queue, and only its own time is set. -/
theorem Tidy.enqueue (tidy : q.Tidy) (kind : EventKind) (executionTime : Nat)
    (mode : EnqueueMode) :
    (q.enqueue kind executionTime mode).1 = .ok () ∧ (q.enqueue kind executionTime mode).2.Tidy ∧
      (q.enqueue kind executionTime mode).2.timetable = Function.update q.timetable kind
        (some (Timetable.merge mode (q.timetable kind) executionTime)) := by
  unfold EventQueue.enqueue
  split
  · -- an entry of the kind is queued: it is the one that changes
    rename_i i found
    obtain ⟨bound, isKind, _⟩ := List.findIdx?_eq_some_iff_getElem.mp found
    have at' : q.events[i]? = some q.events[i] := List.getElem?_eq_getElem bound
    have isKind : q.events[i].kind = kind := of_decide_eq_true isKind
    refine ⟨rfl, tidy.retimeAt i mode executionTime, ?_⟩
    have existing := tidy.timetable_mem (List.getElem_mem bound)
    rw [timetable_update (tidy.keyed.find_modify
      (f := fun event => event.retimed mode executionTime) (fun _ => rfl) at')]
    rw [isKind] at existing ⊢
    rw [existing]
    cases mode <;> rfl
  · -- the kind is new: there is room for it
    rename_i absent
    have new : Unordered.find ScheduledEvent.kind q.events kind = none := by
      rw [Unordered.find_eq_none]
      intro event item
      simpa using List.findIdx?_eq_none_iff.mp absent event item
    rw [dif_pos tidy.room]
    refine ⟨rfl, ⟨tidy.keyed.concat new, ?_⟩, ?_⟩
    · intro event item
      rcases List.mem_append.mp item with item | item
      · exact tidy.priority event item
      · rw [List.mem_singleton.mp item]
    · have notQueued : q.timetable kind = none := by
        unfold timetable
        rw [new]
        rfl
      rw [timetable_update (tidy.keyed.find_concat new), notQueued]
      cases mode <;> rfl

/-! ## The soonest entry -/

theorem before_iff (a b : ScheduledEvent) :
    a.before b ↔ a.executionTime < b.executionTime ∨
      a.executionTime = b.executionTime ∧ a.priority < b.priority := by
  simp [ScheduledEvent.before]

/-- Two entries with their kinds' priorities are scanned in the timetable's order. -/
theorem before_iff_precedes {a b : ScheduledEvent} (ha : a.priority = a.kind.priority)
    (hb : b.priority = b.kind.priority) :
    a.before b ↔ Timetable.Precedes a.kind a.executionTime b.kind b.executionTime := by
  rw [before_iff, ha, hb]
  rfl

theorem soonest_eq_none : q.soonest = none ↔ q.events = [] := by
  unfold soonest
  rw [Unordered.least_eq_none, List.zipIdx_eq_nil_iff]

/-- The order the scan goes by, whatever the entries' indices. -/
theorem strictWeak_before :
    Unordered.StrictWeak fun a b : ScheduledEvent × Nat => a.1.before b.1 := by
  constructor
  · intro a
    simp [ScheduledEvent.before]
  · intro a b c notBefore notBefore'
    simp only [← Bool.not_eq_true, before_iff, not_or, not_and] at *
    grind
  · intro a b isBefore
    simp only [← Bool.not_eq_true, before_iff, not_or, not_and] at *
    grind

/-- The soonest entry is in the vector, and none is before it. -/
theorem soonest_spec {i : Nat} (h : q.soonest = some (event, i)) :
    q.events[i]? = some event ∧ ∀ other ∈ q.events, other.before event = false := by
  have scanned := Unordered.least_mem h
  have least := Unordered.least_least strictWeak_before h
  refine ⟨List.mem_zipIdx_iff_getElem?.mp scanned, ?_⟩
  intro other item
  obtain ⟨j, at'⟩ := List.mem_iff_getElem?.mp item
  exact least (other, j) (List.mem_zipIdx_iff_getElem?.mpr at')

/-! ## Popping -/

/-- **Popping.** Nothing is popped exactly where nothing is due; what is popped is due, with nothing
before it, and everything else stays. -/
theorem Tidy.popDue (tidy : q.Tidy) (now : Nat) :
    (q.popDue now).2.Tidy ∧
      Timetable.Step q.timetable (.popDue now) [.popped (q.popDue now).1]
        (q.popDue now).2.timetable := by
  unfold EventQueue.popDue
  cases found : q.soonest with
  | none =>
    refine ⟨tidy, .nothingDue _ _ ?_⟩
    intro kind time queued
    obtain ⟨event, item, _⟩ := tidy.timetable_eq_some.mp queued
    rw [soonest_eq_none.mp found] at item
    cases item
  | some entry =>
    obtain ⟨event, i⟩ := entry
    obtain ⟨at', least⟩ := soonest_spec found
    have item := List.mem_of_getElem? at'
    have isPriority := tidy.priority event item
    have noneBefore : ∀ kind time, q.timetable kind = some time →
        ¬ Timetable.Precedes kind time event.kind event.executionTime := by
      intro kind time queued
      obtain ⟨other, isOther, rfl, rfl⟩ := tidy.timetable_eq_some.mp queued
      rw [← before_iff_precedes (tidy.priority other isOther) isPriority, least other isOther]
      exact Bool.false_ne_true
    dsimp only
    split
    · rename_i notDue
      refine ⟨tidy, .nothingDue _ _ ?_⟩
      intro kind time queued
      have notBefore := noneBefore kind time queued
      exact Nat.lt_of_lt_of_le notDue (Nat.le_of_not_lt fun earlier => notBefore (.inl earlier))
    · rename_i isDue
      refine ⟨⟨tidy.keyed.swapRemove at', ?_⟩, ?_⟩
      · intro other isOther
        exact tidy.priority other
          ((Unordered.swapRemove_perm at').mem_iff.mpr (List.mem_cons_of_mem event isOther))
      · have left : (q.swapRemove i).timetable = Function.update q.timetable event.kind none :=
          timetable_update (e := none) (tidy.keyed.find_swapRemove at')
        rw [left]
        exact .pop _ _ _ (tidy.timetable_mem item) isPriority (Nat.le_of_not_lt isDue) noneBefore

/-- A pop leaves the queue as it is, or takes the soonest entry out of it. -/
theorem popDue_cases (q : EventQueue) (now : Nat) :
    q.popDue now = (none, q) ∨ ∃ event i, q.soonest = some (event, i) ∧ event.executionTime ≤ now ∧
      q.popDue now = (some event, q.swapRemove i) := by
  unfold EventQueue.popDue
  cases q.soonest with
  | none => exact .inl rfl
  | some entry =>
    obtain ⟨event, i⟩ := entry
    dsimp only
    split
    · exact .inl rfl
    · rename_i isDue
      exact .inr ⟨event, i, rfl, Nat.le_of_not_lt isDue, rfl⟩

/-! ## The order ties are popped in -/

/-- The kinds of the entries, in the order they stand in. -/
def order (q : EventQueue) : List EventKind := q.events.map ScheduledEvent.kind

theorem Tidy.nodup_order (tidy : q.Tidy) : q.order.Nodup := tidy.keyed

theorem mem_order_iff : kind ∈ q.order ↔ (q.timetable kind).isSome := by
  rw [Option.isSome_iff_ne_none, ne_eq, timetable_eq_none]
  simp [order]

theorem order_swapRemove (q : EventQueue) (i : Nat) :
    (q.swapRemove i).order = Unordered.swapRemove q.order i :=
  Unordered.map_swapRemove ScheduledEvent.kind q.events i

/-- A kind that is queued keeps its place, and a new one goes to the end. -/
theorem Tidy.order_enqueue (tidy : q.Tidy) (kind : EventKind) (executionTime : Nat)
    (mode : EnqueueMode) :
    (q.enqueue kind executionTime mode).2.order =
      if kind ∈ q.order then q.order else q.order ++ [kind] := by
  unfold EventQueue.enqueue
  split
  · rename_i i found
    obtain ⟨bound, isKind, _⟩ := List.findIdx?_eq_some_iff_getElem.mp found
    have queued : kind ∈ q.order :=
      List.mem_map.mpr ⟨_, List.getElem_mem bound, of_decide_eq_true isKind⟩
    rw [if_pos queued]
    exact Unordered.map_modify ScheduledEvent.kind
      (f := fun event => event.retimed mode executionTime) (fun _ => rfl) q.events i
  · rename_i absent
    rw [dif_pos tidy.room, if_neg]
    · exact List.map_append
    · intro item
      obtain ⟨event, isEvent, isKind⟩ := List.mem_map.mp item
      simpa [isKind] using List.findIdx?_eq_none_iff.mp absent event isEvent

/-- What stands ahead of the soonest entry is due later, or goes after it by its priority. -/
theorem Tidy.soonest_first (tidy : q.Tidy) {i : Nat} (h : q.soonest = some (event, i))
    (queued : q.timetable kind = some event.executionTime)
    (alike : kind.priority = event.kind.priority) :
    ¬ Unordered.Ahead q.order kind event.kind := by
  intro ahead
  obtain ⟨pre, post, whole, later⟩ := Unordered.least_first strictWeak_before h
  have isOrder : q.order =
      (pre.map fun e => e.1.kind) ++ event.kind :: post.map fun e => e.1.kind := by
    have events := congrArg (List.map Prod.fst) whole
    rw [List.zipIdx_map_fst] at events
    unfold order
    rw [events, List.map_map, List.map_append, List.map_cons]
    rfl
  have nodup := tidy.nodup_order
  rw [isOrder] at ahead nodup
  obtain ⟨⟨other, j⟩, item, isKind⟩ := List.mem_map.mp (ahead.mem_before nodup)
  have inQueue : other ∈ q.events := by
    have scanned : (other, j) ∈ q.events.zipIdx := by
      rw [whole]
      exact List.mem_append_left _ item
    exact List.mem_of_getElem? (List.mem_zipIdx_iff_getElem?.mp scanned)
  have isTime := (tidy.timetable_mem inQueue).symm.trans ((congrArg q.timetable isKind).trans queued)
  have isBefore := (before_iff _ _).mp (later _ item)
  dsimp only at isKind isBefore
  rw [Option.some.inj isTime, tidy.priority other inQueue, isKind, alike,
    tidy.priority event (List.mem_of_getElem? (soonest_spec h).1)] at isBefore
  rcases isBefore with sooner | ⟨_, sooner⟩
  · exact Nat.lt_irrefl _ sooner
  · exact absurd sooner (by simp)

/-! ## Every sequence of operations -/

/-- An operation keeps the queue tidy. -/
theorem Tidy.next (q : EventQueue) (op : QueueOp) (tidy : q.Tidy) : (eventQueue.next q op).Tidy := by
  cases op with
  | enqueue kind executionTime mode => exact (tidy.enqueue kind executionTime mode).2.1
  | popDue now => exact (tidy.popDue now).1

/-- An operation is one of the timetable's. -/
theorem Tidy.step (q : EventQueue) (op : QueueOp) (tidy : q.Tidy) :
    Timetable.Step q.timetable op (eventQueue.effects q op) (eventQueue.next q op).timetable := by
  cases op with
  | enqueue kind executionTime mode =>
    obtain ⟨answer, _, table⟩ := tidy.enqueue kind executionTime mode
    show Timetable.Step _ _ [.enqueued (q.enqueue kind executionTime mode).1]
      (q.enqueue kind executionTime mode).2.timetable
    rw [answer, table]
    exact .enqueue _ _ _ _
  | popDue now => exact (tidy.popDue now).2

end EventQueue

/-- **The queue.** Over any sequence of operations it has at most one entry a kind, and answers as the
timetable its entries are. -/
theorem eventQueue_timetable (ops : List QueueOp) :
    (((eventQueue.run .new ops).events.map ScheduledEvent.kind).Nodup) ∧
      Machine.Allowed Timetable.Step Timetable.empty ops (eventQueue.trace .new ops)
        (eventQueue.run .new ops).timetable := by
  constructor
  · have tidy : (eventQueue.run .new ops).Tidy :=
      Machine.run_keeps (fun q op _ => EventQueue.Tidy.next q op) EventQueue.tidy_new
    exact tidy.keyed
  · exact Machine.run_allowed EventQueue.Tidy.next EventQueue.Tidy.step EventQueue.tidy_new ops

end AnovaOven
