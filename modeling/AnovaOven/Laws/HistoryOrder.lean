import AnovaOven.Laws.Crash

/-!
# The history is in order

A cook ends at the clock's second, or at the one it was last seen at, which the journal keeps over
restarts. Both are no older than what the history has: the journal of a cook is opened, and its last
report written, after the line of the cook before it. So over a clock that doesn't go back **the history
file is in the order of its end times**, and is shown newest first (`history_ordered`).

An operation here runs to its end: after a crash between an append and the removal of the journal the
same cook's line is written again, at the time it was last seen (`append_repeats`). The text of a
timestamp is read by `secondOf`, as `jiff` reads back the text it gave a second.
-/

namespace AnovaOven

open Machine JsonText LocalStore

/-- The moment of an operation that reads the clock. -/
def StoreOp.moment : StoreOp → Option Moment
  | .journalStart _ _ _ _ _ now => some now
  | .ovenReported _ now => some now
  | .currentCook _ now => some now
  | .linkCook _ _ => none
  | .restart => none

/-- The moments of a run's operations. -/
def moments (ops : List StoreOp) : List Moment := ops.filterMap StoreOp.moment

/-- A clock that doesn't go back, by its whole seconds. -/
def ClockForward (ops : List StoreOp) : Prop :=
  (moments ops).Pairwise fun before after => before.asSecond ≤ after.asSecond

instance (ops : List StoreOp) : Decidable (ClockForward ops) :=
  inferInstanceAs (Decidable (List.Pairwise _ (moments ops)))

variable {secondOf : String → Int} {store : LocalStore} {op : StoreOp} {second : Int}

/-- The text of a moment's whole second reads back as the second. -/
def ReadsSeconds (secondOf : String → Int) (ops : List StoreOp) : Prop :=
  ∀ now ∈ moments ops, secondOf (wholeSeconds now) = now.asSecond

/-- Entries in the order of their end times. -/
def InOrder (secondOf : String → Int) (entries : List HistoryEntry) : Prop :=
  entries.Pairwise fun before after => secondOf before.endedAt ≤ secondOf after.endedAt

/-- The history so far against the journal and the clock: the entries are in order, none is later than
the cook in the journal was last seen, if it was, and neither is later than now. -/
structure UpToDate (secondOf : String → Int) (store : LocalStore) (entries : List HistoryEntry)
    (second : Int) : Prop where
  ordered : InOrder secondOf entries
  written : ∀ entry ∈ entries, secondOf entry.endedAt ≤ second
  seen : ∀ active lastSeenAt, store.disk.active = some active →
    active.lastSeenAt = some lastSeenAt →
    secondOf lastSeenAt ≤ second ∧ ∀ entry ∈ entries, secondOf entry.endedAt ≤ secondOf lastSeenAt

/-! ## One operation -/

/-- An operation that keeps a cook reads the clock for it. -/
theorem moment_of_keeping {now : Moment} {kept : Option String}
    (keeps : store.keeping op = some (now, kept)) : op.moment = some now := by
  cases op with
  | journalStart | ovenReported =>
    cases keeps
    rfl
  | currentCook ovenCook at' =>
    cases ovenCook with
    | none => cases keeps
    | some cook =>
      simp only [keeping] at keeps
      split at keeps
      · cases keeps
      · cases keeps
        rfl
  | linkCook | restart => cases keeps

/-- The line an operation appends ends its cook now, or when it was last seen. -/
theorem ended_at {line : String × HistoryEntry} (mem : line ∈ store.ended op) :
    ∃ active lastSeenAt now, store.disk.active = some active ∧
      active.lastSeenAt = some lastSeenAt ∧ op.moment = some now ∧
      store.ended op = [line] ∧
      (line.2.endedAt = wholeSeconds now ∨ line.2.endedAt = lastSeenAt) := by
  rw [ended_eq] at mem ⊢
  cases journal : store.disk.active with
  | none => simp [journal] at mem
  | some active =>
    simp only [journal] at mem ⊢
    obtain ⟨entry, appended, rfl⟩ := List.mem_map.mp mem
    have byOp := Option.mem_toList.mp appended
    obtain ⟨⟨now, kept⟩, keeps, ends⟩ := Option.bind_eq_some_iff.mp byOp
    simp only [line, journal] at ends
    split at ends
    · cases ends
    · obtain ⟨lastSeenAt, seen, rfl⟩ := Option.map_eq_some_iff.mp ends
      refine ⟨active, lastSeenAt, now, rfl, seen, moment_of_keeping keeps, ?_, ?_⟩
      · rw [byOp]
        rfl
      · simp only [endedEntry]
        split
        · exact .inl rfl
        · exact .inr rfl

/-- The cook in the journal after a report was seen by it. -/
theorem seen_reported {now : Moment} {ovenCook : Option OvenCook} {active : ActiveCook}
    {lastSeenAt : String}
    (journal : (store.disk.carryOut (store.reconcile ovenCook now).1).active = some active)
    (seen : active.lastSeenAt = some lastSeenAt) : lastSeenAt = wholeSeconds now := by
  rw [reconcile_active] at journal
  obtain ⟨cook, _, rfl⟩ := Option.map_eq_some_iff.mp journal
  rw [journalled_seen] at seen
  exact (Option.some.inj seen).symm

/-- The cook in the journal after an operation, if it was seen, was seen now, or it was in the journal
before and nothing has ended. -/
theorem seen_after {active : ActiveCook} {lastSeenAt : String}
    (journal : (store.perform op).disk.active = some active)
    (seen : active.lastSeenAt = some lastSeenAt) :
    (∃ now, op.moment = some now ∧ lastSeenAt = wholeSeconds now) ∨
      store.ended op = [] ∧
        ∃ before, store.disk.active = some before ∧ before.lastSeenAt = some lastSeenAt := by
  rw [perform_disk] at journal
  cases op with
  | journalStart cookId recipeId title stageCount extras now =>
    have started := store.journalStart_active now cookId recipeId title stageCount extras
    cases started.symm.trans journal
    cases seen
  | ovenReported ovenCook now => exact .inl ⟨now, rfl, seen_reported journal seen⟩
  | currentCook ovenCook now =>
    cases ovenCook with
    | none => exact .inr ⟨ended_nil rfl, active, journal, seen⟩
    | some cook =>
      by_cases own : store.journals cook.cookId
      · simp only [fileOps, own, if_true] at journal
        exact .inr ⟨ended_nil (by simp only [keeping, own, if_true]), active, journal, seen⟩
      · simp only [fileOps, own] at journal
        exact .inl ⟨now, rfl, seen_reported journal seen⟩
  | linkCook recipeId title =>
    refine .inr ⟨ended_nil rfl, ?_⟩
    simp only [fileOps, linkCook] at journal
    cases before : store.disk.active with
    | none =>
      simp only [before, Disk.carryOut_nil] at journal
      cases journal
    | some previous =>
      simp only [before, Disk.carryOut_write] at journal
      cases journal
      exact ⟨previous, rfl, seen⟩
  | restart => exact .inr ⟨ended_nil rfl, active, journal, seen⟩

/-- The second of the clock after an operation. -/
def StoreOp.secondAfter (second : Int) (op : StoreOp) : Int :=
  op.moment.elim second Moment.asSecond

/-- An operation appends one line at most. -/
theorem pairwise_ended : InOrder secondOf ((store.ended op).map Prod.snd) := by
  cases ended : store.ended op with
  | nil => exact List.Pairwise.nil
  | cons line rest =>
    obtain ⟨_, _, _, _, _, _, one, _⟩ := ended_at (ended ▸ List.mem_cons_self : line ∈ store.ended op)
    rw [ended] at one
    rw [(List.cons.inj one).2]
    exact List.pairwise_singleton _ _

/-- **One operation** keeps the history in order, and up to date. -/
theorem UpToDate.perform {entries : List HistoryEntry} (h : UpToDate secondOf store entries second)
    (forward : ∀ now, op.moment = some now → second ≤ now.asSecond)
    (reads : ∀ now, op.moment = some now → secondOf (wholeSeconds now) = now.asSecond) :
    UpToDate secondOf (store.perform op) (entries ++ (store.ended op).map Prod.snd)
      (op.secondAfter second) := by
  have later : second ≤ op.secondAfter second := by
    unfold StoreOp.secondAfter
    cases clock : op.moment with
    | none => exact le_refl second
    | some now => exact forward now clock
  have ends : ∀ line ∈ store.ended op, secondOf line.2.endedAt ≤ op.secondAfter second ∧
      ∀ entry ∈ entries, secondOf entry.endedAt ≤ secondOf line.2.endedAt := by
    intro line mem
    obtain ⟨active, lastSeenAt, now, journal, seen, clock, _, at'⟩ := ended_at mem
    obtain ⟨recent, older⟩ := h.seen active lastSeenAt journal seen
    rcases at' with now' | then'
    · rw [now', reads now clock]
      refine ⟨by rw [StoreOp.secondAfter, clock]; exact le_refl _, ?_⟩
      intro entry mem
      exact (h.written entry mem).trans (forward now clock)
    · rw [then']
      exact ⟨recent.trans later, older⟩
  refine ⟨?_, ?_, ?_⟩
  · refine List.pairwise_append.mpr ⟨h.ordered, pairwise_ended, ?_⟩
    intro entry mem last mem'
    obtain ⟨line, ended, rfl⟩ := List.mem_map.mp mem'
    exact (ends line ended).2 entry mem
  · intro entry mem
    rcases List.mem_append.mp mem with before | now
    · exact (h.written entry before).trans later
    · obtain ⟨line, ended, rfl⟩ := List.mem_map.mp now
      exact (ends line ended).1
  · intro active lastSeenAt journal seen
    rcases seen_after journal seen with ⟨now, clock, rfl⟩ | ⟨none, before, journal, seen⟩
    · -- a cook seen now is seen after all there is
      have at' : secondOf (wholeSeconds now) = op.secondAfter second := by
        rw [reads now clock, StoreOp.secondAfter, clock]
        rfl
      rw [at']
      refine ⟨le_refl _, fun entry mem => ?_⟩
      rcases List.mem_append.mp mem with before | now'
      · exact (h.written entry before).trans later
      · obtain ⟨line, ended, rfl⟩ := List.mem_map.mp now'
        exact (ends line ended).1
    · obtain ⟨recent, older⟩ := h.seen before lastSeenAt journal seen
      rw [none, List.map_nil, List.append_nil]
      exact ⟨recent.trans later, older⟩

/-! ## Runs -/

/-- The clock's readings after an operation's. -/
theorem ClockForward.tail {ops : List StoreOp} (forward : ClockForward (op :: ops)) :
    ClockForward ops ∧ ∀ now, op.moment = some now →
      ∀ after ∈ moments ops, now.asSecond ≤ after.asSecond := by
  unfold ClockForward moments at forward
  cases clock : op.moment with
  | none =>
    rw [List.filterMap_cons_none clock] at forward
    exact ⟨forward, fun now at' => nomatch at'⟩
  | some now =>
    rw [List.filterMap_cons_some clock] at forward
    obtain ⟨after, rest⟩ := List.pairwise_cons.mp forward
    exact ⟨rest, fun now' at' => Option.some.inj at' ▸ after⟩

/-- **A run** keeps the history in order. -/
theorem UpToDate.run {ops : List StoreOp} {entries : List HistoryEntry}
    (h : UpToDate secondOf store entries second) (forward : ClockForward ops)
    (since : ∀ now ∈ moments ops, second ≤ now.asSecond) (reads : ReadsSeconds secondOf ops) :
    InOrder secondOf (entries ++ (endings store ops).map Prod.snd) := by
  induction ops generalizing store entries second with
  | nil =>
    rw [endings_nil, List.map_nil, List.append_nil]
    exact h.ordered
  | cons op ops ih =>
    have now' {now : Moment} (clock : op.moment = some now) : now ∈ moments (op :: ops) :=
      List.mem_filterMap.mpr ⟨op, List.mem_cons_self, clock⟩
    have later {now : Moment} (mem : now ∈ moments ops) : now ∈ moments (op :: ops) := by
      obtain ⟨op', mem, clock⟩ := List.mem_filterMap.mp mem
      exact List.mem_filterMap.mpr ⟨op', List.mem_cons_of_mem _ mem, clock⟩
    obtain ⟨rest, after⟩ := forward.tail
    have step := h.perform (fun now clock => since now (now' clock))
      (fun now clock => reads now (now' clock))
    rw [endings_cons, List.map_append, ← List.append_assoc]
    refine ih step rest ?_ fun now mem => reads now (later mem)
    intro now mem
    unfold StoreOp.secondAfter
    cases clock : op.moment with
    | none => exact since now (later mem)
    | some at' => exact after at' clock now mem

/-- **A history in order.** Over every run of the store's operations and restarts from an empty data
directory, over a clock that doesn't go back: the history file has the lines of the cooks that ended, in
the order of their end times, and is shown newest first. -/
theorem history_ordered {read : Bytes → Option HistoryEntry} (back : ReadsEntriesBack read)
    (secondOf : String → Int) (store : LocalStore) (empty : store.disk.history = [])
    (idle : store.disk.active = none) (ops : List StoreOp) (forward : ClockForward ops)
    (reads : ReadsSeconds secondOf ops) :
    (storeOps.run store ops).disk.history =
        ((endings store ops).map Prod.snd).flatMap historyLine ∧
      InOrder secondOf ((endings store ops).map Prod.snd) ∧
      ∃ shown, (storeOps.run store ops).history read = .ok shown ∧
        shown = ((endings store ops).map Prod.snd).reverse.take historyLimit ∧
        shown.Pairwise fun newer older => secondOf older.endedAt ≤ secondOf newer.endedAt := by
  have file := history_run store ops
  rw [empty, List.nil_append] at file
  have since : ∃ second : Int, ∀ now ∈ moments ops, second ≤ now.asSecond := by
    unfold ClockForward at forward
    cases clock : moments ops with
    | nil => exact ⟨0, fun now mem => nomatch mem⟩
    | cons first rest =>
      rw [clock] at forward
      refine ⟨first.asSecond, fun now mem => ?_⟩
      rcases List.mem_cons.mp mem with rfl | mem
      · exact le_refl _
      · exact (List.pairwise_cons.mp forward).1 now mem
  obtain ⟨second, since⟩ := since
  have start : UpToDate secondOf store [] second := by
    refine ⟨List.Pairwise.nil, fun _ mem => (nomatch mem), ?_⟩
    intro active lastSeenAt journal
    rw [idle] at journal
    cases journal
  have ordered := start.run forward since reads
  rw [List.nil_append] at ordered
  refine ⟨file, ordered, _, ?_, rfl, ?_⟩
  · have intact : Intact store := ⟨.inl empty, by rw [empty]; exact isText_utf8 ""⟩
    have entries := intact.entries_lines back (history_run store ops)
    rw [empty] at entries
    unfold LocalStore.history
    rw [entries]
    rfl
  · exact (List.pairwise_reverse.mpr ordered).sublist (List.take_sublist _ _)

namespace Kitchen

/-- Some seconds and their texts. -/
def clock : List (String × Int) :=
  [("2023-11-14T22:13:20Z", 1700000000), ("2023-11-14T22:13:25Z", 1700000005),
    ("2023-11-14T22:13:30Z", 1700000010), ("2023-11-14T22:13:35Z", 1700000015)]

/-- Read one of these texts. -/
def readClock (text : String) : Int := (clock.lookup text).getD 0

/-- A moment at one of them. -/
def tick (text : String) : Moment := ⟨readClock text, text, fun _ => some text⟩

/-- A roast that ends while the server is down, so as it was last seen, and a soup that is watched to its
end. -/
def twoCooks : List StoreOp :=
  [.journalStart "roast" none "Roast" 1 .empty (tick "2023-11-14T22:13:20Z"),
    .ovenReported (some (ovenCook "roast")) (tick "2023-11-14T22:13:25Z"), .restart,
    .ovenReported (some (ovenCook "soup")) (tick "2023-11-14T22:13:30Z"),
    .ovenReported none (tick "2023-11-14T22:13:35Z")]

end Kitchen

/-- The roast's line, and then the soup's. -/
theorem history_ordered_two :
    (storeOps.run Kitchen.emptyStore Kitchen.twoCooks).disk.history =
        ((endings Kitchen.emptyStore Kitchen.twoCooks).map Prod.snd).flatMap historyLine ∧
      InOrder Kitchen.readClock ((endings Kitchen.emptyStore Kitchen.twoCooks).map Prod.snd) ∧
      ∃ shown,
        (storeOps.run Kitchen.emptyStore Kitchen.twoCooks).history readEntry = .ok shown ∧
        shown = ((endings Kitchen.emptyStore Kitchen.twoCooks).map Prod.snd).reverse.take
          historyLimit ∧
        shown.Pairwise fun newer older =>
          Kitchen.readClock older.endedAt ≤ Kitchen.readClock newer.endedAt :=
  history_ordered readEntry_back Kitchen.readClock Kitchen.emptyStore rfl rfl Kitchen.twoCooks
    (by decide)
    (by
      intro now mem
      simp only [moments, Kitchen.twoCooks, StoreOp.moment, List.filterMap_cons, List.filterMap_nil,
        List.mem_cons, List.not_mem_nil, or_false] at mem
      rcases mem with rfl | rfl | rfl | rfl <;> rfl)

end AnovaOven
