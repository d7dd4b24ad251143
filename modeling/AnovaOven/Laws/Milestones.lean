import AnovaOven.Processors.Mqtt.Milestones
import Mathlib.Data.List.Infix

/-!
# Laws of the milestones

**When a cook's end and start are announced** (`nothingLost_iff`): a change is announced by the
snapshot that shows it first, or never. A cook's end goes unannounced exactly where every snapshot
that first shows one is disconnected, or of another cook that is done already; a start where every
snapshot that first shows one is disconnected, or has no key to tell it by.

Snapshots that stand still while the oven is away lose nothing (`announced_of_steady`).
-/

namespace AnovaOven

namespace Snapshot

/-- A cook that isn't over. -/
def Running (s : Snapshot) : Prop := s.cooking = true ∧ s.cookDone = false

/-- A connected snapshot that shows the end of the cook before it: the oven is idle, or that cook is
done. -/
def ShowsEnd (prev next : Snapshot) : Prop :=
  next.connected = true ∧ prev.Running ∧ ¬ next.Running ∧
    ¬ (next.cooking = true ∧ prev.newCook next = true)

/-- A connected snapshot that shows the start of a cook: the oven was idle, or cooked another. -/
def ShowsStart (prev next : Snapshot) : Prop :=
  next.connected = true ∧ next.cooking = true ∧ (prev.cooking = false ∨ prev.newCook next = true)

end Snapshot

variable {prev next : Snapshot}

/-! ## One pair of snapshots -/

theorem stageMilestones_other (prev next : Snapshot) {m : Milestone} (notPreheat : m ≠ .preheatDone)
    (notStage : m ≠ .stageStarted) : m ∉ prev.stageMilestones next := by
  unfold Snapshot.stageMilestones
  split
  · split
    · split <;> simp [notPreheat, notStage]
    · simp
  · simp

theorem cookStarted_mem : .cookStarted ∈ milestones prev next ↔ prev.ShowsStart next := by
  have stage := stageMilestones_other prev next (m := .cookStarted) (by decide) (by decide)
  unfold milestones Snapshot.ShowsStart
  cases next.connected <;> cases prev.cooking <;> cases next.cooking <;>
    cases prev.newCook next <;> simp [stage]

/-- An end is said as a stop or as done. -/
theorem end_mem :
    .cookDone ∈ milestones prev next ∨ .cookStopped ∈ milestones prev next ↔ prev.ShowsEnd next := by
  have done := stageMilestones_other prev next (m := .cookDone) (by decide) (by decide)
  have stopped := stageMilestones_other prev next (m := .cookStopped) (by decide) (by decide)
  unfold milestones Snapshot.ShowsEnd Snapshot.Running
  cases next.connected <;> cases prev.cooking <;> cases next.cooking <;>
    cases prev.newCook next <;> cases prev.cookDone <;> cases next.cookDone <;>
    simp [done, stopped]

/-! ## A sequence of snapshots -/

/-- Two snapshots, one directly after the other in a sequence. -/
theorem pair_infix_iff {α : Type*} {a b p n : α} {l : List α} :
    [p, n] <:+: a :: b :: l ↔ p = a ∧ n = b ∨ [p, n] <:+: b :: l := by
  rw [List.infix_cons_iff]
  simp [List.cons_prefix_cons]

/-- What is announced after a snapshot is announced of a pair of the sequence. -/
theorem mem_feed_iff (s : Snapshot) (rest : List Snapshot) (m : Milestone) :
    m ∈ milestoneFeed.trace (some s) rest ↔
      ∃ p n, [p, n] <:+: s :: rest ∧ m ∈ milestones p n := by
  induction rest generalizing s with
  | nil =>
    constructor
    · intro item
      cases item
    · rintro ⟨p, n, pair, _⟩
      simpa using pair.length_le
  | cons t rest ih =>
    rw [Machine.trace_cons, List.mem_append]
    show m ∈ milestones s t ∨ m ∈ milestoneFeed.trace (some t) rest ↔ _
    rw [ih t]
    constructor
    · rintro (now | ⟨p, n, pair, item⟩)
      · exact ⟨s, t, pair_infix_iff.mpr (.inl ⟨rfl, rfl⟩), now⟩
      · exact ⟨p, n, pair_infix_iff.mpr (.inr pair), item⟩
    · rintro ⟨p, n, pair, item⟩
      rcases pair_infix_iff.mp pair with ⟨rfl, rfl⟩ | later
      · exact .inl item
      · exact .inr ⟨p, n, later, item⟩

/-- A change that one of a sequence's snapshots shows, right after the one before it. -/
def SomeShows (change : Snapshot → Snapshot → Prop) (snapshots : List Snapshot) : Prop :=
  ∃ p n, [p, n] <:+: snapshots ∧ change p n

/-- What is to be announced between two snapshots: the end of a cook that runs at first, where the
oven is idle at last, and the start of the cook at last, where it is another than at first. -/
structure NothingLost (first last : Snapshot) (said : List Milestone) : Prop where
  ended : first.Running → last.cooking = false → .cookDone ∈ said ∨ .cookStopped ∈ said
  started : last.cooking = true → first.newCook last = true → .cookStarted ∈ said

/-- **Announcements.** A sequence of snapshots loses neither the end nor the start of a cook exactly
where a connected snapshot shows it, right after one that ran the cook, or that was idle or cooked
another. -/
theorem nothingLost_iff (first last : Snapshot) (between : List Snapshot) :
    NothingLost first last (milestoneFeed.trace none (first :: (between ++ [last]))) ↔
      (first.Running → last.cooking = false →
        SomeShows Snapshot.ShowsEnd (first :: (between ++ [last]))) ∧
      (last.cooking = true → first.newCook last = true →
        SomeShows Snapshot.ShowsStart (first :: (between ++ [last]))) := by
  have said : ∀ m, m ∈ milestoneFeed.trace none (first :: (between ++ [last])) ↔
      ∃ p n, [p, n] <:+: first :: (between ++ [last]) ∧ m ∈ milestones p n :=
    mem_feed_iff first (between ++ [last])
  have ended : .cookDone ∈ milestoneFeed.trace none (first :: (between ++ [last])) ∨
      .cookStopped ∈ milestoneFeed.trace none (first :: (between ++ [last])) ↔
      SomeShows Snapshot.ShowsEnd (first :: (between ++ [last])) := by
    simp only [said, SomeShows, ← end_mem, and_or_left, exists_or]
  have started : .cookStarted ∈ milestoneFeed.trace none (first :: (between ++ [last])) ↔
      SomeShows Snapshot.ShowsStart (first :: (between ++ [last])) := by
    simp only [said, SomeShows, cookStarted_mem]
  rw [← ended, ← started]
  exact ⟨fun h => ⟨h.ended, h.started⟩, fun h => ⟨h.1, h.2⟩⟩

/-! ## Snapshots that stand still -/

/-- A snapshot that changes nothing while the oven is away, that has a key where the cook before it
had one, and that doesn't bring another cook in done already. -/
structure Steady (p n : Snapshot) : Prop where
  away : n.connected = false →
    n.cooking = p.cooking ∧ n.cookDone = p.cookDone ∧ n.cookKey = p.cookKey
  keyed : n.cooking = true → p.cookKey.isSome → n.cookKey.isSome
  fresh : p.newCook n = true → n.cookDone = false

/-- What holds of the first snapshot and is kept by every pair that doesn't show a change holds of the
last, where none shows it. -/
theorem kept_of_noneShows {P : Snapshot → Prop} {change : Snapshot → Snapshot → Prop}
    (first last : Snapshot) (between : List Snapshot) (holds : P first)
    (keeps : ∀ p n, [p, n] <:+: first :: (between ++ [last]) → P p → ¬ change p n → P n)
    (none : ¬ SomeShows change (first :: (between ++ [last]))) : P last := by
  induction between generalizing first with
  | nil =>
    have pair : [first, last] <:+: [first, last] := List.infix_rfl
    exact keeps first last pair holds fun shows' => none ⟨first, last, pair, shows'⟩
  | cons s between ih =>
    have pair : [first, s] <:+: first :: (s :: between ++ [last]) :=
      pair_infix_iff.mpr (.inl ⟨rfl, rfl⟩)
    refine ih s (keeps first s pair holds fun shows' => none ⟨first, s, pair, shows'⟩) ?_ ?_
    · exact fun p n later => keeps p n (pair_infix_iff.mpr (.inr later))
    · rintro ⟨p, n, later, shows'⟩
      exact none ⟨p, n, pair_infix_iff.mpr (.inr later), shows'⟩

/-- A pair that stands still and shows no end leaves a running cook running. -/
theorem Steady.running {p n : Snapshot} (steady : Steady p n) (running : p.Running)
    (unseen : ¬ p.ShowsEnd n) : n.Running := by
  cases connected : n.connected with
  | false =>
    obtain ⟨cooking, done, _⟩ := steady.away connected
    exact ⟨cooking.trans running.1, done.trans running.2⟩
  | true =>
    by_contra ended
    refine unseen ⟨connected, running, ended, ?_⟩
    rintro ⟨cooking, other⟩
    exact ended ⟨cooking, steady.fresh other⟩

/-- A pair that stands still and shows no start keeps a cook's key. -/
theorem Steady.key {p n : Snapshot} {key : String} (steady : Steady p n)
    (isKey : p.cooking = true → p.cookKey = some key) (unseen : ¬ p.ShowsStart n)
    (cooking : n.cooking = true) : n.cookKey = some key := by
  cases connected : n.connected with
  | false =>
    obtain ⟨same, _, sameKey⟩ := steady.away connected
    exact sameKey.trans (isKey (same.symm.trans cooking))
  | true =>
    have ran : p.cooking = true ∧ p.newCook n = false := by
      by_contra other
      refine unseen ⟨connected, cooking, ?_⟩
      cases ran : p.cooking with
      | false => exact .inl rfl
      | true => exact .inr (by simpa [ran] using other)
    have own := isKey ran.1
    obtain ⟨key', isKey'⟩ := Option.isSome_iff_exists.mp (steady.keyed cooking (by rw [own]; rfl))
    have same : ¬ key ≠ key' := by
      intro differ
      have isNew := ran.2
      unfold Snapshot.newCook at isNew
      rw [own, isKey'] at isNew
      simp [differ] at isNew
    rw [isKey', not_not.mp same]

/-- **Outages.** Snapshots that stand still while the oven is away, keep their keys and bring no cook
in done lose nothing. -/
theorem announced_of_steady (first last : Snapshot) (between : List Snapshot)
    (steady : ∀ p n, [p, n] <:+: first :: (between ++ [last]) → Steady p n) :
    (first.Running → last.cooking = false →
        SomeShows Snapshot.ShowsEnd (first :: (between ++ [last]))) ∧
      (last.cooking = true → first.newCook last = true →
        SomeShows Snapshot.ShowsStart (first :: (between ++ [last]))) := by
  constructor
  · intro running idle
    by_contra unseen
    have still := kept_of_noneShows first last between running
      (fun p n pair running' unseen' => (steady p n pair).running running' unseen') unseen
    exact absurd (still.1.symm.trans idle) Bool.noConfusion
  · intro cooking other
    unfold Snapshot.newCook at other
    cases isKey : first.cookKey with
    | none => simp [isKey] at other
    | some key =>
      by_contra unseen
      have kept := kept_of_noneShows (P := fun s => s.cooking = true → s.cookKey = some key) first last
        between (fun _ => isKey) (fun p n pair own unseen' => (steady p n pair).key own unseen') unseen
      simp [isKey, kept cooking] at other

namespace Kitchen

/-- Bread cooks. -/
def breadCooks : Snapshot :=
  ⟨true, true, some "bread", none, some 0, [], false, false, "C"⟩

/-- The oven is idle. -/
def ovenIdle : Snapshot := ⟨true, false, none, none, none, [], false, false, "C"⟩

end Kitchen

/-- Bread ends while the oven is away: nobody says so. -/
theorem end_lost :
    ¬ ∀ (first last : Snapshot) (between : List Snapshot), first.connected = true →
      last.connected = true →
      NothingLost first last (milestoneFeed.trace none (first :: (between ++ [last]))) := by
  intro always
  have lost := (always Kitchen.breadCooks Kitchen.ovenIdle
    [{ Kitchen.ovenIdle with connected := false }] rfl rfl).ended ⟨rfl, rfl⟩ rfl
  exact absurd lost (by decide)

end AnovaOven
