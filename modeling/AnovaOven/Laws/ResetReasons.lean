import AnovaOven.Pico.Persist

/-!
# Laws of what a boot is put down to

A panic counts one up, and a boot is put down to a panic while the count is past the one last displayed. So
it stays until the recovery view was shown: a boot that follows a run without a panic is put down to a
panic too, if that run began with one undisplayed and never displayed it. `Attributable` is the exact
condition on a run (`attributed_iff`), and a sequence of runs is attributed right just where each meets it
(`resets_attributed_iff`). Until the count wraps, a run that ends in a panic always does
(`attributable_of_panic`).
-/

namespace AnovaOven

namespace PersistRegion

/-! ## A run -/

/-- What a write does to the counters. -/
theorem write_counters {r : PersistRegion} (valid : r.magicValid = true) (w : RunWrite) :
    (r.write w).magicValid = true ∧ (r.write w).panicCount = r.panicCount ∧
      (r.write w).lastDisplayedPanicCount =
        if w = .markDisplayed then r.panicCount else r.lastDisplayedPanicCount := by
  cases w with
  | markDisplayed =>
    have shown : r.write .markDisplayed = { r with lastDisplayedPanicCount := r.panicCount } := if_pos valid
    rw [shown]
    exact ⟨valid, rfl, rfl⟩
  | _ => exact ⟨valid, rfl, rfl⟩

/-- What a run's writes do to the counters: a count that is displayed stays so. -/
theorem writes_counters {r : PersistRegion} (valid : r.magicValid = true) (writes : List RunWrite) :
    (writes.foldl write r).magicValid = true ∧ (writes.foldl write r).panicCount = r.panicCount ∧
      (writes.foldl write r).lastDisplayedPanicCount =
        if .markDisplayed ∈ writes then r.panicCount else r.lastDisplayedPanicCount := by
  induction writes generalizing r with
  | nil => exact ⟨valid, rfl, rfl⟩
  | cons w writes ih =>
    obtain ⟨valid', count, displayed⟩ := write_counters valid w
    obtain ⟨valid'', count', displayed'⟩ := ih valid'
    refine ⟨valid'', count'.trans count, ?_⟩
    rw [List.foldl_cons, displayed', count, displayed]
    by_cases later : .markDisplayed ∈ writes
    · rw [if_pos later, if_pos (List.mem_cons_of_mem w later)]
    · by_cases now : w = .markDisplayed
      · rw [if_neg later, if_pos now, if_pos (List.mem_cons.mpr (.inl now.symm))]
      · have never : .markDisplayed ∉ w :: writes := fun item =>
          (List.mem_cons.mp item).elim (fun eq => now eq.symm) later
        rw [if_neg later, if_neg now, if_neg never]

/-- A panic counts one up. -/
theorem recordAndReset_counters {r : PersistRegion} (valid : r.magicValid = true)
    (pieces : List String) :
    (r.recordAndReset pieces).magicValid = true ∧
      (r.recordAndReset pieces).panicCount = r.panicCount + 1 ∧
      (r.recordAndReset pieces).lastDisplayedPanicCount = r.lastDisplayedPanicCount := by
  unfold recordAndReset
  rw [if_pos valid]
  exact ⟨valid, rfl, rfl⟩

/-- **A run** on the counters. -/
theorem afterRun_counters {r : PersistRegion} (valid : r.magicValid = true) (run : PicoRun) :
    (r.afterRun run).magicValid = true ∧
      (r.afterRun run).panicCount = (if run.panic.isSome then r.panicCount + 1 else r.panicCount) ∧
      (r.afterRun run).lastDisplayedPanicCount =
        if .markDisplayed ∈ run.writes then r.panicCount else r.lastDisplayedPanicCount := by
  obtain ⟨valid', count, displayed⟩ := writes_counters valid run.writes
  unfold afterRun
  dsimp only
  cases run.panic with
  | none => exact ⟨valid', count, displayed⟩
  | some pieces =>
    obtain ⟨valid'', count', displayed'⟩ := recordAndReset_counters valid' pieces
    exact ⟨valid'', count'.trans (congrArg (· + 1) count), displayed'.trans displayed⟩

/-! ## A boot -/

/-- What a boot on a valid region is put down to. -/
theorem bootReason_eq (r : PersistRegion) (timer force : Bool) :
    r.bootReason true timer force =
      if r.lastDisplayedPanicCount < r.panicCount then .panic
      else if timer then .watchdogTimeout
      else if force then .watchdogForced
      else if isInitStage r.lastAppState then .initTimeout
      else .otherSoftReset := by
  unfold bootReason classifyReset
  simp only [Bool.not_true, Bool.false_eq_true, if_false, decide_eq_true_eq, gt_iff_lt]

/-- It is put down to a panic while the count is past the one displayed. -/
theorem bootReason_panic (r : PersistRegion) (timer force : Bool) :
    r.bootReason true timer force = .panic ↔ r.lastDisplayedPanicCount < r.panicCount := by
  rw [bootReason_eq]
  split_ifs with pending <;> simp [pending]

theorem bootReason_warm (r : PersistRegion) (timer force : Bool) :
    r.bootReason true timer force ≠ .coldBoot := by
  rw [bootReason_eq]
  split_ifs <;> simp

/-- A boot on a region that is valid: it appends the entry of the run before, and clears what is this run's
own. -/
theorem initAtBoot_eq {r : PersistRegion} (valid : r.magicValid = true) (timer force : Bool) :
    (r.initAtBoot timer force).1 =
      { r.ringAppend (r.bootReason true timer force) r.lastUptimeSecs with
        resetCount := r.resetCount + 1
        resetReason := (r.bootReason true timer force).toUInt32
        networkUp := 0
        lastApiFailCount := 0
        lastFreeHeap := 0 } := by
  have warm : ({ r with resetCount := r.resetCount + 1 } : PersistRegion).bootReason true timer force ≠
    .coldBoot := bootReason_warm _ timer force
  unfold initAtBoot
  rw [valid]
  dsimp only
  rw [if_pos rfl, if_neg warm]
  rfl

/-- What a boot says is a live reading of the region it leaves. -/
theorem initAtBoot_snapshot (r : PersistRegion) (timer force : Bool) :
    (r.initAtBoot timer force).2 = (r.initAtBoot timer force).1.readLive := rfl

theorem initAtBoot_reason {r : PersistRegion} (valid : r.magicValid = true) (timer force : Bool) :
    (r.initAtBoot timer force).2.resetReason = r.bootReason true timer force := by
  rw [initAtBoot_snapshot, initAtBoot_eq valid]
  exact ResetReason.fromUInt32_toUInt32 _

end PersistRegion

/-! ## A run and its boot -/

/-- Whether a run displayed what was there to display. -/
def PicoRun.Displays (run : PicoRun) : Prop := .markDisplayed ∈ run.writes

instance (run : PicoRun) : Decidable run.Displays := inferInstanceAs (Decidable (_ ∈ run.writes))

/-- The boot after a run is put down to a panic just where the run ended in one. -/
def Attributed (r : PersistRegion) (run : PicoRun) : Prop :=
  boots.effects r run = [.panic] ↔ run.panic.isSome = true

/-- **The condition** on a run. Where it ends in a panic, its count comes out past the one displayed; where it
doesn't, it displayed the count, or began with no panic undisplayed. -/
def Attributable (r : PersistRegion) (run : PicoRun) : Prop :=
  if run.panic.isSome then
    (if run.Displays then r.panicCount else r.lastDisplayedPanicCount) < r.panicCount + 1
  else run.Displays ∨ r.panicCount ≤ r.lastDisplayedPanicCount

/-- **One run** is attributed right just where it meets the condition. -/
theorem attributed_iff {r : PersistRegion} (valid : r.magicValid = true) (run : PicoRun) :
    Attributed r run ↔ Attributable r run := by
  obtain ⟨valid', count, displayed⟩ := PersistRegion.afterRun_counters valid run
  have reason : boots.effects r run = [.panic] ↔
      (r.afterRun run).lastDisplayedPanicCount < (r.afterRun run).panicCount := by
    show [((r.afterRun run).initAtBoot run.timer run.force).2.resetReason] = [.panic] ↔ _
    rw [PersistRegion.initAtBoot_reason valid', ← PersistRegion.bootReason_panic, List.singleton_inj]
  unfold Attributed Attributable
  rw [reason, count, displayed]
  cases run.panic.isSome with
  | true =>
    simp only [if_true, iff_true]
    exact Iff.rfl
  | false =>
    by_cases displays : run.Displays
    · have shown : .markDisplayed ∈ run.writes := displays
      simp [displays, shown]
    · have unshown : .markDisplayed ∉ run.writes := displays
      simp [displays, unshown]

/-- As long as the count doesn't wrap, every run that ends in a panic meets the condition. -/
theorem attributable_of_panic {r : PersistRegion} {run : PicoRun} (panicked : run.panic.isSome = true)
    (behind : r.lastDisplayedPanicCount ≤ r.panicCount) (room : r.panicCount.toNat + 1 < 4294967296) :
    Attributable r run := by
  have more : r.panicCount < r.panicCount + 1 := by
    have one : (1 : UInt32).toNat = 1 := rfl
    rw [UInt32.lt_iff_toNat_lt, UInt32.toNat_add, one, Nat.mod_eq_of_lt room]
    exact Nat.lt_succ_self _
  unfold Attributable
  rw [if_pos panicked]
  split
  · exact more
  · exact UInt32.lt_of_le_of_lt behind more

/-- A boot leaves a region valid. -/
theorem boots_valid {r : PersistRegion} (valid : r.magicValid = true) (run : PicoRun) :
    (boots.next r run).magicValid = true := by
  obtain ⟨valid', _, _⟩ := PersistRegion.afterRun_counters valid run
  show ((r.afterRun run).initAtBoot run.timer run.force).1.magicValid = true
  rw [PersistRegion.initAtBoot_eq valid']
  exact valid'

/-- **Resets attributed.** In a sequence of runs on a valid region, every boot is put down to a panic just
where the run before it ended in one, if and only if every run meets the condition. -/
theorem resets_attributed_iff {r : PersistRegion} (valid : r.magicValid = true) (runs : List PicoRun) :
    boots.Each Attributed r runs ↔ boots.Each Attributable r runs :=
  Machine.Each.iff_of_invariant (fun _ run valid _ => boots_valid valid run)
    (fun _ run valid => attributed_iff valid run) valid

instance (r : PersistRegion) (run : PicoRun) : Decidable (Attributable r run) :=
  inferInstanceAs (Decidable (ite _ _ _))

namespace Kitchen

/-- The region after a cold boot. -/
def coldRegion : PersistRegion :=
  PersistRegion.zeroRegion
    { magic := 0, resetCount := 0, panicCount := 0, lastDisplayedPanicCount := 0, resetReason := 0
      lastAppState := 0, lastUptimeSecs := 0, apiHeartbeat := 0, displayHeartbeat := 0
      watchdogHeartbeat := 0, lastFreeHeap := 0, networkUp := 0, lastApiFailCount := 0, ringHead := 0
      ring := Vector.replicate ringSize ⟨0, 0, 0, 0, 0, 0⟩, msgLen := 0
      msgBuf := Vector.replicate msgBufSize 0 }

/-- A run that ends in a panic. -/
def panicRun : PicoRun := ⟨[.recordAppState 2], some ["panicked at ", "display"], false, false⟩

/-- A run that shows the recovery view and is reset by hand. -/
def shownRun : PicoRun := ⟨[.markDisplayed, .recordAppState 2], none, false, false⟩

/-- A run that is reset by hand before it could show the view. -/
def hastyRun : PicoRun := ⟨[], none, false, false⟩

end Kitchen

/-- A panic, and a run that shows it, are attributed right. -/
theorem shownRun_attributed :
    boots.Each Attributed Kitchen.coldRegion [Kitchen.panicRun, Kitchen.shownRun] :=
  (resets_attributed_iff (by rfl) _).mpr (by decide +kernel)

/-- A run that is reset before it could show a panic is put down to one, though it didn't end in one. -/
theorem hastyRun_misattributed :
    ¬ ∀ (r : PersistRegion) (runs : List PicoRun), r.magicValid = true →
      boots.Each Attributed r runs := by
  intro always
  have each := always Kitchen.coldRegion [Kitchen.panicRun, Kitchen.hastyRun] (by rfl)
  have valid := boots_valid (r := Kitchen.coldRegion) (by rfl) Kitchen.panicRun
  have met := (attributed_iff valid Kitchen.hastyRun).mp each.2.1
  exact absurd met (by decide +kernel)

end AnovaOven
