import AnovaOven.Laws.ResetReasons
import AnovaOven.Lib.RingBuffer

/-!
# Laws of the reset ring

The region's ring is a ring buffer of entries as they are told (`asRing`): an append writes one, with what
the live fields say at the time, and a read reads them (`ringRead_eq`), while the 32-bit counter doesn't
wrap. So after any calls on a region that was zeroed, the last resets are told, the newest first
(`resets_told`).
-/

namespace AnovaOven

instance : NeZero ringSize := ⟨by decide⟩

namespace PersistRegion

/-- The region's ring, of entries as they are told. -/
def asRing (r : PersistRegion) : RingBuffer ResetHistoryEntry ringSize :=
  ⟨r.ring.map RingEntry.history, r.ringHead.toNat⟩

/-- What an append tells of a run: the reason and the uptime it is given, and the breadcrumbs as they are. -/
def entryNow (r : PersistRegion) (reason : ResetReason) (uptimeSecs : UInt32) : ResetHistoryEntry where
  resetReason := reason
  uptimeSecs := uptimeSecs
  apiHeartbeat := r.apiHeartbeat
  freeHeap := r.lastFreeHeap
  networkUp := r.networkUp ≠ 0
  apiFailCount := r.lastApiFailCount

theorem liveEntry_history (r : PersistRegion) (reason : ResetReason) (uptimeSecs : UInt32) :
    (r.liveEntry reason uptimeSecs).history = r.entryNow reason uptimeSecs := by
  unfold RingEntry.history liveEntry entryNow
  rw [ResetReason.fromUInt32_toUInt32]

/-- **An append** pushes the entry of the moment. -/
theorem ringAppend_asRing {r : PersistRegion} (room : r.ringHead.toNat + 1 < 4294967296)
    (reason : ResetReason) (uptimeSecs : UInt32) :
    (r.ringAppend reason uptimeSecs).asRing = r.asRing.push (r.entryNow reason uptimeSecs) := by
  have head : (r.ringHead + 1).toNat = r.ringHead.toNat + 1 := by
    rw [UInt32.toNat_add]
    exact Nat.mod_eq_of_lt room
  have slots : (r.ring.set (ringSlot r.ringHead) (r.liveEntry reason uptimeSecs)
      (ringSlot r.ringHead).isLt).map RingEntry.history =
      (r.ring.map RingEntry.history).set (r.ringHead.toNat % ringSize) (r.entryNow reason uptimeSecs)
        (ringSlot r.ringHead).isLt := by
    rw [Vector.map_set, liveEntry_history]
    rfl
  exact congrArg₂ RingBuffer.mk slots head

/-- The slot that a read comes to, as the words are wide. -/
theorem ringSlot_back {head : UInt32} (room : head.toNat + 8 < 4294967296) {i : Nat} (back : i < 8) :
    ringSlot (head + 8 - 1 - UInt32.ofNat i) = RingBuffer.slot ringSize (head.toNat + ringSize - 1 - i) := by
  have past : (head + 8).toNat = head.toNat + 8 := by
    rw [UInt32.toNat_add]
    exact Nat.mod_eq_of_lt room
  have newest : (head + 8 - 1).toNat = head.toNat + 7 := by
    rw [UInt32.toNat_sub_of_le, past]
    · rfl
    · rw [UInt32.le_iff_toNat_le, past]
      exact Nat.le_add_left 1 _
  have index : (UInt32.ofNat i).toNat = i := UInt32.toNat_ofNat_of_lt' (Nat.lt_trans back (by decide))
  have at' : (head + 8 - 1 - UInt32.ofNat i).toNat = head.toNat + ringSize - 1 - i := by
    rw [UInt32.toNat_sub_of_le, newest, index]
    · rfl
    · rw [UInt32.le_iff_toNat_le, newest, index]
      omega
  exact Fin.ext (congrArg (· % ringSize) at')

/-- **A read** reads the ring. -/
theorem ringRead_eq {r : PersistRegion} (room : r.ringHead.toNat + 8 < 4294967296) :
    r.ringRead = r.asRing.read := by
  apply List.map_congr_left
  intro i item
  have back : i < 8 := Nat.lt_of_lt_of_le (List.mem_range.mp item) (Nat.min_le_right _ _)
  rw [ringSlot_back room back]
  have slot := (RingBuffer.slot ringSize (r.ringHead.toNat + ringSize - 1 - i)).isLt
  exact (Vector.getElem_map RingEntry.history slot).symm

/-! ## Calls -/

/-- What a call appends: at a boot, if the region was valid, the run before it. -/
def appended (r : PersistRegion) : PersistCall → List ResetHistoryEntry
  | .ringAppend reason uptimeSecs => [r.entryNow reason uptimeSecs]
  | .initAtBoot timer force =>
    if r.magicValid then [r.entryNow (r.bootReason true timer force) r.lastUptimeSecs] else []
  | .write _ => []
  | .recordAndReset _ => []

theorem write_asRing (r : PersistRegion) (w : RunWrite) : (r.write w).asRing = r.asRing := by
  cases w with
  | markDisplayed =>
    show r.markDisplayed.asRing = r.asRing
    unfold markDisplayed
    split <;> rfl
  | _ => rfl

/-- A call keeps the region valid. -/
theorem call_valid {r : PersistRegion} (valid : r.magicValid = true) (call : PersistCall) :
    (r.call call).magicValid = true := by
  cases call with
  | ringAppend reason uptimeSecs => exact valid
  | initAtBoot timer force =>
    show (r.initAtBoot timer force).1.magicValid = true
    rw [initAtBoot_eq valid]
    exact valid
  | write w => exact (write_counters valid w).1
  | recordAndReset pieces => exact (recordAndReset_counters valid pieces).1

/-- **A call** pushes what it appends. -/
theorem call_asRing {r : PersistRegion} (valid : r.magicValid = true)
    (room : r.ringHead.toNat + 1 < 4294967296) (call : PersistCall) :
    (r.call call).asRing = (r.appended call).foldl RingBuffer.push r.asRing := by
  cases call with
  | ringAppend reason uptimeSecs => exact ringAppend_asRing room reason uptimeSecs
  | initAtBoot timer force =>
    have booted : (r.initAtBoot timer force).1.asRing =
        (r.ringAppend (r.bootReason true timer force) r.lastUptimeSecs).asRing := by
      rw [initAtBoot_eq valid]
      rfl
    have entry : r.appended (.initAtBoot timer force) =
        [r.entryNow (r.bootReason true timer force) r.lastUptimeSecs] := if_pos valid
    show (r.initAtBoot timer force).1.asRing = _
    rw [booted, entry]
    exact ringAppend_asRing room _ _
  | write w => exact write_asRing r w
  | recordAndReset pieces =>
    show (r.recordAndReset pieces).asRing = r.asRing
    unfold recordAndReset
    rw [if_pos valid]
    rfl

end PersistRegion

/-- The region as a machine of calls, which says what is appended. -/
def appends : Machine PersistRegion PersistCall ResetHistoryEntry where
  step r call := (r.call call, r.appended call)

/-- After any calls on a zeroed region, the ring holds what was appended. -/
theorem appends_holds (r : PersistRegion) (calls : List PersistCall)
    (room : (appends.trace r.zeroRegion calls).length + 8 < 4294967296) :
    (appends.run r.zeroRegion calls).magicValid = true ∧
      (appends.run r.zeroRegion calls).asRing.Holds (appends.trace r.zeroRegion calls).reverse := by
  induction calls using List.reverseRecOn with
  | nil => exact ⟨rfl, RingBuffer.holds_nil _⟩
  | append_singleton calls call ih =>
    rw [Machine.trace_append, Machine.trace_cons, Machine.trace_nil, List.append_nil] at room ⊢
    rw [Machine.run_append, List.reverse_append]
    rw [List.length_append] at room
    obtain ⟨valid, holds⟩ := ih (by omega)
    have head : (appends.run r.zeroRegion calls).ringHead.toNat =
        (appends.trace r.zeroRegion calls).length := holds.head.trans List.length_reverse
    refine ⟨PersistRegion.call_valid valid call, ?_⟩
    show ((appends.run r.zeroRegion calls).call call).asRing.Holds _
    rw [PersistRegion.call_asRing valid (by omega)]
    exact holds.pushes _

/-- **The history of resets.** After any calls on a region that was zeroed, of which some appended an entry
(fewer than 2³² − 8), what is read are the last eight of those entries, or all, the newest first, each as
the region's fields were when it was appended. -/
theorem resets_told (r : PersistRegion) (calls : List PersistCall)
    (room : (appends.trace r.zeroRegion calls).length + 8 < 4294967296) :
    (appends.run r.zeroRegion calls).ringRead =
      (appends.trace r.zeroRegion calls).reverse.take ringSize := by
  obtain ⟨_, holds⟩ := appends_holds r calls room
  have head : (appends.run r.zeroRegion calls).ringHead.toNat =
      (appends.trace r.zeroRegion calls).length := holds.head.trans List.length_reverse
  rw [PersistRegion.ringRead_eq (by omega)]
  exact holds.read

namespace Kitchen

/-- A boot after a run that fed the watchdog for a while, and nine appends out of turn: ten entries in all. -/
def resetCalls : List PersistCall :=
  [.write (.recordUptimeSecs 90), .write (.recordFreeHeap 4096), .write .bumpApiHeartbeat,
    .initAtBoot true false] ++
    (List.range 9).flatMap fun i => [.write .bumpApiHeartbeat, .ringAppend .panic (UInt32.ofNat (10 * i))]

end Kitchen

/-- The eight later ones of ten resets are told, the latest first. -/
theorem resets_told_ten :
    (appends.run Kitchen.coldRegion.zeroRegion Kitchen.resetCalls).ringRead =
      [⟨.panic, 80, 10, 0, false, 0⟩, ⟨.panic, 70, 9, 0, false, 0⟩, ⟨.panic, 60, 8, 0, false, 0⟩,
        ⟨.panic, 50, 7, 0, false, 0⟩, ⟨.panic, 40, 6, 0, false, 0⟩, ⟨.panic, 30, 5, 0, false, 0⟩,
        ⟨.panic, 20, 4, 0, false, 0⟩, ⟨.panic, 10, 3, 0, false, 0⟩] :=
  (resets_told Kitchen.coldRegion Kitchen.resetCalls (by decide +kernel)).trans (by decide +kernel)

end AnovaOven
