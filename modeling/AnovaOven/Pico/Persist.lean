import AnovaOven.Lib.Machine
import AnovaOven.Lib.Utf8
import AnovaOven.PicoCore.Reset

/-!
# The crash record (`anova-oven-pico/src/persist.rs`)

A region of memory that a reset leaves as it is: counters, breadcrumbs of the run, a ring of the last resets
and the last panic's message. Words are 32 bits wide, and so is `usize`; arithmetic wraps, as it does in a
release build. What the watchdog's register reads at a boot is an argument of it.
-/

namespace AnovaOven

open JsonText

/-- `MAGIC`. -/
def persistMagic : UInt32 := 0xA9B0C1D4

/-- `RingEntry`. -/
structure RingEntry where
  resetReason : UInt32
  uptimeSecs : UInt32
  apiHeartbeat : UInt32
  freeHeap : UInt32
  networkUp : UInt32
  apiFailCount : UInt32
  deriving Repr, DecidableEq

/-- `PersistRegion`. -/
structure PersistRegion where
  magic : UInt32
  resetCount : UInt32
  panicCount : UInt32
  lastDisplayedPanicCount : UInt32
  resetReason : UInt32
  lastAppState : UInt32
  lastUptimeSecs : UInt32
  apiHeartbeat : UInt32
  displayHeartbeat : UInt32
  watchdogHeartbeat : UInt32
  lastFreeHeap : UInt32
  networkUp : UInt32
  lastApiFailCount : UInt32
  ringHead : UInt32
  ring : Vector RingEntry ringSize
  msgLen : UInt32
  msgBuf : Vector UInt8 msgBufSize

/-- A ring entry as it is told. -/
def RingEntry.history (entry : RingEntry) : ResetHistoryEntry where
  resetReason := .fromUInt32 entry.resetReason
  uptimeSecs := entry.uptimeSecs
  apiHeartbeat := entry.apiHeartbeat
  freeHeap := entry.freeHeap
  networkUp := entry.networkUp ≠ 0
  apiFailCount := entry.apiFailCount

/-- `MsgWriter`, with the buffer it writes to. -/
structure MsgWriter where
  buf : Vector UInt8 msgBufSize
  pos : Nat

/-- The loop of `write_str`: bytes from a position on. -/
def writeBytes (buf : Vector UInt8 msgBufSize) (pos : Nat) : Bytes → Vector UInt8 msgBufSize
  | [] => buf
  | b :: rest => writeBytes (buf.setIfInBounds pos b) (pos + 1) rest

/-- `MsgWriter::write_str`. -/
def MsgWriter.writeStr (w : MsgWriter) (s : String) : MsgWriter :=
  let bytes := utf8 s
  let remaining := msgBufSize - w.pos
  let n := min bytes.length remaining
  ⟨writeBytes w.buf w.pos (bytes.take n), w.pos + n⟩

namespace PersistRegion

/-- `magic_valid`. -/
def magicValid (r : PersistRegion) : Bool := r.magic = persistMagic

/-- `zero_region`: the message's bytes are left. -/
def zeroRegion (r : PersistRegion) : PersistRegion where
  magic := persistMagic
  resetCount := 0
  panicCount := 0
  lastDisplayedPanicCount := 0
  resetReason := 0
  lastAppState := 0
  lastUptimeSecs := 0
  apiHeartbeat := 0
  displayHeartbeat := 0
  watchdogHeartbeat := 0
  lastFreeHeap := 0
  networkUp := 0
  lastApiFailCount := 0
  ringHead := 0
  ring := Vector.replicate ringSize ⟨0, 0, 0, 0, 0, 0⟩
  msgLen := 0
  msgBuf := r.msgBuf

/-- The slot of the ring that a count comes to (`% RING_SIZE`). -/
def ringSlot (count : UInt32) : Fin ringSize :=
  ⟨count.toNat % ringSize, Nat.mod_lt _ (by decide)⟩

/-- The entry that `ring_append` writes: the live fields, with a reason and an uptime. -/
def liveEntry (r : PersistRegion) (reason : ResetReason) (uptimeSecs : UInt32) : RingEntry where
  resetReason := reason.toUInt32
  uptimeSecs := uptimeSecs
  apiHeartbeat := r.apiHeartbeat
  freeHeap := r.lastFreeHeap
  networkUp := r.networkUp
  apiFailCount := r.lastApiFailCount

/-- `ring_append`. -/
def ringAppend (r : PersistRegion) (reason : ResetReason) (uptimeSecs : UInt32) : PersistRegion :=
  { r with
    ring := r.ring.set (ringSlot r.ringHead) (r.liveEntry reason uptimeSecs) (ringSlot r.ringHead).isLt
    ringHead := r.ringHead + 1 }

/-- `ring_read`. -/
def ringRead (r : PersistRegion) : List ResetHistoryEntry :=
  (List.range (min r.ringHead.toNat ringSize)).map fun i =>
    (r.ring.get (ringSlot (r.ringHead + 8 - 1 - UInt32.ofNat i))).history

/-- The message of `read_live`. -/
def readMessage (r : PersistRegion) : Option String :=
  let len := r.msgLen.toNat
  if r.magicValid ∧ len > 0 ∧ len ≤ msgBufSize then some (readText (r.msgBuf.toList.take len))
  else none

/-- `read_live`. -/
def readLive (r : PersistRegion) : PersistSnapshot where
  magicValid := r.magicValid
  resetCount := r.resetCount
  panicCount := r.panicCount
  lastDisplayedPanicCount := r.lastDisplayedPanicCount
  messageIsNew := r.panicCount > r.lastDisplayedPanicCount
  resetReason := .fromUInt32 r.resetReason
  lastAppState := r.lastAppState
  lastUptimeSecs := r.lastUptimeSecs
  apiHeartbeat := r.apiHeartbeat
  displayHeartbeat := r.displayHeartbeat
  watchdogHeartbeat := r.watchdogHeartbeat
  lastFreeHeap := r.lastFreeHeap
  networkUp := r.networkUp ≠ 0
  lastApiFailCount := r.lastApiFailCount
  ringHead := r.ringHead
  resetHistory := r.ringRead
  message := r.readMessage

/-- What `init_at_boot` puts the boot down to, on a region that is valid or was made so. -/
def bootReason (r : PersistRegion) (magicWasValid timer force : Bool) : ResetReason :=
  classifyReset magicWasValid (r.panicCount > r.lastDisplayedPanicCount) r.lastAppState timer force

/-- `init_at_boot`. -/
def initAtBoot (r : PersistRegion) (timer force : Bool) : PersistRegion × PersistSnapshot :=
  let magicWasValid := r.magicValid
  let r := if magicWasValid then r else r.zeroRegion
  let r := { r with resetCount := r.resetCount + 1 }
  let reason := r.bootReason magicWasValid timer force
  let r := { r with resetReason := reason.toUInt32 }
  let r := if reason = .coldBoot then r else r.ringAppend reason r.lastUptimeSecs
  let r := { r with networkUp := 0, lastApiFailCount := 0, lastFreeHeap := 0 }
  (r, r.readLive)

/-- `mark_displayed`. -/
def markDisplayed (r : PersistRegion) : PersistRegion :=
  if r.magicValid then { r with lastDisplayedPanicCount := r.panicCount } else r

/-- `record_and_reset`, up to the reset: the message comes in pieces. -/
def recordAndReset (r : PersistRegion) (pieces : List String) : PersistRegion :=
  let r := if r.magicValid then r else r.zeroRegion
  let r := { r with panicCount := r.panicCount + 1 }
  let w := pieces.foldl MsgWriter.writeStr ⟨r.msgBuf, 0⟩
  { r with msgBuf := w.buf, msgLen := UInt32.ofNat w.pos }

end PersistRegion

/-- What a run writes while it runs. -/
inductive RunWrite where
  | markDisplayed
  | recordAppState (discriminant : UInt32)
  | recordUptimeSecs (secs : UInt32)
  | recordFreeHeap (bytes : UInt32)
  | recordNetworkUp
  | recordApiFailCount (n : UInt32)
  | bumpApiHeartbeat
  | bumpDisplayHeartbeat
  | bumpWatchdogHeartbeat
  deriving Repr, DecidableEq

/-- `mark_displayed`, the `record_…` functions and the `bump_…` functions. -/
def PersistRegion.write (r : PersistRegion) : RunWrite → PersistRegion
  | .markDisplayed => r.markDisplayed
  | .recordAppState discriminant => { r with lastAppState := discriminant }
  | .recordUptimeSecs secs => { r with lastUptimeSecs := secs }
  | .recordFreeHeap bytes => { r with lastFreeHeap := bytes }
  | .recordNetworkUp => { r with networkUp := 1 }
  | .recordApiFailCount n => { r with lastApiFailCount := n }
  | .bumpApiHeartbeat => { r with apiHeartbeat := r.apiHeartbeat + 1 }
  | .bumpDisplayHeartbeat => { r with displayHeartbeat := r.displayHeartbeat + 1 }
  | .bumpWatchdogHeartbeat => { r with watchdogHeartbeat := r.watchdogHeartbeat + 1 }

/-- What is called on the region, within a run and between runs. -/
inductive PersistCall where
  | ringAppend (reason : ResetReason) (uptimeSecs : UInt32)
  | initAtBoot (timer force : Bool)
  | write (write : RunWrite)
  | recordAndReset (pieces : List String)

/-- The region after a call. -/
def PersistRegion.call (r : PersistRegion) : PersistCall → PersistRegion
  | .ringAppend reason uptimeSecs => r.ringAppend reason uptimeSecs
  | .initAtBoot timer force => (r.initAtBoot timer force).1
  | .write write => r.write write
  | .recordAndReset pieces => r.recordAndReset pieces

/-- A run of the firmware after its boot: what it wrote, the pieces of its panic's or fault's message where it
ended in one, and what the watchdog's register reads at the boot that follows. -/
structure PicoRun where
  writes : List RunWrite
  panic : Option (List String)
  timer : Bool
  force : Bool

/-- The region as a run leaves it. -/
def PersistRegion.afterRun (r : PersistRegion) (run : PicoRun) : PersistRegion :=
  let r := run.writes.foldl PersistRegion.write r
  match run.panic with
  | some pieces => r.recordAndReset pieces
  | none => r

/-- The firmware as a machine: a run, and the boot after it, which says what it puts itself down to. -/
def boots : Machine PersistRegion PicoRun ResetReason where
  step r run :=
    let (r, snapshot) := (r.afterRun run).initAtBoot run.timer run.force
    (r, [snapshot.resetReason])

end AnovaOven
