/-!
# Resets (`anova-oven-pico-core/src/reset.rs`, `persist_data.rs`)

What a boot is put down to, and what is told of the resets that were.
-/

namespace AnovaOven

/-- `ResetReason`. -/
inductive ResetReason where
  | unknown
  | coldBoot
  | panic
  | watchdogTimeout
  | watchdogForced
  | otherSoftReset
  | initTimeout
  deriving Repr, DecidableEq

namespace ResetReason

/-- The discriminant (`reason as u32`). -/
def toUInt32 : ResetReason → UInt32
  | unknown => 0
  | coldBoot => 1
  | panic => 2
  | watchdogTimeout => 3
  | watchdogForced => 4
  | otherSoftReset => 5
  | initTimeout => 6

/-- `ResetReason::from_u32`. -/
def fromUInt32 (v : UInt32) : ResetReason :=
  if v = 1 then coldBoot
  else if v = 2 then panic
  else if v = 3 then watchdogTimeout
  else if v = 4 then watchdogForced
  else if v = 5 then otherSoftReset
  else if v = 6 then initTimeout
  else unknown

/-- A reason reads back from its discriminant. -/
@[simp] theorem fromUInt32_toUInt32 (reason : ResetReason) : fromUInt32 reason.toUInt32 = reason := by
  cases reason <;> rfl

end ResetReason

/-- `INIT_STAGE_WIFI`. -/
def initStageWifi : UInt32 := 100

/-- `INIT_STAGE_DHCP`. -/
def initStageDhcp : UInt32 := 101

/-- `is_init_stage`. -/
def isInitStage (s : UInt32) : Bool := s = initStageWifi || s = initStageDhcp

/-- `classify_reset`. -/
def classifyReset (magicWasValid panicCountAdvanced : Bool) (lastAppState : UInt32)
    (watchdogTimer watchdogForce : Bool) : ResetReason :=
  if !magicWasValid then .coldBoot
  else if panicCountAdvanced then .panic
  else if watchdogTimer then .watchdogTimeout
  else if watchdogForce then .watchdogForced
  else if isInitStage lastAppState then .initTimeout
  else .otherSoftReset

/-- `MSG_BUF_SIZE`. -/
def msgBufSize : Nat := 512

/-- `RING_SIZE`. -/
def ringSize : Nat := 8

/-- `ResetHistoryEntry`. -/
structure ResetHistoryEntry where
  resetReason : ResetReason
  uptimeSecs : UInt32
  apiHeartbeat : UInt32
  freeHeap : UInt32
  networkUp : Bool
  apiFailCount : UInt32
  deriving Repr, DecidableEq

/-- `Snapshot`, as `read_live` reads it. The last app state is its discriminant, without the label, and the
uptime of this run is left out. -/
structure PersistSnapshot where
  magicValid : Bool
  resetCount : UInt32
  panicCount : UInt32
  lastDisplayedPanicCount : UInt32
  messageIsNew : Bool
  resetReason : ResetReason
  lastAppState : UInt32
  lastUptimeSecs : UInt32
  apiHeartbeat : UInt32
  displayHeartbeat : UInt32
  watchdogHeartbeat : UInt32
  lastFreeHeap : UInt32
  networkUp : Bool
  lastApiFailCount : UInt32
  ringHead : UInt32
  resetHistory : List ResetHistoryEntry
  message : Option String
  deriving Repr, DecidableEq

end AnovaOven
