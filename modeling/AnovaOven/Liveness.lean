import AnovaOven.Lib.Machine

/-!
# Upstream liveness (`liveness.rs`)

Whether the oven can be reached, since when it can't, and when it last told its state. Times are
milliseconds since the epoch; the reading each call takes of the clock is its argument.
-/

namespace AnovaOven

/-- `Liveness`. A time of 0 stands for none. -/
structure Liveness where
  lastStateMs : Nat
  connected : Bool
  ovenOnline : Bool
  disconnectedSinceMs : Nat
  ovenOfflineSinceMs : Nat
  readTimeoutSecs : Nat
  deriving Repr, DecidableEq

namespace Liveness

/-- `Liveness::new`: down from the start. -/
def new (readTimeoutSecs now : Nat) : Liveness where
  lastStateMs := 0
  connected := false
  ovenOnline := true
  disconnectedSinceMs := now
  ovenOfflineSinceMs := 0
  readTimeoutSecs := readTimeoutSecs

/-- `Liveness::record_state`. -/
def recordState (l : Liveness) (now : Nat) : Liveness := { l with lastStateMs := now }

/-- `Liveness::connected`: the socket is connected, and the oven is online behind it. -/
def isConnected (l : Liveness) : Bool := l.connected && l.ovenOnline

/-- `Liveness::track_transition`. -/
def trackTransition (l : Liveness) (was : Bool) (now : Nat) : Liveness :=
  if l.isConnected then { l with disconnectedSinceMs := 0 }
  else if was then { l with disconnectedSinceMs := now }
  else l

/-- `Liveness::set_connected`. -/
def setConnected (l : Liveness) (connected : Bool) (now : Nat) : Liveness :=
  { l with connected := connected }.trackTransition l.isConnected now

/-- Since when an oven that is offline is: as it is told, or as it is known already, or from now. -/
def offlineSince (l : Liveness) (told : Option Nat) (seen : Nat) : Nat :=
  (told.filter fun ms => ms ≠ 0).getD
    (if l.ovenOfflineSinceMs = 0 then seen else l.ovenOfflineSinceMs)

/-- `Liveness::set_oven_online`. It may read the clock for the transition, and again for the oven. -/
def setOvenOnline (l : Liveness) (online : Bool) (told : Option Nat) (now seen : Nat) : Liveness :=
  let l := { l with ovenOnline := online }.trackTransition l.isConnected now
  if online then { l with ovenOfflineSinceMs := 0 }
  else { l with ovenOfflineSinceMs := l.offlineSince told seen }

/-- `Liveness::disconnected_secs`. -/
def disconnectedSecs (l : Liveness) (now : Nat) : Nat :=
  if l.disconnectedSinceMs = 0 then 0 else (now - l.disconnectedSinceMs) / 1000

/-- `Liveness::oven_offline_secs`. -/
def ovenOfflineSecs (l : Liveness) (now : Nat) : Option Nat :=
  if l.ovenOfflineSinceMs = 0 then none else some ((now - l.ovenOfflineSinceMs) / 1000)

end Liveness

/-- A call, with what it reads of the clock. -/
inductive LivenessCall where
  | recordState (now : Nat)
  | setConnected (connected : Bool) (now : Nat)
  | setOvenOnline (online : Bool) (told : Option Nat) (now seen : Nat)
  deriving Repr, DecidableEq

/-- What a call reads of the clock for the transition. -/
def LivenessCall.now : LivenessCall → Nat
  | .recordState now => now
  | .setConnected _ now => now
  | .setOvenOnline _ _ now _ => now

/-- All it reads of the clock. -/
def LivenessCall.readings : LivenessCall → List Nat
  | .recordState now => [now]
  | .setConnected _ now => [now]
  | .setOvenOnline _ _ now seen => [now, seen]

/-- The tracker as a machine, which says nothing. -/
def liveness : Machine Liveness LivenessCall Empty where
  step l
    | .recordState now => (l.recordState now, [])
    | .setConnected connected now => (l.setConnected connected now, [])
    | .setOvenOnline online told now seen => (l.setOvenOnline online told now seen, [])

end AnovaOven
