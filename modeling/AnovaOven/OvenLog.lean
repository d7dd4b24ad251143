import AnovaOven.Api
import AnovaOven.Lib.Machine

/-!
# What the oven does, logged (`oven_log.rs`)

From successive reports: a line of the outputs on the first one and then whenever one of them changes, and a line for
each stage as it becomes the active one. The lines are those that `observe` returns.
-/

namespace AnovaOven

/-- A report's status, with the outputs that the log watches. -/
structure WatchedStatus extends OvenStatus where
  lampPreference : String
  fanSpeed : UInt32
  ventOpen : Bool
  deriving Repr, DecidableEq

/-- `Outputs`. -/
structure Outputs where
  lampOn : Bool
  lampPreference : String
  fanSpeed : UInt32
  ventOpen : Bool
  deriving Repr, DecidableEq

namespace Outputs

/-- `Outputs::of`. -/
def of (status : WatchedStatus) : Outputs := ⟨status.lampOn, status.lampPreference, status.fanSpeed, status.ventOpen⟩

/-- `on_off`. -/
def onOff (on : Bool) : String := if on then "on" else "off"

/-- `Outputs`'s `Display`. -/
def text (outputs : Outputs) : String :=
  "lamp=" ++ onOff outputs.lampOn ++ " lamp_preference=" ++ outputs.lampPreference ++ " fan=" ++
    toString outputs.fanSpeed.toNat ++ " vent=" ++ if outputs.ventOpen then "open" else "closed"

end Outputs

/-- `Logged`. -/
inductive Logged where
  | stageStarted (index : Nat)
  | outputs (text : String)
  deriving Repr, DecidableEq

/-- `OvenLog`. -/
structure OvenLog where
  outputs : Option Outputs
  stage : Option (Option String × Nat)
  deriving Repr, DecidableEq

namespace OvenLog

/-- `OvenLog::default`. -/
def default : OvenLog := ⟨none, none⟩

/-- The active stage of a report's cook. -/
def stageOf (status : WatchedStatus) : Option (Option String × Nat) :=
  status.activeStageIndex.map fun index => (status.cookId, index)

/-- `observe`'s line of a stage, where it isn't the one of the previous report. -/
def started (log : OvenLog) (status : WatchedStatus) : List Logged :=
  match (stageOf status).filter fun _ => stageOf status ≠ log.stage with
  | some (_, index) => [Logged.stageStarted index]
  | none => []

/-- `observe`'s line of the outputs, where they aren't those of the previous report. -/
def changed (log : OvenLog) (status : WatchedStatus) : List Logged :=
  match log.outputs with
  | none => [Logged.outputs (Outputs.of status).text]
  | some previous => if previous ≠ Outputs.of status then [Logged.outputs (Outputs.of status).text] else []

/-- `observe`. -/
def observe (log : OvenLog) (status : WatchedStatus) : OvenLog × List Logged :=
  (⟨some (Outputs.of status), stageOf status⟩, started log status ++ changed log status)

end OvenLog

/-- The log as a machine: its runs are the oven's reports. -/
def ovenLog : Machine OvenLog WatchedStatus Logged := ⟨OvenLog.observe⟩

end AnovaOven
