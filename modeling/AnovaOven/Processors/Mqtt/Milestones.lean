import AnovaOven.Api
import AnovaOven.Lib.Machine

/-!
# Milestones (`processors/mqtt/milestones.rs`)

The milestones between two snapshots, and the processor's part in them: `on_change` keeps the last
snapshot and announces what `milestones` makes of it and the new one.
-/

namespace AnovaOven

/-- `Snapshot`. -/
structure Snapshot where
  connected : Bool
  cooking : Bool
  cookKey : Option String
  recipeTitle : Option String
  stageIndex : Option Nat
  stages : List Stage
  nextStageReady : Bool
  cookDone : Bool
  unit : String
  deriving Repr, DecidableEq

/-- `Milestone`. -/
inductive Milestone where
  | cookStarted
  | preheatDone
  | stageStarted
  | stageWaiting
  | cookDone
  | cookStopped
  | ovenLost
  deriving Repr, DecidableEq

namespace Snapshot

/-- `Snapshot::stage`. -/
def stage (s : Snapshot) (index : Option Nat) : Option Stage := index.bind fun i => s.stages[i]?

/-- Two snapshots of different cooks, as far as their keys tell. -/
def newCook (prev next : Snapshot) : Bool :=
  match prev.cookKey, next.cookKey with
  | some a, some b => a ≠ b
  | _, _ => false

/-- The milestones of a stage that ends, within one cook. -/
def stageMilestones (prev next : Snapshot) : List Milestone :=
  match prev.stageIndex, next.stageIndex with
  | some before, some after =>
    if before ≠ after then
      if (prev.stage (some before)).any fun stage => stage.kind = "preheat" then [.preheatDone]
      else [.stageStarted]
    else []
  | _, _ => []

end Snapshot

/-- `milestones`. -/
def milestones (prev next : Snapshot) : List Milestone :=
  let lost := if prev.connected && !next.connected && prev.cooking then [.ovenLost] else []
  if !next.connected then lost
  else match prev.cooking, next.cooking with
    | false, true => lost ++ [.cookStarted]
    | true, false => lost ++ if !prev.cookDone then [.cookStopped] else []
    | true, true =>
      if prev.newCook next then lost ++ [.cookStarted]
      else lost ++ prev.stageMilestones next ++
        (if !prev.nextStageReady && next.nextStageReady then [.stageWaiting] else []) ++
        if !prev.cookDone && next.cookDone then [.cookDone] else []
    | false, false => lost

/-- `on_change`'s part in the milestones: the last snapshot, and what is announced of the new one. -/
def announce : Option Snapshot → Snapshot → Option Snapshot × List Milestone
  | none, next => (some next, [])
  | some prev, next => (some next, milestones prev next)

/-- The announcements as a machine: its runs are sequences of snapshots. -/
def milestoneFeed : Machine (Option Snapshot) Snapshot Milestone := ⟨announce⟩

end AnovaOven
