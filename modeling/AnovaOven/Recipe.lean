import AnovaOven.Api

/-!
# Preheat stage ids (`recipe.rs`)

The oven binds a preheat to the stage after it by their shared id, so a preheat followed by a cook
stage is renamed after it before a recipe is started.
-/

namespace AnovaOven

/-- The id a preheat takes from the stage after it: the successor's own, suffixed. None for a stage
that keeps its id. -/
def preheatIdFrom (stage next : Stage) : Option String :=
  if stage.kind ≠ "preheat" then none
  else if next.kind = "preheat" then none
  else next.id.map fun nextId => nextId ++ "-preheat"

/-- `rewrite_preheat_stage_ids`: one pass over neighbouring stages. A rewritten stage is a preheat,
and a preheat's id is never read, so the pass reads the ids the list came with. -/
def rewritePreheatStageIds : List Stage → List Stage
  | [] => []
  | [stage] => [stage]
  | stage :: next :: rest =>
    (match preheatIdFrom stage next with
      | some newId => { stage with id := some newId }
      | none => stage) :: rewritePreheatStageIds (next :: rest)

end AnovaOven
