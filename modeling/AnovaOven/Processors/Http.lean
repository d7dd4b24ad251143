import AnovaOven.Local

/-!
# Saving the current cook (`POST /current-cook/save` in `processors/http.rs`)

`handle_save_current_cook` as the steps it takes one by one, for any number of saves at once: it reads
the current cook from the state machine, looks its recipe up in the files, writes the recipe, has the
state machine read the recipes again, and has it link the cook. What it asks of the state machine is a
turn of the server, and so is its write. Nothing orders its steps against the server's other turns.

Local mode is the mode modelled. The state machine answers each command it is sent. Log lines are left
out.
-/

namespace AnovaOven

/-- `is_saved`: whether a cook is from a recipe that's still in the files. A read error counts as
saved. -/
def isSaved (files : Except StoreError (List Recipe)) (cook : CurrentCook) : Bool :=
  match cook.recipeId, files with
  | none, _ => false
  | some id, .ok recipes => recipes.any fun recipe => recipe.id = id
  | some _, .error _ => true

/-! ## What a save writes -/

/-- The title of a save: the one asked for, unless it's blank. -/
def saveTitle (title : Option String) (cook : CurrentCook) : String :=
  (title.filter fun t => trim t ≠ "").getD cook.displayName

/-- The stages of a save: no ids, and the flags the oven dropped set again. -/
def saveStages (cook : CurrentCook) : List Stage :=
  cook.stages.map fun stage => restoreEndFlags { stage with id := none }

/-- The recipe `RecipeFiles::create` makes of a draft, under a fresh id. -/
def createRecipe (recipeId : String) (stageId : Nat → String) (title : String)
    (stages : List Stage) : Except RecipeError Recipe :=
  normalize stageId
    { id := recipeId, title := title, stageCount := 0, stages := stages, source := .own }

/-- What a save makes of the current cook. -/
def savedRecipe (recipeId : String) (stageId : Nat → String) (title : Option String)
    (cook : CurrentCook) : Except RecipeError Recipe :=
  createRecipe recipeId stageId (saveTitle title cook) (saveStages cook)

/-- The order of `RecipeFiles::list`: the user's own first, then bookmarked ones, each by title. -/
def listedBefore (a b : Recipe) : Bool :=
  if a.source ≠ b.source then b.source = .bookmarked
  else if a.title ≠ b.title then a.title < b.title
  else a.id ≤ b.id

/-! ## Steps -/

/-- Where a save stands: what it does next. -/
inductive SaveStep where
  | read
  | check (cook : CurrentCook)
  | create (cook : CurrentCook)
  | refresh (recipe : Recipe)
  | link (recipe : Recipe)
  | done
  deriving DecidableEq

/-- What a save answers. -/
inductive SaveReply where
  | created (recipe : Recipe)
  | smError (error : SmError)
  | conflict (text : String)
  | recipeError (error : RecipeError)

/-- What a step of a save reads from outside: the state machine's turn, the random ids, and whether
reading and writing the recipe files fails. -/
structure SaveContext where
  env : Env
  recipeId : String
  stageId : Nat → String
  unreadable : Option StoreError
  unwritable : Option StoreError

/-- `files.create`: the recipe, once it's written. -/
def SaveContext.create (c : SaveContext) (title : Option String) (cook : CurrentCook) :
    Except RecipeError Recipe := do
  let recipe ← savedRecipe c.recipeId c.stageId title cook
  match c.unwritable with
  | some e => .error (.store e)
  | none => .ok recipe

/-- The recipe files as a save reads them. -/
def SaveContext.files (c : SaveContext) (store : LocalStore) : Except StoreError (List Recipe) :=
  match c.unreadable with
  | some e => .error e
  | none => .ok store.disk.recipes

namespace SaveStep

/-- Where a save stands after a step, and its answer where it is done. A link the state machine refuses
is only logged. -/
def next (c : SaveContext) (title : Option String) (server : LocalServer) :
    SaveStep → SaveStep × Option SaveReply
  | read => match server.near.currentCook with
    | some cook => (check cook, none)
    | none => (done, some (.smError .notCooking))
  | check cook =>
    if isSaved (c.files server.far) cook then
      (done, some (.conflict "this cook's recipe is already saved"))
    else (create cook, none)
  | create cook => match c.create title cook with
    | .ok recipe => (refresh recipe, none)
    | .error e => (done, some (.recipeError e))
  | refresh recipe => (link recipe, none)
  | link recipe => (done, some (.created recipe))
  | done => (done, none)

/-- The turn of the server a step is. -/
def turn (c : SaveContext) (title : Option String) (store : LocalStore) :
    SaveStep → Option LocalTurn
  | read => some (.near (c.env, .command .getCurrentCook))
  | check _ => none
  | create cook => match c.create title cook with
    | .ok recipe => some (.far (.recipes ((recipe :: store.disk.recipes).mergeSort listedBefore)))
    | .error _ => none
  | refresh _ => some (.near (c.env, .command .refreshRecipes))
  | link recipe => some (.near (c.env, .command (.linkCurrentCook recipe.id recipe.title)))
  | done => none

end SaveStep

/-! ## Saves at once -/

/-- The server, and the saves asked for so far, each with the title asked. -/
structure Saves where
  server : LocalServer
  saves : List (Option String × SaveStep)

/-- A turn of the server, a new save, or the next step of one, by its number. -/
inductive SaveTurn where
  | server (t : LocalTurn)
  | save (title : Option String)
  | step (save : Nat) (c : SaveContext)

/-- What happens at a turn: an effect of the server's, or a save's answer. -/
inductive SaveEffect where
  | server (e : LocalEffect)
  | answered (save : Nat) (reply : SaveReply)

/-- Whether a turn of the server is a link, which saves alone send. -/
def isLink : LocalTurn → Bool
  | .near (_, .command (.linkCurrentCook _ _)) => true
  | _ => false

namespace Saves

/-- The turn of the server a turn is. -/
def turn (s : Saves) : SaveTurn → Option LocalTurn
  | .server t => if isLink t then none else some t
  | .save _ => none
  | .step k c => s.saves[k]?.bind fun save => save.2.turn c save.1 s.server.far

/-- The saves after a turn, and the answer of one that is done. -/
def stepped (s : Saves) : SaveTurn → List (Option String × SaveStep) × List SaveEffect
  | .server _ => (s.saves, [])
  | .save title => (s.saves ++ [(title, .read)], [])
  | .step k c => match s.saves[k]? with
    | none => (s.saves, [])
    | some (title, step) =>
      let (step, reply) := step.next c title s.server
      (s.saves.set k (title, step), reply.toList.map (.answered k))

variable (read : Bytes → Option HistoryEntry)

/-- One turn. -/
def step (s : Saves) (t : SaveTurn) : Saves × List SaveEffect :=
  let (saves, answers) := s.stepped t
  match s.turn t with
  | none => (⟨s.server, saves⟩, answers)
  | some t => (⟨(localMachine read).next s.server t, saves⟩,
      ((localMachine read).effects s.server t).map .server ++ answers)

end Saves

/-- The saves as a machine. -/
def savesMachine (read : Bytes → Option HistoryEntry) : Machine Saves SaveTurn SaveEffect :=
  ⟨Saves.step read⟩

end AnovaOven
