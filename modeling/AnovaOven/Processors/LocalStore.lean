import AnovaOven.Lib.LineFile
import AnovaOven.Lib.Machine
import AnovaOven.Processors.LocalStore.Normalize
import AnovaOven.Runtime.Types

/-!
# The local store (`processors/local_store.rs`)

Recipes, history and the current cook, kept as files. An operation reads the files, then changes
them by a list of system calls (`FileOp`), each computed from what was read: running the whole list
is the operation, a proper prefix of it is where the process may die. The calls succeed; a call cut
short is `FileOp.tear`.

The clock is an argument (`Moment`), and so is the reader of a history line, `serde_json`'s. The
journal file is the cook read from it, none where it is absent or unreadable, and the recipes are
those `RecipeFiles::list` returns. Log lines are left out.
-/

namespace AnovaOven

open JsonText LineFile

/-- `HISTORY_LIMIT`. -/
def historyLimit : Nat := 50

/-! ## Time -/

/-- What the store reads of `jiff::Timestamp::now()`: its whole seconds since the epoch, its text,
and the text of the timestamp at a number of seconds, none out of range. -/
structure Moment where
  asSecond : Int
  text : String
  fromSecond : Int → Option String

/-- The text of `whole_seconds`. -/
def wholeSeconds (now : Moment) : String := (now.fromSecond now.asSecond).getD now.text

/-- `i64::saturating_sub`. -/
def saturatingSub (a b : Int) : Int := max (-(2 ^ 63)) (min (2 ^ 63 - 1) (a - b))

/-! ## Files -/

/-- `ActiveCook`: the journal of the cook in flight. -/
structure ActiveCook where
  cookId : String
  recipeId : Option String
  recipeTitle : String
  startedAt : String
  cookStageCount : Nat
  lastSeenAt : Option String
  extras : CookExtras
  deriving Repr, DecidableEq

/-- The temporary file an atomic write goes through. -/
inductive TmpFile where
  | absent
  | torn
  | whole (active : ActiveCook)
  deriving Repr, DecidableEq

/-- The store's files. An absent history reads as an empty one. -/
structure Disk where
  recipes : List Recipe
  active : Option ActiveCook
  tmp : TmpFile
  history : Bytes
  deriving Repr, DecidableEq

/-- The text around a history entry's values: its bracket and keys, up to each value, and the bracket
that closes it. -/
def titleKey : Bytes := utf8 "\x7b\"recipe_title\":"
def endedAtKey : Bytes := utf8 ",\"ended_at\":"
def stageCountKey : Bytes := utf8 ",\"stage_count\":"
def closingBrace : Bytes := utf8 "\x7d"

/-- A history entry's JSON text, as `serde_json::to_string` writes it. -/
def historyText (entry : HistoryEntry) : Bytes :=
  titleKey ++ quote entry.recipeTitle ++ endedAtKey ++ quote entry.endedAt ++ stageCountKey ++
    count entry.stageCount ++ closingBrace

/-- What `append_history` writes. -/
def historyLine (entry : HistoryEntry) : Bytes := historyText entry ++ [newline]

/-- A system call that changes a file. -/
inductive FileOp where
  | appendHistory (entry : HistoryEntry)
  | removeActive
  | writeTmp (active : ActiveCook)
  | renameTmp
  deriving Repr, DecidableEq

namespace FileOp

/-- A call carried out. -/
def run (disk : Disk) : FileOp → Disk
  | appendHistory entry => { disk with history := disk.history ++ historyLine entry }
  | removeActive => { disk with active := none }
  | writeTmp active => { disk with tmp := .whole active }
  | renameTmp =>
    let active := match disk.tmp with
      | .whole active => some active
      | _ => none
    { disk with active := active, tmp := .absent }

/-- A call the process died in, after some of its bytes. A removal and a rename have none. -/
def tear (disk : Disk) (bytes : Nat) : FileOp → Disk
  | appendHistory entry => { disk with history := disk.history ++ (historyLine entry).take bytes }
  | writeTmp _ => if bytes = 0 then disk else { disk with tmp := .torn }
  | removeActive | renameTmp => disk

/-- The history entry a call appends. -/
def appended : FileOp → Option HistoryEntry
  | appendHistory entry => some entry
  | _ => none

end FileOp

namespace Disk

/-- The files after a list of calls. -/
def carryOut (disk : Disk) (ops : List FileOp) : Disk := ops.foldl FileOp.run disk

/-- The files a process leaves that died after some calls of a list, and some bytes of the next. -/
def crash (disk : Disk) (ops : List FileOp) (done bytes : Nat) : Disk :=
  let disk := disk.carryOut (ops.take done)
  match ops[done]? with
  | some op => op.tear disk bytes
  | none => disk

end Disk

/-- `LocalStore`. `watched` is the cook in the previous report this process saw. -/
structure LocalStore where
  dir : String
  disk : Disk
  watched : Option String
  deriving Repr, DecidableEq

/-- `manual_cook`: a journal entry for a cook the server didn't start. -/
def manualCook (cook : OvenCook) (now : Moment) : ActiveCook :=
  let started := saturatingSub now.asSecond cook.secondsElapsed.toInt64.toInt
  { cookId := cook.cookId
    recipeId := none
    recipeTitle := manualTitle
    startedAt := (now.fromSecond started).getD now.text
    cookStageCount := cookStageCount cook.stages
    lastSeenAt := some (wholeSeconds now)
    extras := .empty }

/-- A cook in the journal that the oven reports again. -/
def ActiveCook.seen (active : ActiveCook) (cook : OvenCook) (now : Moment) : ActiveCook :=
  { active with
    lastSeenAt := some (wholeSeconds now)
    cookStageCount := AnovaOven.cookStageCount cook.stages }

/-- The current cook of a journal entry: the oven's stages under the journal's title and extras. -/
def ActiveCook.currentCook (active : ActiveCook) (cook : OvenCook) : CurrentCook where
  recipeTitle := active.recipeTitle
  recipeId := active.recipeId
  startedAt := active.startedAt
  stages := active.extras.apply cook.stages
  cookStageCount := AnovaOven.cookStageCount cook.stages
  totalStageCount := cook.stages.length

/-- `write_active_cook`, through `write_atomically`. -/
def writeActiveCook (active : ActiveCook) : List FileOp := [.writeTmp active, .renameTmp]

namespace LocalStore

/-- `Path::join`, as the path is shown. -/
def path (store : LocalStore) (name : String) : String :=
  if store.dir = "" ∨ store.dir.toList.getLast? = some '/' then store.dir ++ name
  else store.dir ++ "/" ++ name

/-- `RecipeFiles::get`, as the store looks a recipe up. -/
def recipe (store : LocalStore) (id : String) : Option Recipe :=
  store.disk.recipes.find? fun recipe => recipe.id = id

/-- The store after an operation's calls. -/
def carryOut (store : LocalStore) (ops : List FileOp) : LocalStore :=
  { store with disk := store.disk.carryOut ops }

/-! ## The journal -/

/-- The history entry of a cook that has ended, last seen at a time: it ended now if this process
watched it, and then otherwise. -/
def endedEntry (store : LocalStore) (active : ActiveCook) (lastSeenAt : String) (now : Moment) :
    HistoryEntry where
  recipeTitle := active.recipeTitle
  endedAt := if store.watched = some active.cookId then wholeSeconds now else lastSeenAt
  stageCount := active.cookStageCount

/-- `finish`: its calls, and whether it writes a history entry. -/
def finish (store : LocalStore) (active : ActiveCook) (now : Moment) : List FileOp × Bool :=
  match active.lastSeenAt with
  | some lastSeenAt =>
    ([.appendHistory (store.endedEntry active lastSeenAt now), .removeActive], true)
  | none => ([.removeActive], false)

/-- `journal_start`. -/
def journalStart (store : LocalStore) (cookId : String) (recipeId : Option String) (title : String)
    (stageCount : Nat) (extras : CookExtras) (now : Moment) : List FileOp × Bool :=
  let (finished, recorded) := match store.disk.active with
    | some previous => if previous.cookId ≠ cookId then store.finish previous now else ([], false)
    | none => ([], false)
  let active := {
    cookId := cookId
    recipeId := recipeId
    recipeTitle := title
    startedAt := wholeSeconds now
    cookStageCount := stageCount
    lastSeenAt := none
    extras := extras }
  (finished ++ writeActiveCook active, recorded)

/-- `cook_started`: the title and the stage count are the recipe's in the store. -/
def cookStarted (store : LocalStore) (cookId recipeId : String) (extras : CookExtras)
    (now : Moment) : List FileOp × Bool :=
  let (title, stageCount) := match store.recipe recipeId with
    | some recipe => (recipe.title, cookStageCount recipe.stages)
    | none => (manualTitle, 0)
  store.journalStart cookId (some recipeId) title stageCount extras now

/-- `link_cook`. -/
def linkCook (store : LocalStore) (recipeId title : String) : List FileOp :=
  match store.disk.active with
  | none => []
  | some active => writeActiveCook { active with recipeId := some recipeId, recipeTitle := title }

/-- The calls of `oven_reported`, and whether a cook goes to history. -/
def reconcile (store : LocalStore) (ovenCook : Option OvenCook) (now : Moment) :
    List FileOp × Bool :=
  match store.disk.active, ovenCook with
  | some active, some cook =>
    if active.cookId = cook.cookId then (writeActiveCook (active.seen cook now), false)
    else
      let (finished, recorded) := store.finish active now
      (finished ++ writeActiveCook (manualCook cook now), recorded)
  | some active, none => store.finish active now
  | none, some cook => (writeActiveCook (manualCook cook now), false)
  | none, none => ([], false)

/-- `oven_reported`: reconcile the journal with a report. -/
def ovenReported (store : LocalStore) (ovenCook : Option OvenCook) (now : Moment) :
    LocalStore × Bool :=
  let (ops, recorded) := store.reconcile ovenCook now
  ({ store.carryOut ops with watched := ovenCook.map (·.cookId) }, recorded)

/-- Whether the journal is of a cook. -/
def journals (store : LocalStore) (cookId : String) : Bool :=
  store.disk.active.any fun active => active.cookId = cookId

/-- `current_cook`. A cook the journal isn't of is reconciled first. -/
def currentCook (store : LocalStore) (ovenCook : Option OvenCook) (now : Moment) :
    LocalStore × Except StoreError (Option CurrentCook) :=
  match ovenCook with
  | none => (store, .error .unsupported)
  | some cook =>
    let store := if store.journals cook.cookId then store else (store.ovenReported ovenCook now).1
    match store.disk.active with
    | none => (store, .error (.other "cook journal missing after write"))
    | some active => (store, .ok (some (active.currentCook cook)))

/-! ## History -/

section History

variable (read : Bytes → Option HistoryEntry)

/-- Whether a line is blank. -/
def isBlank (line : Bytes) : Bool := (decode line).any fun text => trim text = ""

/-- The entries of a history's text, oldest first: blank and unreadable lines are skipped. -/
def entriesOf (bytes : Bytes) : List HistoryEntry :=
  ((lines bytes).filter fun line => !isBlank line).filterMap read

/-- The history file's entries, oldest first. A file that isn't UTF-8 can't be read. -/
def entries (store : LocalStore) : Except StoreError (List HistoryEntry) :=
  match decode store.disk.history with
  | none => .error (.other (store.path "history.jsonl" ++ ": stream did not contain valid UTF-8"))
  | some _ => .ok (entriesOf read store.disk.history)

/-- `history`: newest first, up to the limit. -/
def history (store : LocalStore) : Except StoreError (List HistoryEntry) :=
  (store.entries read).map fun entries => entries.reverse.take historyLimit

/-! ## Commands -/

/-- A history refresh, where a cook went to history. -/
def refreshed (store : LocalStore) (recorded : Bool) : List StoreEvent :=
  if recorded then [.historyRefreshed (store.history read)] else []

/-- `handle`. -/
def handle (store : LocalStore) (now : Moment) : StoreCommand → LocalStore × List StoreEvent
  | .refreshRecipes => (store, [.recipesRefreshed (.ok store.disk.recipes)])
  | .refreshHistory _ => (store, [.historyRefreshed (store.history read)])
  | .fetchCurrentCook reason ovenCook =>
    let (store, result) := store.currentCook ovenCook now
    (store, [.currentCookFetched reason result])
  | .patchCookRecipeRef cookId started extras =>
    let (ops, recorded) := match started with
      | .recipe recipeId => store.cookStarted cookId recipeId extras now
      | .manual title stageCount => store.journalStart cookId none title stageCount extras now
    let store := store.carryOut ops
    (store, .recipeRefPatched cookId started.recipeId (.ok ()) :: store.refreshed read recorded)
  | .ovenReported ovenCook =>
    let (store, recorded) := store.ovenReported ovenCook now
    (store, store.refreshed read recorded)
  | .linkCookToRecipe recipeId title => (store.carryOut (store.linkCook recipeId title), [])
  | .resolveManualCookTitle _ => (store, [.manualCookTitleResolved "" (.ok none)])

end History

end LocalStore

/-- The store as a machine: the commands it is sent, each at its moment. -/
def localStore (read : Bytes → Option HistoryEntry) :
    Machine LocalStore (Moment × StoreCommand) StoreEvent :=
  ⟨fun store command => store.handle read command.1 command.2⟩

/-! ## Operations -/

/-- An operation on the journal, and a restart of the process. -/
inductive StoreOp where
  | journalStart (cookId : String) (recipeId : Option String) (title : String) (stageCount : Nat)
      (extras : CookExtras) (now : Moment)
  | ovenReported (ovenCook : Option OvenCook) (now : Moment)
  | currentCook (ovenCook : Option OvenCook) (now : Moment)
  | linkCook (recipeId title : String)
  | restart

namespace LocalStore

/-- The calls an operation makes. -/
def fileOps (store : LocalStore) : StoreOp → List FileOp
  | .journalStart cookId recipeId title stageCount extras now =>
    (store.journalStart cookId recipeId title stageCount extras now).1
  | .ovenReported ovenCook now => (store.reconcile ovenCook now).1
  | .currentCook (some cook) now =>
    if store.journals cook.cookId then [] else (store.reconcile (some cook) now).1
  | .currentCook none _ => []
  | .linkCook recipeId title => store.linkCook recipeId title
  | .restart => []

/-- The store after an operation. A restarted process has watched no cook. -/
def perform (store : LocalStore) : StoreOp → LocalStore
  | .journalStart cookId recipeId title stageCount extras now =>
    store.carryOut (store.journalStart cookId recipeId title stageCount extras now).1
  | .ovenReported ovenCook now => (store.ovenReported ovenCook now).1
  | .currentCook ovenCook now => (store.currentCook ovenCook now).1
  | .linkCook recipeId title => store.carryOut (store.linkCook recipeId title)
  | .restart => { store with watched := none }

/-- The store of a process started over the files that one left that died in an operation, after
some of its calls and some bytes of the next. -/
def crashed (store : LocalStore) (op : StoreOp) (done bytes : Nat) : LocalStore :=
  ⟨store.dir, store.disk.crash (store.fileOps op) done bytes, none⟩

/-- The history entries an operation appends, each with the cook it is of: the journal's. -/
def ended (store : LocalStore) (op : StoreOp) : List (String × HistoryEntry) :=
  match store.disk.active with
  | none => []
  | some active =>
    ((store.fileOps op).filterMap FileOp.appended).map fun entry => (active.cookId, entry)

end LocalStore

end AnovaOven
