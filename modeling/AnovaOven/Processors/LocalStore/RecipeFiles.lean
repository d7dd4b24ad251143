import AnovaOven.Lib.Machine
import AnovaOven.Processors.LocalStore.Normalize
import Mathlib.Data.List.AList

/-!
# The recipe files (`RecipeFiles` in `processors/local_store.rs`)

The directory of recipe files and what is done with it, one call at a time, and `update` and `delete`
as the system calls they are made of, for any number of calls at once: a call reads the directory, then
its files one by one, then writes a temporary file and renames it, or removes a file. A turn is one
system call of one call. Nothing orders the turns of different calls, and two calls on one file share
its temporary name.

A file is what it parses as, so what is written reads back. The directory lists its files in any
order. A system call fails only where its file is missing. Log lines are left out.
-/

namespace AnovaOven

/-- What a file holds: a recipe, or bytes that don't parse as one. -/
inductive RecipeFile where
  | recipe (recipe : Recipe)
  | unreadable
  deriving Repr, DecidableEq

/-- The recipes directory: its files by name. -/
abbrev RecipeDir : Type := AList fun _ : String => RecipeFile

/-! ## File names -/

/-- A name's last dot and what comes before it, backwards. -/
def beforeExtension (name : String) : List Char := name.toList.reverse.dropWhile fun c => c ≠ '.'

/-- `Path::extension`: what follows the last dot, unless the name starts with it. -/
def extension (name : String) : Option String :=
  if (beforeExtension name).length ≤ 1 then none
  else some (String.ofList (name.toList.reverse.takeWhile fun c => c ≠ '.').reverse)

/-- `Path::file_stem`. -/
def fileStem (name : String) : String :=
  if (beforeExtension name).length ≤ 1 then name
  else String.ofList (beforeExtension name).tail.reverse

/-- Whether `files` reads a file. -/
def isRecipeName (name : String) : Bool := extension name = some "json"

/-- The temporary file of `write_atomically`: `Path::with_extension("json.tmp")`. -/
def tmpName (name : String) : String := fileStem name ++ ".json.tmp"

/-- `Path::join`, as the path is shown. -/
def joinPath (dir name : String) : String :=
  if dir = "" ∨ dir.toList.getLast? = some '/' then dir ++ name else dir ++ "/" ++ name

/-! ## Calls -/

/-- `RecipePatch`. -/
structure RecipePatch where
  title : Option String
  stages : Option (List Stage)
  deriving Repr, DecidableEq

/-- The fields a patch sets: one left out keeps its value. -/
def RecipePatch.apply (patch : RecipePatch) (recipe : Recipe) : Recipe :=
  { recipe with
    title := patch.title.getD recipe.title
    stages := patch.stages.getD recipe.stages }

/-- A call: an update, with the random ids of its new stages, or a delete. -/
inductive RecipeRequest where
  | update (id : String) (patch : RecipePatch) (fresh : Nat → String)
  | delete (id : String)

/-- The id of the recipe a call is for. -/
def RecipeRequest.id : RecipeRequest → String
  | update id _ _ => id
  | delete id => id

/-- Where a call stands: the system call it makes next. -/
inductive RecipeCall where
  | readDir
  | readFile (left : List String) (read : List (String × Recipe))
  | writeTmp (name : String) (recipe : Recipe)
  | rename (name : String) (recipe : Recipe)
  | remove (name : String)
  | done
  deriving DecidableEq

/-- What a call answers: an update its recipe, a delete nothing. -/
abbrev RecipeReply : Type := Except RecipeError (Option Recipe)

/-- The text of an error about a file that isn't there. -/
def noSuchFile : String := "No such file or directory (os error 2)"

/-- `io_error`, of a missing file. -/
def missing (dir name : String) : RecipeReply :=
  .error (.store (.other (joinPath dir name ++ ": " ++ noSuchFile)))

/-- `find`: the first file read that holds a recipe. -/
def findRecipe (id : String) (read : List (String × Recipe)) : Option (String × Recipe) :=
  read.find? fun entry => entry.2.id = id

/-- What follows the last file read: `update` and `delete` after `find`. -/
def afterFind (request : RecipeRequest) (read : List (String × Recipe)) :
    RecipeCall × Option RecipeReply :=
  match findRecipe request.id read with
  | none => (.done, some (.error .notFound))
  | some (name, recipe) => match request with
    | .update _ patch fresh => match normalize fresh (patch.apply recipe) with
      | .error e => (.done, some (.error e))
      | .ok recipe => (.writeTmp name recipe, none)
    | .delete _ => (.remove name, none)

/-- The next file to read, or what follows the last. -/
def readOn (request : RecipeRequest) (left : List String) (read : List (String × Recipe)) :
    RecipeCall × Option RecipeReply :=
  if left = [] then afterFind request read else (.readFile left read, none)

/-- The recipe in a file, if it is there and holds one. -/
def recipeIn (files : RecipeDir) (name : String) : Option Recipe :=
  (files.lookup name).bind fun file => match file with
    | .recipe recipe => some recipe
    | .unreadable => none

/-- One system call of a call: the files after it, where the call stands then, and its answer where it
is done. `listed` is the order the directory gives its files in. -/
def RecipeCall.step (dir : String) (request : RecipeRequest) (listed : List String)
    (files : RecipeDir) : RecipeCall → RecipeDir × RecipeCall × Option RecipeReply
  | readDir =>
    if listed.isPerm files.keys then (files, readOn request (listed.filter isRecipeName) [])
    else (files, readDir, none)
  | readFile [] read => (files, afterFind request read)
  | readFile (name :: left) read =>
    (files, readOn request left (read ++ ((recipeIn files name).map fun recipe => (name, recipe)).toList))
  | writeTmp name recipe =>
    (files.insert (tmpName name) (.recipe recipe), rename name recipe, none)
  | rename name recipe => match files.lookup (tmpName name) with
    | none => (files, done, some (missing dir name))
    | some file => ((files.erase (tmpName name)).insert name file, done, some (.ok (some recipe)))
  | remove name =>
    if (files.lookup name).isNone then (files, done, some (missing dir name))
    else (files.erase name, done, some (.ok none))
  | done => (files, done, none)

/-! ## One call at a time -/

/-- `files`: the recipes of the directory, each with its file, in the order the directory lists its
files in. -/
def recipesIn (files : RecipeDir) (listed : List String) : List (String × Recipe) :=
  (listed.filter isRecipeName).filterMap fun name =>
    (recipeIn files name).map fun recipe => (name, recipe)

/-- The order of `list`: the user's own first, then by title, then by id. -/
def listOrder (a b : Recipe) : Ordering :=
  (compare (a.source = .bookmarked : Bool) (b.source = .bookmarked : Bool)).then
    ((compare a.title b.title).then (compare a.id b.id))

/-- `RecipeFiles::list`. -/
def listRecipes (files : RecipeDir) (listed : List String) : List Recipe :=
  ((recipesIn files listed).map Prod.snd).mergeSort fun a b => (listOrder a b).isLE

/-- `RecipeFiles::get`. -/
def getRecipe (files : RecipeDir) (listed : List String) (id : String) : Option Recipe :=
  (findRecipe id (recipesIn files listed)).map Prod.snd

/-- `write_atomically`: a temporary file, renamed over the file. -/
def writeAtomically (files : RecipeDir) (name : String) (recipe : Recipe) : RecipeDir :=
  ((files.insert (tmpName name) (.recipe recipe)).erase (tmpName name)).insert name (.recipe recipe)

/-- `RecipeFiles::update`: in the file the recipe was read from. -/
def updateRecipe (files : RecipeDir) (listed : List String) (id : String) (patch : RecipePatch)
    (fresh : Nat → String) : RecipeDir × Except RecipeError Recipe :=
  match findRecipe id (recipesIn files listed) with
  | none => (files, .error .notFound)
  | some (name, recipe) => match normalize fresh (patch.apply recipe) with
    | .error e => (files, .error e)
    | .ok recipe => (writeAtomically files name recipe, .ok recipe)

/-- `RecipeFiles::delete`. -/
def deleteRecipe (files : RecipeDir) (listed : List String) (id : String) :
    RecipeDir × Except RecipeError Unit :=
  match findRecipe id (recipesIn files listed) with
  | none => (files, .error .notFound)
  | some (name, _) => (files.erase name, .ok ())

/-- What stands for a character of an id in a file name: ASCII letters, digits, `-` and `_` stand for
themselves. -/
def safeChar (c : Char) : Char := if c.isAlphanum ∨ c = '-' ∨ c = '_' then c else '_'

/-- `recipe_file_name`. -/
def recipeFileName (id : String) : String := String.ofList (id.toList.map safeChar) ++ ".json"

/-- `write_recipes`. -/
def writeRecipes (files : RecipeDir) (recipes : List Recipe) : RecipeDir :=
  recipes.foldl (fun files recipe => writeAtomically files (recipeFileName recipe.id) recipe) files

/-! ## Calls at once -/

/-- The directory and the calls made on it so far. -/
structure RecipeFiles where
  dir : String
  files : RecipeDir
  calls : List (RecipeRequest × RecipeCall)

/-- A new call, or the next system call of one, by its number. -/
inductive RecipeTurn where
  | call (request : RecipeRequest)
  | step (call : Nat) (listed : List String)

/-- A call that is done, with its number and its answer. -/
structure RecipeAnswer where
  call : Nat
  request : RecipeRequest
  reply : RecipeReply

namespace RecipeFiles

/-- One turn. -/
def step (s : RecipeFiles) : RecipeTurn → RecipeFiles × List RecipeAnswer
  | .call request => ({ s with calls := s.calls ++ [(request, .readDir)] }, [])
  | .step k listed => match s.calls[k]? with
    | none => (s, [])
    | some (request, call) =>
      let (files, call, reply) := call.step s.dir request listed s.files
      ({ s with files := files, calls := s.calls.set k (request, call) },
        reply.toList.map fun reply => ⟨k, request, reply⟩)

/-- Whether every call is done. -/
def finished (s : RecipeFiles) : Bool := s.calls.all fun call => call.2 = .done

end RecipeFiles

/-- The recipe files as a machine. -/
def recipeFiles : Machine RecipeFiles RecipeTurn RecipeAnswer := ⟨RecipeFiles.step⟩

end AnovaOven
