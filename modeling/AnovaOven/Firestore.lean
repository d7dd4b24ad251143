import AnovaOven.Protocol.Stages

/-!
# Recipes from Firestore (`firestore.rs`)

`fetch_recipes`: the user's own recipes, and the bookmarked ones, which a second query names and
which are fetched one by one, merged into one list. The requests are parameters, by how they end; a
document's fields are the values they hold, as the service types them.
-/

namespace AnovaOven

/-- `FirestoreValue`: a field that holds one value. Timestamps, references and bytes are texts, and what
isn't a value reads as null. -/
inductive FirestoreValue where
  | null
  | boolean (b : Bool)
  | integer (n : Int)
  | double (q : ℚ)
  | string (s : String)
  | array (values : List FirestoreValue)
  | map (fields : List (String × FirestoreValue))

mutual

/-- `FirestoreValue::to_json`. -/
def FirestoreValue.toJson : FirestoreValue → Json
  | .null => .null
  | .boolean b => .bool b
  | .integer n => .int n
  | .double q => .float q
  | .string s => .str s
  | .array values => .arr (valuesToJson values)
  | .map fields => .obj (mapFieldsToJson fields)

/-- The elements of an array. -/
def valuesToJson : List FirestoreValue → List Json
  | [] => []
  | value :: rest => value.toJson :: valuesToJson rest

/-- `map_fields_to_json`. -/
def mapFieldsToJson : List (String × FirestoreValue) → List (String × Json)
  | [] => []
  | (key, value) :: rest => (key, value.toJson) :: mapFieldsToJson rest

end

/-- `Document`. -/
structure Document where
  name : String
  fields : List (String × FirestoreValue)

/-- What follows a path's last slash (`rsplit('/').next()`). -/
def lastSegment (path : String) : String :=
  String.ofList (path.toList.reverse.takeWhile fun c => c ≠ '/').reverse

namespace Document

/-- `Document::id`. -/
def id (doc : Document) : String := lastSegment doc.name

/-- `Document::to_json`. -/
def toJson (doc : Document) : Json := .obj (mapFieldsToJson doc.fields)

end Document

/-- `FirestoreError`. -/
inductive FirestoreError where
  | unauthorized
  | other (error : String)
  deriving Repr, DecidableEq

/-- How a request ends: without an answer that can be read, refused with a status and a body, or
answered. -/
inductive HttpReply (α : Type) where
  | failed (error : String)
  | refused (code : Nat) (status body : String)
  | answered (value : α)

/-- The documents a query finds. -/
def runQuery (what : String) :
    HttpReply (List (Option Document)) → Except FirestoreError (List Document)
  | .failed error => .error (.other error)
  | .refused code status body =>
    if code = 401 then .error .unauthorized
    else .error (.other s!"Firestore runQuery ({what}) failed ({status}): {body}")
  | .answered items => .ok (items.filterMap fun document => document)

/-- The elements of a field that is an array. -/
def arrayField (json : Json) (key : String) : List Json :=
  match json.get key with
  | some (.arr items) => items
  | _ => []

/-- `parse_recipe_doc`. -/
def parseRecipeDoc (doc : Document) (source : RecipeSource) : Recipe :=
  let json := doc.toJson
  let stages := ((arrayField json "steps").filter fun step =>
    (step.get "stepType").bind Json.asStr = some "stage").map stageFromJson
  { id := doc.id
    title := ((json.get "title").bind Json.asStr).getD ""
    stageCount := stages.length
    stages := stages
    source := source }

/-- The recipe a bookmark refers to, by the last segment of its reference. -/
def recipeIdOf (bookmark : Document) : Option String :=
  (((bookmark.toJson.get "recipeRef").bind Json.asStr).map lastSegment).filter fun id => id ≠ ""

/-- Each recipe, fetched by a request of its own; one that can't be fetched is left out. -/
def fetchEach (get : Nat → String → HttpReply Document) (nth : Nat) : List String → List Recipe
  | [] => []
  | id :: rest => match get nth id with
    | .answered doc => parseRecipeDoc doc .bookmarked :: fetchEach get (nth + 1) rest
    | _ => fetchEach get (nth + 1) rest

/-- The replies `fetch_recipes` gets: to its two queries, and to the requests for single documents, by
their number. -/
structure Replies where
  recipes : HttpReply (List (Option Document))
  bookmarks : HttpReply (List (Option Document))
  document : Nat → String → HttpReply Document

/-- `fetch_bookmarked_recipes`. -/
def fetchBookmarkedRecipes (replies : Replies) : Except FirestoreError (List Recipe) := do
  let documents ← runQuery "bookmarks" replies.bookmarks
  return fetchEach replies.document 0 (documents.filterMap recipeIdOf)

/-- The user's own recipes, as `fetch_recipes` parses and normalizes them. -/
def ownRecipes (replies : Replies) : Except FirestoreError (List Recipe) := do
  let documents ← runQuery "recipes" replies.recipes
  return documents.map fun doc => (parseRecipeDoc doc .own).normalize

/-- The merge of `fetch_recipes`. The ids to skip are those of the user's own recipes, and stay so. -/
def mergeBookmarked (own bookmarked : List Recipe) : List Recipe :=
  let ownIds := own.map Recipe.id
  bookmarked.foldl (fun recipes recipe =>
    if recipe.id ∈ ownIds then recipes else recipes ++ [recipe.normalize]) own

/-- `fetch_recipes`. An expired token is the caller's to renew; without the bookmarks the list is still
served. -/
def fetchRecipes (replies : Replies) : Except FirestoreError (List Recipe) := do
  let own ← ownRecipes replies
  let bookmarked ← match fetchBookmarkedRecipes replies with
    | .ok bookmarked => .ok bookmarked
    | .error .unauthorized => .error .unauthorized
    | .error (.other _) => .ok []
  return mergeBookmarked own bookmarked

end AnovaOven
