import AnovaOven.Firestore
import AnovaOven.Laws.Normalize

/-!
# Laws of the recipes from Firestore

The list `fetch_recipes` serves has every recipe of the user's own and, normalized, the bookmarked ones
whose ids are none of theirs (`mergeBookmarked_eq`).

**Exactly where the list is a merge** (`fetchRecipes_merged_iff`), with an id no two recipes share:
where no recipe is bookmarked twice, but for the user's own. The ids to skip are taken before the
merge, so a recipe that is bookmarked twice is in the list twice.
-/

namespace AnovaOven

variable {own bookmarked merged : List Recipe} {replies : Replies}

/-- The bookmarked recipes that aren't among the user's own. -/
def foreign (own bookmarked : List Recipe) : List Recipe :=
  bookmarked.filter fun recipe => recipe.id ∉ own.map Recipe.id

/-- **The merge** is the user's own recipes, and after them the others', normalized. -/
theorem mergeBookmarked_eq (own bookmarked : List Recipe) :
    mergeBookmarked own bookmarked = own ++ (foreign own bookmarked).map Recipe.normalize := by
  have loop (served : List Recipe) :
      bookmarked.foldl (fun recipes recipe =>
        if recipe.id ∈ own.map Recipe.id then recipes else recipes ++ [recipe.normalize]) served =
        served ++ (foreign own bookmarked).map Recipe.normalize := by
    induction bookmarked generalizing served with
    | nil => exact (List.append_nil served).symm
    | cons recipe rest ih =>
      rw [List.foldl_cons, ih, foreign, foreign, List.filter_cons]
      by_cases mine : recipe.id ∈ own.map Recipe.id
      · rw [if_pos mine, if_neg (by simpa using mine)]
      · rw [if_neg mine, if_pos (decide_eq_true mine), List.map_cons, List.append_assoc]
        rfl
  exact loop own

/-- A list that merges the user's own recipes and the bookmarked ones: no id twice, every recipe of the
user's own and every id that is bookmarked, and under an id of the user's own their own recipe. -/
structure Merged (own bookmarked merged : List Recipe) : Prop where
  distinct : (merged.map Recipe.id).Nodup
  keeps : ∀ recipe ∈ own, recipe ∈ merged
  covers : ∀ recipe ∈ bookmarked, recipe.id ∈ merged.map Recipe.id
  ownFirst : ∀ recipe ∈ merged, recipe.id ∈ own.map Recipe.id → recipe ∈ own

/-- The ids of the merged list. -/
theorem map_id_mergeBookmarked (own bookmarked : List Recipe) :
    (mergeBookmarked own bookmarked).map Recipe.id =
      own.map Recipe.id ++ (foreign own bookmarked).map Recipe.id := by
  rw [mergeBookmarked_eq, List.map_append, List.map_map]
  rfl

/-- A bookmarked id is in the merged list, whoever's recipe it is. -/
theorem bookmarked_mem_mergeBookmarked {recipe : Recipe} (mem : recipe ∈ bookmarked) :
    recipe.id ∈ (mergeBookmarked own bookmarked).map Recipe.id := by
  rw [map_id_mergeBookmarked]
  by_cases mine : recipe.id ∈ own.map Recipe.id
  · exact List.mem_append_left _ mine
  · apply List.mem_append_right
    exact List.mem_map_of_mem (List.mem_filter.mpr ⟨mem, decide_eq_true mine⟩)

/-- Under an id of the user's own the merged list has their own recipe. -/
theorem own_of_mem_mergeBookmarked {recipe : Recipe} (mem : recipe ∈ mergeBookmarked own bookmarked)
    (mine : recipe.id ∈ own.map Recipe.id) : recipe ∈ own := by
  rw [mergeBookmarked_eq] at mem
  rcases List.mem_append.mp mem with mem | mem
  · exact mem
  · obtain ⟨other, others, rfl⟩ := List.mem_map.mp mem
    exact absurd mine (of_decide_eq_true (List.mem_filter.mp others).2)

/-- **The merge** is one exactly where the bookmarks that aren't the user's own are of distinct
recipes. -/
theorem mergeBookmarked_merged_iff (distinct : (own.map Recipe.id).Nodup) :
    Merged own bookmarked (mergeBookmarked own bookmarked) ↔
      ((foreign own bookmarked).map Recipe.id).Nodup := by
  constructor
  · intro merged
    have ids := merged.distinct
    rw [map_id_mergeBookmarked] at ids
    exact (List.nodup_append.mp ids).2.1
  · intro once
    constructor
    · rw [map_id_mergeBookmarked]
      apply List.nodup_append.mpr
      refine ⟨distinct, once, ?_⟩
      rintro id mine _ other rfl
      obtain ⟨recipe, others, rfl⟩ := List.mem_map.mp other
      exact of_decide_eq_true (List.mem_filter.mp others).2 mine
    · intro recipe mem
      rw [mergeBookmarked_eq]
      exact List.mem_append_left _ mem
    · exact fun recipe => bookmarked_mem_mergeBookmarked
    · exact fun recipe => own_of_mem_mergeBookmarked

/-- What is served is the merge of the two lists that were fetched. -/
theorem fetchRecipes_eq (mine : ownRecipes replies = .ok own)
    (fetched : fetchBookmarkedRecipes replies = .ok bookmarked) :
    fetchRecipes replies = .ok (mergeBookmarked own bookmarked) := by
  unfold fetchRecipes
  rw [mine, fetched]
  rfl

/-- Bookmarks that can't be fetched leave the user's own recipes. -/
theorem fetchRecipes_unbookmarked (mine : ownRecipes replies = .ok own) {error : String}
    (failed : fetchBookmarkedRecipes replies = .error (.other error)) :
    fetchRecipes replies = .ok own := by
  unfold fetchRecipes
  rw [mine, failed]
  rfl

/-- **Exactly where the list is a merge.** -/
theorem fetchRecipes_merged_iff (own bookmarked : List Recipe) (distinct : (own.map Recipe.id).Nodup) :
    (Merged own bookmarked (mergeBookmarked own bookmarked) ↔
      ((foreign own bookmarked).map Recipe.id).Nodup) ∧
    ∀ replies, ownRecipes replies = .ok own → fetchBookmarkedRecipes replies = .ok bookmarked →
      fetchRecipes replies = .ok (mergeBookmarked own bookmarked) :=
  ⟨mergeBookmarked_merged_iff distinct, fun _ => fetchRecipes_eq⟩

namespace Kitchen

/-- A recipe's document, with one step. -/
def recipeDocument (id title : String) : Document where
  name := "documents/oven-recipes/" ++ id
  fields := [("title", .string title),
    ("steps", .array [.map [("stepType", .string "stage"), ("id", .string "one")]])]

/-- A bookmark of a recipe, as the user's favorites hold it. -/
def bookmarkOf (id : String) : Document where
  name := "bookmark"
  fields := [("recipeRef", .string ("oven-recipes/" ++ id))]

/-- A user with recipes of their own, in their own words, and bookmarks of anyone's. -/
def household (own bookmarks : List String) : Replies where
  recipes := .answered (own.map fun id => some (recipeDocument id ("My " ++ id)))
  bookmarks := .answered (bookmarks.map fun id => some (bookmarkOf id))
  document _ id := .answered (recipeDocument id ("Their " ++ id))

/-- The recipes of the household's own. -/
def ours (ids : List String) : List Recipe :=
  ids.map fun id => (parseRecipeDoc (recipeDocument id ("My " ++ id)) .own).normalize

/-- The recipes that are bookmarked, as they are fetched. -/
def theirs (ids : List String) : List Recipe :=
  ids.map fun id => parseRecipeDoc (recipeDocument id ("Their " ++ id)) .bookmarked

end Kitchen

open Kitchen in
/-- A roast and a bread of one's own, both bookmarked, the roast twice, with two recipes of others
between them: each is served once, and one's own under their ids. -/
theorem fetchRecipes_merged_household :
    Merged (ours ["roast", "bread"]) (theirs ["roast", "soup", "bread", "roast", "tart"])
      (mergeBookmarked (ours ["roast", "bread"])
        (theirs ["roast", "soup", "bread", "roast", "tart"])) ∧
    fetchRecipes (household ["roast", "bread"] ["roast", "soup", "bread", "roast", "tart"]) =
      .ok (mergeBookmarked (ours ["roast", "bread"])
        (theirs ["roast", "soup", "bread", "roast", "tart"])) ∧
    (mergeBookmarked (ours ["roast", "bread"])
      (theirs ["roast", "soup", "bread", "roast", "tart"])).map Recipe.title =
        ["My roast", "My bread", "Their soup", "Their tart"] := by
  have law := fetchRecipes_merged_iff (ours ["roast", "bread"])
    (theirs ["roast", "soup", "bread", "roast", "tart"]) (by decide +kernel)
  refine ⟨law.1.mpr (by decide +kernel), law.2 _ ?_ ?_, by decide +kernel⟩
  · decide +kernel
  · decide +kernel

open Kitchen in
/-- Bookmarked twice, another's roast is served twice. -/
theorem fetchRecipes_twice :
    ¬ ∀ replies own bookmarked merged, ownRecipes replies = .ok own →
      fetchBookmarkedRecipes replies = .ok bookmarked → (own.map Recipe.id).Nodup →
      fetchRecipes replies = .ok merged → Merged own bookmarked merged := by
  intro always
  have twice := always (household ["bread"] ["roast", "roast"]) (ours ["bread"])
    (theirs ["roast", "roast"]) (mergeBookmarked (ours ["bread"]) (theirs ["roast", "roast"]))
    (by decide +kernel) (by decide +kernel) (by decide +kernel) (by decide +kernel)
  exact absurd twice.distinct (by decide +kernel)

end AnovaOven
