import AnovaOven.Laws.RecipeFiles
import AnovaOven.Lib.Unordered

/-!
# The recipe directory as a map

Read by id, the directory is a map where each id has a name of its own and each name holds one id.
Neither is sure: ids are cleaned into file names, so two may share one and the empty id gets a name
that isn't read, and a file copied by hand holds its id a second time.

**Exactly where it is a map** (`recipeDir_map_iff`): recipes written into any directory are all listed
as they were written where none has the empty id and no two share a file name; and updates and deletes
of an id do what they should where at most one file holds the id.

The calls whose system calls interleave with others' are, alone, the sequential functions of these
results (`runAlone_update`, `runAlone_delete`).
-/

namespace AnovaOven

variable {files : RecipeDir} {listed : List String} {id name path : String} {recipe : Recipe}

/-! ## What is listed -/

theorem mem_recipesIn {entry : String × Recipe} :
    entry ∈ recipesIn files listed ↔
      entry.1 ∈ listed ∧ isRecipeName entry.1 = true ∧ recipeIn files entry.1 = some entry.2 := by
  obtain ⟨name, recipe⟩ := entry
  unfold recipesIn
  rw [List.mem_filterMap]
  constructor
  · rintro ⟨name', mem, found⟩
    obtain ⟨held, at', eq⟩ := Option.map_eq_some_iff.mp found
    cases eq
    obtain ⟨inListed, isRecipe⟩ := List.mem_filter.mp mem
    exact ⟨inListed, isRecipe, at'⟩
  · rintro ⟨inListed, isRecipe, at'⟩
    exact ⟨name, List.mem_filter.mpr ⟨inListed, isRecipe⟩, by rw [at']; rfl⟩

/-- A file that holds a recipe is in the directory. -/
theorem mem_keys_of_recipeIn (at' : recipeIn files name = some recipe) : name ∈ files.keys := by
  obtain ⟨file, found, _⟩ := Option.bind_eq_some_iff.mp at'
  exact AList.lookup_isSome.mp (by rw [found]; rfl)

/-- Whatever order the directory is listed in, the recipes are those in its recipe files. -/
theorem mem_recipesIn_of_perm (order : listed.Perm files.keys) {entry : String × Recipe} :
    entry ∈ recipesIn files listed ↔
      isRecipeName entry.1 = true ∧ recipeIn files entry.1 = some entry.2 := by
  rw [mem_recipesIn]
  constructor
  · exact fun mem => mem.2
  · exact fun held => ⟨order.mem_iff.mpr (mem_keys_of_recipeIn held.2), held⟩

theorem nodup_recipesIn (order : listed.Perm files.keys) : (recipesIn files listed).Nodup := by
  apply List.Nodup.filterMap
  · intro name name' entry found found'
    obtain ⟨_, _, rfl⟩ := Option.map_eq_some_iff.mp found
    obtain ⟨_, _, eq⟩ := Option.map_eq_some_iff.mp found'
    exact (congrArg Prod.fst eq).symm
  · exact (order.nodup_iff.mpr files.keys_nodup).filter _

theorem mem_listRecipes (order : listed.Perm files.keys) :
    recipe ∈ listRecipes files listed ↔
      ∃ name, isRecipeName name = true ∧ recipeIn files name = some recipe := by
  unfold listRecipes
  rw [(List.mergeSort_perm _ _).mem_iff, List.mem_map]
  constructor
  · rintro ⟨entry, mem, rfl⟩
    exact ⟨entry.1, (mem_recipesIn_of_perm order).mp mem⟩
  · rintro ⟨name, held⟩
    exact ⟨(name, recipe), (mem_recipesIn_of_perm order).mpr held, rfl⟩

/-! ## Written files -/

/-- An atomic write changes one recipe file. -/
theorem recipeIn_writeAtomically (isRecipe : isRecipeName name = true) (recipe : Recipe) :
    recipeIn (writeAtomically files path recipe) name =
      if name = path then some recipe else recipeIn files name := by
  unfold writeAtomically
  by_cases same : name = path
  · subst same
    rw [if_pos rfl, recipeIn_insert]
  · rw [if_neg same, recipeIn_insert_ne same, recipeIn_erase_ne (ne_tmpName isRecipe path),
      recipeIn_insert_ne (ne_tmpName isRecipe path)]

/-- The file name of an id is a recipe's, but for the empty id's. -/
theorem isRecipeName_recipeFileName (id : String) :
    isRecipeName (recipeFileName id) = true ↔ id ≠ "" := by
  have backwards : (recipeFileName id).toList.reverse =
      ['n', 'o', 's', 'j', '.'] ++ (id.toList.map safeChar).reverse := by
    rw [recipeFileName, String.toList_append, String.toList_ofList, List.reverse_append]
    rfl
  have before : beforeExtension (recipeFileName id) =
      '.' :: (id.toList.map safeChar).reverse := by
    rw [beforeExtension, backwards]
    rfl
  have empty : (beforeExtension (recipeFileName id)).length ≤ 1 ↔ id = "" := by
    rw [before]
    simp
  unfold isRecipeName extension
  by_cases blank : id = ""
  · rw [if_pos (empty.mpr blank)]
    simp [blank]
  · rw [if_neg fun short => blank (empty.mp short), backwards]
    simp [blank]

variable {recipes : List Recipe}

/-- The names recipes are written under. -/
def fileNames (recipes : List Recipe) : List String :=
  recipes.map fun recipe => recipeFileName recipe.id

/-- A recipe file that isn't written keeps its recipe. -/
theorem recipeIn_writeRecipes_of_notMem (isRecipe : isRecipeName name = true)
    (other : name ∉ fileNames recipes) :
    recipeIn (writeRecipes files recipes) name = recipeIn files name := by
  induction recipes generalizing files with
  | nil => rfl
  | cons first rest ih =>
    show recipeIn (writeRecipes (writeAtomically files _ first) rest) name = _
    rw [ih (List.not_mem_of_not_mem_cons other), recipeIn_writeAtomically isRecipe,
      if_neg (List.ne_of_not_mem_cons other)]

/-- What a recipe file holds after the writes is a recipe written under its name, or what it held. -/
theorem recipeIn_writeRecipes (isRecipe : isRecipeName name = true)
    (held : recipeIn (writeRecipes files recipes) name = some recipe) :
    (recipe ∈ recipes ∧ name = recipeFileName recipe.id) ∨ recipeIn files name = some recipe := by
  induction recipes generalizing files with
  | nil => exact .inr held
  | cons first rest ih =>
    rcases ih held with ⟨mem, named⟩ | before
    · exact .inl ⟨List.mem_cons_of_mem _ mem, named⟩
    · rw [recipeIn_writeAtomically isRecipe] at before
      split at before
      · rename_i named
        cases before
        exact .inl ⟨List.mem_cons_self, named⟩
      · exact .inr before

/-- A recipe that shares its file name with no other is found in its file. -/
theorem recipeIn_writeRecipes_of_mem (apart : (fileNames recipes).Nodup) (mem : recipe ∈ recipes)
    (named : recipe.id ≠ "") :
    recipeIn (writeRecipes files recipes) (recipeFileName recipe.id) = some recipe := by
  have isRecipe := (isRecipeName_recipeFileName recipe.id).mpr named
  induction recipes generalizing files with
  | nil => cases mem
  | cons first rest ih =>
    obtain ⟨other, apart⟩ := List.nodup_cons.mp apart
    show recipeIn (writeRecipes (writeAtomically files _ first) rest) _ = _
    rcases List.mem_cons.mp mem with rfl | mem
    · rw [recipeIn_writeRecipes_of_notMem isRecipe other, recipeIn_writeAtomically isRecipe,
        if_pos rfl]
    · exact ih apart mem

/-- Recipes written into a directory are all listed, as they were written. -/
def WritesListed (recipes : List Recipe) : Prop :=
  ∀ (files : RecipeDir) (listed : List String), listed.Perm (writeRecipes files recipes).keys →
    ∀ recipe ∈ recipes, recipe ∈ listRecipes (writeRecipes files recipes) listed

/-- Recipes whose ids get file names that are read, and each its own. -/
structure NamedApart (recipes : List Recipe) : Prop where
  named : ∀ recipe ∈ recipes, recipe.id ≠ ""
  apart : (fileNames recipes).Nodup

/-- **Writes.** Recipes of distinct ids are all listed, whatever the directory holds, exactly where
their ids are named apart. -/
theorem writesListed_iff (distinct : (recipes.map Recipe.id).Nodup) :
    WritesListed recipes ↔ NamedApart recipes := by
  constructor
  · intro always
    have found (recipe : Recipe) (mem : recipe ∈ recipes) :
        isRecipeName (recipeFileName recipe.id) = true ∧
          recipeIn (writeRecipes ∅ recipes) (recipeFileName recipe.id) = some recipe := by
      obtain ⟨name, isRecipe, held⟩ :=
        (mem_listRecipes (List.Perm.refl _)).mp (always ∅ _ (List.Perm.refl _) recipe mem)
      rcases recipeIn_writeRecipes isRecipe held with ⟨_, rfl⟩ | before
      · exact ⟨isRecipe, held⟩
      · rw [recipeIn, AList.lookup_empty] at before
        cases before
    constructor
    · exact fun recipe mem => (isRecipeName_recipeFileName recipe.id).mp (found recipe mem).1
    · apply List.Nodup.map_on
      · intro one mem other mem' same
        have held := (found one mem).2
        rw [same, (found other mem').2] at held
        exact (Option.some.inj held).symm
      · exact distinct.of_map _
  · rintro ⟨named, apart⟩ files listed order recipe mem
    apply (mem_listRecipes order).mpr
    exact ⟨recipeFileName recipe.id, (isRecipeName_recipeFileName recipe.id).mpr (named recipe mem),
      recipeIn_writeRecipes_of_mem apart mem (named recipe mem)⟩

/-! ## Updates and deletes -/

/-- What is found is in its file. -/
theorem findRecipe_mem {read : List (String × Recipe)} {entry : String × Recipe}
    (found : findRecipe id read = some entry) : entry ∈ read ∧ entry.2.id = id :=
  Unordered.of_find found

theorem findRecipe_eq_none {read : List (String × Recipe)} :
    findRecipe id read = none ↔ ∀ entry ∈ read, entry.2.id ≠ id :=
  Unordered.find_eq_none

/-- A recipe that no other file holds is found in its own. -/
theorem findRecipe_of_only (only : OnlyAt id path files) (isRecipe : isRecipeName path = true)
    (held : recipeIn files path = some recipe) (own : recipe.id = id)
    (order : listed.Perm files.keys) : findRecipe id (recipesIn files listed) = some (path, recipe) := by
  have mem : (path, recipe) ∈ recipesIn files listed :=
    (mem_recipesIn_of_perm order).mpr ⟨isRecipe, held⟩
  subst own
  apply Unordered.find_of_unique mem
  intro entry other same
  obtain ⟨isRecipe', held'⟩ := (mem_recipesIn_of_perm order).mp other
  have at' := only entry.1 entry.2 isRecipe' held' same
  rw [at', held] at held'
  exact Prod.ext at' (Option.some.inj held').symm

/-- The recipes of other ids, as they are listed before and after. -/
def OthersKept (id : String) (before after : List Recipe) : Prop :=
  (after.filter fun recipe => recipe.id ≠ id).Perm (before.filter fun recipe => recipe.id ≠ id)

/-- What a successful update or delete of an id does, where the directory is a map at the id: a read of
the id finds the new recipe, or none, and the recipes of other ids are as they were, whatever order the
directory is listed in at each of these calls. -/
structure MapsAt (files : RecipeDir) (id : String) : Prop where
  updated : ∀ (listed : List String) (patch : RecipePatch) (fresh : Nat → String) (recipe : Recipe),
    listed.Perm files.keys → (updateRecipe files listed id patch fresh).2 = .ok recipe →
    ∀ listed', listed'.Perm (updateRecipe files listed id patch fresh).1.keys →
      getRecipe (updateRecipe files listed id patch fresh).1 listed' id = some recipe ∧
        OthersKept id (listRecipes files listed)
          (listRecipes (updateRecipe files listed id patch fresh).1 listed')
  deleted : ∀ listed : List String, listed.Perm files.keys →
    (deleteRecipe files listed id).2 = .ok () →
    ∀ listed', listed'.Perm (deleteRecipe files listed id).1.keys →
      getRecipe (deleteRecipe files listed id).1 listed' id = none ∧
        OthersKept id (listRecipes files listed)
          (listRecipes (deleteRecipe files listed id).1 listed')

/-- Directories that differ in one file, and there only by recipes of an id, list the others alike. -/
theorem othersKept_of_frame (path : String) {files' : RecipeDir} {listed' : List String}
    (order : listed.Perm files.keys) (order' : listed'.Perm files'.keys)
    (elsewhere : ∀ name, isRecipeName name = true → name ≠ path →
      recipeIn files' name = recipeIn files name)
    (here : ∀ recipe, recipeIn files path = some recipe → recipe.id = id)
    (here' : ∀ recipe, recipeIn files' path = some recipe → recipe.id = id) :
    OthersKept id (listRecipes files listed) (listRecipes files' listed') := by
  have entries : ((recipesIn files' listed').filter fun entry => entry.2.id ≠ id).Perm
      ((recipesIn files listed).filter fun entry => entry.2.id ≠ id) := by
    apply (List.perm_ext_iff_of_nodup ((nodup_recipesIn order').filter _)
      ((nodup_recipesIn order).filter _)).mpr
    rintro ⟨name, recipe⟩
    simp only [List.mem_filter, mem_recipesIn_of_perm order, mem_recipesIn_of_perm order',
      decide_eq_true_eq]
    by_cases at' : name = path
    · subst at'
      constructor
      · rintro ⟨⟨_, held⟩, other⟩
        exact absurd (here' recipe held) other
      · rintro ⟨⟨_, held⟩, other⟩
        exact absurd (here recipe held) other
    · constructor
      · rintro ⟨⟨isRecipe, held⟩, other⟩
        exact ⟨⟨isRecipe, elsewhere name isRecipe at' ▸ held⟩, other⟩
      · rintro ⟨⟨isRecipe, held⟩, other⟩
        exact ⟨⟨isRecipe, (elsewhere name isRecipe at').symm ▸ held⟩, other⟩
  have recipes (files : RecipeDir) (listed : List String) :
      ((listRecipes files listed).filter fun recipe => recipe.id ≠ id).Perm
        (((recipesIn files listed).filter fun entry => entry.2.id ≠ id).map Prod.snd) := by
    have sorted := (List.mergeSort_perm ((recipesIn files listed).map Prod.snd)
      fun a b => (listOrder a b).isLE).filter fun recipe => recipe.id ≠ id
    rwa [List.filter_map] at sorted
  exact (recipes files' listed').trans ((entries.map Prod.snd).trans (recipes files listed).symm)

variable {patch : RecipePatch} {fresh : Nat → String}

/-- An update that succeeds writes what the patch makes of a recipe of the id, in its file. -/
theorem updateRecipe_ok (order : listed.Perm files.keys)
    (ok : (updateRecipe files listed id patch fresh).2 = .ok recipe) :
    ∃ name before, isRecipeName name = true ∧ recipeIn files name = some before ∧
      before.id = id ∧ recipe.id = id ∧
      (updateRecipe files listed id patch fresh).1 = writeAtomically files name recipe := by
  unfold updateRecipe at ok ⊢
  cases found : findRecipe id (recipesIn files listed) with
  | none =>
    rw [found] at ok
    cases ok
  | some entry =>
    obtain ⟨mem, own⟩ := findRecipe_mem found
    obtain ⟨isRecipe, held⟩ := (mem_recipesIn_of_perm order).mp mem
    rw [found] at ok
    dsimp only at ok ⊢
    cases accepted : normalize fresh (patch.apply entry.2) with
    | error e =>
      rw [accepted] at ok
      cases ok
    | ok out =>
      rw [accepted] at ok
      cases ok
      exact ⟨entry.1, entry.2, isRecipe, held, own, (normalize_id accepted).trans own, rfl⟩

/-- A delete that succeeds removes a file that holds the id. -/
theorem deleteRecipe_ok (order : listed.Perm files.keys)
    (ok : (deleteRecipe files listed id).2 = .ok ()) :
    ∃ name before, isRecipeName name = true ∧ recipeIn files name = some before ∧
      before.id = id ∧ (deleteRecipe files listed id).1 = files.erase name := by
  unfold deleteRecipe at ok ⊢
  cases found : findRecipe id (recipesIn files listed) with
  | none =>
    rw [found] at ok
    cases ok
  | some entry =>
    obtain ⟨mem, own⟩ := findRecipe_mem found
    obtain ⟨isRecipe, held⟩ := (mem_recipesIn_of_perm order).mp mem
    exact ⟨entry.1, entry.2, isRecipe, held, own, rfl⟩

/-- A write to the one file that holds an id leaves it the one. -/
theorem OnlyAt.write (only : OnlyAt id path files) (recipe : Recipe) :
    OnlyAt id path (writeAtomically files path recipe) := by
  intro name held isRecipe at' own
  by_contra ne
  rw [recipeIn_writeAtomically isRecipe, if_neg ne] at at'
  exact ne (only name held isRecipe at' own)

/-- A directory in which one file at most holds an id is a map at it. -/
theorem mapsAt_of_only (only : OnlyAt id path files) : MapsAt files id := by
  constructor
  · intro listed patch fresh recipe order ok listed' order'
    obtain ⟨name, before, isRecipe, held, own, named, wrote⟩ := updateRecipe_ok order ok
    obtain rfl := only name before isRecipe held own
    rw [wrote] at order' ⊢
    have written : recipeIn (writeAtomically files name recipe) name = some recipe := by
      rw [recipeIn_writeAtomically isRecipe, if_pos rfl]
    constructor
    · rw [getRecipe, findRecipe_of_only (only.write recipe) isRecipe written named order']
      rfl
    · apply othersKept_of_frame name order order'
      · intro other isRecipe' ne
        rw [recipeIn_writeAtomically isRecipe', if_neg ne]
      · intro recipe' held'
        rw [held] at held'
        exact Option.some.inj held' ▸ own
      · intro recipe' held'
        rw [written] at held'
        exact Option.some.inj held' ▸ named
  · intro listed order ok listed' order'
    obtain ⟨name, before, isRecipe, held, own, removed⟩ := deleteRecipe_ok order ok
    obtain rfl := only name before isRecipe held own
    rw [removed] at order' ⊢
    constructor
    · rw [getRecipe, findRecipe_eq_none.mpr]
      · rfl
      · intro entry mem own'
        obtain ⟨isRecipe', held'⟩ := (mem_recipesIn_of_perm order').mp mem
        have at' : entry.1 ≠ name := by
          intro same
          rw [same, recipeIn_erase] at held'
          cases held'
        rw [recipeIn_erase_ne at'] at held'
        exact at' (only entry.1 entry.2 isRecipe' held' own')
    · apply othersKept_of_frame name order order'
      · exact fun other _ ne => recipeIn_erase_ne ne
      · intro recipe' held'
        rw [held] at held'
        exact Option.some.inj held' ▸ own
      · intro recipe' held'
        rw [recipeIn_erase] at held'
        cases held'

/-- **Updates and deletes** of an id do what they should exactly where one file at most holds it. -/
theorem mapsAt_iff : MapsAt files id ↔ ∃ path, OnlyAt id path files := by
  constructor
  · intro maps
    by_cases held : ∃ name recipe, isRecipeName name = true ∧ recipeIn files name = some recipe ∧
      recipe.id = id
    · obtain ⟨name, recipe, isRecipe, held, own⟩ := held
      -- a delete removes one file, and no other is left to hold the id
      have found : (deleteRecipe files files.keys id).2 = .ok () := by
        unfold deleteRecipe
        cases found : findRecipe id (recipesIn files files.keys) with
        | none =>
          have mem : (name, recipe) ∈ recipesIn files files.keys :=
            (mem_recipesIn_of_perm (List.Perm.refl _)).mpr ⟨isRecipe, held⟩
          exact absurd own (findRecipe_eq_none.mp found _ mem)
        | some entry => rfl
      obtain ⟨path, _, _, _, _, removed⟩ := deleteRecipe_ok (List.Perm.refl _) found
      have gone := (maps.deleted files.keys (List.Perm.refl _) found _ (List.Perm.refl _)).1
      rw [removed, getRecipe, Option.map_eq_none_iff, findRecipe_eq_none] at gone
      refine ⟨path, fun name recipe isRecipe held own => ?_⟩
      by_contra ne
      apply gone (name, recipe) _ own
      apply (mem_recipesIn_of_perm (List.Perm.refl _)).mpr
      exact ⟨isRecipe, (recipeIn_erase_ne ne).trans held⟩
    · refine ⟨"", fun name recipe isRecipe at' own => ?_⟩
      exact absurd ⟨name, recipe, isRecipe, at', own⟩ held
  · rintro ⟨path, only⟩
    exact mapsAt_of_only only

/-- **Exactly where the directory is a map.** -/
theorem recipeDir_map_iff (recipes : List Recipe) (distinct : (recipes.map Recipe.id).Nodup)
    (files : RecipeDir) (id : String) :
    (WritesListed recipes ↔ NamedApart recipes) ∧
      (MapsAt files id ↔ ∃ path, OnlyAt id path files) :=
  ⟨writesListed_iff distinct, mapsAt_iff⟩

namespace Kitchen

/-- A recipe of an id. -/
def recipeNamed (id : String) : Recipe := { recipeOf roast with id := id }

/-- A shelf on which the roast's file was copied by hand. -/
def copied : RecipeDir := shelf.insert "copy of roast.json" (.recipe (recipeOf roast))

end Kitchen

/-- On a shelf with one file of the roast, the roast is read as it was written. -/
theorem recipeDir_map_roast :
    (WritesListed [Kitchen.recipeNamed "soup", Kitchen.recipeNamed "bread"] ↔
      NamedApart [Kitchen.recipeNamed "soup", Kitchen.recipeNamed "bread"]) ∧
      (MapsAt Kitchen.shelf "roast" ↔ ∃ path, OnlyAt "roast" path Kitchen.shelf) :=
  recipeDir_map_iff [Kitchen.recipeNamed "soup", Kitchen.recipeNamed "bread"] (by decide)
    Kitchen.shelf "roast"

/-- Two ids that differ in a space share a file, and of a recipe that was copied a delete leaves the
copy. -/
theorem recipeDir_no_map :
    (¬ ∀ recipes : List Recipe, (recipes.map Recipe.id).Nodup → WritesListed recipes) ∧
      ¬ ∀ (files : RecipeDir) (id : String), MapsAt files id := by
  constructor
  · intro always
    have listed := always [Kitchen.recipeNamed "a b", Kitchen.recipeNamed "a_b"] (by decide)
    have apart := ((writesListed_iff (by decide)).mp listed).apart
    exact absurd apart (by decide +kernel)
  · intro always
    obtain ⟨path, only⟩ := mapsAt_iff.mp (always Kitchen.copied "roast")
    have original := only "roast.json" _ (by decide +kernel) rfl rfl
    have copy := only "copy of roast.json" _ (by decide +kernel) rfl rfl
    exact absurd (original.trans copy.symm) (by decide)

/-! ## A call alone -/

/-- A call's system calls, as long as it isn't done, with no other call's between them. -/
def runAlone (dir : String) (request : RecipeRequest) (listed : List String) :
    Nat → RecipeDir → RecipeCall × Option RecipeReply → RecipeDir × Option RecipeReply
  | _, files, (_, some reply) => (files, some reply)
  | 0, files, (_, none) => (files, none)
  | fuel + 1, files, (call, none) =>
    let (files, next) := call.step dir request listed files
    runAlone dir request listed fuel files next

/-- What a call answers, and leaves, by what it read. -/
def served (files : RecipeDir) (request : RecipeRequest) (read : List (String × Recipe)) :
    RecipeDir × RecipeReply :=
  match findRecipe request.id read with
  | none => (files, .error .notFound)
  | some (name, recipe) => match request with
    | .update _ patch fresh => match normalize fresh (patch.apply recipe) with
      | .error e => (files, .error e)
      | .ok recipe => (writeAtomically files name recipe, .ok (some recipe))
    | .delete _ => (files.erase name, .ok none)

theorem served_update :
    served files (.update id patch fresh) (recipesIn files listed) =
      ((updateRecipe files listed id patch fresh).1,
        (updateRecipe files listed id patch fresh).2.map some) := by
  unfold served updateRecipe
  show (match findRecipe id (recipesIn files listed) with | none => _ | some (name, recipe) => _) = _
  cases findRecipe id (recipesIn files listed) with
  | none => rfl
  | some entry =>
    dsimp only
    cases normalize fresh (patch.apply entry.2) <;> rfl

theorem served_delete :
    served files (.delete id) (recipesIn files listed) =
      ((deleteRecipe files listed id).1, (deleteRecipe files listed id).2.map fun _ => none) := by
  unfold served deleteRecipe
  show (match findRecipe id (recipesIn files listed) with | none => _ | some (name, recipe) => _) = _
  cases findRecipe id (recipesIn files listed) <;> rfl

variable {dir : String} {request : RecipeRequest} {fuel : Nat}

theorem runAlone_answered (reply : RecipeReply) (call : RecipeCall) :
    runAlone dir request listed fuel files (call, some reply) = (files, some reply) := by
  unfold runAlone
  cases fuel <;> rfl

/-- A write alone is the atomic write. -/
theorem runAlone_write (recipe : Recipe) :
    runAlone dir request listed (fuel + 2) files (.writeTmp name recipe, none) =
      (writeAtomically files name recipe, some (.ok (some recipe))) := by
  have tmp : (files.insert (tmpName name) (.recipe recipe)).lookup (tmpName name) =
      some (.recipe recipe) := AList.lookup_insert _
  simp only [runAlone, RecipeCall.step, tmp, runAlone_answered]
  rfl

/-- A removal alone removes a file that is there. -/
theorem runAlone_remove (held : recipeIn files name = some recipe) :
    runAlone dir request listed (fuel + 1) files (.remove name, none) =
      (files.erase name, some (.ok none)) := by
  obtain ⟨file, found, _⟩ := Option.bind_eq_some_iff.mp held
  simp only [runAlone, RecipeCall.step, found, Option.isNone_some, Bool.false_eq_true, if_false,
    runAlone_answered]

/-- After its reads, a call alone has two system calls left at most. -/
theorem runAlone_afterFind {read : List (String × Recipe)}
    (inFile : ∀ entry ∈ read, recipeIn files entry.1 = some entry.2) :
    runAlone dir request listed (fuel + 2) files (afterFind request read) =
      ((served files request read).1, some (served files request read).2) := by
  unfold afterFind served
  cases found : findRecipe request.id read with
  | none => exact runAlone_answered _ _
  | some entry =>
    have held := inFile entry (findRecipe_mem found).1
    cases request with
    | update id patch fresh =>
      dsimp only
      cases normalize fresh (patch.apply entry.2) with
      | error e => exact runAlone_answered _ _
      | ok recipe => exact runAlone_write recipe
    | delete id => exact runAlone_remove held

/-- The recipes in some files, each with its file. -/
def recipesOf (files : RecipeDir) (names : List String) : List (String × Recipe) :=
  names.filterMap fun name => (recipeIn files name).map fun recipe => (name, recipe)

/-- The files a call has left to read, it reads one by one. -/
theorem runAlone_readOn (left : List String) (read : List (String × Recipe))
    (inFile : ∀ entry ∈ read, recipeIn files entry.1 = some entry.2) :
    runAlone dir request listed (fuel + left.length + 2) files (readOn request left read) =
      ((served files request (read ++ recipesOf files left)).1,
        some (served files request (read ++ recipesOf files left)).2) := by
  induction left generalizing read with
  | nil =>
    have none : recipesOf files [] = [] := rfl
    rw [none, List.append_nil, readOn, if_pos rfl]
    exact runAlone_afterFind inFile
  | cons name rest ih =>
    have first : recipesOf files (name :: rest) =
        ((recipeIn files name).map fun recipe => (name, recipe)).toList ++ recipesOf files rest := by
      unfold recipesOf
      cases held : recipeIn files name with
      | none => simp [held]
      | some recipe => simp [held]
    have inFile' : ∀ entry ∈ read ++
        ((recipeIn files name).map fun recipe => (name, recipe)).toList,
        recipeIn files entry.1 = some entry.2 := by
      intro entry mem
      rcases List.mem_append.mp mem with before | now
      · exact inFile entry before
      · obtain ⟨recipe, held, rfl⟩ := Option.map_eq_some_iff.mp (Option.mem_toList.mp now)
        exact held
    rw [first, ← List.append_assoc, ← ih _ inFile', readOn, if_neg (List.cons_ne_nil _ _)]
    rfl

/-- **A call alone** does what the sequential update and delete do, whatever order the directory lists
its files in. -/
theorem runAlone_eq (order : listed.Perm files.keys) :
    runAlone dir request listed (fuel + listed.length + 3) files (.readDir, none) =
      ((served files request (recipesIn files listed)).1,
        some (served files request (recipesIn files listed)).2) := by
  obtain ⟨more, length⟩ := Nat.exists_eq_add_of_le (List.length_filter_le isRecipeName listed)
  have reads : runAlone dir request listed (fuel + more + (listed.filter isRecipeName).length + 2)
      files (readOn request (listed.filter isRecipeName) []) =
      ((served files request (recipesIn files listed)).1,
        some (served files request (recipesIn files listed)).2) :=
    runAlone_readOn _ [] fun entry mem => absurd mem List.not_mem_nil
  have same : fuel + more + (listed.filter isRecipeName).length + 2 = fuel + listed.length + 2 := by
    omega
  rw [same] at reads
  have first : RecipeCall.readDir.step dir request listed files =
      (files, readOn request (listed.filter isRecipeName) []) := by
    rw [RecipeCall.step, if_pos (List.isPerm_iff.mpr order)]
  show (let (files, next) := RecipeCall.readDir.step dir request listed files
    runAlone dir request listed (fuel + listed.length + 2) files next) = _
  rw [first]
  exact reads

/-- **An update alone** is the sequential update. -/
theorem runAlone_update (order : listed.Perm files.keys) {patch : RecipePatch}
    {fresh : Nat → String} :
    runAlone dir (.update id patch fresh) listed (fuel + listed.length + 3) files (.readDir, none) =
      ((updateRecipe files listed id patch fresh).1,
        some ((updateRecipe files listed id patch fresh).2.map some)) := by
  rw [runAlone_eq order, served_update]

/-- **A delete alone** is the sequential delete. -/
theorem runAlone_delete (order : listed.Perm files.keys) :
    runAlone dir (.delete id) listed (fuel + listed.length + 3) files (.readDir, none) =
      ((deleteRecipe files listed id).1,
        some ((deleteRecipe files listed id).2.map fun _ => none)) := by
  rw [runAlone_eq order, served_delete]

end AnovaOven
