import AnovaOven.Laws.Firestore
import AnovaOven.Laws.Normalize
import AnovaOven.Lib.Occurrences
import AnovaOven.Lib.Unordered
import AnovaOven.Processors.Mqtt.Recipes

/-!
# Laws of the recipe select

An option is a recipe's title and its number among the recipes of that title (`options_eq`). So each recipe
has an option (`options_cover`), and two options are the same only where a title is what another title's
numbered recipe is called (`nodup_options_iff`).

**Exactly where the options are unambiguous** (`options_unambiguous_iff`): where no title is another's
numbered option, no title begins or ends with white space, at most one is empty, and no two recipes share
an id. In every state a run of the select reaches, choosing an option then publishes the option's recipe
(`run_chooses`).
-/

namespace AnovaOven

open Occurrences Trim

variable {recipes : List Recipe} {recipe : Recipe} {title title' : String} {n m : Nat}

/-! ## Options as text -/

theorem optionText_one (title : String) : optionText title 1 = title := if_pos rfl

theorem toList_optionText (more : n ≠ 1) :
    (optionText title n).toList = (title.toList ++ [' ']) ++ '(' :: (Nat.toDigits 10 n ++ [')']) := by
  rw [optionText, if_neg more]
  simp only [String.toList_append, Nat.toString_eq_repr, Nat.toList_repr, List.append_assoc]
  rfl

/-- A numbered option is longer than its title. -/
theorem length_optionText (more : n ≠ 1) :
    title.toList.length < (optionText title n).toList.length := by
  rw [toList_optionText more]
  simp only [List.length_append, List.length_cons, List.length_nil]
  omega

/-- The digits of a number hold no bracket. -/
theorem bracket_notMem_toDigits (n : Nat) : '(' ∉ (Nat.toDigits 10 n ++ [')']) := by
  intro mem
  rcases List.mem_append.mp mem with digit | closing
  · have digit := Nat.isDigit_of_mem_toDigits (by decide) (by decide) digit
    exact absurd digit (by decide)
  · exact absurd (List.mem_singleton.mp closing) (by decide)

/-- Lists that are split at the last of an element. -/
theorem append_cons_inj_of_notMem_right {α : Type*} {a : α} {init init' tail tail' : List α}
    (last : a ∉ tail) (last' : a ∉ tail') (same : init ++ a :: tail = init' ++ a :: tail') :
    init = init' ∧ tail = tail' := by
  induction init generalizing init' with
  | nil =>
    cases init' with
    | nil => exact ⟨rfl, (List.cons.inj same).2⟩
    | cons b init' =>
      have inside := (List.cons.inj same).2
      exact absurd (inside ▸ List.mem_append_right _ List.mem_cons_self) last
  | cons b init ih =>
    cases init' with
    | nil =>
      have inside := (List.cons.inj same).2
      exact absurd (inside ▸ List.mem_append_right _ List.mem_cons_self) last'
    | cons b' init' =>
      obtain ⟨rfl, rest⟩ := List.cons.inj same
      obtain ⟨rfl, tails⟩ := ih rest
      exact ⟨rfl, tails⟩

/-- **A numbered option** tells its title and its number. -/
theorem optionText_inj (more : n ≠ 1) (more' : m ≠ 1)
    (same : optionText title n = optionText title' m) : title = title' ∧ n = m := by
  have same := congrArg String.toList same
  rw [toList_optionText more, toList_optionText more'] at same
  obtain ⟨titles, numbers⟩ := append_cons_inj_of_notMem_right (bracket_notMem_toDigits n)
    (bracket_notMem_toDigits m) same
  constructor
  · exact String.toList_inj.mp (List.append_cancel_right titles)
  · have digits := congrArg (Nat.ofDigitChars 10 · 0) (List.append_cancel_right numbers)
    simpa only [Nat.ofDigitChars_ten_toDigits] using digits

/-- A numbered option has nothing to trim exactly where its title isn't empty and begins with a
character that isn't white space. -/
theorem trim_optionText (more : n ≠ 1) :
    trim (optionText title n) = optionText title n ↔
      title ≠ "" ∧ ∀ c ∈ title.toList.head?, isWhitespace c = false := by
  rw [trim_eq_self_iff, toList_optionText more]
  cases begins : title.toList with
  | nil =>
    have empty : title = "" := String.toList_inj.mp begins
    constructor
    · intro neat
      exact absurd (neat.first ' ' rfl) (by decide)
    · exact fun full => absurd empty full.1
  | cons c rest =>
    constructor
    · intro neat
      refine ⟨?_, neat.first⟩
      rintro rfl
      cases begins
    · rintro ⟨_, first⟩
      have closing : ((c :: rest ++ [' ']) ++ '(' :: (Nat.toDigits 10 n ++ [')'])).getLast? =
          some ')' := by
        rw [← List.cons_append, ← List.append_assoc, List.getLast?_concat]
      refine ⟨first, fun d last => ?_⟩
      rw [closing] at last
      cases last
      decide

/-! ## Numbered recipes -/

/-- The recipes as they are sorted, each with its number among those of its title. -/
def numbered (recipes : List Recipe) : List (Nat × Recipe) :=
  number Recipe.title [] (sortedRecipes recipes)

theorem sortedRecipes_perm (recipes : List Recipe) : (sortedRecipes recipes).Perm recipes :=
  List.mergeSort_perm _ _

/-- Sorted recipes stand in the order of their titles. -/
theorem sorted_titles (recipes : List Recipe) :
    ((sortedRecipes recipes).map Recipe.title).Pairwise fun a b => (compare a b).isLE := by
  have order : optionOrder = compareLex (compareOn Recipe.title) (compareOn Recipe.id) := rfl
  have trans : ∀ a b c, (optionOrder a b).isLE → (optionOrder b c).isLE → (optionOrder a c).isLE := by
    rw [order]
    exact fun _ _ _ => Std.TransCmp.isLE_trans
  have total : ∀ a b, ((optionOrder a b).isLE || (optionOrder b a).isLE) = true := by
    intro a b
    rw [order]
    cases below : (compareLex (compareOn Recipe.title) (compareOn Recipe.id) a b).isLE with
    | true => rfl
    | false =>
      rw [Std.OrientedCmp.lt_of_not_isLE (Bool.eq_false_iff.mp below)]
      rfl
  apply List.pairwise_map.mpr
  apply (List.pairwise_mergeSort trans total recipes).imp
  exact Ordering.isLE_left_of_isLE_then

/-- The loop's options are those of the recipes' places in the runs of their titles. -/
theorem optionsFrom_eq (previous : Option String) (nth : Nat) (recipes : List Recipe) :
    optionsFrom previous nth recipes =
      (numberRuns Recipe.title previous nth recipes).map fun e =>
        (optionText e.2.title e.1, e.2.id) := by
  induction recipes generalizing previous nth with
  | nil => rfl
  | cons recipe rest ih => exact congrArg (_ :: ·) (ih _ _)

/-- **Options** are the titles of the recipes with their numbers. -/
theorem options_eq (recipes : List Recipe) :
    options recipes = (numbered recipes).map fun e => (optionText e.2.title e.1, e.2.id) := by
  have antisymm : ∀ a b : String, (compare a b).isLE → (compare b a).isLE → a = b := by
    intro a b le ge
    exact Std.LawfulEqOrd.eq_of_compare (Std.OrientedCmp.isLE_antisymm le ge)
  rw [options, optionsFrom_eq, numberRuns_eq antisymm (sorted_titles recipes)]
  rfl

/-- The numbers of a title are those up to how many recipes have it. -/
theorem mem_numbered_iff :
    (∃ recipe, recipe.title = title ∧ (n, recipe) ∈ numbered recipes) ↔
      0 < n ∧ n ≤ (recipes.map Recipe.title).count title := by
  have range : (∃ recipe, recipe.title = title ∧ (n, recipe) ∈ numbered recipes) ↔ _ :=
    mem_number_iff
  rw [range, ((sortedRecipes_perm recipes).map Recipe.title).count_eq, List.count_nil, Nat.zero_add]

theorem exists_numbered (mem : recipe ∈ recipes) : ∃ nth, (nth, recipe) ∈ numbered recipes := by
  have sorted : recipe ∈ (numbered recipes).map Prod.snd := by
    rw [numbered, map_snd_number]
    exact (sortedRecipes_perm recipes).mem_iff.mpr mem
  obtain ⟨⟨nth, _⟩, mem', rfl⟩ := List.mem_map.mp sorted
  exact ⟨nth, mem'⟩

theorem mem_of_numbered (mem : (n, recipe) ∈ numbered recipes) : recipe ∈ recipes := by
  have sorted := List.mem_map_of_mem (f := Prod.snd) mem
  rw [numbered, map_snd_number] at sorted
  exact (sortedRecipes_perm recipes).mem_iff.mp sorted

/-- A title that has a number is some recipe's. -/
theorem title_of_numbered (mem : (n, recipe) ∈ numbered recipes) :
    0 < n ∧ n ≤ (recipes.map Recipe.title).count recipe.title :=
  mem_numbered_iff.mp ⟨recipe, rfl, mem⟩

/-- **Each recipe** has an option. -/
theorem options_cover (recipes : List Recipe) :
    ((options recipes).map Prod.snd).Perm (recipes.map Recipe.id) := by
  have ids : (options recipes).map Prod.snd = ((numbered recipes).map Prod.snd).map Recipe.id := by
    rw [options_eq, List.map_map, List.map_map]
    rfl
  rw [ids, numbered, map_snd_number]
  exact (sortedRecipes_perm recipes).map _

/-! ## Options that are the same -/

/-- No title is what a numbered option of a title is called. -/
def Unnumbered (titles : List String) : Prop :=
  ∀ title n, 2 ≤ n → n ≤ titles.count title → optionText title n ∉ titles

/-- The recipes that have the same option are one. -/
theorem numbered_inj (unnumbered : Unnumbered (recipes.map Recipe.title)) {e e' : Nat × Recipe}
    (mem : e ∈ numbered recipes) (mem' : e' ∈ numbered recipes)
    (same : optionText e.2.title e.1 = optionText e'.2.title e'.1) : e = e' := by
  obtain ⟨positive, bound⟩ := title_of_numbered mem
  obtain ⟨positive', bound'⟩ := title_of_numbered mem'
  have titled := List.mem_map_of_mem (f := Recipe.title) (mem_of_numbered mem)
  have titled' := List.mem_map_of_mem (f := Recipe.title) (mem_of_numbered mem')
  have pair : (e.2.title, e.1) = (e'.2.title, e'.1) := by
    by_cases first : e.1 = 1
    · by_cases first' : e'.1 = 1
      · rw [first, first', optionText_one, optionText_one] at same
        rw [first, first', same]
      · rw [first, optionText_one] at same
        exact absurd (same ▸ titled) (unnumbered _ _ (by omega) bound')
    · by_cases first' : e'.1 = 1
      · rw [first', optionText_one] at same
        exact absurd (same ▸ titled') (unnumbered _ _ (by omega) bound)
      · obtain ⟨titles, numbers⟩ := optionText_inj first first' same
        rw [titles, numbers]
  exact List.inj_on_of_nodup_map (nodup_number _ _ _) mem mem' pair

/-- **Distinct options**: no title is another's numbered option. -/
theorem nodup_options_iff :
    ((options recipes).map Prod.fst).Nodup ↔ Unnumbered (recipes.map Recipe.title) := by
  have texts : (options recipes).map Prod.fst =
      (numbered recipes).map fun e => optionText e.2.title e.1 := by
    rw [options_eq, List.map_map]
    rfl
  rw [texts]
  constructor
  · intro distinct title n more bound mem
    obtain ⟨recipe, rfl, nth⟩ := mem_numbered_iff.mpr ⟨by omega, bound⟩
    -- the recipe whose title it is has the option too
    obtain ⟨other, titled, first⟩ :=
      mem_numbered_iff.mpr ⟨Nat.one_pos, List.one_le_count_iff.mpr mem⟩
    have same := List.inj_on_of_nodup_map distinct nth first (by rw [titled, optionText_one])
    have one := congrArg Prod.fst same
    dsimp only at one
    omega
  · intro unnumbered
    apply List.Nodup.map_on
    · exact fun e mem e' mem' => numbered_inj unnumbered mem mem'
    · exact (nodup_number Recipe.title [] (sortedRecipes recipes)).of_map _

/-! ## Choosing an option -/

/-- Choosing an option publishes a recipe, whatever is selected. -/
def Chooses (recipes : List Recipe) (option : String) (recipe : Recipe) : Prop :=
  ∀ selected : Option String, ∃ title,
    ((RecipeSelect.mk recipes (options recipes) selected).selectRecipe option).2 =
      [some (title, recipe)]

/-- A payload that names an option publishes what its id shows. -/
theorem selectRecipe_found {option text id : String}
    (found : Unordered.find Prod.fst (options recipes) (trim option) = some (text, id))
    (selected : Option String) :
    ((RecipeSelect.mk recipes (options recipes) selected).selectRecipe option).2 =
      [(RecipeSelect.mk recipes (options recipes) (some id)).shown] := by
  have found : (options recipes).find? (fun o => o.1 = trim option) = some (text, id) := found
  unfold RecipeSelect.selectRecipe
  rw [found]

/-- A payload that names no option publishes nothing. -/
theorem selectRecipe_unknown {option : String}
    (unknown : Unordered.find Prod.fst (options recipes) (trim option) = none)
    (selected : Option String) :
    ((RecipeSelect.mk recipes (options recipes) selected).selectRecipe option).2 = [] := by
  have unknown : (options recipes).find? (fun o => o.1 = trim option) = none := unknown
  unfold RecipeSelect.selectRecipe
  rw [unknown]

/-- Under an option's id, the first recipe of the id is shown. -/
theorem shown_option {text id : String} (mem : (text, id) ∈ options recipes) :
    ∃ title, (RecipeSelect.mk recipes (options recipes) (some id)).shown =
      (Unordered.find Recipe.id recipes id).map fun recipe => (title, recipe) := by
  cases named : (options recipes).find? fun o => o.2 = id with
  | none => exact absurd (decide_eq_true rfl) (List.find?_eq_none.mp named _ mem)
  | some o => exact ⟨o.1, by rw [RecipeSelect.shown, Option.bind_some, named]; rfl⟩

/-- The recipe published is the one of the option found. -/
theorem chooses_iff {option : String} :
    Chooses recipes option recipe ↔
      ∃ text id, Unordered.find Prod.fst (options recipes) (trim option) = some (text, id) ∧
        Unordered.find Recipe.id recipes id = some recipe := by
  constructor
  · intro chooses
    obtain ⟨title, one⟩ := chooses none
    cases found : Unordered.find Prod.fst (options recipes) (trim option) with
    | none =>
      rw [selectRecipe_unknown found] at one
      cases one
    | some o =>
      obtain ⟨title', eq⟩ := shown_option (Unordered.of_find found).1
      rw [selectRecipe_found found, eq] at one
      obtain ⟨_, held, same⟩ := Option.map_eq_some_iff.mp (List.singleton_inj.mp one)
      exact ⟨o.1, o.2, rfl, by rw [held, (Prod.mk.inj same).2]⟩
  · rintro ⟨text, id, found, held⟩ selected
    obtain ⟨title, eq⟩ := shown_option (Unordered.of_find found).1
    exact ⟨title, by rw [selectRecipe_found found, eq, held]; rfl⟩

/-- Options that are unambiguous: no two are the same, each recipe has one, and choosing an option finds
the recipe it was made of. -/
structure Unambiguous (recipes : List Recipe) : Prop where
  distinct : ((options recipes).map Prod.fst).Nodup
  cover : ((options recipes).map Prod.snd).Perm (recipes.map Recipe.id)
  chosen : ∀ entry ∈ (options recipes).zip (sortedRecipes recipes),
    Chooses recipes entry.1.1 entry.2

/-- Recipes that tell each other apart: by titles that are no numbered options and that a trim leaves
alone, and by their ids. -/
structure TellApart (recipes : List Recipe) : Prop where
  unnumbered : Unnumbered (recipes.map Recipe.title)
  trimmed : ∀ recipe ∈ recipes, trim recipe.title = recipe.title
  untitled : (recipes.map Recipe.title).count "" ≤ 1
  identified : ∀ recipe ∈ recipes, ∀ other ∈ recipes, other.id = recipe.id → other = recipe

/-- The options with their recipes are the numbered recipes. -/
theorem zip_options (recipes : List Recipe) :
    (options recipes).zip (sortedRecipes recipes) =
      (numbered recipes).map fun e => ((optionText e.2.title e.1, e.2.id), e.2) := by
  have sorted : sortedRecipes recipes = (numbered recipes).map Prod.snd := by
    rw [numbered, map_snd_number]
  rw [options_eq, sorted, List.zip_map']

/-- A recipe that an option chooses has a number under which it is called what the option is, trimmed. -/
theorem Chooses.text {option : String} (chooses : Chooses recipes option recipe)
    (identified : ∀ recipe ∈ recipes, ∀ other ∈ recipes, other.id = recipe.id → other = recipe) :
    ∃ nth, optionText recipe.title nth = trim option := by
  obtain ⟨text, id, found, held⟩ := chooses_iff.mp chooses
  obtain ⟨mem, text⟩ := Unordered.of_find found
  obtain ⟨among, own⟩ := Unordered.of_find held
  rw [options_eq] at mem
  obtain ⟨entry, numbered, eq⟩ := List.mem_map.mp mem
  obtain ⟨rfl, rfl⟩ := Prod.mk.inj eq
  refine ⟨entry.1, ?_⟩
  rw [← identified recipe among entry.2 (mem_of_numbered numbered) own.symm]
  exact text

/-- Unambiguous options choose the recipes they are made of. -/
theorem Unambiguous.chooses (unambiguous : Unambiguous recipes) (mem : (n, recipe) ∈ numbered recipes) :
    Chooses recipes (optionText recipe.title n) recipe := by
  apply unambiguous.chosen ((optionText recipe.title n, recipe.id), recipe)
  rw [zip_options]
  exact List.mem_map_of_mem (f := fun e => ((optionText e.2.title e.1, e.2.id), e.2)) mem

/-- Of two recipes with one id only the first is ever published, so they are one. -/
theorem Unambiguous.identified (unambiguous : Unambiguous recipes) :
    ∀ recipe ∈ recipes, ∀ other ∈ recipes, other.id = recipe.id → other = recipe := by
  have first (recipe : Recipe) (mem : recipe ∈ recipes) :
      Unordered.find Recipe.id recipes recipe.id = some recipe := by
    obtain ⟨nth, mem⟩ := exists_numbered mem
    obtain ⟨text, id, _, held⟩ := chooses_iff.mp (unambiguous.chooses mem)
    rw [(Unordered.of_find held).2, held]
  intro recipe mem other mem' same
  have held := first other mem'
  rw [same, first recipe mem] at held
  exact (Option.some.inj held).symm

/-- A title that is chosen is what its trim is. -/
theorem Unambiguous.trimmed (unambiguous : Unambiguous recipes) (mem : recipe ∈ recipes) :
    trim recipe.title = recipe.title := by
  have titled := List.one_le_count_iff.mpr (List.mem_map_of_mem (f := Recipe.title) mem)
  obtain ⟨first, same, mem⟩ := mem_numbered_iff.mpr ⟨Nat.one_pos, titled⟩
  obtain ⟨nth, text⟩ := (unambiguous.chooses mem).text unambiguous.identified
  rw [optionText_one, same] at text
  by_cases one : nth = 1
  · rw [← text, one, optionText_one]
  · -- a numbered option is longer than what a trim leaves of the title
    have longer : recipe.title.toList.length < (optionText recipe.title nth).toList.length :=
      length_optionText one
    have shorter := length_trimBy_le isWhitespace recipe.title.toList
    rw [text, toList_trim] at longer
    omega

/-- The second option of the empty title isn't found: its text begins with a space. -/
theorem Unambiguous.untitled (unambiguous : Unambiguous recipes) :
    (recipes.map Recipe.title).count "" ≤ 1 := by
  by_contra more
  obtain ⟨second, same, mem⟩ := mem_numbered_iff.mpr ⟨Nat.two_pos, Nat.not_le.mp more⟩
  obtain ⟨nth, text⟩ := (unambiguous.chooses mem).text unambiguous.identified
  have bracket : trim (optionText "" 2) = "(2)" := by decide +kernel
  rw [same, bracket] at text
  by_cases one : nth = 1
  · rw [one, optionText_one] at text
    exact absurd text (by decide)
  · have blank := congrArg (fun s : String => s.toList.head?) text
    rw [toList_optionText one] at blank
    exact absurd (Option.some.inj blank) (by decide)

/-- **Necessary.** Recipes whose options are unambiguous tell each other apart. -/
theorem Unambiguous.tellApart (unambiguous : Unambiguous recipes) : TellApart recipes where
  unnumbered := nodup_options_iff.mp unambiguous.distinct
  trimmed _ := unambiguous.trimmed
  untitled := unambiguous.untitled
  identified := unambiguous.identified

/-- **Sufficient.** Recipes that tell each other apart have unambiguous options. -/
theorem TellApart.unambiguous (apart : TellApart recipes) : Unambiguous recipes := by
  have distinct := nodup_options_iff.mpr apart.unnumbered
  refine ⟨distinct, options_cover recipes, ?_⟩
  intro entry mem
  rw [zip_options] at mem
  obtain ⟨⟨nth, recipe⟩, numbered, rfl⟩ := List.mem_map.mp mem
  have mem := mem_of_numbered numbered
  have trimmed : trim (optionText recipe.title nth) = optionText recipe.title nth := by
    by_cases one : nth = 1
    · rw [one, optionText_one]
      exact apart.trimmed recipe mem
    · obtain ⟨positive, bound⟩ := title_of_numbered numbered
      apply (trim_optionText one).mpr
      refine ⟨?_, (trim_eq_self_iff.mp (apart.trimmed recipe mem)).first⟩
      intro empty
      rw [empty] at bound
      exact one (by have := apart.untitled; omega)
  apply chooses_iff.mpr
  refine ⟨optionText recipe.title nth, recipe.id, ?_, ?_⟩
  · apply (Unordered.Keyed.find_eq_some distinct).mpr
    refine ⟨?_, trimmed.symm⟩
    rw [options_eq]
    exact List.mem_map_of_mem (f := fun e => (optionText e.2.title e.1, e.2.id)) numbered
  · exact Unordered.find_of_unique mem (apart.identified recipe mem)

/-- **Exactly where the options are unambiguous.** -/
theorem options_unambiguous_iff (recipes : List Recipe) :
    Unambiguous recipes ↔ TellApart recipes :=
  ⟨Unambiguous.tellApart, TellApart.unambiguous⟩

namespace Kitchen

/-- A recipe with a title. -/
def titled (id title : String) : Recipe := { recipeOf roast with id := id, title := title }

end Kitchen

/-- Two loaves, and a loaf that is titled as the second one is called. -/
theorem options_ambiguous_bread :
    ¬ ∀ recipes : List Recipe, (recipes.map Recipe.id).Nodup → Unambiguous recipes := by
  intro always
  have apart := (always [Kitchen.titled "1" "Bread", Kitchen.titled "2" "Bread",
    Kitchen.titled "3" "Bread (2)"] (by decide)).tellApart
  exact apart.unnumbered "Bread" 2 (by decide) (by decide) (by decide)

/-- Of recipes that are served as a merge only the titles can make the options ambiguous. -/
theorem Merged.unambiguous_iff {own bookmarked : List Recipe} (merged : Merged own bookmarked recipes) :
    Unambiguous recipes ↔ Unnumbered (recipes.map Recipe.title) ∧
      (∀ recipe ∈ recipes, trim recipe.title = recipe.title) ∧
      (recipes.map Recipe.title).count "" ≤ 1 := by
  rw [options_unambiguous_iff]
  constructor
  · exact fun apart => ⟨apart.unnumbered, apart.trimmed, apart.untitled⟩
  · rintro ⟨unnumbered, trimmed, untitled⟩
    refine ⟨unnumbered, trimmed, untitled, ?_⟩
    exact fun recipe mem other mem' same => List.inj_on_of_nodup_map merged.distinct mem' mem same

/-! ## Runs -/

/-- What holds of the select in every state: its options are its recipes', and one of them is selected
where there is one. -/
structure RecipeSelect.Current (select : RecipeSelect) : Prop where
  options : select.options = AnovaOven.options select.recipes
  selected : select.selected.any (fun id => select.options.any fun o => o.2 = id) = true ∨
    select.selected = none ∧ select.options = []

theorem RecipeSelect.new_current : new.Current where
  options := by
    show [] = AnovaOven.options []
    rw [AnovaOven.options, sortedRecipes, List.mergeSort_nil]
    rfl
  selected := .inr ⟨rfl, rfl⟩

/-- A selection that is made anew is of an option, where there is one. -/
theorem RecipeSelect.reselect_current (select : RecipeSelect)
    (made : select.options = AnovaOven.options select.recipes) : select.reselect.Current := by
  unfold reselect
  split
  · rename_i stays
    exact ⟨made, .inl stays⟩
  · refine ⟨made, ?_⟩
    cases own : select.options with
    | nil => exact .inr ⟨rfl, rfl⟩
    | cons o rest => exact .inl (by simp)

/-- One event keeps the select current. -/
theorem recipeSelect_current (select : RecipeSelect) (event : SelectEvent)
    (current : select.Current) : (recipeSelect.next select event).Current := by
  cases event with
  | connected recipes => exact RecipeSelect.reselect_current _ rfl
  | changed recipes =>
    show (select.onChange recipes).1.Current
    unfold RecipeSelect.onChange
    dsimp only
    split
    · exact RecipeSelect.reselect_current _ rfl
    · rename_i same
      have same := not_not.mp same
      split
      · exact ⟨same.symm, current.selected⟩
      · exact current
  | selectRecipe payload =>
    show (select.selectRecipe payload).1.Current
    unfold RecipeSelect.selectRecipe
    split
    · rename_i text id found
      refine ⟨current.options, .inl ?_⟩
      apply List.any_eq_true.mpr
      exact ⟨(text, id), List.mem_of_find?_eq_some found, decide_eq_true rfl⟩
    · exact current

/-- **In every state a run reaches**, choosing an option of recipes that tell each other apart publishes
the recipe it was made of. -/
theorem run_chooses (events : List SelectEvent) (select : RecipeSelect)
    (reached : recipeSelect.run .new events = select) (apart : TellApart select.recipes) :
    ∀ entry ∈ select.options.zip (sortedRecipes select.recipes),
      ∃ title, (select.selectRecipe entry.1.1).2 = [some (title, entry.2)] := by
  have current : select.Current := by
    rw [← reached]
    exact recipeSelect.run_keeps (fun select event _ => recipeSelect_current select event)
      RecipeSelect.new_current
  obtain ⟨recipes, options, selected⟩ := select
  obtain rfl : options = AnovaOven.options recipes := current.options
  intro entry mem
  exact apart.unambiguous.chosen entry mem selected

end AnovaOven
