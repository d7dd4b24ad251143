import AnovaOven.Laws.Starts
import AnovaOven.Laws.Wire
import Mathlib.Data.List.Induction

/-!
# Laws of the stages' ids

**Ids pair up** (`started_ids_pair`): a start sends its stages under the ids the cook keeps them by,
and a preheat under the id of the stage after it. **Extras survive the echo** (`extras_survive_iff`):
the prompts, kept by those ids, come back over the oven's stages exactly where no two stages that
share an id differ in theirs. Both rest on what the platform's prefix makes of an id
(`normalizeStageIdForWs_preheat_iff`, `startedStages_getElem?`).
-/

namespace AnovaOven

variable {env : Env} {fresh : Fresh} {s : SmState} {cmd : StateMachineCommand} {recipe : Recipe}
variable {started : StartedFrom} {stages : List Stage}

/-! ## Platform prefixes -/

/-- Stripping a pattern that doesn't lead what is left, behind any number of copies of it. -/
theorem trimStartMatches_flatten {pattern rest : List Char} (done : ¬ pattern <+: rest)
    (copies fuel : Nat) (enough : copies ≤ fuel) :
    trimStartMatches pattern fuel ((List.replicate copies pattern).flatten ++ rest) = rest := by
  induction copies generalizing fuel with
  | zero =>
    cases fuel with
    | zero => rfl
    | succ fuel => simp [trimStartMatches, done]
  | succ copies ih =>
    cases fuel with
    | zero => omega
    | succ fuel =>
      rw [List.replicate_succ, List.flatten_cons, List.append_assoc]
      unfold trimStartMatches
      rw [if_pos (by simp), List.drop_left]
      exact ih fuel (by omega)

/-- Every text is copies of a pattern before something it doesn't lead. -/
theorem exists_copies {pattern : List Char} (nonempty : pattern ≠ []) (text : List Char) :
    ∃ copies rest, text = (List.replicate copies pattern).flatten ++ rest ∧ ¬ pattern <+: rest ∧
      copies ≤ text.length := by
  induction h : text.length using Nat.strong_induction_on generalizing text with
  | _ n ih =>
    by_cases leads : pattern <+: text
    · obtain ⟨rest, rfl⟩ := leads
      have pos : 0 < pattern.length := List.length_pos_iff.mpr nonempty
      rw [List.length_append] at h
      obtain ⟨copies, rest', eq, done, bound⟩ := ih rest.length (by omega) rest rfl
      refine ⟨copies + 1, rest', ?_, done, by omega⟩
      rw [List.replicate_succ, List.flatten_cons, List.append_assoc, ← eq]
    · exact ⟨0, text, rfl, leads, Nat.zero_le _⟩

/-- A word and its mark lead a text they didn't before only where the text is the word. -/
theorem leads_marked_iff {word text rest : List Char} {mark : Char} (single : mark ∉ word)
    (before : ¬ (word ++ [mark]) <+: text) :
    (word ++ [mark]) <+: text ++ mark :: rest ↔ text = word := by
  constructor
  · rintro ⟨after, eq⟩
    rcases List.append_eq_append_iff.mp eq with ⟨more, leads, _⟩ | ⟨overlap, whole, marked⟩
    · exact absurd ⟨more, leads.symm⟩ before
    · cases overlap with
      | nil => exact absurd ⟨[], by rw [List.append_nil, whole, List.append_nil]⟩ before
      | cons c overlap =>
        -- the overlap starts at the mark, which the word holds nowhere
        obtain ⟨rfl, _⟩ := List.cons.inj marked
        rcases List.eq_nil_or_concat overlap with rfl | ⟨inner, last, rfl⟩
        · exact (List.append_inj_left' whole rfl).symm
        · have split : word ++ [mark] = (text ++ mark :: inner) ++ [last] := by
            rw [whole, List.append_assoc, List.concat_eq_append, List.cons_append]
          have inside : mark ∈ word := by
            rw [List.append_inj_left' split rfl]
            simp
          exact absurd inside single
  · rintro rfl
    exact ⟨rest, by simp⟩

/-- The names that a suffix turns into a platform's prefix: the one platform's, and the other's behind
any number of its own prefixes. -/
def PlatformName (id : String) : Prop :=
  id = "ios" ∨ ∃ copies,
    id.toList = (List.replicate copies "android-".toList).flatten ++ "android".toList

/-- An id without the prefix loses the other platform's and takes it. -/
theorem normalizeStageIdForWs_plain {freshId id : String} {copies : Nat} {rest : List Char}
    (given : id ≠ "") (plain : ¬ "ios-".toList <+: id.toList)
    (text : id.toList = (List.replicate copies "android-".toList).flatten ++ rest)
    (stripped : ¬ "android-".toList <+: rest) :
    normalizeStageIdForWs freshId (some id) = "ios-" ++ String.ofList rest := by
  have strip : trimStartMatches "android-".toList id.length id.toList = rest := by
    have bound : copies ≤ id.length := by
      have length := congrArg List.length text
      simp at length
      rw [String.length_toList] at length
      omega
    rw [text]
    exact trimStartMatches_flatten stripped copies id.length bound
  unfold normalizeStageIdForWs
  dsimp only
  rw [if_neg (by simpa using plain)]
  split
  · rw [strip]
  · rename_i unprefixed
    have none : copies = 0 := by
      cases copies with
      | zero => rfl
      | succ copies =>
        rw [List.replicate_succ, List.flatten_cons, List.append_assoc] at text
        exact absurd (by simp [text]) unprefixed
    subst none
    have whole : rest = id.toList := by simpa using text.symm
    rw [whole, String.ofList_toList]

/-- An id with iOS's prefix is no platform's name. -/
theorem not_platformName_of_ios {id : String} (ios : "ios-".toList <+: id.toList) :
    ¬ PlatformName id := by
  rintro (rfl | ⟨copies, text⟩)
  · exact absurd ios (by decide)
  · rw [text] at ios
    cases copies with
    | zero => exact absurd ios (by decide)
    | succ copies =>
      rw [List.replicate_succ, List.flatten_cons, List.append_assoc] at ios
      simp at ios

/-- What is left after the prefixes of an id that ends in the platform's name is that name. -/
theorem rest_of_copies {copies copies' : Nat} {rest : List Char}
    (stripped : ¬ "android-".toList <+: rest)
    (same : (List.replicate copies "android-".toList).flatten ++ rest =
      (List.replicate copies' "android-".toList).flatten ++ "android".toList) :
    rest = "android".toList := by
  -- both are what is left of the text once its prefixes are trimmed
  have left := trimStartMatches_flatten stripped copies (copies + copies') (Nat.le_add_right _ _)
  have right := trimStartMatches_flatten
    (show ¬ "android-".toList <+: "android".toList by decide) copies' (copies + copies')
    (Nat.le_add_left _ _)
  rw [← same, left] at right
  exact right

/-- **Suffixing.** An id keeps its suffix on the wire exactly where the suffix makes no platform's
prefix of it. -/
theorem normalizeStageIdForWs_preheat_iff {freshId freshId' id : String} (given : id ≠ "") :
    normalizeStageIdForWs freshId (some (id ++ "-preheat")) =
        normalizeStageIdForWs freshId' (some id) ++ "-preheat" ↔ ¬ PlatformName id := by
  have suffixed : (id ++ "-preheat").toList = id.toList ++ '-' :: "preheat".toList :=
    String.toList_append
  by_cases ios : "ios-".toList <+: id.toList
  · -- the prefix is there already: both go out as they are
    have own : normalizeStageIdForWs freshId' (some id) = id := if_pos (by simpa using ios)
    have out : normalizeStageIdForWs freshId (some (id ++ "-preheat")) = id ++ "-preheat" := by
      apply if_pos
      rw [suffixed]
      simpa using ios.trans (List.prefix_append _ _)
    exact iff_of_true (by rw [own, out]) (not_platformName_of_ios ios)
  · by_cases isIos : id = "ios"
    · subst isIos
      refine iff_of_false ?_ (fun plain => plain (.inl rfl))
      show "ios-preheat" ≠ "ios-ios" ++ "-preheat"
      decide
    have plain : ¬ "ios-".toList <+: (id ++ "-preheat").toList := by
      rw [suffixed]
      intro leads
      have text := (leads_marked_iff (show '-' ∉ "ios".toList by decide) ios).mp leads
      exact isIos (String.toList_inj.mp text)
    have nonempty : id ++ "-preheat" ≠ "" := by
      intro empty
      have length := congrArg String.length empty
      rw [String.length_append] at length
      exact absurd length (by simp)
    obtain ⟨copies, rest, text, stripped, _⟩ :=
      exists_copies (show "android-".toList ≠ [] by decide) id.toList
    rw [normalizeStageIdForWs_plain given ios text stripped]
    by_cases android : rest = "android".toList
    · -- the suffix completes one more prefix, which goes with the others
      subst android
      refine iff_of_false ?_ (fun plain => plain (.inr ⟨copies, text⟩))
      have more : (id ++ "-preheat").toList =
          (List.replicate (copies + 1) "android-".toList).flatten ++ "preheat".toList := by
        rw [suffixed, text, List.replicate_succ']
        simp
      rw [normalizeStageIdForWs_plain nonempty plain more (by decide)]
      decide
    · have kept : (id ++ "-preheat").toList =
          (List.replicate copies "android-".toList).flatten ++ (rest ++ '-' :: "preheat".toList) := by
        rw [suffixed, text, List.append_assoc]
      have unled : ¬ "android-".toList <+: rest ++ '-' :: "preheat".toList := by
        intro leads
        exact android
          ((leads_marked_iff (show '-' ∉ "android".toList by decide) stripped).mp leads)
      rw [normalizeStageIdForWs_plain nonempty plain kept unled]
      refine iff_of_true ?_ ?_
      · rw [String.append_assoc, String.ofList_append]
        rfl
      · rintro (isIos' | ⟨copies', text'⟩)
        · exact isIos isIos'
        · exact android (rest_of_copies stripped (text.symm.trans text'))

/-! ## Ids on the wire -/

/-- A stage's id after the renaming: the one its successor gives it, or its own. -/
theorem rewritePreheatStageIds_getElem? (stages : List Stage) (i : Nat) :
    (rewritePreheatStageIds stages)[i]? = stages[i]?.map fun stage =>
      { stage with id := (stages[i + 1]?.bind (preheatIdFrom stage)).or stage.id } := by
  induction stages generalizing i with
  | nil => rfl
  | cons stage rest ih =>
    cases rest with
    | nil => cases i <;> simp [rewritePreheatStageIds]
    | cons next rest =>
      cases i with
      | zero =>
        unfold rewritePreheatStageIds
        cases renamed : preheatIdFrom stage next <;> simp [renamed]
      | succ i => exact ih i

/-- A stage as it's started: as the recipe has it, but for its id. -/
theorem startedStages_getElem? (fresh : Fresh) (stages : List Stage) (i : Nat) :
    (startedStages fresh stages)[i]? = stages[i]?.map fun stage =>
      { stage with id := some (normalizeStageIdForWs (fresh.stageId i)
          ((stages[i + 1]?.bind (preheatIdFrom stage)).or stage.id)) } := by
  unfold startedStages
  rw [List.getElem?_mapIdx, rewritePreheatStageIds_getElem?, Option.map_map]
  rfl

/-- Every started stage has an id, which goes out as it is. -/
theorem startedStages_id {stage : Stage} (item : stage ∈ startedStages fresh stages)
    (freshId : String) : stage.id = some (normalizeStageIdForWs freshId stage.id) := by
  obtain ⟨i, at'⟩ := List.mem_iff_getElem?.mp item
  rw [startedStages_getElem?] at at'
  obtain ⟨source, _, rfl⟩ := Option.map_eq_some_iff.mp at'
  exact congrArg some (normalizeStageIdForWs_again _ _ _).symm

/-- The object of a started stage says its id. -/
theorem startStageJson_id {stage : Stage} (item : stage ∈ startedStages fresh stages)
    (freshId : String) : (startStageJson freshId stage).get "id" = stage.id.map Json.str := by
  rw [get_base (by decide), startedStages_id item freshId]
  rfl

/-- The ids on the wire are the started stages'. -/
theorem startStagesJson_ids (wire : Nat → String) (fresh : Fresh) (stages : List Stage) :
    (startStagesJson wire (startedStages fresh stages)).map (·.get "id") =
      (startedStages fresh stages).map fun stage => stage.id.map Json.str := by
  apply List.ext_getElem?
  intro i
  rw [List.getElem?_map, List.getElem?_map]
  cases at' : (startedStages fresh stages)[i]? with
  | none => simp [startStagesJson, List.getElem?_mapIdx, at']
  | some stage =>
    rw [startStagesJson_getElem? at', Option.map_some, Option.map_some,
      startStageJson_id (List.mem_of_getElem? at')]

/-! ## Prompts by id -/

namespace CookExtras

theorem collect_concat (pairs : List (String × String)) (pair : String × String) :
    collect (pairs ++ [pair]) = (collect pairs).filter (fun entry => entry.1 ≠ pair.1) ++ [pair] := by
  unfold collect
  rw [List.foldl_append]
  rfl

/-- A map keeps only pairs it was given. -/
theorem mem_collect {pairs : List (String × String)} {pair : String × String}
    (kept : pair ∈ collect pairs) : pair ∈ pairs := by
  induction pairs using List.reverseRecOn with
  | nil => cases kept
  | append_singleton pairs last ih =>
    rw [collect_concat] at kept
    rcases List.mem_append.mp kept with before | new
    · exact List.mem_append_left _ (ih (List.mem_filter.mp before).1)
    · exact List.mem_append_right _ new

/-- A map has every key it was given. -/
theorem exists_mem_collect {pairs : List (String × String)} {key value : String}
    (given : (key, value) ∈ pairs) : ∃ value', (key, value') ∈ collect pairs := by
  induction pairs using List.reverseRecOn with
  | nil => cases given
  | append_singleton pairs last ih =>
    rw [collect_concat]
    by_cases replaced : key = last.1
    · subst replaced
      exact ⟨last.2, List.mem_append_right _ (List.mem_singleton.mpr rfl)⟩
    · rcases List.mem_append.mp given with before | new
      · obtain ⟨value', kept⟩ := ih before
        exact ⟨value', List.mem_append_left _ (List.mem_filter.mpr ⟨kept, by simpa using replaced⟩)⟩
      · rw [List.mem_singleton] at new
        exact absurd (by rw [← new]) replaced

end CookExtras

/-- The prompts are a started stage's each, under its id. -/
theorem mem_fromStages {id prompt : String} (kept : (id, prompt) ∈ (CookExtras.fromStages stages).prompts) :
    ∃ stage ∈ stages, stage.id = some id ∧ stage.prompt = some prompt := by
  obtain ⟨stage, item, own⟩ := List.mem_filterMap.mp (CookExtras.mem_collect kept)
  cases hid : stage.id <;> cases hprompt : stage.prompt <;> simp [hid, hprompt] at own
  exact ⟨stage, item, by rw [hid, own.1], by rw [hprompt, own.2]⟩

/-- Every stage with a prompt has its id among the prompts' keys. -/
theorem exists_mem_fromStages {stage : Stage} {id prompt : String} (item : stage ∈ stages)
    (hid : stage.id = some id) (hprompt : stage.prompt = some prompt) :
    ∃ prompt', (id, prompt') ∈ (CookExtras.fromStages stages).prompts :=
  CookExtras.exists_mem_collect
    (List.mem_filterMap.mpr ⟨stage, item, by rw [hid, hprompt]; rfl⟩)

/-- Each preheat right before a stage of another kind carries that stage's id, suffixed. -/
def PreheatsPaired (stages : List Stage) : Prop :=
  ∀ i stage next, stages[i]? = some stage → stages[i + 1]? = some next → stage.kind = "preheat" →
    next.kind ≠ "preheat" → ∃ id, next.id = some id ∧ stage.id = some (id ++ "-preheat")

/-- The stages go out under the ids they are kept by, which the prompts are kept under. -/
structure OneId (wire : List Json) (kept : List Stage) (prompts : List (String × String)) : Prop where
  stages : wire.map (·.get "id") = kept.map fun stage => stage.id.map Json.str
  keys : ∀ key, key ∈ prompts.map Prod.fst ↔
    ∃ (i : Nat) (stage : Stage) (object : Json), kept[i]? = some stage ∧ stage.prompt.isSome ∧
      wire[i]? = some object ∧ object.get "id" = some (.str key)

/-- The started stages, as they are sent and kept, and the prompts share their ids. -/
theorem startedStages_oneId (wire : Nat → String) (fresh : Fresh) (stages : List Stage) :
    OneId (startStagesJson wire (startedStages fresh stages)) (startedStages fresh stages)
      (CookExtras.fromStages (startedStages fresh stages)).prompts where
  stages := startStagesJson_ids wire fresh stages
  keys := by
    intro key
    constructor
    · intro kept
      obtain ⟨⟨id, prompt⟩, entry, rfl⟩ := List.mem_map.mp kept
      obtain ⟨stage, item, hid, hprompt⟩ := mem_fromStages entry
      obtain ⟨i, at'⟩ := List.mem_iff_getElem?.mp item
      refine ⟨i, stage, _, at', by rw [hprompt]; rfl, startStagesJson_getElem? at', ?_⟩
      rw [startStageJson_id item, hid]
      rfl
    · rintro ⟨i, stage, object, at', waits, sent, id⟩
      obtain ⟨prompt, hprompt⟩ := Option.isSome_iff_exists.mp waits
      rw [startStagesJson_getElem? at'] at sent
      cases sent
      rw [startStageJson_id (List.mem_of_getElem? at')] at id
      obtain ⟨own, hid, same⟩ := Option.map_eq_some_iff.mp id
      cases same
      obtain ⟨prompt', entry⟩ := exists_mem_fromStages (List.mem_of_getElem? at') hid hprompt
      exact List.mem_map.mpr ⟨_, entry, rfl⟩

/-- A preheat before another kind of stage goes out under that stage's id, suffixed. -/
theorem startedStages_paired {i : Nat} {stage next : Stage} {id : String}
    (at' : stages[i]? = some stage) (after : stages[i + 1]? = some next)
    (preheat : stage.kind = "preheat") (cooks : next.kind ≠ "preheat") (given : next.id = some id)
    (nonempty : id ≠ "") (plain : ¬ PlatformName id) :
    ∃ sent sentNext wireId, (startedStages fresh stages)[i]? = some sent ∧
      (startedStages fresh stages)[i + 1]? = some sentNext ∧ sentNext.id = some wireId ∧
      sent.id = some (wireId ++ "-preheat") := by
  have renamed : preheatIdFrom stage next = some (id ++ "-preheat") := by
    unfold preheatIdFrom
    rw [if_neg (not_not.mpr preheat), if_neg cooks, given]
    rfl
  have kept (last : Option Stage) : last.bind (preheatIdFrom next) = none := by
    cases last with
    | none => rfl
    | some last => exact if_pos cooks
  refine ⟨_, _, normalizeStageIdForWs (fresh.stageId (i + 1)) (some id),
    by rw [startedStages_getElem?, at']; rfl, by rw [startedStages_getElem?, after]; rfl, ?_, ?_⟩
  · show some (normalizeStageIdForWs _ ((stages[i + 1 + 1]?.bind (preheatIdFrom next)).or next.id)) =
      _
    rw [kept, given]
    rfl
  · show some (normalizeStageIdForWs _ ((stages[i + 1]?.bind (preheatIdFrom stage)).or stage.id)) = _
    rw [after, Option.bind_some, renamed]
    exact congrArg some ((normalizeStageIdForWs_preheat_iff nonempty).mpr plain)

/-- A preheat before a stage without an id goes out under its own. -/
theorem startedStages_unpaired {i : Nat} {stage next : Stage} (at' : stages[i]? = some stage)
    (after : stages[i + 1]? = some next) (absent : next.id = none) :
    ∃ sent, (startedStages fresh stages)[i]? = some sent ∧
      sent.id = some (normalizeStageIdForWs (fresh.stageId i) stage.id) := by
  refine ⟨_, by rw [startedStages_getElem?, at']; rfl, ?_⟩
  have kept : preheatIdFrom stage next = none := by
    unfold preheatIdFrom
    rw [absent]
    split
    · rfl
    · split <;> rfl
  show some (normalizeStageIdForWs _ ((stages[i + 1]?.bind (preheatIdFrom stage)).or stage.id)) = _
  rw [after, Option.bind_some, kept]
  rfl

/-- **Ids pair up.** A start of a recipe sends its stages under the ids the cook keeps them by, which
the prompts are kept under. Each preheat right before a stage of another kind carries that stage's
id, suffixed, where the recipe gives the stage an id that isn't a platform's name; before a stage
without an id it keeps its own. -/
theorem started_ids_pair (env : Env) (s : SmState) (recipeId : String) (recipe : Recipe)
    (known : s.connectivity.cookerId.isSome)
    (found : s.recipes.find? (fun r => r.id = recipeId) = some recipe) :
    ∃ requestId cookId sentId sent started extras cook,
      stateMachine.effects s (env, .command (.startCook recipeId)) =
          [.ws (.sendStart requestId cookId sentId sent),
            .store (.patchCookRecipeRef cookId started extras)] ∧
        (stateMachine.next s (env, .command (.startCook recipeId))).currentCook = some cook ∧
        (∀ wire, OneId (startStagesJson wire sent) cook.stages extras.prompts) ∧
        ∀ i stage next, recipe.stages[i]? = some stage → recipe.stages[i + 1]? = some next →
          stage.kind = "preheat" → next.kind ≠ "preheat" →
          (∀ id, next.id = some id → id ≠ "" → ¬ PlatformName id →
            ∃ sentStage sentNext wireId, sent[i]? = some sentStage ∧
              sent[i + 1]? = some sentNext ∧ sentNext.id = some wireId ∧
              sentStage.id = some (wireId ++ "-preheat")) ∧
          (next.id = none → ∃ sentStage, sent[i]? = some sentStage ∧
            sentStage.id = some (normalizeStageIdForWs (env.fresh.stageId i) stage.id)) := by
  have starts : Starts env s (.startCook recipeId) recipe (.recipe recipe.id) :=
    .recipe recipeId recipe known found
  refine ⟨_, _, _, _, _, _, _, starts.effects, by rw [starts.next]; rfl,
    fun wire => startedStages_oneId wire env.fresh recipe.stages, ?_⟩
  intro i stage next at' after preheat cooks
  constructor
  · intro id given nonempty plain
    exact startedStages_paired at' after preheat cooks given nonempty plain
  · exact startedStages_unpaired at' after

namespace Kitchen

/-- A preheat under an id, and the roast under another. -/
def preheated (preheatId roastId : Option String) : Recipe :=
  ⟨"preheated", "Roast", 1, [{ roast with id := preheatId, kind := "preheat" },
    { roast with id := roastId }], .own⟩

end Kitchen

/-- The ids of a preheated roast pair up. -/
theorem started_ids_pair_roast :
    ∃ requestId cookId sentId sent started extras cook,
      stateMachine.effects (Kitchen.ready [Kitchen.preheated (some "warm") (some "roast")])
            (Kitchen.env "start", .command (.startCook "preheated")) =
          [.ws (.sendStart requestId cookId sentId sent),
            .store (.patchCookRecipeRef cookId started extras)] ∧
        (stateMachine.next (Kitchen.ready [Kitchen.preheated (some "warm") (some "roast")])
          (Kitchen.env "start", .command (.startCook "preheated"))).currentCook = some cook ∧
        (∀ wire, OneId (startStagesJson wire sent) cook.stages extras.prompts) ∧
        ∀ i stage next, (Kitchen.preheated (some "warm") (some "roast")).stages[i]? = some stage →
          (Kitchen.preheated (some "warm") (some "roast")).stages[i + 1]? = some next →
          stage.kind = "preheat" → next.kind ≠ "preheat" →
          (∀ id, next.id = some id → id ≠ "" → ¬ PlatformName id →
            ∃ sentStage sentNext wireId, sent[i]? = some sentStage ∧
              sent[i + 1]? = some sentNext ∧ sentNext.id = some wireId ∧
              sentStage.id = some (wireId ++ "-preheat")) ∧
          (next.id = none → ∃ sentStage, sent[i]? = some sentStage ∧
            sentStage.id =
              some (normalizeStageIdForWs ((Kitchen.env "start").fresh.stageId i) stage.id)) :=
  started_ids_pair (Kitchen.env "start")
    (Kitchen.ready [Kitchen.preheated (some "warm") (some "roast")]) "preheated"
    (Kitchen.preheated (some "warm") (some "roast")) (by decide) (by decide)

/-- A preheat before a stage without an id keeps its own id, and the two don't pair up. -/
theorem preheat_unpaired :
    ¬ ∀ (env : Env) (s : SmState) (recipeId : String) (recipe : Recipe),
      s.connectivity.cookerId.isSome →
      s.recipes.find? (fun r => r.id = recipeId) = some recipe →
      ∀ requestId cookId sentId sent started extras cook,
        stateMachine.effects s (env, .command (.startCook recipeId)) =
          [.ws (.sendStart requestId cookId sentId sent),
            .store (.patchCookRecipeRef cookId started extras)] →
        (stateMachine.next s (env, .command (.startCook recipeId))).currentCook = some cook →
        PreheatsPaired sent ∧
          ∀ wire, OneId (startStagesJson wire sent) cook.stages extras.prompts := by
  intro always
  have starts : Starts (Kitchen.env "start") (Kitchen.ready [Kitchen.preheated (some "warm") none])
      (.startCook "preheated") (Kitchen.preheated (some "warm") none) (.recipe "preheated") :=
    .recipe "preheated" _ (by decide) (by decide)
  obtain ⟨paired, _⟩ := always _ _ _ (Kitchen.preheated (some "warm") none) (by decide) (by decide)
    _ _ _ _ _ _ _ starts.effects (by rw [starts.next]; rfl)
  obtain ⟨id, next, preheat⟩ := paired 0 _ _ rfl rfl (by decide) (by decide)
  cases next
  exact absurd preheat (by decide)

/-! ## Extras over the echo -/

namespace CookExtras

/-- The turn-off flag goes over the last stage. -/
theorem applyTurnOff_getElem? (extras : CookExtras) (stages : List Stage) (i : Nat) :
    (extras.applyTurnOff stages)[i]? = stages[i]?.map fun stage =>
      if i + 1 = stages.length then
        { stage with turnOffAtEnd := if extras.turnOffAtEnd then some true else none }
      else stage := by
  induction stages generalizing i with
  | nil => rfl
  | cons stage rest ih =>
    cases rest with
    | nil => cases i <;> simp [applyTurnOff]
    | cons next rest =>
      unfold applyTurnOff
      cases i with
      | zero => simp
      | succ i =>
        rw [List.getElem?_cons_succ, List.getElem?_cons_succ, ih]
        simp only [List.length_cons, Nat.add_right_cancel_iff]

@[simp] theorem apply_length (extras : CookExtras) (stages : List Stage) :
    (extras.apply stages).length = stages.length := by
  unfold apply
  rw [List.length_map]
  induction stages with
  | nil => rfl
  | cons stage rest ih =>
    cases rest with
    | nil => rfl
    | cons next rest => exact congrArg (· + 1) ih

/-- A stage with the extras laid over it. -/
theorem apply_getElem? (extras : CookExtras) (stages : List Stage) (i : Nat) :
    (extras.apply stages)[i]? = stages[i]?.map fun stage =>
      { stage with
        turnOffAtEnd := if i + 1 = stages.length then
            (if extras.turnOffAtEnd then some true else none)
          else stage.turnOffAtEnd
        prompt := stage.id.bind fun id => extras.prompts.lookup id } := by
  unfold apply
  rw [List.getElem?_map, applyTurnOff_getElem?, Option.map_map]
  congr 1
  funext stage
  by_cases last : i + 1 = stages.length <;> simp [last]

end CookExtras

/-- The stages as the oven echoes them to the reader: under the ids on the wire, without prompts and
turn-off flags. -/
structure Stripped (wire : List Json) (echo : List Stage) : Prop where
  ids : echo.map (fun stage => stage.id.map Json.str) = wire.map (·.get "id")
  prompts : ∀ stage ∈ echo, stage.prompt = none
  turnOff : ∀ stage ∈ echo, stage.turnOffAtEnd = none

/-- The id a recipe's stage goes out under, by the index it has: the one its successor gives it or its
own, as the platform writes it. -/
def sentId (stages : List Stage) (i : Nat) (stage : Stage) : String :=
  normalizeStageIdForWs "" ((stages[i + 1]?.bind (preheatIdFrom stage)).or stage.id)

/-- Stages that go out under one id have one prompt, or none. -/
def PromptsById (stages : List Stage) : Prop :=
  ∀ i j a b, stages[i]? = some a → stages[j]? = some b → sentId stages i a = sentId stages j b →
    a.prompt = b.prompt

/-- A given id goes out without a new one drawn. -/
theorem normalizeStageIdForWs_given {id : String} (given : id ≠ "") (freshId freshId' : String) :
    normalizeStageIdForWs freshId (some id) = normalizeStageIdForWs freshId' (some id) := by
  unfold normalizeStageIdForWs
  dsimp only
  split
  · rfl
  · split
    · rfl
    · rfl

/-- A stage of a recipe whose stages have ids is started under its sent id. -/
theorem startedStages_sentId (given : ∀ stage ∈ stages, ∃ id, stage.id = some id ∧ id ≠ "")
    {i : Nat} {stage : Stage} (at' : stages[i]? = some stage) (freshId : String) :
    normalizeStageIdForWs freshId ((stages[i + 1]?.bind (preheatIdFrom stage)).or stage.id) =
      sentId stages i stage := by
  obtain ⟨own, hown, nonempty⟩ := given stage (List.mem_of_getElem? at')
  unfold sentId
  cases renamed : stages[i + 1]?.bind (preheatIdFrom stage) with
  | none =>
    rw [Option.none_or, hown]
    exact normalizeStageIdForWs_given nonempty _ _
  | some newId =>
    refine normalizeStageIdForWs_given ?_ _ _
    obtain ⟨next, _, from'⟩ := Option.bind_eq_some_iff.mp renamed
    unfold preheatIdFrom at from'
    split at from'
    · cases from'
    · split at from'
      · cases from'
      · obtain ⟨nextId, _, rfl⟩ := Option.map_eq_some_iff.mp from'
        rw [ne_eq, String.append_eq_empty_iff]
        simp

/-- A prompt looked up is a started stage's under that id. -/
theorem fromStages_lookup {sent : List Stage} {id prompt : String}
    (found : (CookExtras.fromStages sent).prompts.lookup id = some prompt) :
    ∃ stage ∈ sent, stage.id = some id ∧ stage.prompt = some prompt := by
  obtain ⟨before, after, entries, _⟩ := List.lookup_eq_some_iff.mp found
  apply mem_fromStages
  rw [entries]
  simp

/-- A prompt is found under the id of every started stage with one. -/
theorem fromStages_lookup_isSome {sent : List Stage} {stage : Stage} {id : String}
    (item : stage ∈ sent) (hid : stage.id = some id) (waits : stage.prompt.isSome) :
    ((CookExtras.fromStages sent).prompts.lookup id).isSome := by
  obtain ⟨prompt, hprompt⟩ := Option.isSome_iff_exists.mp waits
  obtain ⟨prompt', kept⟩ := exists_mem_fromStages item hid hprompt
  exact List.lookup_isSome_iff.mpr ⟨_, kept, beq_self_eq_true id⟩

/-- The prompts come back exactly where stages under one id share theirs. -/
theorem fromStages_lookup_iff {sent : List Stage} (given : ∀ stage ∈ sent, stage.id.isSome) :
    (∀ stage ∈ sent, (stage.id.bind fun id => (CookExtras.fromStages sent).prompts.lookup id) =
        stage.prompt) ↔
      ∀ a ∈ sent, ∀ b ∈ sent, a.id = b.id → a.prompt = b.prompt := by
  constructor
  · intro back a itemA b itemB same
    rw [← back a itemA, ← back b itemB, same]
  · intro shared stage item
    obtain ⟨id, hid⟩ := Option.isSome_iff_exists.mp (given stage item)
    rw [hid, Option.bind_some]
    cases found : (CookExtras.fromStages sent).prompts.lookup id with
    | some prompt =>
      obtain ⟨other, item', hid', hprompt⟩ := fromStages_lookup found
      rw [shared stage item other item' (by rw [hid, hid']), hprompt]
    | none =>
      cases hprompt : stage.prompt with
      | none => rfl
      | some prompt =>
        have there := fromStages_lookup_isSome item hid (by rw [hprompt]; rfl)
        rw [found] at there
        cases there

/-- The turn-off flag comes back as it was, where only the last stage may have it. -/
theorem fromStages_turnOff {sent : List Stage}
    (last : ∀ i stage, sent[i]? = some stage → stage.turnOffAtEnd = none ∨
      stage.turnOffAtEnd = some true ∧ i + 1 = sent.length)
    {i : Nat} {stage : Stage} (at' : sent[i]? = some stage) :
    (if i + 1 = sent.length then
        (if (CookExtras.fromStages sent).turnOffAtEnd then some true else none)
      else none) = stage.turnOffAtEnd := by
  by_cases ends : i + 1 = sent.length
  · have isLast : sent.getLast? = some stage := by
      rw [List.getLast?_eq_getElem?, ← ends]
      exact at'
    rw [if_pos ends]
    show (if (sent.getLast?.any fun s => s.turnOffAtEnd = some true) then some true else none) = _
    rw [isLast]
    rcases last i stage at' with off | ⟨on, _⟩
    · simp [off]
    · simp [on]
  · rw [if_neg ends]
    rcases last i stage at' with off | ⟨_, isLast⟩
    · exact off.symm
    · exact absurd isLast ends

/-- Two lists of as many items hold the same readings where the items at each index read the same. -/
theorem map_eq_map_iff_getElem? {α β γ : Type*} {f : α → γ} {g : β → γ} {as : List α} {bs : List β}
    (length : as.length = bs.length) :
    as.map f = bs.map g ↔
      ∀ (i : Nat) (a : α) (b : β), as[i]? = some a → bs[i]? = some b → f a = g b := by
  constructor
  · intro same i a b atA atB
    have at' := congrArg (fun readings => readings[i]?) same
    simpa [atA, atB] using at'
  · intro same
    apply List.ext_getElem?
    intro i
    rw [List.getElem?_map, List.getElem?_map]
    cases atA : as[i]? with
    | none =>
      have beyond : bs[i]? = none := by
        rw [List.getElem?_eq_none_iff, ← length]
        exact List.getElem?_eq_none_iff.mp atA
      rw [beyond]
      rfl
    | some a =>
      have inside : i < bs.length := by
        rw [← length]
        exact (List.getElem?_eq_some_iff.mp atA).1
      rw [List.getElem?_eq_getElem inside, Option.map_some, Option.map_some,
        same i a _ atA (List.getElem?_eq_getElem inside)]

/-- The started stages of an accepted recipe share ids and prompts as the recipe's stages do. -/
theorem startedStages_prompts_iff (given : ∀ stage ∈ stages, ∃ id, stage.id = some id ∧ id ≠ "") :
    (∀ a ∈ startedStages fresh stages, ∀ b ∈ startedStages fresh stages, a.id = b.id →
        a.prompt = b.prompt) ↔ PromptsById stages := by
  have started {i : Nat} {stage : Stage} (at' : stages[i]? = some stage) :
      (startedStages fresh stages)[i]? =
        some { stage with id := some (sentId stages i stage) } := by
    rw [startedStages_getElem?, at', Option.map_some, startedStages_sentId given at']
  constructor
  · intro shared i j a b atA atB sameId
    have samePrompt := shared _ (List.mem_of_getElem? (started atA)) _
      (List.mem_of_getElem? (started atB)) (congrArg some sameId)
    exact samePrompt
  · intro byId a itemA b itemB sameId
    obtain ⟨i, atA⟩ := List.mem_iff_getElem?.mp itemA
    obtain ⟨j, atB⟩ := List.mem_iff_getElem?.mp itemB
    have insideA := (List.getElem?_eq_some_iff.mp atA).1
    have insideB := (List.getElem?_eq_some_iff.mp atB).1
    rw [startedStages_length] at insideA insideB
    rw [started (List.getElem?_eq_getElem insideA)] at atA
    rw [started (List.getElem?_eq_getElem insideB)] at atB
    cases atA
    cases atB
    have samePrompt := byId i j _ _ (List.getElem?_eq_getElem insideA)
      (List.getElem?_eq_getElem insideB) (Option.some.inj sameId)
    exact samePrompt

/-- The stages of an accepted recipe, as started, may only be set to turn the oven off at the last. -/
theorem startedStages_turnOff {ids : Nat → String} {draft accepted : Recipe}
    (ok : normalize ids draft = .ok accepted) {i : Nat} {stage : Stage}
    (at' : (startedStages fresh accepted.stages)[i]? = some stage) :
    stage.turnOffAtEnd = none ∨
      stage.turnOffAtEnd = some true ∧ i + 1 = (startedStages fresh accepted.stages).length := by
  rw [startedStages_getElem?] at at'
  obtain ⟨source, atSource, rfl⟩ := Option.map_eq_some_iff.mp at'
  obtain ⟨_, _, done⟩ := normalize_getElem? ok atSource
  rw [startedStages_length]
  simpa using normalizeStage_turnOff done

/-- **Extras survive the echo.** A started cook's extras, laid over the oven's echo of its stages, give
every stage its prompt and turn-off flag back exactly where no two stages of the recipe that go out
under one id differ in their prompts. -/
theorem extras_survive_iff {ids : Nat → String} {draft accepted : Recipe}
    (ok : normalize ids draft = .ok accepted) (starts : Starts env s cmd recipe started)
    (same : recipe.stages = accepted.stages) {requestId cookId sentRecipeId : String}
    {sent : List Stage} {extras : CookExtras} {echo : List Stage} {wire : Nat → String}
    (effects : stateMachine.effects s (env, .command cmd) =
      [.ws (.sendStart requestId cookId sentRecipeId sent),
        .store (.patchCookRecipeRef cookId started extras)])
    (echoed : Stripped (startStagesJson wire sent) echo) :
    (extras.apply echo).map (fun stage => (stage.prompt, stage.turnOffAtEnd)) =
        sent.map (fun stage => (stage.prompt, stage.turnOffAtEnd)) ↔
      PromptsById accepted.stages := by
  rw [starts.effects, same] at effects
  injection effects with start rest
  injection rest with patch _
  injection start with start
  injection start with _ _ _ sentEq
  injection patch with patch
  injection patch with _ _ extrasEq
  subst sentEq extrasEq
  have given := normalize_stage_id ok
  have sameIds : echo.map (fun stage => stage.id.map Json.str) =
      (startedStages env.fresh accepted.stages).map fun stage => stage.id.map Json.str :=
    echoed.ids.trans (startStagesJson_ids wire env.fresh accepted.stages)
  have length : echo.length = (startedStages env.fresh accepted.stages).length := by
    simpa using congrArg List.length sameIds
  have idAt {i : Nat} {e stage : Stage} (atE : echo[i]? = some e)
      (at' : (startedStages env.fresh accepted.stages)[i]? = some stage) : e.id = stage.id :=
    Option.map_injective (fun _ _ same => Json.str.inj same)
      ((map_eq_map_iff_getElem? length).mp sameIds i e stage atE at')
  rw [map_eq_map_iff_getElem? (by rw [CookExtras.apply_length, length]),
    ← startedStages_prompts_iff given,
    ← fromStages_lookup_iff fun stage item => by rw [startedStages_id item ""]; rfl]
  constructor
  · intro back stage item
    obtain ⟨i, at'⟩ := List.mem_iff_getElem?.mp item
    have inside : i < echo.length := by
      rw [length]
      exact (List.getElem?_eq_some_iff.mp at').1
    have laid := back i _ stage
      (by rw [CookExtras.apply_getElem?, List.getElem?_eq_getElem inside, Option.map_some]) at'
    rw [← idAt (List.getElem?_eq_getElem inside) at']
    exact (Prod.mk.inj laid).1
  · intro back i laid stage atLaid at'
    rw [CookExtras.apply_getElem?] at atLaid
    obtain ⟨e, atE, rfl⟩ := Option.map_eq_some_iff.mp atLaid
    refine Prod.ext ?_ ?_
    · show (e.id.bind _) = stage.prompt
      rw [idAt atE at']
      exact back stage (List.mem_of_getElem? at')
    · have flag := fromStages_turnOff (fun _ _ at' => startedStages_turnOff ok at') at'
      show (if i + 1 = echo.length then _ else e.turnOffAtEnd) = stage.turnOffAtEnd
      rw [echoed.turnOff e (List.mem_of_getElem? atE), length]
      exact flag

namespace Kitchen

/-- A stage that waits for the cook with a prompt, under an id. -/
def waits (id prompt : String) : Stage :=
  { roast with id := some id, userActionRequired := some true, prompt := some prompt }

/-- A recipe of two such stages. -/
def twoPrompts (first second : String) : Recipe :=
  ⟨"prompts", "Roast", 2, [waits first "baste", waits second "rest"], .own⟩

/-- The oven's echo of a list of stages, as the reader gives it. -/
def echoed (stages : List Stage) : List Stage :=
  stages.map fun stage => { stage with prompt := none, turnOffAtEnd := none }

/-- The reader's echo of started stages is theirs, stripped. -/
theorem echoed_stripped (wire : Nat → String) (fresh : Fresh) (stages : List Stage) :
    Stripped (startStagesJson wire (startedStages fresh stages))
      (echoed (startedStages fresh stages)) where
  ids := by
    rw [startStagesJson_ids]
    unfold echoed
    rw [List.map_map]
    rfl
  prompts := by
    intro stage item
    obtain ⟨source, _, rfl⟩ := List.mem_map.mp item
    rfl
  turnOff := by
    intro stage item
    obtain ⟨source, _, rfl⟩ := List.mem_map.mp item
    rfl

end Kitchen

/-- The prompts of two stages under ids of their own come back. -/
theorem extras_survive_prompts :
    ((CookExtras.fromStages (startedStages (Kitchen.env "start").fresh
          (Kitchen.twoPrompts "first" "second").stages)).apply
        (Kitchen.echoed (startedStages (Kitchen.env "start").fresh
          (Kitchen.twoPrompts "first" "second").stages))).map
        (fun stage => (stage.prompt, stage.turnOffAtEnd)) =
      (startedStages (Kitchen.env "start").fresh (Kitchen.twoPrompts "first" "second").stages).map
        (fun stage => (stage.prompt, stage.turnOffAtEnd)) ↔
    PromptsById (Kitchen.twoPrompts "first" "second").stages :=
  extras_survive_iff (show normalize toString (Kitchen.twoPrompts "first" "second") =
      .ok (Kitchen.twoPrompts "first" "second") by decide +kernel)
    (Kitchen.starts_listed (Kitchen.twoPrompts "first" "second")) rfl
    (Kitchen.starts_listed (Kitchen.twoPrompts "first" "second")).effects
    (Kitchen.echoed_stripped toString (Kitchen.env "start").fresh
      (Kitchen.twoPrompts "first" "second").stages)

/-- Two ids that the platform's prefix makes one: the first stage comes back with the second's
prompt. -/
theorem extras_mixed_up :
    ¬ ∀ (env : Env) (s : SmState) (cmd : StateMachineCommand) (recipe : Recipe)
      (started : StartedFrom) (ids : Nat → String) (draft accepted : Recipe),
      normalize ids draft = .ok accepted → Starts env s cmd recipe started →
      recipe.stages = accepted.stages →
      ∀ (requestId cookId sentRecipeId : String) (sent : List Stage) (extras : CookExtras)
        (echo : List Stage) (wire : Nat → String),
        stateMachine.effects s (env, .command cmd) =
          [.ws (.sendStart requestId cookId sentRecipeId sent),
            .store (.patchCookRecipeRef cookId started extras)] →
        Stripped (startStagesJson wire sent) echo →
        (extras.apply echo).map (fun stage => (stage.prompt, stage.turnOffAtEnd)) =
          sent.map (fun stage => (stage.prompt, stage.turnOffAtEnd)) := by
  intro always
  have back := always _ _ _ _ _ toString (Kitchen.twoPrompts "a" "ios-a")
    (Kitchen.twoPrompts "a" "ios-a") (by decide +kernel)
    (Kitchen.starts_listed (Kitchen.twoPrompts "a" "ios-a")) rfl _ _ _ _ _ _ toString
    (Kitchen.starts_listed (Kitchen.twoPrompts "a" "ios-a")).effects
    (Kitchen.echoed_stripped toString (Kitchen.env "start").fresh _)
  exact absurd back (by decide +kernel)

end AnovaOven
