import AnovaOven.Laws.Normalize
import AnovaOven.Processors.Http.Steps

/-!
# Laws of the stage editor

What a list of stages becomes that goes through the editor's steps and back, stage by stage: a stage keeps
its place (`getElem?_toStages`), and a recipe that is accepted is accepted again (`Stage.Passes.saved`).

**A save without an edit** (`save_unedited`) leaves the stages as they are normalized, but that a preheat
takes the settings of the cook stage it leads into, and that a duration or a probe target without its flag
is left out (`editedStages`). It changes nothing at all exactly where these are no changes and the editor's
trim takes nothing off a note that the store's wouldn't.
-/

namespace AnovaOven

open Trim

variable {stage cook : Stage} {next : Option Stage} {stages : List Stage} {isLast : Bool}
  {freshId freshId' : String} {i : Nat}

/-! ## Steps and back -/

/-- The stage whose settings a stage is saved with: the cook stage it leads into, or itself. -/
def leader (next : Option Stage) (stage : Stage) : Stage :=
  match next with
  | some cook => if stage.kind = "preheat" ∧ cook.kind ≠ "preheat" then cook else stage
  | none => stage

/-- The elements of a list, each mapped with the one after it. -/
def mapNext {α β : Type*} (f : Option α → α → β) : List α → List β
  | [] => []
  | a :: rest => f rest.head? a :: mapNext f rest

theorem getElem?_mapNext {α β : Type*} (f : Option α → α → β) (l : List α) (i : Nat) :
    (mapNext f l)[i]? = l[i]?.map fun a => f l[i + 1]? a := by
  induction l generalizing i with
  | nil => rfl
  | cons a rest ih =>
    cases i with
    | zero => rw [mapNext, List.head?_eq_getElem?]; rfl
    | succ i => exact ih i

theorem length_mapNext {α β : Type*} (f : Option α → α → β) (l : List α) :
    (mapNext f l).length = l.length := by
  induction l with
  | nil => rfl
  | cons a rest ih => exact congrArg (· + 1) ih

/-- The stages as they are copied, with the settings they are saved with. -/
def sharedStages : List Stage → List Stage :=
  mapNext fun next stage => savedCopy (shareSettings (leader next stage) stage)

/-- The copies of the stages of some steps. -/
def copies (steps : List EditorStep) : List Stage :=
  (steps.map EditorStep.share).flatMap fun step =>
    (step.preheat.toList ++ step.cook.toList).map savedCopy

theorem copies_alone (stage : Stage) (steps : List EditorStep) :
    copies (EditorStep.alone stage :: steps) = savedCopy stage :: copies steps := by
  unfold EditorStep.alone
  split <;> rfl

/-- The steps hold the stages in their order, each with the settings it is saved with. -/
theorem copies_toSteps (stages : List Stage) : copies (toSteps stages) = sharedStages stages := by
  fun_induction toSteps stages with
  | case1 stage next rest leads ih =>
    have cookLeads : leader rest.head? next = next := by
      unfold leader
      split
      · exact if_neg fun preheats => leads.2 preheats.1
      · rfl
    have led : leader (some next) stage = next := if_pos leads
    show savedCopy (shareSettings next stage) :: savedCopy next :: copies (toSteps rest) = _
    have both : sharedStages (stage :: next :: rest) =
        savedCopy (shareSettings (leader (some next) stage) stage) ::
          savedCopy (shareSettings (leader rest.head? next) next) :: sharedStages rest := rfl
    rw [ih, both, cookLeads, led]
    rfl
  | case2 stage next rest alone ih =>
    have own : leader (some next) stage = stage := if_neg alone
    show _ = savedCopy (shareSettings (leader (some next) stage) stage) :: sharedStages (next :: rest)
    rw [copies_alone, ih, own]
    rfl
  | case3 stage => exact copies_alone stage []
  | case4 => rfl

/-- A stage as it is saved. -/
def savedStage (next : Option Stage) (isLast : Bool) (stage : Stage) : Stage :=
  savedTurnOff isLast (savedCopy (shareSettings (leader next stage) stage))

/-- **Steps and back.** Each stage keeps its place. -/
theorem getElem?_toStages (stages : List Stage) (i : Nat) :
    (toStages (toSteps stages))[i]? =
      stages[i]?.map fun stage => savedStage stages[i + 1]? (i + 1 = stages.length) stage := by
  have back : toStages (toSteps stages) =
      (copies (toSteps stages)).mapIdx fun i stage =>
        savedTurnOff (i + 1 = (copies (toSteps stages)).length) stage := rfl
  rw [back, List.getElem?_mapIdx, copies_toSteps, sharedStages, length_mapNext, getElem?_mapNext,
    Option.map_map]
  rfl

theorem length_toStages (stages : List Stage) :
    (toStages (toSteps stages)).length = stages.length := by
  have back : (toStages (toSteps stages)).length = (copies (toSteps stages)).length :=
    List.length_mapIdx
  rw [back, copies_toSteps, sharedStages, length_mapNext]

/-- What the editor leaves in its steps is saved as they are. -/
theorem toStages_share (steps : List EditorStep) :
    toStages (steps.map EditorStep.share) = toStages steps := by
  have again : EditorStep.share ∘ EditorStep.share = EditorStep.share := by
    funext step
    obtain ⟨preheat, cook⟩ := step
    cases preheat <;> cases cook <;> rfl
  unfold toStages
  rw [List.map_map, again]

/-! ## Notes -/

/-- The character the editor trims and the store doesn't. -/
def byteOrderMark : Char := Char.ofNat 0xFEFF

/-- A stage whose note holds no byte order mark among what the editor's trim takes off. -/
def PlainNote (stage : Stage) : Prop :=
  ∀ text, stage.prompt = some text → byteOrderMark ∉ trimmedOff isJsSpace text.toList

theorem toList_jsTrim (s : String) : (jsTrim s).toList = trimBy isJsSpace s.toList :=
  String.toList_ofList

/-- What the editor trims the store trims too, but the byte order mark. -/
theorem isWhitespace_of_isJsSpace {c : Char} (space : isJsSpace c = true) :
    isWhitespace c = true ↔ c ≠ byteOrderMark := by
  constructor
  · rintro white rfl
    exact absurd white (by decide)
  · intro other
    have other : c.toNat ≠ 0xFEFF := fun same => other (Char.toNat_inj.mp same)
    unfold isJsSpace at space
    unfold isWhitespace
    simp only [decide_eq_true_eq] at space ⊢
    omega

/-- **A trim by the editor** is undone by the store's exactly where it takes no byte order mark off. -/
theorem trim_jsTrim (text : String) :
    trim (jsTrim text) = trim text ↔ byteOrderMark ∉ trimmedOff isJsSpace text.toList := by
  rw [← String.toList_inj, toList_trim, toList_trim, toList_jsTrim, trimBy_trimBy_iff]
  constructor
  · intro off mem
    exact (isWhitespace_of_isJsSpace (of_mem_trimmedOff mem)).mp (off _ mem) rfl
  · intro plain c mem
    apply (isWhitespace_of_isJsSpace (of_mem_trimmedOff mem)).mpr
    rintro rfl
    exact plain mem

theorem trimPrompt_some_inj {text text' : String} :
    trimPrompt (some text) = trimPrompt (some text') ↔ trim text = trim text' := by
  simp only [trimPrompt, Option.map_some, Option.filter_some, decide_eq_true_eq]
  constructor
  · intro same
    split at same <;> split at same
    · exact Option.some.inj same
    · cases same
    · cases same
    · rename_i blank blank'
      rw [not_not.mp blank, not_not.mp blank']
  · intro same
    rw [same]

/-- A note that is saved is kept as the store trims what the editor does. -/
theorem trimPrompt_savedPrompt (waits : stage.userActionRequired = some true) :
    trimPrompt (savedPrompt stage) = trimPrompt (stage.prompt.map jsTrim) := by
  rw [savedPrompt, if_pos waits]
  cases stage.prompt with
  | none => rfl
  | some text =>
    by_cases blank : jsTrim text = ""
    · rw [Option.map_some, blank]
      rfl
    · rw [Option.map_some, Option.filter_some, if_pos (decide_eq_true blank)]

/-- A stage that passes and doesn't wait has a blank note, if any. -/
theorem trimPrompt_of_goes (passes : stage.Passes isLast) (goes : stage.userActionRequired ≠ some true) :
    trimPrompt stage.prompt = none := by
  cases kept : trimPrompt stage.prompt with
  | none => rfl
  | some text => exact absurd (passes.prompt text kept).2 goes

/-- **A note** is saved as it is kept exactly where it is plain. -/
theorem savedPrompt_kept_iff (passes : stage.Passes isLast) :
    trimPrompt (savedPrompt stage) = trimPrompt stage.prompt ↔ PlainNote stage := by
  by_cases waits : stage.userActionRequired = some true
  · rw [trimPrompt_savedPrompt waits, PlainNote]
    cases stage.prompt with
    | none => simp
    | some text =>
      rw [Option.map_some, trimPrompt_some_inj, trim_jsTrim]
      exact ⟨fun plain _ same => Option.some.inj same ▸ plain, fun plain => plain text rfl⟩
  · have blank := trimPrompt_of_goes passes waits
    have saved : trimPrompt (savedPrompt stage) = none := by
      rw [savedPrompt, if_neg waits]
      rfl
    rw [saved, blank]
    refine ⟨fun _ text set mem => ?_, fun _ => rfl⟩
    -- a blank note holds white space only
    rw [set] at blank
    have none : trim text = "" := by
      by_contra full
      rw [trimPrompt, Option.map_some, Option.filter_some, if_pos (decide_eq_true full)] at blank
      cases blank
    have left := mem_trimBy (mem_of_trimmedOff mem) (by decide : isWhitespace byteOrderMark = false)
    rw [← toList_trim, none] at left
    cases left

/-- A note that is saved is kept as short as it was. -/
theorem savedPrompt_short (passes : stage.Passes isLast) {text : String}
    (kept : trimPrompt (savedPrompt stage) = some text) :
    text.length ≤ promptMaxChars ∧ stage.userActionRequired = some true := by
  by_cases waits : stage.userActionRequired = some true
  · rw [trimPrompt_savedPrompt waits] at kept
    refine ⟨?_, waits⟩
    obtain ⟨trimmed, full⟩ := Option.filter_eq_some_iff.mp kept
    obtain ⟨saved, edited, rfl⟩ := Option.map_eq_some_iff.mp trimmed
    obtain ⟨note, set, rfl⟩ := Option.map_eq_some_iff.mp edited
    -- trimmed by the store alone the note is at least as long
    have shorter : (trim (jsTrim note)).length ≤ (trim note).length := by
      rw [← String.length_toList, ← String.length_toList, toList_trim, toList_trim, toList_jsTrim]
      exact length_trimBy_le_of_isInfix _ (trimBy_isInfix _ _)
    have long : trim note ≠ "" := by
      intro blank
      rw [blank] at shorter
      exact of_decide_eq_true full (String.length_eq_zero_iff.mp (Nat.le_zero.mp shorter))
    have own : trimPrompt stage.prompt = some (trim note) := by
      rw [set, trimPrompt, Option.map_some, Option.filter_some, if_pos (decide_eq_true long)]
    exact shorter.trans (passes.prompt _ own).1
  · rw [savedPrompt, if_neg waits] at kept
    cases kept

/-! ## A saved stage -/

/-- A stage is led by one that passes, where the stages do. -/
theorem leader_passes (passes : stage.Passes isLast)
    (after : ∀ cook, next = some cook → ∃ last, cook.Passes last) :
    ∃ last, (leader next stage).Passes last := by
  unfold leader
  split
  · split
    · exact after _ rfl
    · exact ⟨isLast, passes⟩
  · exact ⟨isLast, passes⟩

/-- A stage that passes is saved with the flag to turn the oven off it had, where it is set. -/
theorem savedStage_eq (passes : stage.Passes isLast) (next : Option Stage) :
    savedStage next isLast stage =
      { shareSettings (leader next stage) stage with
        durationSecs := if stage.timerAdded = some true then stage.durationSecs else none
        probeTargetC := if stage.probeAdded = some true then stage.probeTargetC else none
        prompt := savedPrompt stage
        turnOffAtEnd := stage.turnOffAtEnd.filter fun on => on } := by
  have saved : savedStage next isLast stage =
      savedTurnOff isLast (savedCopy (shareSettings (leader next stage) stage)) := rfl
  rw [saved, savedTurnOff]
  split
  · rename_i on
    have on : stage.turnOffAtEnd = some true := on.1
    unfold savedCopy
    dsimp only [shareSettings]
    rw [on]
    rfl
  · rename_i off
    have off : stage.turnOffAtEnd ≠ some true :=
      fun on => off ⟨on, passes.last on, passes.turnOff on⟩
    have none : (stage.turnOffAtEnd.filter fun on => on) = none := by
      cases set : stage.turnOffAtEnd with
      | none => rfl
      | some on =>
        cases on with
        | false => rfl
        | true => exact absurd set off
    rw [none]
    rfl

/-- **A saved stage** passes where the stage does. -/
theorem Stage.Passes.saved (passes : stage.Passes isLast)
    (after : ∀ cook, next = some cook → ∃ last, cook.Passes last) :
    (savedStage next isLast stage).Passes isLast := by
  obtain ⟨_, led⟩ := leader_passes passes after
  rw [savedStage_eq passes]
  exact
  { kind := passes.kind
    temperature := led.temperature
    steam := led.steam
    fan := led.fan
    rack := led.rack
    timer := fun on => by
      obtain ⟨secs, set, positive⟩ := passes.timer on
      exact ⟨secs, (if_pos on).trans set, positive⟩
    probe := fun on => by
      have on : stage.probeAdded = some true := on
      show (if stage.probeAdded = some true then stage.probeTargetC else none).isSome
      rw [if_pos on]
      exact passes.probe on
    target := fun target set => by
      dsimp only at set
      split at set
      · exact passes.target target set
      · cases set
    oneEnd := passes.oneEnd
    preheat := passes.preheat
    last := fun on => passes.last (Option.filter_eq_some_iff.mp on).1
    turnOff := fun on => passes.turnOff (Option.filter_eq_some_iff.mp on).1
    prompt := fun _ => savedPrompt_short passes
    elements := led.elements }

/-- A stage as an unedited save leaves it, among normalized stages: a preheat has the settings of the cook
stage it leads into, and an end goes with its flag. -/
def editedStage (next : Option Stage) (stage : Stage) : Stage :=
  { shareSettings (leader next stage) stage with
    durationSecs := if stage.timerAdded = some true then stage.durationSecs else none
    probeTargetC := if stage.probeAdded = some true then stage.probeTargetC else none }

/-- Normalized stages are led as they were. -/
theorem leader_kept (next : Option Stage) (stage : Stage) (freshId freshId' : String) :
    ∃ id, leader (next.map fun cook => cook.kept freshId') (stage.kept freshId) =
      (leader next stage).kept id := by
  cases next with
  | none => exact ⟨freshId, rfl⟩
  | some cook =>
    show ∃ id, (if stage.kind = "preheat" ∧ cook.kind ≠ "preheat" then cook.kept freshId'
      else stage.kept freshId) = (if stage.kind = "preheat" ∧ cook.kind ≠ "preheat" then cook
      else stage).kept id
    by_cases leads : stage.kind = "preheat" ∧ cook.kind ≠ "preheat"
    · exact ⟨freshId', by rw [if_pos leads, if_pos leads]⟩
    · exact ⟨freshId, by rw [if_neg leads, if_neg leads]⟩

/-- **A saved stage is kept** as the save leaves the kept one, but for its note. -/
theorem savedStage_kept (passes : stage.Passes isLast) (next : Option Stage)
    (freshId freshId' : String) :
    (savedStage next isLast stage).kept freshId =
      { editedStage (next.map fun cook => cook.kept freshId') (stage.kept freshId) with
        prompt := trimPrompt (savedPrompt stage) } := by
  obtain ⟨id, led⟩ := leader_kept next stage freshId freshId'
  have turnOff : (stage.turnOffAtEnd.filter fun on => on).filter (fun on => on) =
      stage.turnOffAtEnd.filter fun on => on := by
    rw [Option.filter_filter]
    simp
  rw [savedStage_eq passes, editedStage, led]
  unfold Stage.kept shareSettings
  simp only [turnOff, normalizeFanSpeed_fanSpeed]

/-! ## A save without an edit -/

/-- A stage that an unedited save leaves as it is: a preheat with the settings of the cook stage it leads
into, and an end only with its flag. -/
structure Settled (next : Option Stage) (stage : Stage) : Prop where
  settings : ∀ cook, next = some cook → stage.kind = "preheat" → cook.kind ≠ "preheat" →
    shareSettings cook stage = stage
  duration : stage.timerAdded ≠ some true → stage.durationSecs = none
  target : stage.probeAdded ≠ some true → stage.probeTargetC = none

/-- The settings a stage is saved with are its own where the stage it leads into has them. -/
theorem share_leader_iff :
    shareSettings (leader next stage) stage = stage ↔
      ∀ cook, next = some cook → stage.kind = "preheat" → cook.kind ≠ "preheat" →
        shareSettings cook stage = stage := by
  cases next with
  | none => simp [leader, shareSettings]
  | some cook =>
    by_cases leads : stage.kind = "preheat" ∧ cook.kind ≠ "preheat"
    · rw [leader, if_pos leads]
      exact ⟨fun same _ eq _ _ => Option.some.inj eq ▸ same, fun all => all cook rfl leads.1 leads.2⟩
    · rw [leader, if_neg leads]
      refine ⟨fun _ cook' eq preheats cooks => ?_, fun _ => rfl⟩
      exact absurd ⟨preheats, Option.some.inj eq ▸ cooks⟩ leads

/-- A stage with some note is what a save leaves of another exactly where that is settled and has the
note. -/
theorem editedStage_iff {prompt : Option String} :
    { editedStage next stage with prompt := prompt } = stage ↔
      Settled next stage ∧ prompt = stage.prompt := by
  constructor
  · intro same
    have duration := congrArg Stage.durationSecs same
    have target := congrArg Stage.probeTargetC same
    refine ⟨⟨share_leader_iff.mp ?_, fun untimed => ?_, fun unprobed => ?_⟩, congrArg Stage.prompt same⟩
    · rw [shareSettings]
      exact
        (congrArg (fun saved => { stage with
          temperatureC := saved.temperatureC
          temperatureBulbsMode := saved.temperatureBulbsMode
          steamPct := saved.steamPct
          fanSpeed := saved.fanSpeed
          heatingElementTop := saved.heatingElementTop
          heatingElementRear := saved.heatingElementRear
          heatingElementBottom := saved.heatingElementBottom
          ventOpen := saved.ventOpen
          rackPosition := saved.rackPosition }) same)
    · exact duration.symm.trans (if_neg untimed)
    · exact target.symm.trans (if_neg unprobed)
  · rintro ⟨settled, rfl⟩
    have duration : (if stage.timerAdded = some true then stage.durationSecs else none) =
        stage.durationSecs := by
      split
      · rfl
      · rename_i untimed
        exact (settled.duration untimed).symm
    have target : (if stage.probeAdded = some true then stage.probeTargetC else none) =
        stage.probeTargetC := by
      split
      · rfl
      · rename_i unprobed
        exact (settled.target unprobed).symm
    rw [editedStage, share_leader_iff.mpr settled.settings, duration, target]

/-- Normalized stages as a save without an edit leaves them. -/
def editedStages : List Stage → List Stage := mapNext editedStage

variable {fresh : Nat → String} {recipe out : Recipe}

/-- The recipe the editor saves. -/
def editorSave (recipe : Recipe) : Recipe :=
  { recipe with stages := toStages (toSteps recipe.stages) }

/-- **What the editor saves** is accepted where the recipe is. -/
theorem Recipe.Passes.editorSave (passes : recipe.Passes) : (editorSave recipe).Passes := by
  have length := length_toStages recipe.stages
  constructor
  · exact passes.title
  · intro empty
    apply passes.stages
    rw [← List.length_eq_zero_iff, ← length]
    exact List.length_eq_zero_iff.mpr empty
  · intro i stage at'
    obtain ⟨source, before, rfl⟩ :=
      Option.map_eq_some_iff.mp ((getElem?_toStages recipe.stages i).symm.trans at')
    have last : (AnovaOven.editorSave recipe).stages.length = recipe.stages.length := length
    rw [last]
    exact (passes.each i source before).saved fun cook after => ⟨_, passes.each (i + 1) cook after⟩

/-- The stages a save leaves, by those the recipe has. -/
theorem getElem?_editorSave (passes : recipe.Passes) (i : Nat) :
    ((editorSave recipe).kept fresh).stages[i]? =
      recipe.stages[i]?.map fun stage =>
        { editedStage (recipe.kept fresh).stages[i + 1]? (stage.kept (fresh i)) with
          prompt := trimPrompt (savedPrompt stage) } := by
  have saved : (editorSave recipe).stages[i]? = (toStages (toSteps recipe.stages))[i]? := rfl
  rw [Recipe.getElem?_kept, Recipe.getElem?_kept, saved, getElem?_toStages, Option.map_map]
  cases at' : recipe.stages[i]? with
  | none => rfl
  | some stage => exact congrArg some (savedStage_kept (passes.each i stage at') _ _ _)

/-- A note of a recipe that passes is kept by a save exactly where it is plain. -/
theorem editorSave_note (passes : recipe.Passes) (at' : recipe.stages[i]? = some stage) :
    trimPrompt (savedPrompt stage) = (stage.kept (fresh i)).prompt ↔ PlainNote stage :=
  savedPrompt_kept_iff (passes.each i stage at')

/-- **With plain notes** the stages are the normalized ones as the save leaves them. -/
theorem editorSave_of_plain (passes : recipe.Passes) (plain : ∀ stage ∈ recipe.stages, PlainNote stage) :
    ((editorSave recipe).kept fresh).stages = editedStages (recipe.kept fresh).stages := by
  apply List.ext_getElem?
  intro i
  rw [getElem?_editorSave passes, editedStages, getElem?_mapNext, recipe.getElem?_kept fresh i,
    Option.map_map]
  cases at' : recipe.stages[i]? with
  | none => rfl
  | some stage =>
    have note : trimPrompt (savedPrompt stage) = (stage.kept (fresh i)).prompt :=
      (editorSave_note passes at').mpr (plain stage (List.mem_of_getElem? at'))
    rw [Option.map_some, Option.map_some, note]
    rfl

/-- **The same stages** are those that are the same one by one: settled, with plain notes. -/
theorem editorSave_same_iff (passes : recipe.Passes) :
    ((editorSave recipe).kept fresh).stages = (recipe.kept fresh).stages ↔
      ∀ i stage, recipe.stages[i]? = some stage →
        Settled (recipe.kept fresh).stages[i + 1]? (stage.kept (fresh i)) ∧ PlainNote stage := by
  constructor
  · intro same i stage at'
    have own : ((editorSave recipe).kept fresh).stages[i]? = (recipe.kept fresh).stages[i]? := by
      rw [same]
    rw [getElem?_editorSave passes, recipe.getElem?_kept fresh i, at'] at own
    obtain ⟨settled, note⟩ := editedStage_iff.mp (Option.some.inj own)
    exact ⟨settled, (editorSave_note passes at').mp note⟩
  · intro each
    apply List.ext_getElem?
    intro i
    rw [getElem?_editorSave passes, recipe.getElem?_kept fresh i]
    cases at' : recipe.stages[i]? with
    | none => rfl
    | some stage =>
      obtain ⟨settled, plain⟩ := each i stage at'
      exact congrArg some (editedStage_iff.mpr ⟨settled, (editorSave_note passes at').mpr plain⟩)

/-- **A save without an edit** of a recipe that is accepted is accepted. Its stages are the normalized ones,
each preheat with the settings of the cook stage it leads into and each end with its flag, as long as the
notes are plain; and they are the normalized ones exactly where these are settled, and the notes plain. -/
theorem save_unedited (accepted : normalize fresh recipe = .ok out) :
    ∃ saved, normalize fresh (editorSave recipe) = .ok saved ∧
      ((∀ stage ∈ recipe.stages, PlainNote stage) → saved.stages = editedStages out.stages) ∧
      (saved.stages = out.stages ↔
        (∀ stage ∈ recipe.stages, PlainNote stage) ∧
          ∀ i stage, out.stages[i]? = some stage → Settled out.stages[i + 1]? stage) := by
  obtain ⟨passes, rfl⟩ := normalize_ok_iff.mp accepted
  refine ⟨_, normalize_ok_iff.mpr ⟨passes.editorSave, rfl⟩, editorSave_of_plain passes, ?_⟩
  rw [editorSave_same_iff passes]
  constructor
  · intro each
    constructor
    · intro stage mem
      obtain ⟨i, at'⟩ := List.mem_iff_getElem?.mp mem
      exact (each i stage at').2
    · intro i stage at'
      rw [recipe.getElem?_kept fresh i] at at'
      obtain ⟨source, before, rfl⟩ := Option.map_eq_some_iff.mp at'
      exact (each i source before).1
  · rintro ⟨plain, settled⟩ i stage at'
    refine ⟨settled i _ ?_, plain stage (List.mem_of_getElem? at')⟩
    rw [recipe.getElem?_kept, at']
    rfl

namespace Kitchen

/-- A preheat to a temperature. -/
def preheatTo (celsius : ℚ) : Stage :=
  { roast with id := some "preheat", kind := "preheat", temperatureC := celsius }

/-- A roast that a preheat to a temperature leads into. -/
def preheatedRoast (celsius : ℚ) : Recipe := ⟨"roast", "Roast", 1, [preheatTo celsius, roast], .own⟩

end Kitchen

/-- A roast preheated to its own temperature is accepted, and so is its save. -/
theorem save_unedited_roast :
    ∃ saved, normalize toString (editorSave (Kitchen.preheatedRoast 180)) = .ok saved ∧
      ((∀ stage ∈ (Kitchen.preheatedRoast 180).stages, PlainNote stage) →
        saved.stages = editedStages (Kitchen.preheatedRoast 180).stages) ∧
      (saved.stages = (Kitchen.preheatedRoast 180).stages ↔
        (∀ stage ∈ (Kitchen.preheatedRoast 180).stages, PlainNote stage) ∧
          ∀ i stage, (Kitchen.preheatedRoast 180).stages[i]? = some stage →
            Settled (Kitchen.preheatedRoast 180).stages[i + 1]? stage) :=
  @save_unedited toString (Kitchen.preheatedRoast 180) (Kitchen.preheatedRoast 180) (by decide +kernel)

/-- A preheat to another temperature than the roast's takes the roast's. -/
theorem save_unedited_preheat :
    ¬ ∀ fresh recipe out, normalize fresh recipe = .ok out →
      ∃ saved, normalize fresh (editorSave recipe) = .ok saved ∧ saved.stages = out.stages := by
  intro always
  obtain ⟨saved, ok, same⟩ := always toString (Kitchen.preheatedRoast 220)
    (Kitchen.preheatedRoast 220) (by decide +kernel)
  have taken : normalize toString (editorSave (Kitchen.preheatedRoast 220)) =
      .ok (Kitchen.preheatedRoast 180) := by
    decide +kernel
  rw [taken] at ok
  cases ok
  exact absurd same (by decide +kernel)

end AnovaOven
