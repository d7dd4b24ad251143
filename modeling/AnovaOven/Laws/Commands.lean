import AnovaOven.Laws.Starts
import AnovaOven.Lib.JsonPath

/-!
# Client commands

**Refusals** (`refused_unchanged`): a command whose reply is an error leaves the state as it was, and
emits nothing. **Edits of a running preheat** (`preheat_edit`): a temperature or a timer set while a
preheat runs sends the oven its own stages back, with the edit made at its target. What an edit
changes is listed as the paths it writes and the values there (`stageEdits`), and every path apart from these
reads as before, but for the two keys an update adds. A temperature writes one path besides the
setpoint: the bulbs' mode, where the stage names none.
-/

namespace AnovaOven

variable {env : Env} {s : SmState}

/-! ## Refusals -/

/-- Whether a reply is an error. -/
def Reply.isError : Reply → Bool
  | status (.error _) => true
  | currentCook (.error _) => true
  | recipes (.error _) => true
  | history (.error _) => true
  | unit (.error _) => true
  | _ => false

/-- An outcome that is a refusal where its result is an error. -/
def RefusesCleanly (s : SmState) (o : Outcome) : Prop := ∀ e, o.result = .error e → o = refuse s e

theorem refuse_clean (e : SmError) : RefusesCleanly s (refuse s e) := by
  intro e' failed
  cases failed
  rfl

theorem accepted_clean {o : Outcome} (accepted : o.result = .ok ()) : RefusesCleanly s o := by
  intro e failed
  rw [accepted] at failed
  cases failed

theorem startCook_clean (recipeId : String) : RefusesCleanly s (startCook env s recipeId) := by
  unfold startCook
  split
  · exact refuse_clean _
  · split
    · exact refuse_clean _
    · exact accepted_clean rfl

theorem startManualCook_clean (title : String) (stages : List Stage) :
    RefusesCleanly s (startManualCook env s title stages) := by
  unfold startManualCook
  split
  · exact refuse_clean _
  · exact accepted_clean rfl

theorem stopCook_clean : RefusesCleanly s (stopCook env.fresh s) := by
  rcases stopCook_cases env.fresh s with ⟨e, refused⟩ | ⟨_, _, _, controls, done⟩
  · rw [refused]
    exact refuse_clean e
  · rw [done]
    exact accepted_clean rfl

theorem linkCurrentCook_clean (recipeId title : String) :
    RefusesCleanly s (linkCurrentCook s recipeId title) := by
  unfold linkCurrentCook
  split
  · exact refuse_clean _
  · exact accepted_clean rfl

/-- A transition that refuses cleanly changes nothing where its reply is an error. -/
theorem RefusesCleanly.reply {o : Outcome} (clean : RefusesCleanly s o)
    (refused : o.reply.reply.isError) : o.reply.state = s ∧ o.reply.effects = [] := by
  cases result : o.result with
  | error e =>
    rw [clean e result]
    exact ⟨rfl, rfl⟩
  | ok done =>
    simp only [Outcome.reply, result, Reply.isError, Bool.false_eq_true] at refused

/-- **Refusals.** A command whose reply is an error changes nothing. -/
theorem refused_unchanged (env : Env) (s : SmState) (cmd : StateMachineCommand)
    (refused : (reduceCommand env s cmd).reply.isError) :
    (reduceCommand env s cmd).state = s ∧ (reduceCommand env s cmd).effects = [] := by
  cases cmd with
  | getStatus | getCurrentCook | getRecipes | getHistory => exact ⟨rfl, rfl⟩
  | refreshRecipes => cases refused
  | startCook recipeId => exact (startCook_clean recipeId).reply refused
  | startManualCook title stages => exact (startManualCook_clean title stages).reply refused
  | stopCook => exact stopCook_clean.reply refused
  | linkCurrentCook recipeId title => exact (linkCurrentCook_clean recipeId title).reply refused
  | control request =>
    simp only [reduceCommand] at refused ⊢
    split at refused
    · exact ⟨rfl, rfl⟩
    · cases refused

namespace Kitchen

/-- A bread at the last of its stages, with a stop and the lamp on their way to the oven. -/
def lastStage : SmState :=
  { SmState.init true 0 with
    connectivity := .connected (some "cooker")
    lifecycle := .stopPending
    pending := ⟨none, some ⟨"stop"⟩, [("lamp-on", "lamp")]⟩
    status := some { Kitchen.status "cook" with activeStageIndex := some 1 }
    ovenCook := some ⟨"bread", [{ roast with kind := "preheat" }, roast], [], 60⟩
    currentCook := some ⟨"Bread", some "bread", "2024-05-01T12:00:00Z", [roast], 1, 2⟩ }

end Kitchen

/-- There is no stage after the last to go on to. -/
theorem refused_unchanged_next_stage :
    (reduceCommand (Kitchen.env "next") Kitchen.lastStage (.control .nextStage)).state = Kitchen.lastStage ∧
      (reduceCommand (Kitchen.env "next") Kitchen.lastStage (.control .nextStage)).effects = [] :=
  refused_unchanged (Kitchen.env "next") Kitchen.lastStage (.control .nextStage) rfl

/-! ## Stage objects -/

/-- The keys `for_update` adds where a stage lacks them, with what it adds. -/
def updateDefaults : List (String × String) :=
  [("stepType", "stage"), ("stageTransitionType", "automatic")]

/-- The paths of these keys. -/
def updatePaths : List (List String) := updateDefaults.map fun default => [default.1]

/-- The bulb mode a stage object uses: dry where it names none. -/
def bulbMode (raw : Json) : String :=
  ((raw.index "temperatureBulbs").index "mode").asStr.getD "dry"

/-- Where a stage object keeps the name of its bulb mode, and the setpoint in it. -/
def modePath : List String := ["temperatureBulbs", "mode"]
def setpointPath (raw : Json) : List String := ["temperatureBulbs", bulbMode raw, "setpoint"]

/-- A stage object an edit can be made in: its bulbs, if it has any, are an object, and so is their
entry for its mode. -/
structure Editable (raw : Json) : Prop where
  object : raw.isObj
  bulbs : ∀ bulbs, raw.get "temperatureBulbs" = some bulbs → bulbs.isObj ∧
    ∀ entry, bulbs.get (bulbMode raw) = some entry → entry.isObj

/-- A field that is an object if it is there can be indexed. -/
theorem index_usable {j : Json} {key : String}
    (object : ∀ value, j.get key = some value → value.isObj) :
    (j.index key).isObj ∨ j.index key = .null := by
  unfold Json.index
  cases found : j.get key with
  | none => exact .inr rfl
  | some value => exact .inl (object value found)

namespace Editable

variable {raw : Json}

theorem bulbs_usable (h : Editable raw) :
    (raw.index "temperatureBulbs").isObj ∨ raw.index "temperatureBulbs" = .null :=
  index_usable fun bulbs found => (h.bulbs bulbs found).1

theorem entry_usable (h : Editable raw) :
    ((raw.index "temperatureBulbs").index (bulbMode raw)).isObj ∨
      (raw.index "temperatureBulbs").index (bulbMode raw) = .null := by
  apply index_usable
  intro entry found
  cases bulbs : raw.get "temperatureBulbs" with
  | none =>
    rw [Json.index, bulbs] at found
    cases found
  | some value =>
    rw [Json.index, bulbs] at found
    exact (h.bulbs value bulbs).2 entry found

/-- A stage's mode isn't called as the key that names it: its entry would be its name. -/
theorem mode_ne (h : Editable raw) : bulbMode raw ≠ "mode" := by
  intro same
  have named := same
  unfold bulbMode at named
  cases entry : (raw.index "temperatureBulbs").index "mode" with
  | str name =>
    rcases h.entry_usable with object | absent
    · rw [same, entry] at object
      cases object
    · rw [same, entry] at absent
      cases absent
  | _ =>
    rw [entry] at named
    exact absurd (show "dry" = "mode" from named) (by decide)

/-- A stage's mode can be assigned, and so can the setpoint in it afterwards. -/
theorem mode_indexable (h : Editable raw) : raw.Indexable modePath :=
  ⟨.inl h.object, h.bulbs_usable, trivial⟩

theorem setpoint_indexable (h : Editable raw) (mode : Json) :
    (raw.assignAt modePath mode).Indexable (setpointPath raw) := by
  have bulbs : (raw.assignAt modePath mode).index "temperatureBulbs" =
      (raw.index "temperatureBulbs").assign "mode" mode :=
    Json.index_assign (.inl h.object) _ _
  have entry : ((raw.assignAt modePath mode).index "temperatureBulbs").index (bulbMode raw) =
      (raw.index "temperatureBulbs").index (bulbMode raw) := by
    rw [bulbs, Json.index_assign_of_ne h.bulbs_usable h.mode_ne]
  refine ⟨.inl (Json.isObj_assign (.inl h.object) _ _), .inl ?_, ?_, trivial⟩
  · rw [bulbs]
    exact Json.isObj_assign h.bulbs_usable _ _
  · rw [entry]
    exact h.entry_usable

/-- The mode is kept beside the setpoints. -/
theorem mode_apart (h : Editable raw) : Json.Apart modePath (setpointPath raw) :=
  (Json.apart_of_ne (Ne.symm h.mode_ne) _ _).cons "temperatureBulbs"

end Editable

/-- `with_temperature` is an assignment of the stage's mode and one of its setpoint. -/
theorem withTemperature_eq {raw : Json} (object : raw.isObj) (celsius : ℚ) :
    withTemperature raw celsius =
      (raw.assignAt modePath (.str (bulbMode raw))).assignAt (setpointPath raw)
        (setpointJson celsius) := by
  simp only [modePath, setpointPath, Json.assignAt]
  rw [Json.index_assign (.inl object), Json.assign_assign (.inl object)]
  rfl

/-- What an edit of a temperature writes: the setpoint in the stage's mode, and the mode, where the
stage names none. -/
def temperatureEdits (raw : Json) (celsius : ℚ) : List (List String × Json) :=
  (if (((raw.index "temperatureBulbs").index "mode").asStr).isSome then []
    else [(modePath, .str "dry")]) ++ [(setpointPath raw, setpointJson celsius)]

/-- What an edit of a timer writes. -/
def timerEdits (secs : UInt64) : List (List String × Json) :=
  [(["timer"], .obj [("initial", .int secs.toNat)])]

/-- A stage object after some edits: they are read where they were made, and nothing else changed but
for the keys an update adds, each to what it was or to its default. -/
structure Edited (edits : List (List String × Json)) (raw out : Json) : Prop where
  written : ∀ edit ∈ edits, out.valueAt edit.1 = some edit.2
  kept : Json.SameBut (edits.map Prod.fst ++ updatePaths) raw out
  filled : ∀ default ∈ updateDefaults,
    out.get default.1 = some ((raw.get default.1).getD (.str default.2))

/-- Add a key that is missing. -/
def addDefault (stage : Json) (default : String × String) : Json :=
  if (stage.get default.1).isNone then stage.assign default.1 (.str default.2) else stage

theorem get_addDefault {stage : Json} (object : stage.isObj) (default : String × String)
    (key : String) : (addDefault stage default).get key =
      if key = default.1 then some ((stage.get key).getD (.str default.2)) else stage.get key := by
  unfold addDefault
  by_cases same : key = default.1
  · subst same
    cases present : stage.get default.1 with
    | none => simp [Json.get_assign (.inl object)]
    | some value => simp [present]
  · rw [if_neg same]
    split
    · rw [Json.get_assign (.inl object), if_neg same]
    · rfl

theorem isObj_addDefault {stage : Json} (object : stage.isObj) (default : String × String) :
    (addDefault stage default).isObj := by
  unfold addDefault
  split
  · exact Json.isObj_assign (.inl object) _ _
  · exact object

/-- Reading a stage ready for an update. -/
theorem get_forUpdate {stage : Json} (object : stage.isObj) (key : String) :
    (forUpdate stage).get key =
      if key = "stepType" then some ((stage.get key).getD (.str "stage"))
      else if key = "stageTransitionType" then some ((stage.get key).getD (.str "automatic"))
      else stage.get key := by
  show (addDefault (addDefault stage ("stepType", "stage"))
    ("stageTransitionType", "automatic")).get key = _
  rw [get_addDefault (isObj_addDefault object _), get_addDefault object]
  by_cases first : key = "stepType"
  · subst first
    rfl
  · rw [if_neg first, if_neg first]

/-- An update touches no path but those of the keys it adds. -/
theorem sameBut_forUpdate {stage : Json} (object : stage.isObj) :
    Json.SameBut updatePaths stage (forUpdate stage) := by
  intro path apart
  have ⟨first, second⟩ : Json.Apart ["stepType"] path ∧ Json.Apart ["stageTransitionType"] path :=
    ⟨apart _ (by decide), apart _ (by decide)⟩
  cases path with
  | nil => exact absurd List.nil_prefix first.2
  | cons key path =>
    have other {name : String} (apart : Json.Apart [name] (key :: path)) : key ≠ name := by
      rintro rfl
      exact apart.1 ⟨path, rfl⟩
    rw [Json.valueAt_cons, get_forUpdate object, if_neg (other first), if_neg (other second),
      Json.valueAt_cons]

/-- Edits apart from the keys an update adds are kept by it. -/
theorem Edited.forUpdate {edits : List (List String × Json)} {raw out : Json} (object : out.isObj)
    (written : ∀ edit ∈ edits, out.valueAt edit.1 = some edit.2)
    (kept : Json.SameBut (edits.map Prod.fst) raw out)
    (apart : ∀ edit ∈ edits, ∀ path ∈ updatePaths, Json.Apart edit.1 path) :
    Edited edits raw (AnovaOven.forUpdate out) where
  written edit mem := by
    rw [sameBut_forUpdate object edit.1 fun path added => (apart edit mem path added).symm]
    exact written edit mem
  kept := kept.trans (sameBut_forUpdate object)
  filled default mem := by
    have before : out.get default.1 = raw.get default.1 := by
      rw [← Json.valueAt_singleton, ← Json.valueAt_singleton]
      apply kept
      intro path edited
      obtain ⟨edit, made, rfl⟩ := List.mem_map.mp edited
      exact apart edit made _ (List.mem_map.mpr ⟨default, mem, rfl⟩)
    rw [get_forUpdate object, ← before]
    rcases List.mem_pair.mp mem with rfl | rfl <;> rfl

/-- A stage that isn't edited. -/
theorem edited_none {raw : Json} (object : raw.isObj) : Edited [] raw (forUpdate raw) :=
  Edited.forUpdate object (by simp) (Json.SameBut.refl _ raw) (by simp)

/-- A stage that names its mode reads it. -/
theorem valueAt_modePath {raw : Json} {name : String}
    (named : ((raw.index "temperatureBulbs").index "mode").asStr = some name) :
    raw.valueAt modePath = some (.str name) := by
  cases mode : (raw.index "temperatureBulbs").index "mode" with
  | str text =>
    rw [mode] at named
    cases named
    have bulbs : raw.index "temperatureBulbs" ≠ .null := by
      intro absent
      rw [absent] at mode
      cases mode
    rw [modePath, Json.valueAt_cons, Json.get_of_index bulbs, Option.bind_some,
      Json.valueAt_singleton, Json.get_of_index (by rw [mode]; exact Json.noConfusion), mode]
  | _ =>
    rw [mode] at named
    cases named

/-- A path that leads to the mode leads to the setpoint, but for the mode's own. -/
theorem prefix_setpointPath {raw : Json} {path : List String} (leads : path <+: modePath)
    (other : path ≠ modePath) : path <+: setpointPath raw := by
  rcases path with _ | ⟨key, _ | ⟨key', rest⟩⟩
  · exact List.nil_prefix
  · obtain ⟨rfl, _⟩ := List.cons_prefix_cons.mp leads
    exact ⟨[bulbMode raw, "setpoint"], rfl⟩
  · exfalso
    obtain ⟨first, leads⟩ := List.cons_prefix_cons.mp leads
    obtain ⟨second, last⟩ := List.cons_prefix_cons.mp leads
    rw [first, second, List.prefix_nil.mp last] at other
    exact other rfl

theorem temperatureEdits_named {raw : Json} {name : String} (celsius : ℚ)
    (named : ((raw.index "temperatureBulbs").index "mode").asStr = some name) :
    temperatureEdits raw celsius = [(setpointPath raw, setpointJson celsius)] := by
  rw [temperatureEdits, named]
  rfl

theorem temperatureEdits_unnamed {raw : Json} (celsius : ℚ)
    (unnamed : ((raw.index "temperatureBulbs").index "mode").asStr = none) :
    temperatureEdits raw celsius =
      [(modePath, .str (bulbMode raw)), (setpointPath raw, setpointJson celsius)] := by
  rw [temperatureEdits, bulbMode, unnamed]
  rfl

/-- What a temperature writes is in the bulbs. -/
theorem temperatureEdits_bulbs {raw : Json} {celsius : ℚ} {edit : List String × Json}
    (made : edit ∈ temperatureEdits raw celsius) : ∃ rest, edit.1 = "temperatureBulbs" :: rest := by
  cases mode : ((raw.index "temperatureBulbs").index "mode").asStr with
  | none =>
    rw [temperatureEdits_unnamed celsius mode] at made
    rcases List.mem_pair.mp made with rfl | rfl <;> exact ⟨_, rfl⟩
  | some name =>
    rw [temperatureEdits_named celsius mode] at made
    obtain rfl := List.mem_singleton.mp made
    exact ⟨_, rfl⟩

theorem temperatureEdits_apart {raw : Json} {celsius : ℚ} {edit : List String × Json}
    (made : edit ∈ temperatureEdits raw celsius) :
    ∀ path ∈ updatePaths, Json.Apart edit.1 path := by
  obtain ⟨rest, bulbs⟩ := temperatureEdits_bulbs made
  intro path added
  rw [bulbs]
  rcases List.mem_pair.mp added with rfl | rfl <;> exact Json.apart_of_ne (by decide) _ _

/-- **A temperature** is written to the setpoint of the stage's own bulb mode. -/
theorem edited_temperature {raw : Json} (editable : Editable raw) (celsius : ℚ) :
    Edited (temperatureEdits raw celsius) raw (forUpdate (withTemperature raw celsius)) := by
  rw [withTemperature_eq editable.object]
  have usable := editable.setpoint_indexable (.str (bulbMode raw))
  have object := Json.isObj_assign usable.1 "temperatureBulbs"
    (((raw.assignAt modePath (.str (bulbMode raw))).index "temperatureBulbs").assignAt
      [bulbMode raw, "setpoint"] (setpointJson celsius))
  have setpoint := Json.valueAt_assignAt usable (setpointJson celsius)
  have mode := Json.valueAt_assignAt_of_apart usable (setpointJson celsius) editable.mode_apart.symm
  rw [Json.valueAt_assignAt editable.mode_indexable] at mode
  have both := (Json.sameBut_assignAt editable.mode_indexable (.str (bulbMode raw))).trans
    (Json.sameBut_assignAt usable (setpointJson celsius))
  apply Edited.forUpdate object ?_ ?_ fun edit made => temperatureEdits_apart made
  · intro edit made
    cases name : ((raw.index "temperatureBulbs").index "mode").asStr with
    | none =>
      rw [temperatureEdits_unnamed celsius name] at made
      rcases List.mem_pair.mp made with rfl | rfl
      · exact mode
      · exact setpoint
    | some name' =>
      rw [temperatureEdits_named celsius name] at made
      obtain rfl := List.mem_singleton.mp made
      exact setpoint
  · cases name : ((raw.index "temperatureBulbs").index "mode").asStr with
    | none =>
      rw [temperatureEdits_unnamed celsius name]
      exact both
    | some name' =>
      -- the mode is written as it was, so it counts as no edit
      rw [temperatureEdits_named celsius name]
      apply both.drop
      · rw [mode, valueAt_modePath name, bulbMode, name, Option.getD_some]
      · intro path leads other
        exact ⟨_, List.mem_singleton_self _, prefix_setpointPath leads other⟩

/-- **A timer** is written whole. -/
theorem edited_timer {raw : Json} (object : raw.isObj) (secs : UInt64) :
    Edited (timerEdits secs) raw (forUpdate (withTimer raw secs)) := by
  have usable : raw.Indexable ["timer"] := ⟨.inl object, trivial⟩
  have assigned : withTimer raw secs =
      raw.assignAt ["timer"] (.obj [("initial", .int secs.toNat)]) := rfl
  rw [assigned]
  apply Edited.forUpdate (Json.isObj_assign (.inl object) _ _)
  · intro edit made
    obtain rfl := List.mem_singleton.mp made
    exact Json.valueAt_assignAt usable _
  · exact Json.sameBut_assignAt usable _
  · intro edit made path added
    obtain rfl := List.mem_singleton.mp made
    rcases List.mem_pair.mp added with rfl | rfl
    · exact Json.apart_of_ne (by decide) _ _
    · exact Json.apart_of_ne (by decide) _ _

/-! ## Edits of a running preheat -/

/-- A preheat is active: the oven's cook, and the index of the active stage, decoded as a preheat. -/
structure PreheatRuns (s : SmState) (cook : OvenCook) (active : Nat) : Prop where
  status : ∃ status, s.status = some status ∧ status.activeStageIndex = some active
  running : s.ovenCook = some cook
  preheat : ∃ stage, cook.stages[active]? = some stage ∧ stage.kind = "preheat"

/-- The stage a client's edit is made in, while a stage is active: a temperature's is this stage, a
timer's the one after it. -/
def editTarget (active : Nat) : ControlRequest → Option Nat
  | .temperature _ => some active
  | .timer _ => some (active + 1)
  | _ => none

/-- What a client's edit writes in a stage. -/
def requestEdits (raw : Json) : ControlRequest → List (List String × Json)
  | .temperature celsius => temperatureEdits raw celsius
  | .timer secs => timerEdits secs
  | _ => []

/-- What a client's edit writes in the stage at an index. -/
def stageEdits (request : ControlRequest) (active i : Nat) (raw : Json) :
    List (List String × Json) :=
  if editTarget active request = some i then requestEdits raw request else []

/-- A client's edit, as it is made in its stage. -/
def editStage (raw : Json) : ControlRequest → Json
  | .temperature celsius => withTemperature raw celsius
  | .timer secs => withTimer raw secs
  | _ => raw

theorem edited_editStage {raw : Json} (editable : Editable raw) (request : ControlRequest) :
    Edited (requestEdits raw request) raw (forUpdate (editStage raw request)) := by
  cases request with
  | temperature celsius => exact edited_temperature editable celsius
  | timer secs => exact edited_timer editable.object secs
  | nextStage | lamp | temperatureUnit => exact edited_none editable.object

/-- No edit writes a stage's id. -/
theorem Edited.id {raw out : Json} {request : ControlRequest} {active i : Nat}
    (h : Edited (stageEdits request active i raw) raw out) : out.get "id" = raw.get "id" := by
  rw [← Json.valueAt_singleton, ← Json.valueAt_singleton]
  apply h.kept
  intro path edited
  rcases List.mem_append.mp edited with edited | added
  · obtain ⟨edit, made, rfl⟩ := List.mem_map.mp edited
    unfold stageEdits at made
    split at made
    · cases request with
      | temperature celsius =>
        obtain ⟨rest, bulbs⟩ := temperatureEdits_bulbs made
        rw [bulbs]
        exact Json.apart_of_ne (by decide) _ _
      | timer secs =>
        obtain rfl := List.mem_singleton.mp made
        exact Json.apart_of_ne (by decide) _ _
      | nextStage | lamp | temperatureUnit => cases made
    · cases made
  · rcases List.mem_pair.mp added with rfl | rfl <;> exact Json.apart_of_ne (by decide) _ _

/-- The guards of a control of the running cook, passed while a preheat is active. -/
theorem PreheatRuns.activeStage {cook : OvenCook} {active : Nat} (runs : PreheatRuns s cook active)
    {found : OvenStatus × OvenCook × Nat} (passed : activeStage s = .ok found) :
    found.2 = (cook, active) ∧ active < cook.rawStages.length := by
  obtain ⟨status, reported, at'⟩ := runs.status
  unfold AnovaOven.activeStage at passed
  rw [reported, runs.running] at passed
  by_cases cooking : status.isCooking
  · rw [Option.filter_some_pos cooking] at passed
    by_cases inside : active < cook.rawStages.length
    · simp only [at', Option.filter, inside, decide_true, if_true] at passed
      cases passed
      exact ⟨rfl, inside⟩
    · simp [at', Option.filter, inside] at passed
  · simp [Option.filter, cooking] at passed

/-- An edit of a running preheat that is accepted goes out as the raw stages with the edit made in its
stage. -/
theorem PreheatRuns.control {cook : OvenCook} {active target : Nat} {request : ControlRequest}
    {out : OvenControl} (runs : PreheatRuns s cook active)
    (edits : editTarget active request = some target) (accepted : control s request = .ok out) :
    active < cook.rawStages.length ∧ target < cook.rawStages.length ∧
      out = updateCookStages (cook.rawStages.modify target fun raw => editStage raw request) := by
  obtain ⟨stage, at', kind⟩ := runs.preheat
  have preheat : (cook.stages[active]?.any fun stage => stage.kind = "preheat") = true := by
    rw [at', Option.any_some, kind]
    rfl
  unfold AnovaOven.control at accepted
  split at accepted
  · cases accepted
  · split at accepted
    · cases accepted
    · cases request with
      | temperature celsius =>
        obtain ⟨⟨status, cook', active'⟩, passed, rest⟩ := except_bind_ok.mp accepted
        obtain ⟨same, inside⟩ := runs.activeStage passed
        cases same
        cases edits
        dsimp only at rest
        rw [if_pos preheat] at rest
        cases rest
        exact ⟨inside, inside, rfl⟩
      | timer secs =>
        obtain ⟨⟨status, cook', active'⟩, passed, rest⟩ := except_bind_ok.mp accepted
        obtain ⟨same, inside⟩ := runs.activeStage passed
        cases same
        cases edits
        dsimp only at rest
        rw [if_pos preheat] at rest
        split at rest
        · cases rest
        · rename_i next
          cases rest
          exact ⟨inside, Nat.not_le.mp next, rfl⟩
      | nextStage | lamp | temperatureUnit => cases edits

/-- A control that is accepted is the command sent. -/
theorem control_accepted {request : ControlRequest}
    (accepted : (reduceCommand env s (.control request)).reply = .unit (.ok ())) :
    ∃ out, control s request = .ok out ∧ (reduceCommand env s (.control request)).effects =
      [.ws (.control env.fresh.requestId out)] := by
  simp only [reduceCommand] at accepted ⊢
  split at accepted
  · cases accepted
  · rename_i out ok
    exact ⟨out, ok, rfl⟩

/-- **Edits of a running preheat.** An accepted temperature or timer sends the oven its stages back, in
their order and with their ids. The stage it edits is one of them, no index is out of range, and each
stage reads as the oven's, but for the paths the edit writes in its own stage and for the two keys an
update adds. -/
theorem preheat_edit {env : Env} {s : SmState} {cook : OvenCook} {active target : Nat}
    {request : ControlRequest} (runs : PreheatRuns s cook active)
    (editable : ∀ raw ∈ cook.rawStages, Editable raw)
    (edits : editTarget active request = some target)
    (accepted : (reduceCommand env s (.control request)).reply = .unit (.ok ())) :
    active < cook.rawStages.length ∧ target < cook.rawStages.length ∧ ∃ stages,
      (reduceCommand env s (.control request)).effects =
        [.ws (.control env.fresh.requestId (.updateCookStages stages))] ∧
      stages.length = cook.rawStages.length ∧
      ∀ (i : Nat) (raw out : Json), cook.rawStages[i]? = some raw → stages[i]? = some out →
        out.get "id" = raw.get "id" ∧ Edited (stageEdits request active i raw) raw out := by
  obtain ⟨out, ok, sent⟩ := control_accepted accepted
  obtain ⟨inside, targeted, rfl⟩ := runs.control edits ok
  refine ⟨inside, targeted, _, sent, by rw [List.length_map, List.length_modify], ?_⟩
  intro i raw out atRaw atOut
  have object := editable raw (List.mem_of_getElem? atRaw)
  have edited : Edited (stageEdits request active i raw) raw out := by
    rw [List.getElem?_map, List.getElem?_modify, atRaw] at atOut
    obtain rfl := Option.some.inj atOut
    unfold stageEdits
    rw [edits]
    dsimp only
    by_cases same : target = i
    · rw [if_pos (congrArg some same), if_pos same]
      exact edited_editStage object request
    · rw [if_neg fun eq => same (Option.some.inj eq), if_neg same]
      exact edited_none object.object
  exact ⟨edited.id, edited⟩

/-! ## A preheat to edit -/

namespace Kitchen

/-- A stage object, by its id and its bulbs. -/
def rawStage (id : String) (bulbs : List (String × Json)) : Json :=
  .obj [("id", .str id), ("temperatureBulbs", .obj bulbs)]

/-- A preheat whose object has some bulbs, and the stage it leads to. -/
def rawCook (bulbs : List (String × Json)) : OvenCook :=
  ⟨"bread", [{ roast with kind := "preheat" }, roast],
    [rawStage "bread-preheat" bulbs, rawStage "bread" [("mode", .str "dry")]], 60⟩

/-- The oven that runs it, in local mode. -/
def preheating (bulbs : List (String × Json)) : SmState :=
  { SmState.init true 0 with
    connectivity := .connected (some "cooker")
    status := some { Kitchen.status "cook" with activeStageIndex := some 0 }
    ovenCook := some (rawCook bulbs) }

theorem preheating_runs (bulbs : List (String × Json)) :
    PreheatRuns (preheating bulbs) (rawCook bulbs) 0 :=
  ⟨⟨_, rfl, rfl⟩, rfl, _, rfl, rfl⟩

theorem rawStage_editable {id : String} {bulbs : List (String × Json)}
    (entry : ∀ entry, bulbs.lookup (bulbMode (rawStage id bulbs)) = some entry → entry.isObj) :
    Editable (rawStage id bulbs) where
  object := rfl
  bulbs found mem := by
    cases mem
    exact ⟨rfl, entry⟩

end Kitchen

/-- A timer set during the preheat goes out for the stage after it. -/
theorem preheat_edit_timer :
    0 < 2 ∧ 1 < 2 ∧ ∃ stages,
      (reduceCommand (Kitchen.env "set") (Kitchen.preheating [("mode", .str "dry")])
        (.control (.timer 600))).effects = [.ws (.control "set" (.updateCookStages stages))] ∧
      stages.length = 2 ∧
      ∀ (i : Nat) (raw out : Json),
        (Kitchen.rawCook [("mode", .str "dry")]).rawStages[i]? = some raw → stages[i]? = some out →
        out.get "id" = raw.get "id" ∧ Edited (stageEdits (.timer 600) 0 i raw) raw out := by
  apply preheat_edit (Kitchen.preheating_runs _) ?_ rfl rfl
  intro raw mem
  rcases List.mem_pair.mp mem with rfl | rfl
  · exact Kitchen.rawStage_editable fun entry found => nomatch found
  · exact Kitchen.rawStage_editable fun entry found => nomatch found

/-- A temperature set for a preheat that names no mode changes its mode, besides the setpoint. -/
theorem preheat_edit_names_mode :
    ¬ ∀ (env : Env) (s : SmState) (cook : OvenCook) (active : Nat) (celsius : ℚ)
      (stages : List Json), PreheatRuns s cook active → cook.stages.length = cook.rawStages.length →
      (∀ raw ∈ cook.rawStages, Editable raw) →
      (reduceCommand env s (.control (.temperature celsius))).effects =
        [.ws (.control env.fresh.requestId (.updateCookStages stages))] →
      ∀ raw out, cook.rawStages[active]? = some raw → stages[active]? = some out →
        Json.SameBut (setpointPath raw :: updatePaths) raw out := by
  intro always
  have editable : ∀ raw ∈ (Kitchen.rawCook []).rawStages, Editable raw := by
    intro raw mem
    rcases List.mem_pair.mp mem with rfl | rfl
    · exact Kitchen.rawStage_editable fun entry found => nomatch found
    · exact Kitchen.rawStage_editable fun entry found => nomatch found
  have same := always (Kitchen.env "set") (Kitchen.preheating []) (Kitchen.rawCook []) 0 60 _
    (Kitchen.preheating_runs []) rfl editable rfl _ _ rfl rfl modePath
  have apart : ∀ path ∈ setpointPath (Kitchen.rawStage "bread-preheat" []) :: updatePaths,
      Json.Apart path modePath := by
    unfold Json.Apart
    decide
  cases same apart

end AnovaOven
