import AnovaOven.CookProgress

/-!
# Laws of the cook's progress

**When the progress is consistent** (`progress_consistent_iff`): what is published is always the
tracker's, and the stage it names is always one of the cook's. A stage that waits for the user is one
that is still to come unless a refresh takes it away, in cloud mode or before the first status, while
it waits.
-/

namespace AnovaOven

/-! ## The tracker -/

namespace Tracker

variable {t : Tracker} {index : Nat}

/-- The stage is one of the cook's, or the cook has none. -/
def Placed (t : Tracker) : Prop := t.currentStageIndex < t.stages.length ∨ t.stages = []

/-- A stage that waits is still to come. -/
def Waits (t : Tracker) : Prop := t.nextStageReady = true → t.nextStage.isSome

theorem nextStage_isSome : t.nextStage.isSome ↔ t.currentStageIndex + 1 < t.stages.length := by
  unfold nextStage
  rw [Option.isSome_iff_ne_none, ne_eq, List.getElem?_eq_none_iff, Nat.not_le]

theorem waits_of_notReady (h : t.nextStageReady = false) : t.Waits := by
  intro ready
  rw [h] at ready
  cases ready

theorem placed_advanceTo (bound : index < t.stages.length) : (t.advanceTo index).Placed := .inl bound

end Tracker

variable {t : Tracker} {status : OvenStatus}

theorem ovenStage_lt {stages : List Stage} {index : Nat} (h : ovenStage stages status = some index) :
    index < stages.length :=
  of_decide_eq_true (Option.filter_eq_some_iff.mp h).2

/-- The oven's stage is one of the cook's. -/
theorem placed_atOvenStage (placed : t.Placed) (status : OvenStatus) :
    (atOvenStage t status).Placed := by
  unfold atOvenStage
  split
  · rename_i index isStage
    split
    · exact Tracker.placed_advanceTo (ovenStage_lt isStage)
    · exact placed
  · exact placed

/-- What the oven's own state makes of a tracker. -/
theorem followOven_spec (placed : t.Placed) (status : OvenStatus) :
    (followOven t status).1.Placed ∧ (followOven t status).1.Waits := by
  refine ⟨placed_atOvenStage placed status, ?_⟩
  intro ready
  exact (Bool.and_eq_true_iff.mp ready).2

/-- A tracker at the oven's stage already stays as it is. -/
theorem atOvenStage_eq (h : (atOvenStage t status).currentStageIndex = t.currentStageIndex) :
    atOvenStage t status = t := by
  unfold atOvenStage at h ⊢
  cases isStage : ovenStage t.stages status with
  | none => rfl
  | some index =>
    simp only [isStage] at h ⊢
    by_cases moves : index ≠ t.currentStageIndex
    · rw [if_pos moves] at h
      exact absurd h moves
    · rw [if_neg moves]

/-- A tracker in which nothing changed reads the same. -/
theorem followOven_unchanged (h : (followOven t status).2 = false) :
    buildCookProgress (followOven t status).1 = buildCookProgress t := by
  unfold followOven at h ⊢
  simp only [ne_eq, decide_not, Bool.not_eq_eq_eq_not, Bool.not_false, decide_eq_true_eq,
    Prod.mk.injEq] at h
  obtain ⟨index, ready⟩ := h
  rw [atOvenStage_eq index.symm] at ready ⊢
  dsimp only
  rw [← ready]

/-! ## What the handlers leave -/

namespace CookProgressTask

variable {task : CookProgressTask}

/-- The three in step: what is published is what the tracker reads, its stage is one of the cook's, and
a stage that waits is still to come. -/
structure Consistent (task : CookProgressTask) : Prop where
  published : task.published = task.tracker.map buildCookProgress
  placed : ∀ t ∈ task.tracker, t.Placed
  waits : ∀ t ∈ task.tracker, t.Waits

theorem consistent_new (followOven : Bool) (toleranceC : ℚ) : (new followOven toleranceC).Consistent :=
  ⟨rfl, by simp [new], by simp [new]⟩

theorem track_some_iff (task : CookProgressTask) (placed : t.Placed) :
    (task.track (some t)).Consistent ↔ t.Waits := by
  constructor
  · intro h
    exact h.waits t rfl
  · intro waits
    exact ⟨rfl, by rintro _ ⟨⟩; exact placed, by rintro _ ⟨⟩; exact waits⟩

theorem track_none (task : CookProgressTask) : (task.track none).Consistent :=
  ⟨rfl, by simp [track], by simp [track]⟩

/-- A tracker that reads as the one before it need not be published. -/
theorem keep_consistent {t' : Tracker} (h : task.Consistent) (isTracker : task.tracker = some t)
    (same : buildCookProgress t' = buildCookProgress t) (placed : t'.Placed) (waits : t'.Waits) :
    (task.keep t').Consistent := by
  refine ⟨?_, by rintro _ ⟨⟩; exact placed, by rintro _ ⟨⟩; exact waits⟩
  show task.published = some (buildCookProgress t')
  rw [h.published, isTracker, same]
  rfl

theorem onStartedFromRecipe_consistent (h : task.Consistent) (recipeTitle : String)
    (stages : List Stage) : (task.onStartedFromRecipe recipeTitle stages).Consistent := by
  unfold onStartedFromRecipe
  split
  · exact h
  · rename_i nonempty
    have stage : 0 < stages.length := by
      rw [List.length_pos_iff]
      simpa using nonempty
    exact (track_some_iff task (.inl stage)).mpr (Tracker.waits_of_notReady rfl)

/-! ### Inference -/

/-- What an evaluation notes of a stage doesn't show. -/
theorem evaluateStageCompletion_frame (t : Tracker) (stage : Stage) (status : OvenStatus)
    (toleranceC : ℚ) (now : Nat) :
    ∃ crossed warned run, (evaluateStageCompletion t stage status toleranceC now).1 =
      { t with preheatCrossSince := crossed, warnedNoCriterion := warned, timerHasRun := run } := by
  unfold evaluateStageCompletion
  dsimp only
  split
  · exact ⟨t.preheatCrossSince, t.warnedNoCriterion, _, rfl⟩
  · split
    · exact ⟨t.preheatCrossSince, t.warnedNoCriterion, _, rfl⟩
    · split
      · exact ⟨_, t.warnedNoCriterion, _, rfl⟩
      · exact ⟨t.preheatCrossSince, true, _, rfl⟩

theorem inferred_consistent (h : task.Consistent) (isTracker : task.tracker = some t)
    (status : OvenStatus) (now : Nat) : (task.inferred t status now).Consistent := by
  have placed := h.placed t isTracker
  unfold inferred
  split
  · cases next : t.nextStage with
    | none => exact h
    | some stage =>
      dsimp only
      split
      · have bound := Tracker.nextStage_isSome.mp (by rw [next]; rfl)
        exact (track_some_iff task (Tracker.placed_advanceTo bound)).mpr
          (Tracker.waits_of_notReady rfl)
      · exact h
  · rename_i notReady
    cases t.currentStage with
    | none => exact h
    | some stage =>
      obtain ⟨crossed, warned, run, frame⟩ :=
        evaluateStageCompletion_frame t stage status task.preheatToleranceC now
      dsimp only
      generalize evaluateStageCompletion t stage status task.preheatToleranceC now = found
        at frame ⊢
      obtain ⟨noted, complete⟩ := found
      dsimp only at frame ⊢
      subst frame
      split
      · rename_i complete
        refine (track_some_iff task ?_).mpr fun _ => (Bool.and_eq_true_iff.mp complete).2
        exact placed
      · exact keep_consistent h isTracker rfl placed
          (Tracker.waits_of_notReady (Bool.not_eq_true _ ▸ notReady))

theorem onStatus_consistent (h : task.Consistent) (status : Option OvenStatus) (now : Nat) :
    (task.onStatus status now).Consistent := by
  unfold onStatus
  cases status with
  | none => exact h
  | some status =>
    dsimp only
    split
    · split
      · exact track_none task
      · exact h
    · cases isTracker : task.tracker with
      | none => exact h
      | some t =>
        dsimp only
        have placed := h.placed t isTracker
        obtain ⟨placed', waits'⟩ := followOven_spec placed status
        split
        · split
          · exact (track_some_iff task placed').mpr waits'
          · rename_i unchanged
            exact keep_consistent h isTracker
              (followOven_unchanged (Bool.not_eq_true _ ▸ unchanged)) placed' waits'
        · exact inferred_consistent h isTracker status now

/-! ### Current cooks -/

/-- A tracker as the oven has it is placed, and waits for a stage to come where the oven was asked or
where it waited for one before. -/
theorem followed_spec (task : CookProgressTask) (placed : t.Placed) (status : Option OvenStatus) :
    (task.followed t status).Placed ∧
      ((task.followed t status).Waits ↔
        (task.followOven = true ∧ status.isSome) ∨ t.Waits) := by
  unfold followed
  cases status with
  | none => simp [placed]
  | some status =>
    dsimp only
    split
    · rename_i follows
      obtain ⟨placed', waits'⟩ := followOven_spec placed status
      exact ⟨placed', iff_of_true waits' (.inl ⟨follows, rfl⟩)⟩
    · rename_i infers
      simp [placed, infers]

theorem refreshed_placed (t : Tracker) (cook : CurrentCook) : (refreshed t cook).Placed := by
  unfold refreshed Tracker.Placed
  dsimp only
  split
  · rename_i past
    simp only [Bool.and_eq_true, Bool.not_eq_true', List.isEmpty_eq_false_iff] at past
    exact .inl (Nat.sub_lt (List.length_pos_iff.mpr past.2) Nat.one_pos)
  · rename_i within
    simp only [ge_iff_le, Bool.and_eq_true, decide_eq_true_eq, Bool.not_eq_true',
      List.isEmpty_eq_false_iff, not_and_or, Nat.not_le, not_not] at within
    exact within

/-- A refresh keeps a waiting stage exactly where the new list still has one after the stage. -/
theorem refreshed_waits_iff (t : Tracker) (cook : CurrentCook) :
    (refreshed t cook).Waits ↔
      (t.nextStageReady = true → t.currentStageIndex + 1 < cook.stages.length) := by
  unfold Tracker.Waits
  rw [Tracker.nextStage_isSome]
  refine imp_congr_right fun _ => ?_
  unfold refreshed
  dsimp only
  split
  · rename_i past
    simp only [ge_iff_le, Bool.and_eq_true, decide_eq_true_eq] at past
    omega
  · exact Iff.rfl

/-- The inferred stage is one of the cook's, where it has any. -/
theorem inferStageIndex_placed (stages : List Stage) (status : OvenStatus) :
    inferStageIndex stages status < stages.length ∨ stages = [] := by
  unfold inferStageIndex
  split
  · rename_i stage index only
    have item : (stage, index) ∈ stages.zipIdx.filter fun entry => matchesStage status entry.1 := by
      rw [only]
      exact List.mem_singleton_self _
    exact .inl (by simpa using List.snd_lt_of_mem_zipIdx (List.mem_of_mem_filter item))
  · cases found : stages.findIdx? fun stage => stage.kind = status.stageKind with
    | some index => exact .inl (List.findIdx?_eq_some_iff_getElem.mp found).1
    | none =>
      rcases List.eq_nil_or_concat stages with empty | ⟨init, last, isConcat⟩
      · exact .inr empty
      · exact .inl (by rw [isConcat]; simp)

theorem startingStage_placed (stages : List Stage) (status : Option OvenStatus) :
    startingStage stages status < stages.length ∨ stages = [] := by
  unfold startingStage
  cases status.filter OvenStatus.isCooking with
  | none =>
    rcases List.eq_nil_or_concat stages with empty | ⟨init, last, isConcat⟩
    · exact .inr empty
    · exact .inl (by rw [isConcat]; simp)
  | some status =>
    dsimp only
    cases isStage : ovenStage stages status with
    | some index => exact .inl (ovenStage_lt isStage)
    | none => exact inferStageIndex_placed stages status

/-- A refresh of the cook that is tracked takes no stage away that waits, where the oven isn't asked:
in cloud mode, or before its first status. -/
def KeepsNext (task : CookProgressTask) : CookProgressInput → Prop
  | .currentCook (some cook) status =>
    ∀ t ∈ task.tracker, t.cookKey = cook.startedAt → status.all OvenStatus.isCooking →
      (task.followOven = false ∨ status = none) → t.nextStageReady = true →
      t.currentStageIndex + 1 < cook.stages.length
  | _ => True

/-- A refresh leaves the three in step where the oven is asked, and where it isn't exactly where the new
list still has a stage after one that waits. -/
theorem refresh_consistent_iff (task : CookProgressTask) (t : Tracker) (cook : CurrentCook)
    (status : Option OvenStatus) :
    (task.track (some (task.followed (refreshed t cook) status))).Consistent ↔
      ((task.followOven = false ∨ status = none) → t.nextStageReady = true →
        t.currentStageIndex + 1 < cook.stages.length) := by
  obtain ⟨placed, waits⟩ := followed_spec task (refreshed_placed t cook) status
  rw [track_some_iff task placed, waits, refreshed_waits_iff]
  constructor
  · rintro (⟨follows, known⟩ | keeps) infers ready
    · rcases infers with cloud | unknown
      · exact absurd (cloud.symm.trans follows) Bool.false_ne_true
      · rw [unknown] at known
        cases known
    · exact keeps ready
  · intro keeps
    by_cases asked : task.followOven = true ∧ status.isSome
    · exact .inl asked
    · rw [not_and_or, Bool.not_eq_true, Option.not_isSome_iff_eq_none] at asked
      exact .inr (keeps asked)

/-- A cook that isn't tracked yet is tracked with no stage that waits. -/
theorem begin_consistent (task : CookProgressTask) (cook : CurrentCook) (status : Option OvenStatus) :
    (task.track (some (task.followed (Tracker.begin cook.startedAt cook.recipeTitle cook.stages
      (startingStage cook.stages status)) status))).Consistent := by
  obtain ⟨placed, waits⟩ := followed_spec task
    (t := Tracker.begin cook.startedAt cook.recipeTitle cook.stages
      (startingStage cook.stages status))
    (startingStage_placed cook.stages status) status
  exact (track_some_iff task placed).mpr (waits.mpr (.inr (Tracker.waits_of_notReady rfl)))

theorem any_idle (status : Option OvenStatus) :
    (status.any fun s => !s.isCooking) = !status.all OvenStatus.isCooking := by
  cases status <;> rfl

/-- A current cook leaves the three in step exactly where it takes no stage away that waits. -/
theorem onCurrentCook_consistent_iff (h : task.Consistent) (cook : Option CurrentCook)
    (status : Option OvenStatus) :
    (task.onCurrentCook cook status).Consistent ↔ task.KeepsNext (.currentCook cook status) := by
  unfold onCurrentCook
  cases cook with
  | none => exact iff_of_true (track_none task) trivial
  | some cook =>
    dsimp only
    split
    · -- the oven is idle: there is no cook to track
      rename_i idle
      rw [any_idle] at idle
      refine iff_of_true ?_ fun t _ _ cooking => ?_
      · split
        · exact track_none task
        · exact h
      · rw [cooking] at idle
        cases idle
    · rename_i notIdle
      have cooking : status.all OvenStatus.isCooking := by
        rw [any_idle] at notIdle
        simpa using notIdle
      cases found : task.tracker.filter fun t => t.cookKey = cook.startedAt with
      | none =>
        -- another cook: a tracker that waits for nothing
        refine iff_of_true (begin_consistent task cook status) ?_
        intro t isTracker same
        have kept : task.tracker.filter (fun t => t.cookKey = cook.startedAt) = some t :=
          Option.filter_eq_some_iff.mpr ⟨isTracker, decide_eq_true same⟩
        rw [found] at kept
        cases kept
      | some t =>
        obtain ⟨isTracker, same⟩ := Option.filter_eq_some_iff.mp found
        dsimp only
        rw [refresh_consistent_iff]
        constructor
        · intro keeps t' isTracker' _ _
          obtain rfl := Option.some.inj (isTracker.symm.trans isTracker')
          exact keeps
        · intro keeps
          exact keeps t isTracker (of_decide_eq_true same) cooking

/-- One turn. -/
theorem turn_consistent_iff (task : CookProgressTask) (i : CookProgressInput) (h : task.Consistent) :
    (cookProgress.next task i).Consistent ↔ task.KeepsNext i := by
  cases i with
  | status status now => exact iff_of_true (onStatus_consistent h status now) trivial
  | startedFromRecipe recipeTitle stages =>
    exact iff_of_true (onStartedFromRecipe_consistent h recipeTitle stages) trivial
  | currentCook cook status => exact onCurrentCook_consistent_iff h cook status

end CookProgressTask

/-- **Consistency.** In every run of the task, what is published is what the tracker reads, the stage is
one of the cook's and a stage that waits is still to come, after every turn exactly where no turn of the
run takes away a stage that waits. -/
theorem progress_consistent_iff (localMode : Bool) (toleranceC : ℚ) (is : List CookProgressInput) :
    cookProgress.Each (fun task i => (cookProgress.next task i).Consistent)
        (.new localMode toleranceC) is ↔
      cookProgress.Each CookProgressTask.KeepsNext (.new localMode toleranceC) is :=
  Machine.Each.iff_of_invariant
    (fun task i h keeps => (CookProgressTask.turn_consistent_iff task i h).mpr keeps)
    CookProgressTask.turn_consistent_iff (CookProgressTask.consistent_new localMode toleranceC)

namespace Kitchen

/-- A stage that ends when its probe reads 50 degrees. -/
def probedStage : Stage :=
  ⟨none, "cook", 180, none, none, none, some true, some 50, 0, 0, none, none, none, none, none, none,
    none, none, none⟩

/-- A status of the cooking oven with the probe at 60 degrees. -/
def probeAtSixty : OvenStatus :=
  ⟨"cook", "C", 180, some 180, none, "dry", 0, some 60, some 50, 0, 0, "idle", 0, none, true, none,
    none, false, some "roast", false⟩

/-- A roast of so many probed stages. -/
def roastOf (stageCount : Nat) : CurrentCook :=
  ⟨"Roast", none, "today", List.replicate stageCount probedStage, stageCount, stageCount⟩

/-- A roast's first stage is done and the second one waits for the user; then the cook is read again,
and it has only the first. -/
def shortenedRoast : List CookProgressInput :=
  [.currentCook (some (roastOf 2)) (some probeAtSixty), .status (some probeAtSixty) 0,
    .currentCook (some (roastOf 1)) (some probeAtSixty)]

end Kitchen

/-- A refresh of the cook takes away the stage that waits, and it goes on waiting. -/
theorem refresh_drops_next :
    ¬ ∀ (localMode : Bool) (toleranceC : ℚ) (is : List CookProgressInput),
      cookProgress.Each (fun task i => (cookProgress.next task i).Consistent)
        (.new localMode toleranceC) is := by
  intro always
  obtain ⟨-, -, shortened, -⟩ := always false 0 Kitchen.shortenedRoast
  have waits := shortened.waits _ rfl
  exact absurd (waits (by decide)) (by decide)

end AnovaOven
