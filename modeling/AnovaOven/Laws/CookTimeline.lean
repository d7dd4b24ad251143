import AnovaOven.Telemetry.CookTimeline
import Mathlib.Data.List.Induction

/-!
# Laws of the cook's timeline

**What a scraper reads** (`rendered_reads`) is of the running cook: the last updates in a row that only move
forward. It has each stage these were at, once, with the time of the first update that was at it, and the latest
title as it is, whatever it holds; and nothing that was before an end of a cook or an update that moved back.
-/

namespace AnovaOven

open Exposition

/-! ## The running cook -/

/-- An update that has a progress. -/
abbrev CookSeen := CookProgress × ℚ

/-- The stage an update is at. -/
def CookSeen.index (seen : CookSeen) : Nat := seen.1.currentStageIndex

/-- The running cook's updates: all that come last, have a progress and only move forward. -/
structure RunningCook (seen : List ProgressSeen) (past : List ProgressSeen) (cook : List CookSeen) : Prop where
  split : seen = past ++ cook.map fun u => (some u.1, u.2)
  forward : cook.Pairwise fun a b => CookSeen.index a ≤ CookSeen.index b
  begins : ∀ last ∈ past.getLast?, ∀ progress, last.1 = some progress →
    ∃ first ∈ cook.head?, CookSeen.index first < progress.currentStageIndex

/-- What was seen last is what the running cook saw last. -/
theorem RunningCook.getLast_seen {seen past : List ProgressSeen} {cook : List CookSeen}
    (running : RunningCook seen past cook) {u : CookSeen} (isLast : cook.getLast? = some u) :
    seen.getLast? = some (some u.1, u.2) := by
  rw [running.split, List.getLast?_append, List.getLast?_map, isLast]
  rfl

/-- A running cook goes on with an update that doesn't move back. -/
theorem RunningCook.goesOn {seen past : List ProgressSeen} {cook : List CookSeen}
    (running : RunningCook seen past cook) {u update : CookSeen} (isLast : cook.getLast? = some u)
    (forward : u.index ≤ update.index) :
    RunningCook (seen ++ [(some update.1, update.2)]) past (cook ++ [update]) where
  split := by rw [running.split]; simp
  forward := by
    refine List.pairwise_append.mpr ⟨running.forward, List.pairwise_singleton _ _, ?_⟩
    intro v item next isNext
    obtain rfl := List.mem_singleton.mp isNext
    obtain ⟨before, split⟩ := List.getLast?_eq_some_iff.mp isLast
    have ordered := running.forward
    rw [split] at ordered item
    rcases List.mem_append.mp item with earlier | same
    · exact Nat.le_trans ((List.pairwise_append.mp ordered).2.2 v earlier u (List.mem_singleton_self u)) forward
    · exact List.mem_singleton.mp same ▸ forward
  begins last isPast progress some' := by
    obtain ⟨first, isFirst, less⟩ := running.begins last isPast progress some'
    exact ⟨first, by rw [List.head?_append, Option.mem_def.mp isFirst]; rfl, less⟩

/-- An update of a cook that is the first one at its stage. -/
def FirstAt (cook : List CookSeen) (seen : CookSeen) : Prop :=
  ∃ before after, cook = before ++ seen :: after ∧
    ∀ earlier ∈ before, CookSeen.index earlier < CookSeen.index seen

theorem FirstAt.concat {cook : List CookSeen} {seen : CookSeen} (first : FirstAt cook seen)
    (update : CookSeen) : FirstAt (cook ++ [update]) seen := by
  obtain ⟨before, after, split, earlier⟩ := first
  exact ⟨before, after ++ [update], by rw [split]; simp, earlier⟩

/-- There is one at a stage. -/
theorem FirstAt.unique {cook : List CookSeen} {a b : CookSeen} (isA : FirstAt cook a) (isB : FirstAt cook b)
    (same : a.index = b.index) : a = b := by
  obtain ⟨before, after, split, earlier⟩ := isA
  obtain ⟨before', after', split', earlier'⟩ := isB
  rcases List.append_eq_append_iff.mp (split.symm.trans split') with ⟨more, rfl, rest⟩ | ⟨more, rfl, rest⟩
  · cases more with
    | nil => exact (List.cons.inj rest).1
    | cons u more =>
      obtain rfl := (List.cons.inj rest).1
      have less := earlier' a (List.mem_append_right _ List.mem_cons_self)
      exact absurd same (Nat.ne_of_lt less)
  · cases more with
    | nil => exact (List.cons.inj rest).1.symm
    | cons u more =>
      obtain rfl := (List.cons.inj rest).1
      have less := earlier b (List.mem_append_right _ List.mem_cons_self)
      exact absurd same.symm (Nat.ne_of_lt less)

namespace CookRecord

/-- A record of a cook's updates: the last one's title, count and readiness, and a start for each stage. -/
structure RecordOf (cook : List CookSeen) (record : CookRecord) : Prop where
  latest : ∀ last ∈ cook.getLast?, record.recipeTitle = last.1.recipeTitle ∧
    record.stageCount = last.1.totalStageCount ∧ record.nextStageReady = last.1.nextStageReady
  current : record.stages.getLast?.map StageStart.index = cook.getLast?.map CookSeen.index
  ordered : record.stages.Pairwise fun a b => a.index < b.index
  first : ∀ stage ∈ record.stages, ∃ seen, FirstAt cook seen ∧ stage = .of seen.1 seen.2
  all : ∀ seen ∈ cook, ∃ stage ∈ record.stages, stage.index = CookSeen.index seen

/-- The timeline is of a cook's updates: none where there are none. -/
def Follows (cook : List CookSeen) : Option CookRecord → Prop
  | none => cook = []
  | some record => cook ≠ [] ∧ RecordOf cook record

variable {cook : List CookSeen} {record : CookRecord} {seen : CookSeen}

/-- A record of one update. -/
theorem recordOf_singleton (seen : CookSeen) :
    RecordOf [seen] ⟨seen.1.recipeTitle, seen.1.totalStageCount, [.of seen.1 seen.2], seen.1.nextStageReady⟩ where
  latest last isLast := by
    obtain rfl : seen = last := by simpa using isLast
    exact ⟨rfl, rfl, rfl⟩
  current := rfl
  ordered := List.pairwise_singleton _ _
  first stage item := by
    obtain rfl := List.mem_singleton.mp item
    exact ⟨seen, ⟨[], [], rfl, fun _ none' => absurd none' List.not_mem_nil⟩, rfl⟩
  all u item := by
    obtain rfl := List.mem_singleton.mp item
    exact ⟨_, List.mem_singleton_self _, rfl⟩

/-- The last stage is the last one in order. -/
theorem RecordOf.le_last (of : RecordOf cook record) {last : StageStart}
    (isLast : record.stages.getLast? = some last) : ∀ stage ∈ record.stages, stage.index ≤ last.index := by
  obtain ⟨before, split⟩ := List.getLast?_eq_some_iff.mp isLast
  have ordered := of.ordered
  rw [split] at ordered ⊢
  intro stage item
  rcases List.mem_append.mp item with earlier | same
  · exact Nat.le_of_lt ((List.pairwise_append.mp ordered).2.2 stage earlier last (List.mem_singleton_self last))
  · exact Nat.le_of_eq (congrArg StageStart.index (List.mem_singleton.mp same))

/-- An update at the stage the record is at. -/
theorem RecordOf.stays (of : RecordOf cook record) {last : StageStart}
    (isLast : record.stages.getLast? = some last) (same : last.index = CookSeen.index seen) :
    RecordOf (cook ++ [seen]) ⟨seen.1.recipeTitle, seen.1.totalStageCount, record.stages,
      seen.1.nextStageReady⟩ where
  latest u isLast := by
    obtain rfl : seen = u := by simpa using isLast
    exact ⟨rfl, rfl, rfl⟩
  current := by
    rw [isLast, List.getLast?_concat]
    exact congrArg some same
  ordered := of.ordered
  first stage item := by
    obtain ⟨u, first, isStart⟩ := of.first stage item
    exact ⟨u, first.concat seen, isStart⟩
  all u item := by
    rcases List.mem_append.mp item with before | now
    · exact of.all u before
    · obtain rfl := List.mem_singleton.mp now
      exact ⟨last, List.mem_of_getLast? isLast, same⟩

/-- An update that moves forward. -/
theorem RecordOf.moves (of : RecordOf cook record) {last : StageStart}
    (isLast : record.stages.getLast? = some last) (forward : last.index < CookSeen.index seen) :
    RecordOf (cook ++ [seen]) ⟨seen.1.recipeTitle, seen.1.totalStageCount,
      record.stages ++ [.of seen.1 seen.2], seen.1.nextStageReady⟩ where
  latest u isLast := by
    obtain rfl : seen = u := by simpa using isLast
    exact ⟨rfl, rfl, rfl⟩
  current := by
    rw [List.getLast?_concat, List.getLast?_concat]
    rfl
  ordered := by
    refine List.pairwise_append.mpr ⟨of.ordered, List.pairwise_singleton _ _, ?_⟩
    intro stage item next isNext
    obtain rfl := List.mem_singleton.mp isNext
    exact Nat.lt_of_le_of_lt (of.le_last isLast stage item) forward
  first stage item := by
    rcases List.mem_append.mp item with before | now
    · obtain ⟨u, first, isStart⟩ := of.first stage before
      exact ⟨u, first.concat seen, isStart⟩
    · refine ⟨seen, ⟨cook, [], rfl, ?_⟩, List.mem_singleton.mp now⟩
      intro earlier isEarlier
      obtain ⟨start, isStart, same⟩ := of.all earlier isEarlier
      exact same ▸ Nat.lt_of_le_of_lt (of.le_last isLast start isStart) forward
  all u item := by
    rcases List.mem_append.mp item with before | now
    · obtain ⟨start, isStart, same⟩ := of.all u before
      exact ⟨start, List.mem_append_left _ isStart, same⟩
    · obtain rfl := List.mem_singleton.mp now
      exact ⟨_, List.mem_append_right _ (List.mem_singleton_self _), rfl⟩

/-! ## Any updates -/

/-- An update that a record of no cook meets. -/
theorem observe_fresh {progress : CookProgress} {now : ℚ} {before : Option CookRecord}
    (fresh : before = none ∨ ∃ record last, before = some record ∧ record.stages.getLast? = some last ∧
      progress.currentStageIndex < last.index) :
    observe before (some progress, now) = some ⟨progress.recipeTitle, progress.totalStageCount,
      [.of progress now], progress.nextStageReady⟩ := by
  rcases fresh with rfl | ⟨record, last, rfl, isLast, back⟩
  · rfl
  · simp [observe, isLast, back]

/-- An update of the cook there is a record of. -/
theorem observe_running {progress : CookProgress} {now : ℚ} {last : StageStart}
    (isLast : record.stages.getLast? = some last) (forward : last.index ≤ progress.currentStageIndex) :
    observe (some record) (some progress, now) = some ⟨progress.recipeTitle, progress.totalStageCount,
      if last.index = progress.currentStageIndex then record.stages else record.stages ++ [.of progress now],
      progress.nextStageReady⟩ := by
  have notBack : ¬ last.index > progress.currentStageIndex := Nat.not_lt.mpr forward
  unfold observe
  simp only [Option.bind_some, isLast, Option.any_some, notBack, decide_false, Bool.false_eq_true, if_false,
    Option.getD_some, decide_eq_true_eq]
  split <;> rfl

end CookRecord

/-- **The timeline is of the running cook.** -/
theorem timeline_follows (seen : List ProgressSeen) :
    ∃ past cook, RunningCook seen past cook ∧ CookRecord.Follows cook (cookTimeline.run none seen) := by
  induction seen using List.reverseRecOn with
  | nil => exact ⟨[], [], ⟨rfl, List.Pairwise.nil, fun _ none' => by cases none'⟩, rfl⟩
  | append_singleton seen update ih =>
    obtain ⟨past, cook, running, follows⟩ := ih
    have step : cookTimeline.run none (seen ++ [update]) =
        CookRecord.observe (cookTimeline.run none seen) update := by
      rw [Machine.run_append]
      rfl
    rw [step]
    generalize cookTimeline.run none seen = before at follows
    obtain ⟨progress, now⟩ := update
    cases progress with
    | none =>
      refine ⟨seen ++ [(none, now)], [], ⟨by simp, List.Pairwise.nil, ?_⟩, rfl⟩
      intro last isLast progress some'
      obtain rfl : (none, now) = last := by simpa using isLast
      cases some'
    | some progress =>
      cases before with
      | none =>
        obtain rfl : cook = [] := follows
        rw [CookRecord.observe_fresh (.inl rfl)]
        have whole : seen = past := by simpa using running.split
        refine ⟨past, [(progress, now)], ⟨by rw [whole]; rfl, List.pairwise_singleton _ _, ?_⟩,
          List.cons_ne_nil _ _, CookRecord.recordOf_singleton _⟩
        intro last isLast p some'
        obtain ⟨first, isFirst, _⟩ := running.begins last isLast p some'
        cases isFirst
      | some record =>
        obtain ⟨cooks, of⟩ := follows
        obtain ⟨u, lastSeen⟩ := Option.isSome_iff_exists.mp (List.getLast?_isSome.mpr cooks)
        obtain ⟨last, isLast, same⟩ : ∃ last, record.stages.getLast? = some last ∧ last.index = u.index := by
          have current := of.current
          rw [lastSeen] at current
          exact Option.map_eq_some_iff.mp current
        by_cases back : progress.currentStageIndex < last.index
        · rw [CookRecord.observe_fresh (.inr ⟨record, last, rfl, isLast, back⟩)]
          refine ⟨seen, [(progress, now)], ⟨rfl, List.pairwise_singleton _ _, ?_⟩, List.cons_ne_nil _ _,
            CookRecord.recordOf_singleton _⟩
          intro before isBefore p some'
          rw [running.getLast_seen lastSeen] at isBefore
          cases isBefore
          cases some'
          exact ⟨_, rfl, Nat.lt_of_lt_of_eq back same⟩
        · have forward := Nat.le_of_not_lt back
          rw [CookRecord.observe_running isLast forward]
          have on : CookSeen.index u ≤ CookSeen.index (progress, now) := Nat.le_trans (Nat.le_of_eq same.symm) forward
          refine ⟨past, cook ++ [(progress, now)], running.goesOn lastSeen on, by simp, ?_⟩
          split
          · rename_i stays
            exact of.stays isLast stays
          · rename_i moves
            exact of.moves isLast (Nat.lt_of_le_of_ne forward moves)

/-! ## What a scraper reads -/

namespace CookRecord

/-- The series there is one of. -/
def singles (cook : CookRecord) : List Sample :=
  [⟨cookInfo, [("recipe", cook.recipeTitle)], "1"⟩, ⟨cookStageCountName, [], toString cook.stageCount⟩,
    ⟨cookNextStageReady, [], if cook.nextStageReady then "1" else "0"⟩] ++
  (cook.stages.getLast?.map fun current => ⟨cookCurrentStage, stageLabels current, "1"⟩).toList

/-- The series of the stages' starts. -/
def starts (cook : CookRecord) : List Sample :=
  cook.stages.map fun stage => ⟨cookStageStartTime, stageLabels stage, formatMillis stage.unixSecs⟩

/-- The series of a cook. -/
def samples (cook : CookRecord) : List Sample := cook.singles ++ cook.starts

theorem oneLine_formatMillis (x : ℚ) : OneLine (formatMillis x) := by
  have sign : OneLine (if x < 0 then "-" else "") := by split <;> decide
  have point : OneLine "." := by decide
  unfold formatMillis
  exact oneLine_append (oneLine_append (oneLine_append (oneLine_append (oneLine_append sign
    (oneLine_toString _)) point) (oneLine_toString _)) (oneLine_toString _)) (oneLine_toString _)

theorem describe_formed {name help : String} (oneName : OneLine name) (oneHelp : OneLine help) :
    ∀ line ∈ describe name help, line.WellFormed := by
  have help' : OneLine ("HELP " ++ name ++ " " ++ help) :=
    oneLine_append (oneLine_append (oneLine_append (by decide) oneName) (by decide)) oneHelp
  have type : OneLine ("TYPE " ++ name ++ " gauge") :=
    oneLine_append (oneLine_append (by decide) oneName) (by decide)
  exact List.forall_mem_cons.mpr ⟨help', List.forall_mem_singleton.mpr type⟩

theorem stageLabels_named (stage : StageStart) : ∀ label ∈ stageLabels stage, Named label.1 := by
  have index : Named "index" := by decide
  have kind : Named "kind" := by decide
  exact List.forall_mem_cons.mpr ⟨index, List.forall_mem_singleton.mpr kind⟩

/-- A series' line is well formed. -/
theorem sample_formed {name value : String} {labels : List (String × String)} (named : Named name)
    (keys : ∀ label ∈ labels, Named label.1) (oneValue : OneLine value) :
    ∀ line ∈ [Line.sample ⟨name, labels, value⟩], line.WellFormed :=
  List.forall_mem_singleton.mpr ⟨named, keys, oneValue⟩

/-- Every line is well formed. -/
theorem lines_formed (cook : CookRecord) : ∀ line ∈ cook.lines, line.WellFormed := by
  have recipe : ∀ label ∈ [("recipe", cook.recipeTitle)], Named label.1 := by
    have key : Named "recipe" := by decide
    exact List.forall_mem_singleton.mpr key
  have unlabelled : ∀ label ∈ ([] : List (String × String)), Named label.1 := fun _ item => by cases item
  have start : Named cookStageStartTime := by decide
  intro line item
  simp only [lines, List.mem_append, or_assoc] at item
  rcases item with item | item | item | item | item | item | item | item | item
  · exact describe_formed (by decide) (by decide) line item
  · exact sample_formed (by decide) recipe (by decide) line item
  · exact describe_formed (by decide) (by decide) line item
  · exact sample_formed (by decide) unlabelled (oneLine_toString _) line item
  · exact describe_formed (by decide) (by decide) line item
  · exact sample_formed (by decide) unlabelled (by split <;> decide) line item
  · split at item
    · rename_i current _
      rcases List.mem_append.mp item with item | item
      · exact describe_formed (by decide) (by decide) line item
      · exact sample_formed (by decide) (stageLabels_named current) (by decide) line item
    · cases item
  · exact describe_formed (by decide) (by decide) line item
  · obtain ⟨stage, _, rfl⟩ := List.mem_map.mp item
    exact ⟨start, stageLabels_named stage, oneLine_formatMillis _⟩

theorem lines_samples (cook : CookRecord) : cook.lines.filterMap Line.sample? = cook.samples := by
  have starts : (cook.stages.map fun stage => Line.sample ⟨cookStageStartTime, stageLabels stage,
      formatMillis stage.unixSecs⟩).filterMap Line.sample? = cook.starts := by
    rw [List.filterMap_map]
    exact congrFun List.filterMap_eq_map cook.stages
  unfold lines samples singles
  cases cook.stages.getLast? with
  | none => simp [describe, List.filterMap_cons, Line.sample?, starts]
  | some current => simp [describe, List.filterMap_cons, Line.sample?, starts]

/-- **What is rendered is read back**, for any cook. -/
theorem read_render (cook : Option CookRecord) :
    read (render cook) = some (cook.elim [] samples) := by
  cases cook with
  | none => rfl
  | some cook => exact (read_write cook.lines_formed).trans (congrArg some cook.lines_samples)

/-- The labels of two stages at different indices. -/
theorem stageLabels_ne {a b : StageStart} (less : a.index < b.index) : stageLabels a ≠ stageLabels b := by
  intro same
  have label : toString a.index = toString b.index := congrArg Prod.snd (List.cons.inj same).1
  have number := congrArg (fun text : String => Nat.ofDigitChars 10 text.toList 0) label
  simp only [Nat.toString_eq_repr, Nat.toList_repr, Nat.ofDigitChars_ten_toDigits] at number
  exact absurd number (Nat.ne_of_lt less)

theorem starts_name {cook : CookRecord} : ∀ s ∈ cook.starts, s.name = cookStageStartTime := by
  intro s item
  obtain ⟨stage, _, rfl⟩ := List.mem_map.mp item
  rfl

theorem singles_name (cook : CookRecord) : (cook.singles.map Sample.name).Sublist
    [cookInfo, cookStageCountName, cookNextStageReady, cookCurrentStage] := by
  unfold singles
  cases cook.stages.getLast? with
  | none => exact (List.sublist_append_left _ [cookCurrentStage])
  | some current => exact List.Sublist.refl _

/-- Where the stages are in order, no two series have the same name and labels. -/
theorem samples_once {cook : CookRecord} (ordered : cook.stages.Pairwise fun a b => a.index < b.index) :
    cook.samples.Pairwise fun a b => (a.name, a.labels) ≠ (b.name, b.labels) := by
  have names : [cookInfo, cookStageCountName, cookNextStageReady, cookCurrentStage].Nodup ∧
      cookStageStartTime ∉ [cookInfo, cookStageCountName, cookNextStageReady, cookCurrentStage] := by decide
  refine List.pairwise_append.mpr ⟨?_, ?_, ?_⟩
  · have distinct := List.pairwise_map.mp (names.1.sublist cook.singles_name)
    exact distinct.imp fun different same => different (Prod.mk.inj same).1
  · refine List.pairwise_map.mpr (ordered.imp ?_)
    intro a b less same
    exact stageLabels_ne less (Prod.mk.inj same).2
  · intro a single b start same
    have isStart : a.name = cookStageStartTime := (Prod.mk.inj same).1.trans (starts_name b start)
    exact names.2 (isStart ▸ cook.singles_name.subset (List.mem_map_of_mem single))

end CookRecord

/-- The series a scraper reads of a cook's updates: those there is one of as the last update has them, and the
time of the first update at each stage. -/
structure Scraped (cook : List CookSeen) (samples : List Sample) : Prop where
  idle : cook = [] → samples = []
  singles : ∀ last ∈ cook.getLast?, ∃ first, FirstAt cook first ∧ first.index = last.index ∧
    samples.filter (fun s => s.name ≠ cookStageStartTime) =
      [⟨cookInfo, [("recipe", last.1.recipeTitle)], "1"⟩,
        ⟨cookStageCountName, [], toString last.1.totalStageCount⟩,
        ⟨cookNextStageReady, [], if last.1.nextStageReady then "1" else "0"⟩,
        ⟨cookCurrentStage, CookRecord.stageLabels (.of first.1 first.2), "1"⟩]
  starts : ∀ labels value, ⟨cookStageStartTime, labels, value⟩ ∈ samples ↔
    ∃ seen, FirstAt cook seen ∧ labels = CookRecord.stageLabels (.of seen.1 seen.2) ∧
      value = formatMillis seen.2
  once : samples.Pairwise fun a b => (a.name, a.labels) ≠ (b.name, b.labels)

namespace CookRecord.RecordOf

variable {cook : List CookSeen} {record : CookRecord}

/-- All but the starts are the latest update's. -/
theorem filter_samples (of : RecordOf cook record) {last : CookSeen} (isLast : cook.getLast? = some last) :
    ∃ first, FirstAt cook first ∧ first.index = last.index ∧
      record.samples.filter (fun s => s.name ≠ cookStageStartTime) =
        [⟨cookInfo, [("recipe", last.1.recipeTitle)], "1"⟩,
          ⟨cookStageCountName, [], toString last.1.totalStageCount⟩,
          ⟨cookNextStageReady, [], if last.1.nextStageReady then "1" else "0"⟩,
          ⟨cookCurrentStage, stageLabels (.of first.1 first.2), "1"⟩] := by
  obtain ⟨title, count, ready⟩ := of.latest last isLast
  have current := of.current
  rw [isLast] at current
  obtain ⟨stage, isStage, same⟩ := Option.map_eq_some_iff.mp current
  obtain ⟨first, isFirst, rfl⟩ := of.first stage (List.mem_of_getLast? isStage)
  have singles : record.singles.filter (fun s => s.name ≠ cookStageStartTime) = record.singles := by
    have other : cookStageStartTime ∉ [cookInfo, cookStageCountName, cookNextStageReady,
      cookCurrentStage] := by decide
    refine List.filter_eq_self.mpr fun s item => decide_eq_true fun isStart => ?_
    exact other (isStart ▸ record.singles_name.subset (List.mem_map_of_mem item))
  have starts : record.starts.filter (fun s => s.name ≠ cookStageStartTime) = [] :=
    List.filter_eq_nil_iff.mpr fun s item => by simp [starts_name s item]
  refine ⟨first, isFirst, same, ?_⟩
  rw [samples, List.filter_append, singles, starts, CookRecord.singles, isStage, title, count, ready]
  rfl

/-- Each stage's series has the time of the first update at it. -/
theorem mem_starts (of : RecordOf cook record) (labels : List (String × String)) (value : String) :
    ⟨cookStageStartTime, labels, value⟩ ∈ record.samples ↔
      ∃ seen, FirstAt cook seen ∧ labels = stageLabels (.of seen.1 seen.2) ∧ value = formatMillis seen.2 := by
  constructor
  · intro item
    rcases List.mem_append.mp item with single | start
    · have other : cookStageStartTime ∉ [cookInfo, cookStageCountName, cookNextStageReady,
        cookCurrentStage] := by decide
      exact absurd (record.singles_name.subset (List.mem_map_of_mem single)) other
    · obtain ⟨stage, isStage, same⟩ := List.mem_map.mp start
      obtain ⟨seen, first, rfl⟩ := of.first stage isStage
      cases same
      exact ⟨seen, first, rfl, rfl⟩
  · rintro ⟨seen, first, rfl, rfl⟩
    have item : seen ∈ cook := by
      obtain ⟨before, after, rfl, _⟩ := first
      exact List.mem_append_right _ List.mem_cons_self
    obtain ⟨stage, isStage, same⟩ := of.all seen item
    obtain ⟨seen', first', rfl⟩ := of.first stage isStage
    obtain rfl := first.unique first' same.symm
    exact List.mem_append_right _ (List.mem_map.mpr ⟨_, isStage, rfl⟩)

end CookRecord.RecordOf

/-- **What a scraper reads**, after any updates: of the running cook, the latest title, count and readiness, and
for each stage that its updates were at, the time of the first of them. Each series is read once. -/
theorem rendered_reads (seen : List ProgressSeen) : ∃ past cook samples, RunningCook seen past cook ∧
    read (CookRecord.render (cookTimeline.run none seen)) = some samples ∧ Scraped cook samples := by
  obtain ⟨past, cook, running, follows⟩ := timeline_follows seen
  refine ⟨past, cook, _, running, CookRecord.read_render _, ?_⟩
  generalize cookTimeline.run none seen = record at follows
  cases record with
  | none =>
    obtain rfl : cook = [] := follows
    have none' : ∀ seen, ¬ FirstAt [] seen := by
      rintro seen ⟨before, after, split, _⟩
      cases before <;> cases split
    refine ⟨fun _ => rfl, ?_, ?_, List.Pairwise.nil⟩
    · intro last isLast
      cases isLast
    · intro labels value
      exact iff_of_false List.not_mem_nil fun ⟨u, first, _⟩ => none' u first
  | some record =>
    obtain ⟨cooks, of⟩ := follows
    exact ⟨fun none' => absurd none' cooks, fun last isLast => of.filter_samples isLast, of.mem_starts,
      CookRecord.samples_once of.ordered⟩

end AnovaOven
