import AnovaOven.Laws.History
import AnovaOven.Laws.Journal
import AnovaOven.Lib.Occurrences

/-!
# Crashes while a cook ends

A cook ends by an append to the history, a removal of the journal, and the write of the next cook's
journal where there is one (`fileOps_of_leaves`). The process may die after any of these calls, or
part-way through the append (`LocalStore.crashed`), and the reports after a restart finish what the
journal still names.

**Exact condition** (`ended_cook_recovers_iff`): the cook's entry is in the history once, and the
others with it, where as many of the cook's lines can be read as one. The reports add a line each time
they leave the cook (`own_endings`): it may be reported again, whether its journal is still there or
not. An append without the removal is done again (`append_repeats`), and a torn one takes the next
line with it (`entriesOf_survivors`).
-/

namespace AnovaOven

open Machine JsonText LineFile LocalStore

variable {read : Bytes → Option HistoryEntry} {store : LocalStore} {active : ActiveCook}
  {lastSeenAt : String} {op : StoreOp} {now : Moment}

/-! ## Intact histories -/

/-- A history of whole lines of text. -/
structure Intact (store : LocalStore) : Prop where
  ended : Ended store.disk.history
  text : IsText store.disk.history

theorem ended_lines (entries : List HistoryEntry) : Ended (entries.flatMap historyLine) := by
  induction entries with
  | nil => exact .inl rfl
  | cons entry entries ih => exact (ended_historyLine entry).append ih

/-- Every operation leaves the history intact. -/
theorem Intact.perform (h : Intact store) (op : StoreOp) : Intact (store.perform op) where
  ended := by
    rw [perform_history]
    exact h.ended.append (ended_lines _)
  text := by
    rw [perform_history]
    exact h.text.append (IsText.flatMap isText_historyLine _)

/-- Every run leaves the history intact. -/
theorem Intact.run (h : Intact store) (ops : List StoreOp) : Intact (storeOps.run store ops) :=
  run_keeps (m := storeOps) (fun _ op _ h => Intact.perform h op) h

/-! ## The calls that end a cook -/

/-- A cook that has ended is appended and removed, and then the next cook's journal is written, where
there is one. -/
theorem fileOps_of_leaves (journal : store.disk.active = some active)
    (seen : active.lastSeenAt = some lastSeenAt) (leaves : op.Leaves active.cookId now) :
    ∃ rewrite, store.fileOps op =
        .appendHistory (store.endedEntry active lastSeenAt now) :: .removeActive :: rewrite ∧
      (rewrite = [] ∨ ∃ next : ActiveCook, next.cookId ≠ active.cookId ∧
        rewrite = writeActiveCook next) := by
  have finish : (store.finish active now).1 =
      [.appendHistory (store.endedEntry active lastSeenAt now), .removeActive] := by
    simp [finish_eq, lineOf, seen]
  have reconciles : ∀ ovenCook : Option OvenCook,
      ovenCook.map (·.cookId) ≠ some active.cookId →
      ∃ rewrite, (store.reconcile ovenCook now).1 =
          .appendHistory (store.endedEntry active lastSeenAt now) :: .removeActive :: rewrite ∧
        (rewrite = [] ∨ ∃ next : ActiveCook, next.cookId ≠ active.cookId ∧
          rewrite = writeActiveCook next) := by
    intro ovenCook other
    unfold reconcile
    rw [journal]
    cases ovenCook with
    | none => exact ⟨[], finish, .inl rfl⟩
    | some cook =>
      have other : cook.cookId ≠ active.cookId := by simpa using other
      dsimp only
      rw [if_neg (Ne.symm other), finish]
      exact ⟨_, rfl, .inr ⟨manualCook cook now, other, rfl⟩⟩
  cases op with
  | journalStart cookId recipeId title stageCount extras at' =>
    obtain ⟨other, rfl⟩ := leaves
    simp only [fileOps, journalStart, journal]
    rw [if_pos (Ne.symm other), finish]
    exact ⟨_, rfl, .inr ⟨_, other, rfl⟩⟩
  | ovenReported ovenCook at' =>
    obtain ⟨other, rfl⟩ := leaves
    exact reconciles ovenCook other
  | currentCook ovenCook at' =>
    cases ovenCook with
    | none => cases leaves
    | some cook =>
      obtain ⟨other, rfl⟩ := leaves
      have notJournalled : ¬ store.journals cook.cookId = true := by
        simp [journals, journal, Ne.symm other]
      simp only [fileOps]
      rw [if_neg notJournalled]
      exact reconciles (some cook) (by simpa using other)
  | linkCook => cases leaves
  | restart => cases leaves

/-- How many bytes of the entry's line were written by the crash. -/
def written (entry : HistoryEntry) (done bytes : Nat) : Nat :=
  if done = 0 then bytes else (historyLine entry).length

/-- What a crash leaves before the journal is removed: some of the entry's line, and the journal. -/
theorem crashed_before (journal : store.disk.active = some active)
    (seen : active.lastSeenAt = some lastSeenAt) (leaves : op.Leaves active.cookId now)
    {done : Nat} (early : done < 2) (bytes : Nat) :
    (store.crashed op done bytes).disk =
        { store.disk with
          history := store.disk.history ++
            (historyLine (store.endedEntry active lastSeenAt now)).take
              (written (store.endedEntry active lastSeenAt now) done bytes) } := by
  obtain ⟨rewrite, calls, _⟩ := fileOps_of_leaves journal seen leaves
  unfold LocalStore.crashed Disk.crash written
  rw [calls]
  obtain rfl | rfl : done = 0 ∨ done = 1 := by omega
  · rfl
  · rw [if_neg (by decide), List.take_length]
    rfl

/-- What a crash leaves after the removal: the entry's line, and no journal of its cook. -/
theorem crashed_after (journal : store.disk.active = some active)
    (seen : active.lastSeenAt = some lastSeenAt) (leaves : op.Leaves active.cookId now)
    {done : Nat} (late : 2 ≤ done) (bytes : Nat) :
    (store.crashed op done bytes).disk.history =
        store.disk.history ++ historyLine (store.endedEntry active lastSeenAt now) ∧
      (store.crashed op done bytes).disk.active.map (·.cookId) ≠ some active.cookId := by
  obtain ⟨rewrite, calls, next⟩ := fileOps_of_leaves journal seen leaves
  unfold LocalStore.crashed Disk.crash
  rw [calls]
  obtain ⟨more, rfl⟩ := Nat.exists_eq_add_of_le' late
  rcases next with rfl | ⟨next, other, rfl⟩
  · exact ⟨by simp [FileOp.run], by simp [FileOp.run]⟩
  · rcases more with _ | _ | more
    · constructor
      · simp [FileOp.run, FileOp.tear, writeActiveCook]
        split <;> rfl
      · simp [FileOp.run, FileOp.tear, writeActiveCook]
        split <;> simp
    · exact ⟨by simp [FileOp.run, FileOp.tear, writeActiveCook],
        by simp [FileOp.run, FileOp.tear, writeActiveCook]⟩
    · exact ⟨by simp [FileOp.run, writeActiveCook], by simp [FileOp.run, writeActiveCook, other]⟩

/-! ## The reports that follow -/

/-- The operations of reports, each at its moment. -/
def reportOps (reports : List (Option OvenCook × Moment)) : List StoreOp :=
  reports.map fun report => .ovenReported report.1 report.2

/-- A report is of a cook. -/
def isOf (cookId : String) (report : Option OvenCook × Moment) : Bool :=
  report.1.any fun cook => cook.cookId = cookId

/-- How often reports leave a cook: how many of them are not of it, and come after one that is, or
first where the journal is of it. -/
def leavings (cookId : String) (journalled : Bool) : List (Option OvenCook × Moment) → Nat
  | [] => 0
  | report :: reports =>
    (if journalled && !isOf cookId report then 1 else 0) + leavings cookId (isOf cookId report) reports

/-- A stage count the cook has: its journal's, or that of a report of it. -/
def CountOf (active : ActiveCook) (reports : List (Option OvenCook × Moment)) (count : Nat) : Prop :=
  count = active.cookStageCount ∨
    ∃ report ∈ reports, ∃ cook, report.1 = some cook ∧ cook.cookId = active.cookId ∧
      count = cookStageCount cook.stages

/-- An entry of the cook: under its title, with a stage count of it. -/
structure EntryOf (active : ActiveCook) (reports : List (Option OvenCook × Moment))
    (entry : HistoryEntry) : Prop where
  title : entry.recipeTitle = active.recipeTitle
  count : CountOf active reports entry.stageCount

/-- Whether a line is a cook's. -/
def own (cookId : String) (line : String × HistoryEntry) : Bool := line.1 = cookId

section Reports

variable {cookId : String} {report : Option OvenCook × Moment}
  {reports : List (Option OvenCook × Moment)}

theorem isOf_eq_false : isOf cookId report = false ↔ report.1.map (·.cookId) ≠ some cookId := by
  unfold isOf
  cases report.1 <;> simp

theorem isOf_eq_true : isOf cookId report = true ↔ ∃ cook, report.1 = some cook ∧ cook.cookId = cookId := by
  unfold isOf
  cases report.1 <;> simp

/-- The journal's cook, where the oven has reported it. -/
theorem openCook_eq_some : store.openCook = some ⟨cookId, true⟩ ↔
    ∃ active lastSeenAt, store.disk.active = some active ∧ active.cookId = cookId ∧
      active.lastSeenAt = some lastSeenAt := by
  unfold openCook
  cases store.disk.active with
  | none => simp
  | some active => simp [Option.isSome_iff_exists]

/-- A report of the journal's cook keeps its journal. -/
theorem seen_again {cook : OvenCook} (journal : store.disk.active = some active)
    (eq : report.1 = some cook) (same : cook.cookId = active.cookId) :
    (store.perform (.ovenReported report.1 report.2)).disk.active = some (active.seen cook report.2) := by
  show (store.disk.carryOut (store.reconcile report.1 report.2).1).active = _
  rw [reconcile_active, eq, Option.map_some, LocalStore.journalled, journal]
  simp [same]

/-- A report of the journal's cook ends none. -/
theorem ended_same (journal : store.disk.active = some active) (of : isOf active.cookId report = true) :
    store.ended (.ovenReported report.1 report.2) = [] := by
  obtain ⟨cook, eq, same⟩ := isOf_eq_true.mp of
  have none : store.lineBy (.ovenReported report.1 report.2) = none := by
    simp [lineBy, keeping, line, journal, eq, same]
  rw [ended_eq, journal]
  simp [none]

/-- A report without the journal's cook ends it. -/
theorem ended_other (journal : store.disk.active = some active)
    (seen : active.lastSeenAt = some lastSeenAt) (of : isOf active.cookId report = false) :
    store.ended (.ovenReported report.1 report.2) =
      [(active.cookId, store.endedEntry active lastSeenAt report.2)] :=
  ended_of_leaves store report.2 journal seen ⟨isOf_eq_false.mp of, rfl⟩

/-- A line is of the journal's cook. -/
theorem ended_journal {op : StoreOp} {line : String × HistoryEntry} (item : line ∈ store.ended op) :
    ∃ active, store.disk.active = some active ∧ line.1 = active.cookId ∧
      line.2.recipeTitle = active.recipeTitle ∧ line.2.stageCount = active.cookStageCount := by
  rw [ended_eq] at item
  cases journal : store.disk.active with
  | none => simp [journal] at item
  | some active =>
    rw [journal] at item
    obtain ⟨entry, made, rfl⟩ := List.mem_map.mp item
    refine ⟨active, rfl, rfl, ?_⟩
    have made := Option.mem_toList.mp made
    obtain ⟨⟨now, kept⟩, _, made⟩ := Option.bind_eq_some_iff.mp made
    unfold LocalStore.line at made
    rw [journal] at made
    dsimp only at made
    split at made
    · cases made
    · obtain ⟨_, _, rfl⟩ := Option.map_eq_some_iff.mp made
      exact ⟨rfl, rfl⟩

/-- The journal's cook, as far as one is concerned: it is, and was reported, or it is not. -/
def OnCook (store : LocalStore) (cookId : String) (journalled : Bool) : Prop :=
  store.openCook = some ⟨cookId, true⟩ ∧ journalled = true ∨
    store.disk.active.map (·.cookId) ≠ some cookId ∧ journalled = false

/-- After a report the journal is of its cook. -/
theorem reported_onCook (store : LocalStore) (cookId : String) (report : Option OvenCook × Moment) :
    OnCook (store.perform (.ovenReported report.1 report.2)) cookId (isOf cookId report) := by
  cases of : isOf cookId report with
  | true =>
    obtain ⟨cook, eq, rfl⟩ := isOf_eq_true.mp of
    refine .inl ⟨(openCook_reconcile report.1).trans ?_, rfl⟩
    rw [eq]
    rfl
  | false => exact .inr ⟨reported_away (isOf_eq_false.mp of), rfl⟩

/-- A report appends the cook's line where it leaves it. -/
theorem own_ended {journalled : Bool} (journal : OnCook store cookId journalled) :
    ((store.ended (.ovenReported report.1 report.2)).filter (own cookId)).length =
      if journalled && !isOf cookId report then 1 else 0 := by
  rcases journal with ⟨open', rfl⟩ | ⟨away, rfl⟩
  · obtain ⟨active, lastSeenAt, journal, rfl, seen⟩ := openCook_eq_some.mp open'
    cases of : isOf active.cookId report with
    | true => rw [ended_same journal of]; rfl
    | false => rw [ended_other journal seen of]; simp [own]
  · refine List.length_eq_zero_iff.mpr (List.filter_eq_nil_iff.mpr fun line item same => away ?_)
    obtain ⟨active, journal, is, _⟩ := ended_journal item
    rw [journal, Option.map_some, ← is, of_decide_eq_true same]

/-- **The cook's lines** are as many as the reports leave it. -/
theorem own_endings {journalled : Bool} (journal : OnCook store cookId journalled) :
    ((endings store (reportOps reports)).filter (own cookId)).length =
      leavings cookId journalled reports := by
  induction reports generalizing store journalled with
  | nil => rfl
  | cons report reports ih =>
    show ((endings store (.ovenReported report.1 report.2 :: reportOps reports)).filter _).length = _
    rw [endings_cons, List.filter_append, List.length_append, own_ended journal,
      ih (reported_onCook store cookId report)]
    rfl

/-- The journal a report leaves of a cook: under the title it had, or as a cook the server did not start,
with the stages of the report. -/
theorem reported_active (journal : (store.perform (.ovenReported report.1 report.2)).disk.active = some active) :
    ∃ cook, report.1 = some cook ∧ cook.cookId = active.cookId ∧
      active.cookStageCount = cookStageCount cook.stages ∧
      (active.recipeTitle = manualTitle ∨
        ∃ before, store.disk.active = some before ∧ before.cookId = active.cookId ∧
          active.recipeTitle = before.recipeTitle) := by
  have made : (store.disk.carryOut (store.reconcile report.1 report.2).1).active = some active := journal
  rw [reconcile_active] at made
  obtain ⟨cook, eq, rfl⟩ := Option.map_eq_some_iff.mp made
  refine ⟨cook, eq, (journalled_cookId cook).symm, ?_⟩
  unfold LocalStore.journalled
  split
  · exact ⟨rfl, .inl rfl⟩
  · rename_i before journal
    split
    · exact ⟨rfl, .inr ⟨before, journal, rfl, rfl⟩⟩
    · exact ⟨rfl, .inl rfl⟩

/-- Where the journal is not of a cook, or it is as of one the server did not start, so are all lines of it. -/
theorem endings_manual {counts : Nat → Prop}
    (told : ∀ report ∈ reports, ∀ cook, report.1 = some cook → cook.cookId = cookId →
      counts (cookStageCount cook.stages))
    (journal : ∀ active, store.disk.active = some active → active.cookId = cookId →
      active.recipeTitle = manualTitle ∧ counts active.cookStageCount) :
    ∀ line ∈ endings store (reportOps reports), line.1 = cookId →
      line.2.recipeTitle = manualTitle ∧ counts line.2.stageCount := by
  induction reports generalizing store with
  | nil => intro line item; cases item
  | cons report reports ih =>
    intro line item is
    rcases List.mem_append.mp (endings_cons .. ▸ item) with item | item
    · obtain ⟨active, held, of, title, count⟩ := ended_journal item
      rw [title, count]
      exact journal active held (of.symm.trans is)
    · refine ih (fun report item => told report (List.mem_cons_of_mem _ item)) ?_ line item is
      intro active held of
      obtain ⟨cook, eq, same, count, title⟩ := reported_active held
      refine ⟨?_, count ▸ told report List.mem_cons_self cook eq (same.trans of)⟩
      rcases title with title | ⟨before, was, is, title⟩
      · exact title
      · exact title.trans (journal before was (is.trans of)).1

/-- **The first line** after a crash that left the journal is of its cook, under its title; the lines of it
that follow are of a cook the server did not start. -/
theorem endings_first (journal : store.disk.active = some active)
    (seen : active.lastSeenAt = some lastSeenAt) (left : leavings active.cookId true reports ≠ 0) :
    ∃ entry later, endings store (reportOps reports) = (active.cookId, entry) :: later ∧
      EntryOf active reports entry ∧
      ∀ line ∈ later, line.1 = active.cookId →
        line.2.recipeTitle = manualTitle ∧ CountOf active reports line.2.stageCount := by
  induction reports generalizing store active lastSeenAt with
  | nil => exact absurd rfl left
  | cons report reports ih =>
    show ∃ entry later, endings store (.ovenReported report.1 report.2 :: reportOps reports) = _ ∧ _
    rw [endings_cons]
    cases of : isOf active.cookId report with
    | true =>
      obtain ⟨cook, eq, same⟩ := isOf_eq_true.mp of
      have left' : leavings active.cookId true reports ≠ 0 := by simpa [leavings, of] using left
      obtain ⟨entry, later, lines, entryOf, manual⟩ := ih (seen_again journal eq same) rfl left'
      -- the journal's count is now the report's
      have counted (count : Nat) (h : CountOf (active.seen cook report.2) reports count) :
          CountOf active (report :: reports) count := by
        rcases h with rfl | ⟨later, item, rest⟩
        · exact .inr ⟨report, List.mem_cons_self, cook, eq, same, rfl⟩
        · exact .inr ⟨later, List.mem_cons_of_mem _ item, rest⟩
      rw [ended_same journal of]
      exact ⟨entry, later, lines, ⟨entryOf.title, counted _ entryOf.count⟩,
        fun line item is => (manual line item is).imp_right (counted _)⟩
    | false =>
      rw [ended_other journal seen of]
      refine ⟨_, _, rfl, ⟨rfl, .inl rfl⟩, endings_manual ?_ ?_⟩
      · exact fun report item cook eq is => .inr ⟨report, List.mem_cons_of_mem _ item, cook, eq, is, rfl⟩
      · intro after held is
        exact absurd (by rw [held, Option.map_some, is]) (reported_away (isOf_eq_false.mp of))

/-- While the reports are all of the journal's cook, there are no lines. -/
theorem endings_none (journal : store.disk.active = some active)
    (stays : leavings active.cookId true reports = 0) : endings store (reportOps reports) = [] := by
  induction reports generalizing store active with
  | nil => rfl
  | cons report reports ih =>
    show endings store (.ovenReported report.1 report.2 :: reportOps reports) = _
    cases of : isOf active.cookId report with
    | true =>
      obtain ⟨cook, eq, same⟩ := isOf_eq_true.mp of
      have stays' : leavings active.cookId true reports = 0 := by simpa [leavings, of] using stays
      rw [endings_cons, ended_same journal of, ih (seen_again journal eq same) stays']
      rfl
    | false => simp [leavings, of] at stays

end Reports

/-! ## What is read of a torn line -/

/-- The lines that are read of a line's first bytes and the lines appended after: where the bytes stop short
of the line's end they take the next line with them. -/
def survivors (line : String × HistoryEntry) (n : Nat) (lines : List (String × HistoryEntry)) :
    List (String × HistoryEntry) :=
  if n = 0 then lines
  else if (historyText line.2).length < n then line :: lines
  else match lines with
    | [] => if n = (historyText line.2).length then [line] else []
    | _ :: later => later

/-- The part of an entry's line that was written: some of its text, or all of the line. -/
theorem take_line_cases (entry : HistoryEntry) (n : Nat) :
    (n ≤ (historyText entry).length ∧ ∃ rest,
        historyText entry = (historyLine entry).take n ++ rest ∧
          (rest = [] ↔ (historyText entry).length ≤ n)) ∨
      ((historyText entry).length < n ∧ (historyLine entry).take n = historyLine entry) := by
  by_cases within : n ≤ (historyText entry).length
  · refine .inl ⟨within, (historyText entry).drop n, ?_, List.drop_eq_nil_iff⟩
    unfold historyLine
    rw [List.take_append_of_le_length within, List.take_append_drop]
  · refine .inr ⟨by omega, List.take_of_length_le ?_⟩
    simp only [historyLine, List.length_append, List.length_singleton]
    omega

/-- **A torn line** is read as its survivors. -/
theorem entriesOf_survivors (back : ReadsEntriesBack read) (balanced : ReadsBalanced read)
    (line : String × HistoryEntry) (n : Nat) (lines : List (String × HistoryEntry)) :
    entriesOf read ((historyLine line.2).take n ++ (lines.map Prod.snd).flatMap historyLine) =
      (survivors line n lines).map Prod.snd := by
  unfold survivors
  by_cases nothing : n = 0
  · rw [if_pos nothing, nothing, List.take_zero, List.nil_append, entriesOf_lines back]
  rw [if_neg nothing]
  rcases take_line_cases line.2 n with ⟨within, rest, split, whole⟩ | ⟨past, all⟩
  · rw [if_neg (Nat.not_lt.mpr within)]
    have some' : (historyLine line.2).take n ≠ [] := by simp [nothing, historyLine]
    cases lines with
    | nil =>
      rw [List.map_nil, List.flatMap_nil, List.append_nil]
      by_cases long : (historyText line.2).length ≤ n
      · obtain rfl := whole.mpr long
        rw [List.append_nil] at split
        rw [← split, entriesOf_text back]
        simp [Nat.le_antisymm within long]
      · rw [entriesOf_torn balanced split fun nil => long (whole.mp nil),
          if_neg fun same => long same.ge]
        rfl
    | cons next later =>
      rw [List.map_cons, List.flatMap_cons, entriesOf_joined balanced split some', entriesOf_lines back]
  · rw [if_pos past, all, entriesOf_append (ended_historyLine _), entriesOf_line back,
      entriesOf_lines back]
    rfl

/-! ## Recovery -/

/-- The entries of the cooks but one, of the lines a run appends. -/
def others (cookId : String) (lines : List (String × HistoryEntry)) : List HistoryEntry :=
  (lines.filter (!own cookId ·)).map Prod.snd

/-- A line that is lost is the cook's own, so the others are all there. -/
theorem others_survivors {cookId : String} {entry : HistoryEntry} {n : Nat}
    {lines : List (String × HistoryEntry)}
    (first : n ≠ 0 → n ≤ (historyText entry).length → ∀ line ∈ lines.head?, line.1 = cookId) :
    others cookId (survivors (cookId, entry) n lines) = others cookId lines := by
  have drops (line : String × HistoryEntry) (is : line.1 = cookId) (later : List (String × HistoryEntry)) :
      others cookId (line :: later) = others cookId later := by
    simp [others, own, is]
  unfold survivors
  split
  · rfl
  · rename_i some'
    split
    · exact drops _ rfl lines
    · rename_i within
      have first := first some' (Nat.le_of_not_lt within)
      split
      · split
        · exact drops _ rfl []
        · rfl
      · exact (drops _ (first _ rfl) _).symm

/-- What a crash while a cook ends owes the history, after a restart and reports: the entries it had, and
those of the cooks that ended since, with one entry of the cook among them. -/
def Recovers (read : Bytes → Option HistoryEntry) (store : LocalStore) (active : ActiveCook)
    (op : StoreOp) (done bytes : Nat) (reports : List (Option OvenCook × Moment)) : Prop :=
  let restarted := store.crashed op done bytes
  let recovered := storeOps.run restarted (reportOps reports)
  ∃ entry before after, EntryOf active reports entry ∧
    before ++ after = others active.cookId (endings restarted (reportOps reports)) ∧
    recovered.entries read = .ok (entriesOf read store.disk.history ++ (before ++ entry :: after)) ∧
    recovered.history read =
      .ok ((entriesOf read store.disk.history ++ (before ++ entry :: after)).reverse.take historyLimit)

/-- The crashes a cook's end recovers from, by how often the reports leave the cook from the restart on:
never, and its whole entry was written, if maybe not its newline; or once, and nothing of it was. Or its
line was torn between two characters, and as the cook was one the server did not start, the line of its
second leaving stands for the one of the first, which is lost. -/
def Recoverable (active : ActiveCook) (entry : HistoryEntry) (done bytes : Nat)
    (reports : List (Option OvenCook × Moment)) : Prop :=
  let left := leavings active.cookId (done < 2) reports
  let n := written entry done bytes
  (left = 0 ∧ (historyText entry).length ≤ n) ∨ (left = 1 ∧ n = 0) ∨
    (left = 2 ∧ n ≠ 0 ∧ n ≤ (historyText entry).length ∧ IsText ((historyLine entry).take n) ∧
      active.recipeTitle = manualTitle)

/-- The entries of a file, where it is text. -/
theorem entries_eq_ok {entries : List HistoryEntry} :
    store.entries read = .ok entries ↔
      IsText store.disk.history ∧ entriesOf read store.disk.history = entries := by
  unfold LocalStore.entries
  cases decoded : decode store.disk.history with
  | none =>
    refine iff_of_false (fun h => by cases h) fun ⟨text, _⟩ => ?_
    obtain ⟨s, decodes⟩ := text.decodes
    rw [decodes] at decoded
    cases decoded
  | some s =>
    have text : IsText store.disk.history := ⟨s, utf8_of_decode decoded⟩
    simp [text]

/-- Lines after an intact history add their entries to it. -/
theorem Intact.entries_lines (h : Intact store) (back : ReadsEntriesBack read) {later : LocalStore}
    {entries : List HistoryEntry}
    (history : later.disk.history = store.disk.history ++ entries.flatMap historyLine) :
    later.entries read = .ok (entriesOf read store.disk.history ++ entries) := by
  refine entries_eq_ok.mpr ⟨?_, ?_⟩
  · rw [history]
    exact h.text.append (IsText.flatMap isText_historyLine _)
  · rw [history, entriesOf_append h.ended, entriesOf_lines back]

/-- A cook that ends: the oven has reported it and an intact store journals it, and an operation finds it
gone at a moment. -/
structure EndingCook (store : LocalStore) (active : ActiveCook) (lastSeenAt : String) (op : StoreOp)
    (now : Moment) : Prop where
  intact : Intact store
  journal : store.disk.active = some active
  seen : active.lastSeenAt = some lastSeenAt
  gone : op.Leaves active.cookId now

namespace EndingCook

variable {done bytes : Nat} {reports : List (Option OvenCook × Moment)}

/-- The file ends in what was written of the entry's line. -/
theorem history_crashed (h : EndingCook store active lastSeenAt op now) :
    (store.crashed op done bytes).disk.history = store.disk.history ++
      (historyLine (store.endedEntry active lastSeenAt now)).take
        (written (store.endedEntry active lastSeenAt now) done bytes) := by
  by_cases early : done < 2
  · rw [crashed_before h.journal h.seen h.gone early bytes]
  · rw [(crashed_after h.journal h.seen h.gone (Nat.le_of_not_lt early) bytes).1]
    unfold written
    rw [if_neg (by omega), List.take_length]

/-- Before the removal the journal is still there. -/
theorem journal_crashed (h : EndingCook store active lastSeenAt op now) (early : done < 2) :
    (store.crashed op done bytes).disk.active = some active := by
  rw [crashed_before h.journal h.seen h.gone early bytes]
  exact h.journal

/-- The journal is of the cook just before the removal. -/
theorem onCook_crashed (h : EndingCook store active lastSeenAt op now) :
    OnCook (store.crashed op done bytes) active.cookId (done < 2) := by
  by_cases early : done < 2
  · exact .inl ⟨openCook_eq_some.mpr ⟨active, lastSeenAt, h.journal_crashed early, rfl, h.seen⟩,
      decide_eq_true early⟩
  · exact .inr ⟨(crashed_after h.journal h.seen h.gone (Nat.le_of_not_lt early) bytes).2,
      decide_eq_false early⟩

/-- The cook's lines after the restart are the times the reports leave it. -/
theorem length_own_endings (h : EndingCook store active lastSeenAt op now) (done bytes : Nat)
    (reports : List (Option OvenCook × Moment)) :
    ((endings (store.crashed op done bytes) (reportOps reports)).filter (own active.cookId)).length =
      leavings active.cookId (done < 2) reports :=
  own_endings h.onCook_crashed

/-- The first line after the restart is the cook's where its journal was left. -/
theorem head_endings (h : EndingCook store active lastSeenAt op now) (early : done < 2) :
    ∀ line ∈ (endings (store.crashed op done bytes) (reportOps reports)).head?,
      line.1 = active.cookId := by
  have journal : (store.crashed op done bytes).disk.active = some active := h.journal_crashed early
  by_cases stays : leavings active.cookId true reports = 0
  · rw [endings_none journal stays]
    intro line item
    cases item
  · obtain ⟨entry, later, lines, _⟩ := endings_first journal h.seen stays
    rw [lines]
    intro line item
    cases item
    rfl

/-- Where less than the line was written, no call was completed. -/
theorem early_of_written {entry : HistoryEntry}
    (short : written entry done bytes ≤ (historyText entry).length) : done = 0 := by
  unfold written historyLine at short
  split at short
  · assumption
  · simp only [List.length_append, List.length_singleton] at short
    omega

/-- **Recovery is once.** The crash is recovered from where the file is text and one of the lines that are
read is the cook's. -/
theorem recovers_iff_once (h : EndingCook store active lastSeenAt op now)
    (back : ReadsEntriesBack read) (balanced : ReadsBalanced read) :
    Recovers read store active op done bytes reports ↔
      IsText (storeOps.run (store.crashed op done bytes) (reportOps reports)).disk.history ∧
        ∃ entry, EntryOf active reports entry ∧
          ((survivors (active.cookId, store.endedEntry active lastSeenAt now)
            (written (store.endedEntry active lastSeenAt now) done bytes)
            (endings (store.crashed op done bytes) (reportOps reports))).filter
              (own active.cookId)).map Prod.snd = [entry] := by
  have file := history_run (store.crashed op done bytes) (reportOps reports)
  rw [h.history_crashed, List.append_assoc] at file
  have read' : entriesOf read (storeOps.run (store.crashed op done bytes) (reportOps reports)).disk.history =
      entriesOf read store.disk.history ++
        (survivors (active.cookId, store.endedEntry active lastSeenAt now)
          (written (store.endedEntry active lastSeenAt now) done bytes)
          (endings (store.crashed op done bytes) (reportOps reports))).map Prod.snd := by
    rw [file, entriesOf_append h.intact.ended, entriesOf_survivors back balanced
      (active.cookId, store.endedEntry active lastSeenAt now)]
  have rest : others active.cookId
      (survivors (active.cookId, store.endedEntry active lastSeenAt now)
        (written (store.endedEntry active lastSeenAt now) done bytes)
        (endings (store.crashed op done bytes) (reportOps reports))) =
      others active.cookId (endings (store.crashed op done bytes) (reportOps reports)) :=
    others_survivors fun _ short => h.head_endings (by rw [early_of_written short]; decide)
  constructor
  · rintro ⟨entry, before, after, entryOf, away, entries, _⟩
    obtain ⟨text, same⟩ := entries_eq_ok.mp entries
    rw [read', List.append_cancel_left_eq] at same
    exact ⟨text, entry, entryOf, (Occurrences.once_iff _ _).mp ⟨before, after, same, away.trans rest.symm⟩⟩
  · rintro ⟨text, entry, entryOf, one⟩
    obtain ⟨before, after, same, away⟩ := (Occurrences.once_iff _ _).mpr one
    have entries := entries_eq_ok.mpr ⟨text, read'.trans (congrArg _ same)⟩
    refine ⟨entry, before, after, entryOf, away.trans rest, entries, ?_⟩
    unfold LocalStore.history
    rw [entries]
    rfl

/-- The file is text where what was written of the line is. -/
theorem isText_crashed (h : EndingCook store active lastSeenAt op now)
    (part : IsText ((historyLine (store.endedEntry active lastSeenAt now)).take
      (written (store.endedEntry active lastSeenAt now) done bytes))) :
    IsText (storeOps.run (store.crashed op done bytes) (reportOps reports)).disk.history := by
  rw [history_run, h.history_crashed]
  exact (h.intact.text.append part).append (IsText.flatMap isText_historyLine _)

/-- And where a line follows, only there. -/
theorem isText_part (h : EndingCook store active lastSeenAt op now)
    (more : endings (store.crashed op done bytes) (reportOps reports) ≠ [])
    (text : IsText (storeOps.run (store.crashed op done bytes) (reportOps reports)).disk.history) :
    IsText ((historyLine (store.endedEntry active lastSeenAt now)).take
      (written (store.endedEntry active lastSeenAt now) done bytes)) := by
  rw [history_run, h.history_crashed, List.append_assoc] at text
  obtain ⟨next, later, eq⟩ := List.exists_cons_of_ne_nil more
  rw [eq, List.map_cons, List.flatMap_cons] at text
  obtain ⟨letter, rest, opens, _⟩ := (historyText_object next.2).opens
  have text := h.intact.text.after text
  unfold historyLine at text
  rw [opens] at text
  exact IsText.before_ascii (by decide) text

end EndingCook

/-! ## The three crashes -/

section Cases

variable {done bytes : Nat} {reports : List (Option OvenCook × Moment)}

/-- The text of an entry isn't empty. -/
theorem historyText_pos (entry : HistoryEntry) : 0 < (historyText entry).length := by
  obtain ⟨letter, rest, opens, _⟩ := (historyText_object entry).opens
  rw [opens]
  exact Nat.succ_pos _

/-- Where nothing of the line was written, the reports have to leave the cook, once. -/
theorem EndingCook.recovers_unwritten (h : EndingCook store active lastSeenAt op now)
    (back : ReadsEntriesBack read) (balanced : ReadsBalanced read)
    (nothing : written (store.endedEntry active lastSeenAt now) done bytes = 0) :
    Recovers read store active op done bytes reports ↔
      leavings active.cookId (done < 2) reports = 1 := by
  have first : done = 0 := early_of_written (by rw [nothing]; exact Nat.zero_le _)
  have counted := h.length_own_endings done bytes reports
  rw [h.recovers_iff_once back balanced, nothing, ← counted]
  have lines : survivors (active.cookId, store.endedEntry active lastSeenAt now) 0
      (endings (store.crashed op done bytes) (reportOps reports)) =
        endings (store.crashed op done bytes) (reportOps reports) := rfl
  rw [lines]
  constructor
  · rintro ⟨_, entry, _, one⟩
    simpa using congrArg List.length one
  · intro one
    have leaves : leavings active.cookId true reports ≠ 0 := by
      subst first
      have one := counted.symm.trans one
      exact fun none => absurd (none.symm.trans one) (by decide)
    have journal : (store.crashed op done bytes).disk.active = some active := h.journal_crashed (by omega)
    obtain ⟨entry, later, eq, entryOf, _⟩ := endings_first journal h.seen leaves
    refine ⟨h.isText_crashed ?_, entry, entryOf, ?_⟩
    · rw [nothing]
      exact isText_utf8 ""
    · rw [eq] at one ⊢
      rw [List.filter_cons_of_pos (by simp [own])] at one ⊢
      rw [List.length_eq_zero_iff.mp (Nat.succ.inj one)]
      rfl

/-- Where the whole line was written, the reports have never to leave the cook again. -/
theorem EndingCook.recovers_written (h : EndingCook store active lastSeenAt op now)
    (back : ReadsEntriesBack read) (balanced : ReadsBalanced read)
    (all : (historyText (store.endedEntry active lastSeenAt now)).length <
      written (store.endedEntry active lastSeenAt now) done bytes) :
    Recovers read store active op done bytes reports ↔
      leavings active.cookId (done < 2) reports = 0 := by
  have counted := h.length_own_endings done bytes reports
  have lines : survivors (active.cookId, store.endedEntry active lastSeenAt now)
      (written (store.endedEntry active lastSeenAt now) done bytes)
      (endings (store.crashed op done bytes) (reportOps reports)) =
        (active.cookId, store.endedEntry active lastSeenAt now) ::
          endings (store.crashed op done bytes) (reportOps reports) := by
    unfold survivors
    rw [if_neg (by omega), if_pos all]
  rw [h.recovers_iff_once back balanced, ← counted, lines, List.filter_cons_of_pos (by simp [own])]
  constructor
  · rintro ⟨_, entry, _, one⟩
    simpa using congrArg List.length one
  · intro none
    refine ⟨h.isText_crashed ?_, store.endedEntry active lastSeenAt now, ⟨rfl, .inl rfl⟩, ?_⟩
    · rcases take_line_cases (store.endedEntry active lastSeenAt now) _ with ⟨within, _⟩ | ⟨_, whole⟩
      · exact absurd all (Nat.not_lt.mpr within)
      · rw [whole]
        exact isText_historyLine _
    · rw [List.length_eq_zero_iff.mp none]
      rfl

/-- Where some of the line was written and not its newline, the line that follows is lost with it: the
entry has to be whole and none to follow, or the line of a second leaving to stand for it. -/
theorem EndingCook.recovers_torn (h : EndingCook store active lastSeenAt op now)
    (back : ReadsEntriesBack read) (balanced : ReadsBalanced read)
    (some' : written (store.endedEntry active lastSeenAt now) done bytes ≠ 0)
    (within : written (store.endedEntry active lastSeenAt now) done bytes ≤
      (historyText (store.endedEntry active lastSeenAt now)).length) :
    Recovers read store active op done bytes reports ↔
      leavings active.cookId (done < 2) reports = 0 ∧
          written (store.endedEntry active lastSeenAt now) done bytes =
            (historyText (store.endedEntry active lastSeenAt now)).length ∨
        leavings active.cookId (done < 2) reports = 2 ∧
          IsText ((historyLine (store.endedEntry active lastSeenAt now)).take
            (written (store.endedEntry active lastSeenAt now) done bytes)) ∧
          active.recipeTitle = manualTitle := by
  obtain rfl : done = 0 := early_of_written within
  have journal : (store.crashed op 0 bytes).disk.active = some active := h.journal_crashed (by decide)
  have counted := h.length_own_endings 0 bytes reports
  rw [h.recovers_iff_once back balanced]
  by_cases stays : leavings active.cookId true reports = 0
  · have left : leavings active.cookId (decide (0 < 2)) reports = 0 := stays
    have lines : survivors (active.cookId, store.endedEntry active lastSeenAt now)
        (written (store.endedEntry active lastSeenAt now) 0 bytes)
        (endings (store.crashed op 0 bytes) (reportOps reports)) =
          if written (store.endedEntry active lastSeenAt now) 0 bytes =
            (historyText (store.endedEntry active lastSeenAt now)).length
          then [(active.cookId, store.endedEntry active lastSeenAt now)] else [] := by
      rw [endings_none journal stays]
      unfold survivors
      rw [if_neg some', if_neg (Nat.not_lt.mpr within)]
    rw [lines, left]
    by_cases whole : written (store.endedEntry active lastSeenAt now) 0 bytes =
        (historyText (store.endedEntry active lastSeenAt now)).length
    · refine iff_of_true ⟨h.isText_crashed ?_, store.endedEntry active lastSeenAt now, ⟨rfl, .inl rfl⟩, ?_⟩
        (.inl ⟨rfl, whole⟩)
      · rw [whole]
        unfold historyLine
        rw [List.take_left]
        exact isText_historyText _
      · rw [if_pos whole]
        simp [own]
    · rw [if_neg whole]
      refine iff_of_false ?_ ?_
      · rintro ⟨_, entry, _, one⟩
        cases one
      · rintro (⟨_, same⟩ | ⟨two, _⟩)
        · exact whole same
        · exact absurd two (by decide)
  · obtain ⟨entry, later, eq, _, manual⟩ := endings_first journal h.seen stays
    have lines : survivors (active.cookId, store.endedEntry active lastSeenAt now)
        (written (store.endedEntry active lastSeenAt now) 0 bytes)
        (endings (store.crashed op 0 bytes) (reportOps reports)) = later := by
      rw [eq]
      unfold survivors
      rw [if_neg some', if_neg (Nat.not_lt.mpr within)]
    rw [eq, List.filter_cons_of_pos (by simp [own]), List.length_cons] at counted
    rw [lines, ← counted]
    constructor
    · rintro ⟨text, entry, entryOf, one⟩
      obtain ⟨line, only, rfl⟩ := List.map_eq_singleton_iff.mp one
      have item : line ∈ later.filter (own active.cookId) := only ▸ List.mem_singleton_self line
      obtain ⟨item, is⟩ := List.mem_filter.mp item
      have part := h.isText_part (by rw [eq]; exact List.cons_ne_nil _ _) text
      refine .inr ⟨by rw [only]; rfl, part, ?_⟩
      exact entryOf.title.symm.trans (manual line item (of_decide_eq_true is)).1
    · rintro (⟨none, _⟩ | ⟨two, part, title⟩)
      · cases none
      · obtain ⟨line, only⟩ := List.length_eq_one_iff.mp (Nat.succ.inj two)
        have item : line ∈ later.filter (own active.cookId) := only ▸ List.mem_singleton_self line
        obtain ⟨item, is⟩ := List.mem_filter.mp item
        obtain ⟨titled, count⟩ := manual line item (of_decide_eq_true is)
        exact ⟨h.isText_crashed part, line.2, ⟨titled.trans title.symm, count⟩, by rw [only]; rfl⟩

end Cases

/-- **A crash while a cook ends** leaves a history that, after a restart and any reports, has the cook
once and every other entry, exactly where its whole entry was written and the reports never leave it
again; or nothing of it was, and they leave it once; or, for a cook the server did not start, it was
torn between two characters, and they leave it twice. -/
theorem ended_cook_recovers_iff (read : Bytes → Option HistoryEntry)
    (back : ReadsEntriesBack read) (balanced : ReadsBalanced read) (store : LocalStore)
    (active : ActiveCook) (lastSeenAt : String) (op : StoreOp) (now : Moment)
    (ends : EndingCook store active lastSeenAt op now) (done bytes : Nat)
    (reports : List (Option OvenCook × Moment)) :
    Recovers read store active op done bytes reports ↔
      Recoverable active (store.endedEntry active lastSeenAt now) done bytes reports := by
  have some' := historyText_pos (store.endedEntry active lastSeenAt now)
  unfold Recoverable
  dsimp only
  by_cases nothing : written (store.endedEntry active lastSeenAt now) done bytes = 0
  · rw [ends.recovers_unwritten back balanced nothing, nothing]
    simp only [Nat.le_zero, some'.ne', and_false, false_or, and_true, ne_eq, not_true_eq_false, false_and,
      or_false]
  by_cases within : written (store.endedEntry active lastSeenAt now) done bytes ≤
      (historyText (store.endedEntry active lastSeenAt now)).length
  · rw [ends.recovers_torn back balanced nothing within]
    simp only [nothing, and_false, false_or, ne_eq, not_false_eq_true, within, true_and,
      Nat.le_antisymm_iff]
  · rw [ends.recovers_written back balanced (Nat.lt_of_not_le within)]
    simp only [nothing, within, and_false, false_and, or_false, (Nat.lt_of_not_le within).le, and_true]

/-! ## A kitchen's crash -/

namespace Kitchen

/-- A roast in the journal, seen. -/
def roastActive : ActiveCook where
  cookId := "roast"
  recipeId := none
  recipeTitle := "Roast"
  startedAt := "2023-11-14T22:13:20Z"
  cookStageCount := 1
  lastSeenAt := some "2023-11-14T22:13:25Z"
  extras := .empty

/-- A store that journals the roast, with a loaf in its history. -/
def roastStore : LocalStore :=
  ⟨"data", ⟨[], some roastActive, .absent, historyLine ⟨"Loaf", "2023-11-14T20:00:00Z", 2⟩⟩, some "roast"⟩

/-- A report of a cook without stages. -/
def reportAt (cookId : String) (at' : String) : Option OvenCook × Moment :=
  (some ⟨cookId, [], [], 60⟩, moment at')

/-- The report that ends the roast. -/
def endsRoast : StoreOp := .ovenReported none (moment "2023-11-14T22:13:30Z")

/-- After the restart the roast is reported again and ends, and then a tart is. -/
def roastAgain : List (Option OvenCook × Moment) :=
  [reportAt "roast" "2023-11-14T22:13:35Z", (none, moment "2023-11-14T22:13:40Z"),
    reportAt "tart" "2023-11-14T22:20:00Z", (none, moment "2023-11-14T23:00:00Z")]

theorem roast_ends : EndingCook roastStore roastActive "2023-11-14T22:13:25Z" endsRoast
    (moment "2023-11-14T22:13:30Z") where
  intact := ⟨ended_historyLine _, isText_historyLine _⟩
  journal := rfl
  seen := rfl
  gone := ⟨by simp, rfl⟩

end Kitchen

/-- A crash before the first byte of the roast's line is recovered from, the roast reported again. -/
theorem ended_cook_recovers_roast :
    Recovers readEntry Kitchen.roastStore Kitchen.roastActive Kitchen.endsRoast 0 0
      Kitchen.roastAgain :=
  (ended_cook_recovers_iff readEntry readEntry_back readEntry_balanced Kitchen.roastStore
    Kitchen.roastActive "2023-11-14T22:13:25Z" Kitchen.endsRoast
    (Kitchen.moment "2023-11-14T22:13:30Z") Kitchen.roast_ends 0 0 Kitchen.roastAgain).mpr
    (.inr (.inl ⟨rfl, rfl⟩))

/-- A crash between the append and the removal leaves the journal, and the next report appends the
roast again. -/
theorem append_repeats :
    ¬ ∀ read : Bytes → Option HistoryEntry, ReadsEntriesBack read → ReadsBalanced read →
      ∀ (store : LocalStore) (active : ActiveCook) (lastSeenAt : String) (op : StoreOp)
        (now : Moment), EndingCook store active lastSeenAt op now →
          ∀ done bytes reports, Recovers read store active op done bytes reports := by
  intro always
  have recovers := always readEntry readEntry_back readEntry_balanced Kitchen.roastStore
    Kitchen.roastActive _ Kitchen.endsRoast _ Kitchen.roast_ends 1 0
    [(none, Kitchen.moment "2023-11-14T22:13:35Z")]
  have left := (Kitchen.roast_ends.recovers_written readEntry_back readEntry_balanced
    (by simp [written, historyLine])).mp recovers
  exact absurd left (by decide)

end AnovaOven
