import AnovaOven.Journal
import AnovaOven.Laws.LocalStore
import AnovaOven.Laws.Normalize
import Mathlib.Data.List.Induction

/-!
# Laws of the cook journal

**One line per cook.** Where no start comes between two reports of a cook, every run of the store's
operations and restarts appends at most one history line for each cook, and exactly one for each
that the oven has reported and no longer reports (`one_line_per_cook`). A start the oven refuses while
another cook runs breaks it (`refused_start_doubles`).

The law is the journal's (`Journal.one_line`): `Journal.Kept` says which cook is open and how many
lines each cook has by what was last shown. The store's runs are the journal's
(`storeOps_simulates`), and its lines are what its history file has gained (`history_run`).
-/

namespace AnovaOven

open Machine

namespace Journal

/-! ## The journal -/

theorem lastShown_append (a b : List JournalNote) :
    lastShown (a ++ b) = b.foldl noteShown (lastShown a) := List.foldl_append

theorem lastReport_append (a b : List JournalNote) :
    lastReport (a ++ b) = b.foldl noteReported (lastReport a) := List.foldl_append

/-- Lines show nothing. -/
theorem closed_shows (current : Option OpenCook) (kept : Option String)
    (last : Option JournalNote) : (closed current kept).foldl noteShown last = last := by
  unfold closed
  split
  · rfl
  · split <;> rfl

/-- A trace that last showed a report last reported it. -/
theorem lastReport_of_lastShown {trace : List JournalNote} {cookId : Option String}
    (shown : lastShown trace = some (.reported cookId)) : lastReport trace = some cookId := by
  induction trace using List.reverseRecOn with
  | nil => cases shown
  | append_singleton trace note ih =>
    rw [lastShown_append] at shown
    rw [lastReport_append]
    cases note with
    | started id => cases shown
    | reported id =>
      cases shown
      rfl
    | line id => exact ih shown

/-- The cook that is open after the last start or report. -/
def openAfter : Option JournalNote → Option OpenCook
  | some (.started cookId) => some ⟨cookId, false⟩
  | some (.reported cookId) => cookId.map fun id => ⟨id, true⟩
  | _ => none

/-- What a run of the journal keeps: what was last shown says which cook is open, and a cook has its
line once it was reported, unless the last thing shown is its report. -/
structure Kept (current : Option OpenCook) (trace : List JournalNote) : Prop where
  opened : current = openAfter (lastShown trace)
  lines : ∀ cookId, linesOf cookId trace =
    if .reported (some cookId) ∈ trace ∧ lastShown trace ≠ some (.reported (some cookId)) then 1
    else 0

/-- What a step may do: a start is of a cook not reported before, and a report of one that was
follows a report of it. -/
def Admits (trace : List JournalNote) : JournalOp → Prop
  | .start cookId => .reported (some cookId) ∉ trace
  | .report (some cookId) =>
    .reported (some cookId) ∈ trace → lastShown trace = some (.reported (some cookId))
  | _ => True

/-- A cook gets a line where it gives way after its report. -/
theorem linesOf_closed {current : Option OpenCook} {trace : List JournalNote}
    (opened : current = openAfter (lastShown trace)) (kept : Option String) (cookId : String) :
    linesOf cookId (closed current kept) =
      if lastShown trace = some (.reported (some cookId)) ∧ kept ≠ some cookId then 1 else 0 := by
  subst opened
  unfold closed linesOf
  rcases lastShown trace with _ | (id | (_ | id) | id)
  · simp [openAfter]
  · simp [openAfter]
  · simp [openAfter]
  · simp only [openAfter, Option.map_some, and_true, Option.some.injEq, JournalNote.reported.injEq]
    by_cases same : id = cookId
    · subst same
      split <;> simp_all
    · split <;> simp [same]
  · simp [openAfter]

/-- Lines report nothing. -/
theorem reported_closed (current : Option OpenCook) (kept cookId : Option String) :
    JournalNote.reported cookId ∉ closed current kept := by
  unfold closed
  split
  · simp
  · split <;> simp

/-- What was last shown is in the trace. -/
theorem mem_of_lastShown {trace : List JournalNote} {note : JournalNote}
    (shown : lastShown trace = some note) : note ∈ trace := by
  induction trace using List.reverseRecOn with
  | nil => cases shown
  | append_singleton trace last ih =>
    rw [lastShown_append] at shown
    cases last with
    | line id => exact List.mem_append_left _ (ih shown)
    | _ =>
      obtain rfl := Option.some.inj shown
      exact List.mem_append_right _ List.mem_cons_self

/-- A start or a report keeps it: `kept` is the cook that doesn't give way. -/
theorem Kept.shown {current : Option OpenCook} {trace : List JournalNote}
    (h : Kept current trace) (note : JournalNote) (kept : Option String)
    (shows : ∀ last, noteShown last note = some note)
    (reports : ∀ cookId, note = .reported (some cookId) → kept = some cookId)
    (fresh : ∀ cookId, kept = some cookId → note ≠ .reported (some cookId) →
      .reported (some cookId) ∉ trace)
    (follows : ∀ cookId, note = .reported (some cookId) → .reported (some cookId) ∈ trace →
      lastShown trace = some note) :
    Kept (openAfter (some note)) (trace ++ note :: closed current kept) := by
  have shown : lastShown (trace ++ note :: closed current kept) = some note := by
    rw [lastShown_append, List.foldl_cons, shows, closed_shows]
  refine ⟨by rw [shown], ?_⟩
  intro cookId
  have lineless : linesOf cookId (trace ++ note :: closed current kept) =
      linesOf cookId trace + linesOf cookId (closed current kept) := by
    have plain : note ≠ .line cookId := by
      rintro rfl
      simpa [noteShown] using shows none
    unfold linesOf
    rw [List.count_append, List.count_cons_of_ne plain]
  rw [lineless, h.lines, linesOf_closed h.opened, shown]
  simp only [List.mem_append, List.mem_cons, reported_closed, or_false, ne_eq, Option.some.injEq]
  by_cases own : note = .reported (some cookId)
  · -- its own report: it has no line, and doesn't give way
    have held : ¬ (.reported (some cookId) ∈ trace ∧
        ¬ lastShown trace = some (.reported (some cookId))) := fun ⟨seen, last⟩ =>
      last (own ▸ follows cookId own seen)
    rw [if_neg held, if_neg (fun gives => gives.2 (reports cookId own)), if_neg (fun r => r.2 own)]
  · by_cases last : lastShown trace = some (.reported (some cookId))
    · -- it gives way now
      have seen := mem_of_lastShown last
      have gives : kept ≠ some cookId := fun same => fresh cookId same own seen
      rw [if_neg (fun held => held.2 last), if_pos ⟨last, gives⟩, if_pos ⟨.inl seen, own⟩]
    · rw [if_neg (c := _ ∧ _ ≠ _) (fun gives => last gives.1)]
      simp only [last, own, not_false_iff, and_true, Ne.symm own, or_false, Nat.add_zero]

/-- One step keeps it. -/
theorem Kept.next {current : Option OpenCook} {trace : List JournalNote} {op : JournalOp}
    (h : Kept current trace) (admits : Admits trace op) :
    Kept (machine.next current op) (trace ++ machine.effects current op) := by
  cases op with
  | quiet => simpa [machine, Machine.next, Machine.effects, step] using h
  | start cookId =>
    refine h.shown (.started cookId) (some cookId) (fun _ => rfl) (by simp)
      (fun id same _ => ?_) (by simp)
    cases same
    exact admits
  | report cookId =>
    refine h.shown (.reported cookId) cookId (fun _ => rfl) (by simp)
      (fun id same other => ?_) (fun id same seen => ?_)
    · exact absurd (congrArg _ same) other
    · obtain rfl := JournalNote.reported.inj same
      exact admits seen

/-- What a trace may look like, read as what its step may do. -/
theorem admits_of_along {current : Option OpenCook} {past : List JournalNote} {op : JournalOp}
    (contiguous : Along ContinuesBlock past (machine.effects current op))
    (fresh : Along StartsFresh past (machine.effects current op))
    (unsplit : Along Unsplit past (machine.effects current op)) : Admits past op := by
  cases op with
  | quiet => trivial
  | start cookId => exact fresh.1
  | report cookId =>
    cases cookId with
    | none => trivial
    | some id =>
      intro seen
      rw [show lastShown past = (lastReport past).map .reported from unsplit.1 seen,
        show lastReport past = some (some id) from contiguous.1 seen]
      rfl

/-- A run keeps it. -/
theorem Kept.run {current : Option OpenCook} {past : List JournalNote} (h : Kept current past)
    {ops : List JournalOp} (contiguous : Along ContinuesBlock past (machine.trace current ops))
    (fresh : Along StartsFresh past (machine.trace current ops))
    (unsplit : Along Unsplit past (machine.trace current ops)) :
    Kept (machine.run current ops) (past ++ machine.trace current ops) := by
  induction ops generalizing current past with
  | nil => simpa using h
  | cons op ops ih =>
    rw [trace_cons, along_append] at contiguous fresh unsplit
    rw [run_cons, trace_cons, ← List.append_assoc]
    exact ih (h.next (admits_of_along contiguous.1 fresh.1 unsplit.1)) contiguous.2 fresh.2
      unsplit.2

/-- **One line per cook**, in every run of the journal from none open. -/
theorem one_line {ops : List JournalOp} (contiguous : Contiguous (machine.trace none ops))
    (fresh : FreshStarts (machine.trace none ops))
    (unsplit : UnsplitBlocks (machine.trace none ops)) :
    OneLinePerCook (machine.trace none ops) := by
  have start : Kept none [] := ⟨rfl, fun cookId => by simp [linesOf]⟩
  have kept := start.run contiguous fresh unsplit
  rw [List.nil_append] at kept
  intro cookId
  rw [kept.lines cookId]
  refine ⟨by split <;> decide, fun seen left => if_pos ⟨seen, fun shown => left ?_⟩⟩
  exact lastReport_of_lastShown shown

end Journal

/-! ## The store's journal -/

/-- What a step of the store says, with the entry of each line. -/
inductive StoreNote where
  | started (cookId : String)
  | reported (cookId : Option String)
  | line (cookId : String) (entry : HistoryEntry)
  deriving Repr, DecidableEq

namespace StoreNote

/-- A note without its entry. -/
def toJournal : StoreNote → JournalNote
  | started cookId => .started cookId
  | reported cookId => .reported cookId
  | line cookId _ => .line cookId

/-- The line a note is of: its cook, and its entry. -/
def ending : StoreNote → Option (String × HistoryEntry)
  | line cookId entry => some (cookId, entry)
  | _ => none

end StoreNote

namespace LocalStore

/-- The journal's step that an operation is. A fetch is a report of its cook, unless the journal is of
that cook. -/
def reading (store : LocalStore) : StoreOp → JournalOp
  | .journalStart cookId _ _ _ _ _ => .start cookId
  | .ovenReported ovenCook _ => .report (ovenCook.map (·.cookId))
  | .currentCook (some cook) _ =>
    if store.journals cook.cookId then .quiet else .report (some cook.cookId)
  | .currentCook none _ | .linkCook _ _ | .restart => .quiet

/-- The start or report an operation shows the store. -/
def shown (store : LocalStore) (op : StoreOp) : List StoreNote :=
  match store.reading op with
  | .start cookId => [.started cookId]
  | .report cookId => [.reported cookId]
  | .quiet => []

/-- What an operation says: what it shows the store, then the lines it appends. -/
def notes (store : LocalStore) (op : StoreOp) : List StoreNote :=
  store.shown op ++ (store.ended op).map fun line => .line line.1 line.2

/-- The cook the journal file is of, and whether the oven has reported it. -/
def openCook (store : LocalStore) : Option OpenCook :=
  store.disk.active.map fun active => ⟨active.cookId, active.lastSeenAt.isSome⟩

end LocalStore

/-- The store's operations as a machine. -/
def storeOps : Machine LocalStore StoreOp StoreNote :=
  ⟨fun store op => (store.perform op, store.notes op)⟩

namespace LocalStore

variable {store : LocalStore} {now : Moment}

theorem journalled_cookId (cook : OvenCook) : (store.journalled now cook).cookId = cook.cookId := by
  unfold journalled
  split
  · rfl
  · split
    · assumption
    · rfl

theorem journalled_seen (cook : OvenCook) :
    (store.journalled now cook).lastSeenAt = some (wholeSeconds now) := by
  unfold journalled
  split
  · rfl
  · split <;> rfl

/-- The journal a report leaves is of its cook, or of none. -/
theorem map_journalled (ovenCook : Option OvenCook) :
    (ovenCook.map (store.journalled now)).map (·.cookId) = ovenCook.map (·.cookId) := by
  rw [Option.map_map]
  exact congrArg (Option.map · ovenCook) (funext journalled_cookId)

/-- A report of another cook, or of none, leaves no journal of a cook. -/
theorem reported_away {cookId : String} {ovenCook : Option OvenCook}
    (other : ovenCook.map (·.cookId) ≠ some cookId) :
    (store.perform (.ovenReported ovenCook now)).disk.active.map (·.cookId) ≠ some cookId := by
  show Option.map _ (store.disk.carryOut (store.reconcile ovenCook now).1).active ≠ _
  rw [reconcile_active, map_journalled]
  exact other

/-- A report opens the journal of its cook. -/
theorem openCook_reconcile (ovenCook : Option OvenCook) :
    (store.disk.carryOut (store.reconcile ovenCook now).1).active.map
        (fun active => OpenCook.mk active.cookId active.lastSeenAt.isSome) =
      (ovenCook.map (·.cookId)).map fun id => ⟨id, true⟩ := by
  rw [reconcile_active]
  cases ovenCook with
  | none => rfl
  | some cook => simp [journalled_cookId, journalled_seen]

/-- The line of the cook that gives way is the journal's. -/
theorem line_closed {op : StoreOp} {kept : Option String} (keeps : store.keeping op = some (now, kept)) :
    (store.ended op).map (fun line => JournalNote.line line.1) =
      Journal.closed store.openCook kept := by
  rw [ended_eq]
  unfold lineBy line openCook Journal.closed
  rw [keeps]
  cases store.disk.active with
  | none => rfl
  | some active =>
    by_cases same : kept = some active.cookId
    · simp [same]
    · cases seen : active.lastSeenAt <;> simp [same, seen, lineOf]

/-- An operation that keeps no cook ends none. -/
theorem ended_nil {op : StoreOp} (keeps : store.keeping op = none) : store.ended op = [] := by
  rw [ended_eq]
  unfold lineBy
  rw [keeps]
  cases store.disk.active <;> rfl

/-- A link leaves the journal's cook as it was. -/
theorem openCook_link (recipeId title : String) :
    (store.disk.carryOut (store.linkCook recipeId title)).active.map
        (fun active => OpenCook.mk active.cookId active.lastSeenAt.isSome) = store.openCook := by
  unfold linkCook openCook
  cases journal : store.disk.active with
  | none => rw [Disk.carryOut_nil, journal]
  | some active => rfl

end LocalStore

open LocalStore in
/-- **The store keeps the journal.** Every operation of the store is one step of the journal. -/
theorem storeOps_simulates :
    Simulates storeOps Journal.machine LocalStore.openCook LocalStore.reading
      StoreNote.toJournal where
  next store op := by
    show (store.perform op).disk.active.map _ = (Journal.step store.openCook (store.reading op)).1
    rw [perform_disk]
    cases op with
    | journalStart cookId recipeId title stageCount extras now =>
      exact congrArg _ (journalStart_active ..)
    | ovenReported ovenCook now => exact openCook_reconcile ovenCook
    | currentCook ovenCook now =>
      cases ovenCook with
      | none => rfl
      | some cook =>
        simp only [fileOps, reading]
        split
        · rfl
        · exact openCook_reconcile (some cook)
    | linkCook recipeId title => exact openCook_link recipeId title
    | restart => rfl
  effects store op := by
    show (store.notes op).map _ = (Journal.step store.openCook (store.reading op)).2
    have lines : ((store.ended op).map fun line => StoreNote.line line.1 line.2).map
        StoreNote.toJournal = (store.ended op).map fun line => JournalNote.line line.1 := by
      rw [List.map_map]
      rfl
    unfold notes shown
    rw [List.map_append, lines]
    cases op with
    | journalStart cookId recipeId title stageCount extras now => rw [line_closed rfl]; rfl
    | ovenReported ovenCook now => rw [line_closed rfl]; rfl
    | currentCook ovenCook now =>
      cases ovenCook with
      | none => rw [ended_nil rfl]; rfl
      | some cook =>
        by_cases own : store.journals cook.cookId
        · rw [ended_nil (by simp only [keeping, own, if_true])]
          simp only [reading, own, if_true]
          rfl
        · rw [line_closed (by simp only [keeping, own]; rfl)]
          simp only [reading, own]
          rfl
    | linkCook recipeId title => rw [ended_nil rfl]; rfl
    | restart => rw [ended_nil rfl]; rfl

/-- What a run of the store's operations says. -/
def cookTrace (store : LocalStore) (ops : List StoreOp) : List JournalNote :=
  (storeOps.trace store ops).map StoreNote.toJournal

/-- The lines a run appends, each with its cook. -/
def endings (store : LocalStore) (ops : List StoreOp) : List (String × HistoryEntry) :=
  (storeOps.trace store ops).filterMap StoreNote.ending

@[simp] theorem endings_nil (store : LocalStore) : endings store [] = [] := rfl

@[simp] theorem endings_cons (store : LocalStore) (op : StoreOp) (ops : List StoreOp) :
    endings store (op :: ops) = store.ended op ++ endings (store.perform op) ops := by
  have lines : (store.notes op).filterMap StoreNote.ending = store.ended op := by
    unfold LocalStore.notes LocalStore.shown
    split <;> simp [StoreNote.ending, Function.comp_def, List.filterMap_cons]
  unfold endings
  rw [trace_cons, List.filterMap_append]
  exact congrArg (· ++ _) lines

/-- A run's lines are what its history file has gained. -/
theorem history_run (store : LocalStore) (ops : List StoreOp) :
    (storeOps.run store ops).disk.history =
      store.disk.history ++ ((endings store ops).map Prod.snd).flatMap historyLine := by
  induction ops generalizing store with
  | nil => simp
  | cons op ops ih =>
    rw [run_cons, ih, endings_cons, List.map_append, List.flatMap_append, ← List.append_assoc]
    exact congrArg (· ++ _) (store.perform_history op)

/-- **One line per cook.** Over every run of the store's operations and restarts from an empty
journal, in which each cook's reports are one block, each start is of a cook not reported before, and
no start comes between two reports of a cook: at most one line goes to history for each cook, exactly
one for each that was reported and no longer is, and the history file gains those lines and no
others. -/
theorem one_line_per_cook (store : LocalStore) (empty : store.disk.active = none)
    (ops : List StoreOp) (contiguous : Journal.Contiguous (cookTrace store ops))
    (fresh : Journal.FreshStarts (cookTrace store ops))
    (unsplit : Journal.UnsplitBlocks (cookTrace store ops)) :
    Journal.OneLinePerCook (cookTrace store ops) ∧
      (storeOps.run store ops).disk.history =
        store.disk.history ++ ((endings store ops).map Prod.snd).flatMap historyLine := by
  refine ⟨?_, history_run store ops⟩
  have none_open : store.openCook = none := by rw [LocalStore.openCook, empty]; rfl
  have simulated := storeOps_simulates.trace store ops
  rw [none_open] at simulated
  change cookTrace store ops = _ at simulated
  rw [simulated] at contiguous fresh unsplit ⊢
  exact Journal.one_line contiguous fresh unsplit

/-! ## A kitchen's store -/

namespace Kitchen

/-- A moment at a text. -/
def moment (text : String) : Moment := ⟨1700000000, text, fun _ => some text⟩

/-- A store with nothing kept yet. -/
def emptyStore : LocalStore := ⟨"data", ⟨[], none, .absent, []⟩, none⟩

/-- The oven's copy of a cook. -/
def ovenCook (cookId : String) : OvenCook := ⟨cookId, [roast], [], 0⟩

def journals (cookId : String) : StoreOp :=
  .journalStart cookId none "Roast" 1 .empty (moment "2023-11-14T22:13:20Z")
def reportOf (cookId : Option String) : StoreOp :=
  .ovenReported (cookId.map ovenCook) (moment "2023-11-14T22:13:25Z")
def fetches (cookId : String) : StoreOp :=
  .currentCook (some (ovenCook cookId)) (moment "2023-11-14T22:13:30Z")

end Kitchen

/-- A cook that is started, reported, reported again after a restart, fetched and ended has its one
line. -/
theorem one_line_per_cook_roast :
    Journal.OneLinePerCook (cookTrace Kitchen.emptyStore
        [Kitchen.journals "roast", Kitchen.reportOf "roast", .restart, Kitchen.reportOf "roast",
          Kitchen.fetches "roast", Kitchen.reportOf none]) ∧
      (storeOps.run Kitchen.emptyStore
        [Kitchen.journals "roast", Kitchen.reportOf "roast", .restart, Kitchen.reportOf "roast",
          Kitchen.fetches "roast", Kitchen.reportOf none]).disk.history =
        Kitchen.emptyStore.disk.history ++
          ((endings Kitchen.emptyStore
            [Kitchen.journals "roast", Kitchen.reportOf "roast", .restart, Kitchen.reportOf "roast",
              Kitchen.fetches "roast", Kitchen.reportOf none]).map Prod.snd).flatMap historyLine :=
  one_line_per_cook Kitchen.emptyStore rfl _ (by decide) (by decide) (by decide)

/-- A start that the oven refuses while another cook runs ends that cook's journal early, and its
reports open a second one: the cook gets two lines. -/
theorem refused_start_doubles :
    ¬ ∀ (store : LocalStore) (ops : List StoreOp), store.disk.active = none →
      Journal.Contiguous (cookTrace store ops) → Journal.FreshStarts (cookTrace store ops) →
      Journal.OneLinePerCook (cookTrace store ops) := by
  intro always
  have roast := (always Kitchen.emptyStore
    [Kitchen.reportOf (some "roast"), Kitchen.journals "refused", Kitchen.reportOf (some "roast"),
      Kitchen.reportOf none] rfl (by decide) (by decide) "roast").1
  exact absurd roast (by decide)

end AnovaOven
