import AnovaOven.Processors.LocalStore

/-!
# What the store's operations do

One law for each operation of the local store, in terms of three values read before it: the line a
cook leaves as it gives way (`LocalStore.line`), the cook that is journalled next
(`LocalStore.journalled`), and the files the operation never touches. The history file only grows,
by whole lines (`perform_history`).
-/

namespace AnovaOven

open LineFile

/-! ## Calls -/

namespace Disk

@[simp] theorem carryOut_nil (disk : Disk) : disk.carryOut [] = disk := rfl

@[simp] theorem carryOut_cons (disk : Disk) (op : FileOp) (ops : List FileOp) :
    disk.carryOut (op :: ops) = (op.run disk).carryOut ops := rfl

theorem carryOut_append (disk : Disk) (a b : List FileOp) :
    disk.carryOut (a ++ b) = (disk.carryOut a).carryOut b := List.foldl_append

/-- An atomic write leaves the journal it writes, and no other file changed. -/
@[simp] theorem carryOut_write (disk : Disk) (active : ActiveCook) :
    disk.carryOut (writeActiveCook active) = { disk with active := some active, tmp := .absent } :=
  rfl

/-- The history file grows by the lines appended. -/
theorem carryOut_history (disk : Disk) (ops : List FileOp) :
    (disk.carryOut ops).history =
      disk.history ++ (ops.filterMap FileOp.appended).flatMap historyLine := by
  induction ops generalizing disk with
  | nil => simp
  | cons op ops ih =>
    rw [carryOut_cons, ih]
    cases op <;> simp [FileOp.run, FileOp.appended, List.filterMap_cons]

end Disk

/-! ## Operations, by the cook they are of -/

namespace StoreOp

/-- The operations of a cook the oven runs: its reports, its fetches, and restarts. -/
def OfCook (cookId : String) : StoreOp → Prop
  | .ovenReported (some cook) _ => cook.cookId = cookId
  | .currentCook (some cook) _ => cook.cookId = cookId
  | .restart => True
  | _ => False

/-- The operations that find a cook gone, at a moment: a start of another, and a report or a fetch
without it. -/
def Leaves (cookId : String) (at' : Moment) : StoreOp → Prop
  | .journalStart started _ _ _ _ now => started ≠ cookId ∧ now = at'
  | .ovenReported cook now => cook.map (·.cookId) ≠ some cookId ∧ now = at'
  | .currentCook (some cook) now => cook.cookId ≠ cookId ∧ now = at'
  | _ => False

end StoreOp

namespace LocalStore

variable (store : LocalStore) (now : Moment)

/-! ## Endings -/

/-- The line a cook would leave: none for one the oven never reported. -/
def lineOf (active : ActiveCook) : Option HistoryEntry :=
  active.lastSeenAt.map fun lastSeenAt => store.endedEntry active lastSeenAt now

/-- The line of the journal's cook, where another than it is kept. -/
def line (kept : Option String) : Option HistoryEntry :=
  match store.disk.active with
  | none => none
  | some active => if kept = some active.cookId then none else store.lineOf now active

/-- The journal entry a report leaves of its cook. -/
def journalled (cook : OvenCook) : ActiveCook :=
  match store.disk.active with
  | none => manualCook cook now
  | some active =>
    if active.cookId = cook.cookId then active.seen cook now else manualCook cook now

/-- A cook that ends leaves its line, and then no journal. -/
theorem finish_eq (active : ActiveCook) :
    store.finish active now =
      ((store.lineOf now active).toList.map FileOp.appendHistory ++ [.removeActive],
        (store.lineOf now active).isSome) := by
  unfold finish lineOf
  cases active.lastSeenAt <;> rfl

@[simp] theorem finish_appended (active : ActiveCook) :
    (store.finish active now).1.filterMap FileOp.appended = (store.lineOf now active).toList := by
  rw [finish_eq]
  cases store.lineOf now active <;> rfl

@[simp] theorem write_appended (active : ActiveCook) :
    (writeActiveCook active).filterMap FileOp.appended = [] := rfl

/-! ## Operations -/

/-- A start ends the journal's cook, where it is another. -/
theorem journalStart_appended (cookId : String) (recipeId : Option String) (title : String)
    (stageCount : Nat) (extras : CookExtras) :
    (store.journalStart cookId recipeId title stageCount extras now).1.filterMap FileOp.appended =
      (store.line now (some cookId)).toList := by
  unfold journalStart line
  cases journal : store.disk.active with
  | none => rfl
  | some previous =>
    by_cases same : previous.cookId = cookId
    · simp [same]
    · simp [same, Ne.symm same]

/-- A start journals its cook. -/
theorem journalStart_active (cookId : String) (recipeId : Option String) (title : String)
    (stageCount : Nat) (extras : CookExtras) :
    (store.disk.carryOut
      (store.journalStart cookId recipeId title stageCount extras now).1).active =
      some {
        cookId := cookId
        recipeId := recipeId
        recipeTitle := title
        startedAt := wholeSeconds now
        cookStageCount := stageCount
        lastSeenAt := none
        extras := extras } := by
  unfold journalStart
  dsimp only
  rw [Disk.carryOut_append, Disk.carryOut_write]

/-- A report ends the journal's cook, where it is another. -/
theorem reconcile_appended (ovenCook : Option OvenCook) :
    (store.reconcile ovenCook now).1.filterMap FileOp.appended =
      (store.line now (ovenCook.map (·.cookId))).toList := by
  unfold reconcile line
  cases journal : store.disk.active with
  | none => cases ovenCook <;> rfl
  | some active =>
    cases ovenCook with
    | none => simp
    | some cook =>
      by_cases same : active.cookId = cook.cookId
      · simp [same]
      · simp [same, Ne.symm same]

/-- A report journals the cook it is of. -/
theorem reconcile_active (ovenCook : Option OvenCook) :
    (store.disk.carryOut (store.reconcile ovenCook now).1).active =
      ovenCook.map (store.journalled now) := by
  unfold reconcile journalled
  cases journal : store.disk.active with
  | none =>
    cases ovenCook with
    | none => exact journal
    | some cook => simp
  | some active =>
    cases ovenCook with
    | none => simp [finish_eq, Disk.carryOut_append, FileOp.run]
    | some cook =>
      by_cases same : active.cookId = cook.cookId
      · simp [same]
      · simp [same, Disk.carryOut_append]

/-- A link appends nothing. -/
theorem linkCook_appended (recipeId title : String) :
    (store.linkCook recipeId title).filterMap FileOp.appended = [] := by
  unfold linkCook
  split <;> rfl

/-- The moment of an operation that ends the journal's cook where it is another than the one kept,
and the cook kept. A fetch of the journal's cook ends none. -/
def keeping : StoreOp → Option (Moment × Option String)
  | .journalStart cookId _ _ _ _ now => some (now, some cookId)
  | .ovenReported ovenCook now => some (now, ovenCook.map (·.cookId))
  | .currentCook (some cook) now =>
    if store.journals cook.cookId then none else some (now, some cook.cookId)
  | .currentCook none _ | .linkCook _ _ | .restart => none

/-- The line an operation appends. -/
def lineBy (op : StoreOp) : Option HistoryEntry :=
  (store.keeping op).bind fun kept => store.line kept.1 kept.2

/-- An operation appends its line. -/
theorem fileOps_appended (op : StoreOp) :
    (store.fileOps op).filterMap FileOp.appended = (store.lineBy op).toList := by
  cases op with
  | journalStart cookId recipeId title stageCount extras now => exact journalStart_appended ..
  | ovenReported ovenCook now => exact reconcile_appended ..
  | currentCook ovenCook now =>
    cases ovenCook with
    | none => rfl
    | some cook =>
      unfold fileOps lineBy keeping
      by_cases own : store.journals cook.cookId
      · simp only [own, if_true]
        rfl
      · simp only [own]
        exact reconcile_appended ..
  | linkCook recipeId title => exact linkCook_appended ..
  | restart => rfl

/-- The line is the journal's cook's. -/
theorem ended_eq (op : StoreOp) :
    store.ended op =
      match store.disk.active with
      | none => []
      | some active => (store.lineBy op).toList.map fun entry => (active.cookId, entry) := by
  unfold ended
  cases store.disk.active with
  | none => rfl
  | some active => simp only [fileOps_appended]

/-- An operation is its calls. -/
theorem perform_disk (op : StoreOp) :
    (store.perform op).disk = store.disk.carryOut (store.fileOps op) := by
  cases op with
  | currentCook ovenCook now =>
    cases ovenCook with
    | none => rfl
    | some cook =>
      simp only [perform, currentCook, fileOps]
      split <;> split <;> rfl
  | _ => rfl

/-- **The history only grows**, by the lines of what has ended. -/
theorem perform_history (op : StoreOp) :
    (store.perform op).disk.history =
      store.disk.history ++ ((store.ended op).map Prod.snd).flatMap historyLine := by
  rw [perform_disk, Disk.carryOut_history, fileOps_appended, ended_eq]
  cases journal : store.disk.active with
  | some active => simp [Function.comp_def]
  | none =>
    -- with no journal there is no line
    have noLine : store.lineBy op = none := by
      unfold lineBy line
      simp [journal]
    simp [noLine]

/-! ## The cook in the journal -/

theorem journals_iff (cookId : String) :
    store.journals cookId ↔ ∃ active, store.disk.active = some active ∧ active.cookId = cookId := by
  unfold journals
  cases store.disk.active <;> simp

/-- A fetch journals its cook, where the journal isn't of it. -/
theorem currentCook_active (cook : OvenCook) :
    ∃ active, (store.currentCook (some cook) now).1.disk.active = some active ∧
      (store.currentCook (some cook) now).2 = .ok (some (active.currentCook cook)) ∧
      (store.disk.active = some active ∧ active.cookId = cook.cookId ∨
        active = store.journalled now cook) := by
  simp only [currentCook]
  by_cases own : store.journals cook.cookId
  · obtain ⟨active, journal, same⟩ := (store.journals_iff _).mp own
    refine ⟨active, ?_, ?_, .inl ⟨journal, same⟩⟩ <;> simp only [own, if_true, journal]
  · have reported := store.reconcile_active now (some cook)
    change (store.ovenReported (some cook) now).1.disk.active = _ at reported
    rw [Option.map_some] at reported
    refine ⟨_, ?_, ?_, .inr rfl⟩ <;> simp [own, reported]

/-- The files' journal after an operation of a cook: its entry as it was, or as a report leaves it.
-/
theorem perform_ofCook {cookId : String} {op : StoreOp} (ofCook : op.OfCook cookId) :
    (store.perform op).disk.active = store.disk.active ∨
      ∃ cook now, cook.cookId = cookId ∧
        (store.perform op).disk.active = some (store.journalled now cook) := by
  rw [perform_disk]
  cases op with
  | ovenReported ovenCook now =>
    cases ovenCook with
    | none => cases ofCook
    | some cook => exact .inr ⟨cook, now, ofCook, reconcile_active ..⟩
  | currentCook ovenCook now =>
    cases ovenCook with
    | none => cases ofCook
    | some cook =>
      simp only [fileOps]
      split
      · exact .inl rfl
      · exact .inr ⟨cook, now, ofCook, reconcile_active ..⟩
  | restart => exact .inl rfl
  | journalStart => cases ofCook
  | linkCook => cases ofCook

/-- An operation that finds the journal's cook gone keeps another. -/
theorem keeping_of_leaves {active : ActiveCook} {op : StoreOp}
    (journal : store.disk.active = some active) (leaves : op.Leaves active.cookId now) :
    ∃ kept, store.keeping op = some (now, kept) ∧ kept ≠ some active.cookId := by
  cases op with
  | journalStart cookId recipeId title stageCount extras at' =>
    obtain ⟨other, rfl⟩ := leaves
    exact ⟨some cookId, rfl, fun same => other (Option.some.inj same)⟩
  | ovenReported ovenCook at' =>
    obtain ⟨other, rfl⟩ := leaves
    exact ⟨_, rfl, other⟩
  | currentCook ovenCook at' =>
    cases ovenCook with
    | none => cases leaves
    | some cook =>
      obtain ⟨other, rfl⟩ := leaves
      have notJournalled : store.journals cook.cookId = false := by
        simp [journals, journal, Ne.symm other]
      refine ⟨some cook.cookId, ?_, fun same => other (Option.some.inj same)⟩
      simp [keeping, notJournalled]
  | linkCook => cases leaves
  | restart => cases leaves

/-- An operation that finds the journal's cook gone appends its line, where it was seen. -/
theorem ended_of_leaves {active : ActiveCook} {op : StoreOp} {lastSeenAt : String}
    (journal : store.disk.active = some active) (seen : active.lastSeenAt = some lastSeenAt)
    (leaves : op.Leaves active.cookId now) :
    store.ended op = [(active.cookId, store.endedEntry active lastSeenAt now)] := by
  obtain ⟨kept, keeps, other⟩ := store.keeping_of_leaves now journal leaves
  rw [ended_eq]
  simp only [lineBy, keeps, Option.bind_some, line, journal, if_neg other, lineOf, seen,
    Option.map_some, Option.toList_some, List.map_cons, List.map_nil]

end LocalStore

end AnovaOven
