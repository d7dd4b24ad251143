import AnovaOven.Lib.Machine

/-!
# The cook journal

What the local store keeps a journal for, seen from outside of its files: at most one cook is open,
a start opens one, a report opens or keeps the one the oven runs, and a cook that gives way goes to
history if the oven has reported it. `Laws.Journal` proves that every operation of the store is one
step of this journal (`storeOps_simulates`), and reads its laws off this one.

The file also names what a run of reports and starts may look like, and what a history owes each
cook.
-/

namespace AnovaOven

/-- The cook the journal is open for, and whether the oven has reported it. -/
structure OpenCook where
  cookId : String
  seen : Bool
  deriving Repr, DecidableEq

inductive JournalOp where
  | start (cookId : String)
  | report (cookId : Option String)
  | quiet
  deriving Repr, DecidableEq

/-- What a step of the journal says: a cook was started, the oven reported a cook or none, a cook's
line went to history. -/
inductive JournalNote where
  | started (cookId : String)
  | reported (cookId : Option String)
  | line (cookId : String)
  deriving Repr, DecidableEq

namespace Journal

/-- The lines of the cook that gives way: none where it is the one kept, or was never seen. -/
def closed (current : Option OpenCook) (kept : Option String) : List JournalNote :=
  match current with
  | none => []
  | some cook => if kept ≠ some cook.cookId ∧ cook.seen then [.line cook.cookId] else []

/-- One step of the journal. -/
def step (current : Option OpenCook) : JournalOp → Option OpenCook × List JournalNote
  | .start cookId => (some ⟨cookId, false⟩, .started cookId :: closed current (some cookId))
  | .report cookId =>
    (cookId.map fun id => ⟨id, true⟩, .reported cookId :: closed current cookId)
  | .quiet => (current, [])

/-- The journal as a machine. -/
def machine : Machine (Option OpenCook) JournalOp JournalNote := ⟨step⟩

/-! ## Reading a trace -/

/-- Read one note for the last start or report. -/
def noteShown (last : Option JournalNote) : JournalNote → Option JournalNote
  | .line _ => last
  | note => some note

/-- The last start or report of a trace. -/
def lastShown (trace : List JournalNote) : Option JournalNote := trace.foldl noteShown none

/-- Read one note for the last report. -/
def noteReported (last : Option (Option String)) : JournalNote → Option (Option String)
  | .reported cookId => some cookId
  | _ => last

/-- The last report of a trace. -/
def lastReport (trace : List JournalNote) : Option (Option String) := trace.foldl noteReported none

/-- How many lines a trace has of a cook. -/
def linesOf (cookId : String) (trace : List JournalNote) : Nat := trace.count (.line cookId)

/-- A cook that was reported before is the one reported last. -/
def ContinuesBlock (past : List JournalNote) : JournalNote → Prop
  | .reported (some cookId) =>
    .reported (some cookId) ∈ past → lastReport past = some (some cookId)
  | _ => True

/-- A cook that is started wasn't reported before. -/
def StartsFresh (past : List JournalNote) : JournalNote → Prop
  | .started cookId => .reported (some cookId) ∉ past
  | _ => True

/-- A cook that was reported before is reported with no start since the last report. -/
def Unsplit (past : List JournalNote) : JournalNote → Prop
  | .reported (some cookId) =>
    .reported (some cookId) ∈ past → lastShown past = (lastReport past).map .reported
  | _ => True

/-- The reports of each cook form one contiguous block. -/
def Contiguous (trace : List JournalNote) : Prop := Machine.Along ContinuesBlock [] trace

/-- Every start is of a cook the oven hasn't reported. -/
def FreshStarts (trace : List JournalNote) : Prop := Machine.Along StartsFresh [] trace

/-- No start comes between two reports of a cook. -/
def UnsplitBlocks (trace : List JournalNote) : Prop := Machine.Along Unsplit [] trace

/-- What a history owes each cook: at most one line, and one where the cook was reported and the
last report isn't of it. -/
def OneLinePerCook (trace : List JournalNote) : Prop :=
  ∀ cookId, linesOf cookId trace ≤ 1 ∧
    (.reported (some cookId) ∈ trace → lastReport trace ≠ some (some cookId) →
      linesOf cookId trace = 1)

instance (past : List JournalNote) (note : JournalNote) : Decidable (ContinuesBlock past note) := by
  unfold ContinuesBlock
  split <;> infer_instance

instance (past : List JournalNote) (note : JournalNote) : Decidable (StartsFresh past note) := by
  unfold StartsFresh
  split <;> infer_instance

instance (past : List JournalNote) (note : JournalNote) : Decidable (Unsplit past note) := by
  unfold Unsplit
  split <;> infer_instance

instance (trace : List JournalNote) : Decidable (Contiguous trace) :=
  inferInstanceAs (Decidable (Machine.Along _ _ _))

instance (trace : List JournalNote) : Decidable (FreshStarts trace) :=
  inferInstanceAs (Decidable (Machine.Along _ _ _))

instance (trace : List JournalNote) : Decidable (UnsplitBlocks trace) :=
  inferInstanceAs (Decidable (Machine.Along _ _ _))

end Journal

end AnovaOven
