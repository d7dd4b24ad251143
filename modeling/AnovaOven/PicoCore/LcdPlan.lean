import AnovaOven.Lib.Machine
import AnovaOven.PicoCore.Scheduler

/-!
# The character LCD's animator (`anova-oven-pico-core/src/lcd_plan.rs`)

A plan is resolved against the clock: which slot the bottom row shows, where each marquee has got to,
and which cells have changed since the last tick. What makes a plan of a view is left out: a plan is
any plan.
-/

namespace AnovaOven

/-- `LCD_WIDTH`. -/
def lcdWidth : Nat := 16

/-- `MIN_SLOT_HOLD`. -/
def minSlotHold : Nat := ticksOfMillis 3000

/-- `SCROLL_STEP`. -/
def scrollStep : Nat := ticksOfMillis 350

/-- `CHAR_SCROLL_COUNT`. -/
def charScrollCount : Nat := 3

/-- `END_PAUSE`. -/
def endPause : Nat := ticksOfMillis 1200

/-- `LcdPlan`: the top row, and the candidates for the bottom one. -/
structure LcdPlan where
  row0 : String
  row1Slots : List String
  deriving Repr, DecidableEq

/-- `pad_to_width`. -/
def padToWidth (s : String) : String :=
  let out := s.toList.take lcdWidth
  String.ofList (out ++ List.replicate (lcdWidth - out.length) ' ')

/-- `RowAnim`: one row's marquee. Instants are ticks since boot. -/
structure RowAnim where
  text : String
  offset : Nat
  lastStepAt : Nat
  pauseUntil : Nat
  shownAt : Nat
  cycleComplete : Bool
  deriving Repr, DecidableEq

namespace RowAnim

/-- `RowAnim::new`. -/
def new (text : String) (now : Nat) : RowAnim where
  text := text
  offset := 0
  lastStepAt := now
  pauseUntil := now + endPause
  shownAt := now
  cycleComplete := false

/-- `RowAnim::scrolls`. -/
def scrolls (a : RowAnim) : Bool := a.text.toList.length > lcdWidth

/-- What `visible_window` does to a row that fits: it holds it, and marks its turn as over. -/
def hold (a : RowAnim) (now : Nat) : RowAnim :=
  { a with
    offset := 0
    lastStepAt := now
    pauseUntil := now
    cycleComplete := a.cycleComplete || now - a.shownAt ≥ minSlotHold }

/-- Whether the marquee moves. -/
def steps (a : RowAnim) (now : Nat) : Bool :=
  a.pauseUntil ≤ now && now - a.lastStepAt ≥ scrollStep

/-- The marquee's step: on to the tail, and from there back to the start. -/
def stepped (a : RowAnim) (overflow now : Nat) : RowAnim :=
  let a := { a with lastStepAt := now }
  if a.offset < overflow then
    let a := { a with offset := min (a.offset + charScrollCount) overflow }
    if a.offset ≥ overflow then { a with pauseUntil := now + endPause, cycleComplete := true } else a
  else { a with offset := 0, pauseUntil := now + endPause }

/-- `RowAnim::visible_window`: the row after it, the window, and whether the marquee moved. -/
def visibleWindow (a : RowAnim) (now : Nat) : RowAnim × String × Bool :=
  let chars := a.text.toList
  if chars.length ≤ lcdWidth then (a.hold now, a.text, true)
  else
    let overflow := chars.length - lcdWidth
    let moves := a.steps now
    let a := if moves then a.stepped overflow now else a
    (a, String.ofList ((chars.drop a.offset).take lcdWidth), moves)

/-- `RowAnim::cycle_done`. -/
def cycleDone (a : RowAnim) (now : Nat) : Bool := a.cycleComplete && a.pauseUntil ≤ now

end RowAnim

/-- `CellSpan`. -/
structure CellSpan where
  col : UInt8
  text : String
  deriving Repr, DecidableEq

/-- One pair of cells in `changed_spans`: the spans that are over, and the one that isn't. -/
def changedCell (scan : List CellSpan × Option CellSpan) (pair : (Char × Char) × Nat) :
    List CellSpan × Option CellSpan :=
  if pair.1.1 ≠ pair.1.2 then
    let span := scan.2.getD ⟨pair.2.toUInt8, ""⟩
    (scan.1, some { span with text := span.text.push pair.1.2 })
  else match scan.2 with
    | some span => (scan.1 ++ [span], none)
    | none => scan

/-- `changed_spans`. -/
def changedSpans (prev next : String) : List CellSpan :=
  if prev.toList.length ≠ next.toList.length then [⟨0, next⟩]
  else
    let (spans, run) := (prev.toList.zip next.toList).zipIdx.foldl changedCell ([], none)
    spans ++ run.toList

/-- `RowState`: a row's animation, and the cells the panel shows. -/
structure RowState where
  anim : Option RowAnim
  lastRendered : Option String
  deriving Repr, DecidableEq

namespace RowState

/-- `RowState::default`. -/
def new : RowState := ⟨none, none⟩

/-- The row's animation of a text: the one it has, where it is of that text, or a new one. -/
def animOf (r : RowState) (text : String) (now : Nat) : RowAnim × Bool :=
  match r.anim.filter fun a => a.text = text with
  | some a => (a, false)
  | none => (RowAnim.new text now, true)

/-- `RowState::advance`. -/
def advance (r : RowState) (text : String) (now : Nat) : RowState × List CellSpan :=
  let (anim, textChanged) := r.animOf text now
  let (anim', visible, stepped) := anim.visibleWindow now
  if anim.scrolls && !textChanged && !stepped then ({ r with anim := some anim' }, [])
  else
    let rendered := padToWidth visible
    let spans := match r.lastRendered with
      | some prev => changedSpans prev rendered
      | none => [⟨0, rendered⟩]
    (⟨some anim', some rendered⟩, spans)

/-- `RowState::cycle_done`. -/
def cycleDone (r : RowState) (now : Nat) : Bool := r.anim.any fun a => a.cycleDone now

/-- `RowState::restart`. -/
def restart (r : RowState) : RowState := { r with anim := none }

end RowState

/-- `LcdFrame`. -/
structure LcdFrame where
  row0 : List CellSpan
  row1 : List CellSpan
  deriving Repr, DecidableEq

/-- `LcdAnimator`. -/
structure LcdAnimator where
  row0 : RowState
  row1 : RowState
  slot : Nat
  deriving Repr, DecidableEq

namespace LcdAnimator

/-- `LcdAnimator::new`. -/
def new : LcdAnimator := ⟨.new, .new, 0⟩

/-- The slot `tick` chooses, and the bottom row, started over where the slot is another. -/
def turn (a : LcdAnimator) (plan : LcdPlan) (now : Nat) : Nat × RowState :=
  let slots := max plan.row1Slots.length 1
  if slots > 1 && a.row1.cycleDone now then ((a.slot + 1) % slots, a.row1.restart)
  else if a.slot ≥ slots then (slots - 1, a.row1.restart)
  else (a.slot, a.row1)

/-- The text of a plan's slot. -/
def slotText (plan : LcdPlan) (slot : Nat) : String := plan.row1Slots[slot]?.getD ""

/-- `LcdAnimator::tick`. -/
def tick (a : LcdAnimator) (plan : LcdPlan) (now : Nat) : LcdAnimator × LcdFrame :=
  let (slot, row1) := a.turn plan now
  let (row0, spans0) := a.row0.advance plan.row0 now
  let (row1, spans1) := row1.advance (slotText plan slot) now
  (⟨row0, row1, slot⟩, ⟨spans0, spans1⟩)

end LcdAnimator

/-- The animator as a machine: its runs are sequences of plans, each at its tick. -/
def lcdAnimator : Machine LcdAnimator (LcdPlan × Nat) LcdFrame where
  step a i :=
    let (a, frame) := a.tick i.1 i.2
    (a, [frame])

end AnovaOven
