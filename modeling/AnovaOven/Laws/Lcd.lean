import AnovaOven.Lib.Spans
import AnovaOven.PicoCore.LcdPlan

/-!
# Laws of the character LCD

**The spans are a repaint** (`lcd_repaints`): a panel written only what each tick says shows, after
every tick, the window of each row's text that a repaint of the whole row would. From a row's second
write on what is written is a patch: in bounds, apart, and exactly the cells that change.

The times of the ticks play no part in it.
-/

namespace AnovaOven

/-! ## What a row is to show -/

/-- The cells a row shows of a text at a scroll offset, repainted whole. -/
def rowCells (text : String) (offset : Nat) : List Char :=
  (padToWidth (String.ofList ((text.toList.drop offset).take lcdWidth))).toList

theorem length_padToWidth (s : String) : (padToWidth s).toList.length = lcdWidth := by
  unfold padToWidth
  simp only [String.toList_ofList, List.length_append, List.length_replicate, List.length_take]
  omega

/-- A text that fits is its own window. -/
theorem rowCells_fits {text : String} (fits : text.toList.length ≤ lcdWidth) :
    rowCells text 0 = (padToWidth text).toList := by
  unfold rowCells
  rw [List.drop_zero, List.take_of_length_le fits, String.ofList_toList]

/-! ## The spans of a row -/

namespace CellSpan

/-- A span as a run of cells. -/
def toSpan (s : CellSpan) : Span Char := ⟨s.col.toNat, s.text.toList⟩

end CellSpan

/-- A scan of two rows as one of their cells. -/
def toScan (scan : List CellSpan × Option CellSpan) : Scan Char :=
  ⟨scan.1.map CellSpan.toSpan, scan.2.map CellSpan.toSpan⟩

theorem toScan_spans (scan : List CellSpan × Option CellSpan) :
    (toScan scan).spans = (scan.1 ++ scan.2.toList).map CellSpan.toSpan := by
  unfold toScan Scan.spans
  cases scan.2 <;> simp

/-- One pair of cells, at a column a `u8` holds. -/
theorem toScan_changedCell (scan : List CellSpan × Option CellSpan) {pair : (Char × Char) × Nat}
    (small : pair.2 < 256) : toScan (changedCell scan pair) = (toScan scan).step pair := by
  unfold changedCell Scan.step
  split
  · obtain ⟨done, run⟩ := scan
    have col : pair.2.toUInt8.toNat = pair.2 := by simpa using small
    cases run <;> simp [toScan, Scan.extend, CellSpan.toSpan, col]
  · obtain ⟨done, run⟩ := scan
    cases run <;> simp [toScan, Scan.close, Scan.spans]

theorem toScan_foldl {pairs : List ((Char × Char) × Nat)} (small : ∀ pair ∈ pairs, pair.2 < 256)
    (scan : List CellSpan × Option CellSpan) :
    toScan (pairs.foldl changedCell scan) = pairs.foldl Scan.step (toScan scan) := by
  induction pairs generalizing scan with
  | nil => rfl
  | cons pair pairs ih =>
    rw [List.foldl_cons, List.foldl_cons, ← toScan_changedCell scan (small pair List.mem_cons_self)]
    exact ih (fun p item => small p (List.mem_cons_of_mem pair item)) _

/-- **The changed spans.** Between two rows of one length they are a patch. -/
theorem changedSpans_patch (prev next : String) (same : prev.toList.length = next.toList.length)
    (small : next.toList.length ≤ 256) :
    Patch prev.toList next.toList ((changedSpans prev next).map CellSpan.toSpan) := by
  have columns : ∀ pair ∈ (prev.toList.zip next.toList).zipIdx, pair.2 < 256 := by
    intro pair item
    have bound := List.snd_lt_of_mem_zipIdx item
    rw [List.length_zip] at bound
    omega
  have scanned := toScan_foldl columns ([], none)
  have patch := scan_patch same
  unfold Scan.of at patch
  unfold changedSpans
  rw [if_neg (not_not.mpr same)]
  dsimp only
  rw [← toScan_spans, scanned]
  exact patch

/-! ## The marquee -/

namespace RowAnim

variable {a : RowAnim} {now : Nat}

theorem scrolls_eq_false : a.scrolls = false ↔ a.text.toList.length ≤ lcdWidth := by
  simp [scrolls]

theorem stepped_text (a : RowAnim) (overflow now : Nat) : (a.stepped overflow now).text = a.text := by
  unfold stepped
  dsimp only
  split
  · split <;> rfl
  · rfl

/-- What `visible_window` gives is the window at the offset it leaves. -/
structure Sees (a : RowAnim) (seen : RowAnim × String × Bool) : Prop where
  text : seen.1.text = a.text
  window : (padToWidth seen.2.1).toList = rowCells seen.1.text seen.1.offset
  still : a.scrolls = true → seen.2.2 = false → seen.1.offset = a.offset

theorem visibleWindow_sees (a : RowAnim) (now : Nat) : a.Sees (a.visibleWindow now) := by
  unfold visibleWindow
  dsimp only
  split
  · rename_i fits
    refine ⟨rfl, (rowCells_fits fits).symm, fun wide => ?_⟩
    rw [scrolls_eq_false.mpr fits] at wide
    cases wide
  · cases moves : a.steps now with
    | true =>
      have text := stepped_text a (a.text.toList.length - lcdWidth) now
      refine ⟨text, ?_, fun _ moved => by cases moved⟩
      simp only [if_true]
      rw [rowCells, text]
    | false => exact ⟨rfl, rfl, fun _ _ => rfl⟩

end RowAnim

/-! ## One row -/

namespace RowState

variable {r : RowState} {row : List Char} {text : String} {now : Nat}

/-- What is known of a row: the panel shows what was rendered last, and that is the window of the
animation, where there is one. -/
structure Shown (r : RowState) (row : List Char) : Prop where
  wide : row.length = lcdWidth
  rendered : ∀ s, r.lastRendered = some s → s.toList = row
  unseen : r.lastRendered = none → r.anim = none
  window : ∀ a, r.anim = some a → row = rowCells a.text a.offset

theorem Shown.restart (h : r.Shown row) : r.restart.Shown row :=
  ⟨h.wide, h.rendered, fun _ => rfl, fun a isAnim => by cases isAnim⟩

/-- The animation of a text is the row's own, which is of it, or a new one. -/
theorem animOf_cases (r : RowState) (text : String) (now : Nat) :
    (r.anim = some (r.animOf text now).1 ∧ (r.animOf text now).2 = false ∧
        (r.animOf text now).1.text = text) ∨
      r.animOf text now = (RowAnim.new text now, true) := by
  unfold animOf
  cases found : r.anim.filter fun a => a.text = text with
  | none => exact .inr rfl
  | some a =>
    obtain ⟨isAnim, isText⟩ := Option.filter_eq_some_iff.mp found
    exact .inl ⟨isAnim, rfl, of_decide_eq_true isText⟩

theorem animOf_text (r : RowState) (text : String) (now : Nat) : (r.animOf text now).1.text = text := by
  rcases animOf_cases r text now with ⟨_, _, isText⟩ | new
  · exact isText
  · rw [new]
    rfl

/-- A row written with the spans of an advance. -/
def written (r : RowState) (row : List Char) (text : String) (now : Nat) : List Char :=
  Span.paint row ((r.advance text now).2.map CellSpan.toSpan)

/-- What an advance does to a row and to what is known of it. -/
structure Advanced (r : RowState) (row : List Char) (text : String) (now : Nat) : Prop where
  shown : (r.advance text now).1.Shown (r.written row text now)
  repaint : ∃ a, (r.advance text now).1.anim = some a ∧ a.text = text ∧
    r.written row text now = rowCells text a.offset
  seen : (r.advance text now).1.lastRendered.isSome
  patch : r.lastRendered.isSome →
    Patch row (r.written row text now) ((r.advance text now).2.map CellSpan.toSpan)
  whole : r.lastRendered = none →
    (r.advance text now).2 = [⟨0, String.ofList (r.written row text now)⟩]

/-- The spans that send a rendering. -/
def renderSpans (r : RowState) (rendered : String) : List CellSpan :=
  match r.lastRendered with
  | some prev => changedSpans prev rendered
  | none => [⟨0, rendered⟩]

/-- An advance writes nothing where its own marquee stands still, and renders the window otherwise. -/
theorem advance_cases (r : RowState) (text : String) (now : Nat) :
    let anim := (r.animOf text now).1
    let seen := anim.visibleWindow now
    (r.anim = some anim ∧ anim.scrolls = true ∧ seen.2.2 = false ∧
        r.advance text now = ({ r with anim := some seen.1 }, [])) ∨
      r.advance text now = (⟨some seen.1, some (padToWidth seen.2.1)⟩,
        r.renderSpans (padToWidth seen.2.1)) := by
  dsimp only
  unfold advance
  rcases animOf_cases r text now with ⟨isAnim, unchanged, _⟩ | new
  · generalize r.animOf text now = found at *
    dsimp only
    split
    · rename_i skips
      simp only [Bool.and_eq_true, Bool.not_eq_true'] at skips
      exact .inl ⟨isAnim, skips.1.1, skips.2, rfl⟩
    · exact .inr rfl
  · rw [new]
    dsimp only
    rw [if_neg (by simp)]
    exact .inr rfl

/-- **Rendering.** The spans of a rendering, over what the panel shows, leave the rendering. -/
theorem Shown.render (h : r.Shown row) {rendered : String}
    (wide : rendered.toList.length = lcdWidth) :
    Span.paint row ((r.renderSpans rendered).map CellSpan.toSpan) = rendered.toList ∧
      (r.lastRendered.isSome →
        Patch row rendered.toList ((r.renderSpans rendered).map CellSpan.toSpan)) ∧
      (r.lastRendered = none → r.renderSpans rendered = [⟨0, rendered⟩]) := by
  unfold renderSpans
  cases last : r.lastRendered with
  | none =>
    refine ⟨?_, by simp, by simp⟩
    -- the first write sends the whole row
    apply List.ext_getElem?
    intro i
    show (Span.writeTo ⟨0, rendered.toList⟩ row)[i]? = _
    have isOf : (⟨0, rendered.toList⟩ : Span Char).IsOf rendered.toList := by
      intro k cell isCell
      rwa [Nat.zero_add]
    have written := Span.getElem?_writeTo isOf (h.wide.trans wide.symm) (i := i)
    by_cases inside : i < rendered.toList.length
    · exact written.1 ⟨Nat.zero_le i, by rwa [Span.endCol, Nat.zero_add]⟩
    · rw [List.getElem?_eq_none (by rw [Span.length_writeTo, h.wide]; omega),
        List.getElem?_eq_none (by omega)]
  | some prev =>
    have isRow := h.rendered prev last
    have patch := changedSpans_patch prev rendered (by rw [isRow, h.wide, wide]) (by rw [wide]; decide)
    rw [isRow] at patch
    exact ⟨patch.paint (h.wide.trans wide.symm), fun _ => patch, by simp⟩

/-- **One row.** An advance leaves the panel showing the window of the text, at the offset the
animation has come to. -/
theorem Shown.advance (h : r.Shown row) (text : String) (now : Nat) : r.Advanced row text now := by
  have sees := RowAnim.visibleWindow_sees (r.animOf text now).1 now
  have isText := sees.text.trans (animOf_text r text now)
  have isWritten : r.written row text now =
      Span.paint row ((r.advance text now).2.map CellSpan.toSpan) := rfl
  rcases advance_cases r text now with ⟨isAnim, wide, still, skips⟩ | renders
  · -- a marquee that stands still: nothing is written, and the window is the one it was
    rw [skips] at isWritten
    change _ = row at isWritten
    have window := h.window _ isAnim
    rw [animOf_text, ← sees.still wide still] at window
    have seen : r.lastRendered.isSome := by
      rw [Option.isSome_iff_ne_none]
      intro unseen
      rw [h.unseen unseen] at isAnim
      cases isAnim
    constructor
    · rw [isWritten, skips]
      refine ⟨h.wide, h.rendered, fun unseen => ?_, fun a isAnim' => ?_⟩
      · rw [show r.lastRendered = none from unseen] at seen
        cases seen
      · obtain rfl := Option.some.inj isAnim'
        rw [isText]
        exact window
    · rw [isWritten, skips]
      exact ⟨_, rfl, isText, window⟩
    · rw [skips]
      exact seen
    · intro _
      rw [isWritten, skips]
      exact Patch.refl row
    · intro unseen
      rw [unseen] at seen
      cases seen
  · have width := length_padToWidth ((r.animOf text now).1.visibleWindow now).2.1
    obtain ⟨painted, patch, whole⟩ := h.render width
    have window := sees.window
    rw [isText] at window
    rw [renders] at isWritten
    rw [painted] at isWritten
    constructor
    · rw [isWritten, renders]
      refine ⟨width, fun s isLast => ?_, fun unseen => ?_, fun a isAnim => ?_⟩
      · rw [Option.some.inj isLast]
      · cases unseen
      · obtain rfl := Option.some.inj isAnim
        rw [isText]
        exact window
    · rw [isWritten, renders]
      exact ⟨_, rfl, isText, window⟩
    · rw [renders]
      rfl
    · rw [isWritten, renders]
      exact patch
    · intro unseen
      rw [isWritten, renders, String.ofList_toList]
      exact whole unseen

end RowState

/-! ## The panel -/

-- what an advance leaves is known by `RowState.Shown.advance`: the panel's proofs never open it
attribute [local irreducible] RowState.advance

/-- A panel of two rows. -/
structure LcdPanel where
  row0 : List Char
  row1 : List Char
  wide0 : row0.length = lcdWidth
  wide1 : row1.length = lcdWidth

/-- A row written with spans, in order. -/
def writeSpans (row : List Char) (spans : List CellSpan) : List Char :=
  Span.paint row (spans.map CellSpan.toSpan)

/-- A panel written with a frame. -/
def LcdPanel.write (panel : LcdPanel) (frame : LcdFrame) : LcdPanel where
  row0 := writeSpans panel.row0 frame.row0
  row1 := writeSpans panel.row1 frame.row1
  wide0 := (Span.length_paint _ _).trans panel.wide0
  wide1 := (Span.length_paint _ _).trans panel.wide1

/-- The animator with the panel its frames are written to. -/
def lcdScreen : Machine (LcdAnimator × LcdPanel) (LcdPlan × Nat) LcdFrame :=
  lcdAnimator.noting fun a panel i => panel.write (a.tick i.1 i.2).2

/-- What is known of both rows. -/
structure LcdAnimator.Shown (a : LcdAnimator) (panel : LcdPanel) : Prop where
  row0 : a.row0.Shown panel.row0
  row1 : a.row1.Shown panel.row1

namespace LcdAnimator

variable {a : LcdAnimator} {panel : LcdPanel} {plan : LcdPlan} {now : Nat}

/-- The bottom row a tick advances is the one it had, started over or not. -/
theorem turn_row1 (a : LcdAnimator) (plan : LcdPlan) (now : Nat) :
    (a.turn plan now).2 = a.row1.restart ∨ (a.turn plan now).2 = a.row1 := by
  unfold turn
  dsimp only
  split
  · exact .inl rfl
  · split
    · exact .inl rfl
    · exact .inr rfl

theorem Shown.turn (h : a.Shown panel) (plan : LcdPlan) (now : Nat) :
    (a.turn plan now).2.Shown panel.row1 ∧
      (a.turn plan now).2.lastRendered = a.row1.lastRendered := by
  rcases turn_row1 a plan now with restarted | kept
  · rw [restarted]
    exact ⟨h.row1.restart, rfl⟩
  · rw [kept]
    exact ⟨h.row1, rfl⟩

/-- A tick advances each row to its text, and writes what each advance says. -/
theorem tick_eq (a : LcdAnimator) (plan : LcdPlan) (now : Nat) :
    a.tick plan now =
      (⟨(a.row0.advance plan.row0 now).1,
          ((a.turn plan now).2.advance (slotText plan (a.turn plan now).1) now).1,
          (a.turn plan now).1⟩,
        ⟨(a.row0.advance plan.row0 now).2,
          ((a.turn plan now).2.advance (slotText plan (a.turn plan now).1) now).2⟩) :=
  rfl

theorem Shown.tick (h : a.Shown panel) (plan : LcdPlan) (now : Nat) :
    a.row0.Advanced panel.row0 plan.row0 now ∧
      (a.turn plan now).2.Advanced panel.row1 (slotText plan (a.turn plan now).1) now :=
  ⟨h.row0.advance plan.row0 now, (h.turn plan now).1.advance _ now⟩

theorem Shown.next (h : a.Shown panel) (plan : LcdPlan) (now : Nat) :
    (a.tick plan now).1.Shown (panel.write (a.tick plan now).2) := by
  obtain ⟨top, bottom⟩ := h.tick plan now
  rw [tick_eq]
  exact ⟨top.shown, bottom.shown⟩

theorem shown_new (panel : LcdPanel) : LcdAnimator.new.Shown panel := by
  constructor
  · exact ⟨panel.wide0, by simp [new, RowState.new], fun _ => rfl, by simp [new, RowState.new]⟩
  · exact ⟨panel.wide1, by simp [new, RowState.new], fun _ => rfl, by simp [new, RowState.new]⟩

/-- After any ticks the rows are known, and were both written if there was one. -/
theorem run_shown (panel : LcdPanel) (ticks : List (LcdPlan × Nat)) :
    (lcdScreen.run (new, panel) ticks).1.Shown (lcdScreen.run (new, panel) ticks).2 ∧
      (ticks = [] ∧ (lcdScreen.run (new, panel) ticks).1 = new ∨
        (lcdScreen.run (new, panel) ticks).1.row0.lastRendered.isSome ∧
          (lcdScreen.run (new, panel) ticks).1.row1.lastRendered.isSome) := by
  induction ticks using List.reverseRecOn with
  | nil => exact ⟨shown_new panel, .inl ⟨rfl, rfl⟩⟩
  | append_singleton ticks tick ih =>
    rw [Machine.run_append]
    obtain ⟨plan, now⟩ := tick
    obtain ⟨top, bottom⟩ := ih.1.tick plan now
    refine ⟨ih.1.next plan now, .inr ?_⟩
    show ((lcdScreen.run (new, panel) ticks).1.tick plan now).1.row0.lastRendered.isSome ∧
      ((lcdScreen.run (new, panel) ticks).1.tick plan now).1.row1.lastRendered.isSome
    rw [tick_eq]
    exact ⟨top.seen, bottom.seen⟩

end LcdAnimator

/-- What a tick writes to a row: all of it at the first tick, and from then on a patch of what the row
showed to what it shows. -/
def WritesRow (first : Prop) (before after : List Char) (spans : List CellSpan) : Prop :=
  (first ∧ spans = [⟨0, String.ofList after⟩]) ∨ Patch before after (spans.map CellSpan.toSpan)

/-- **The panel.** After any ticks, one more leaves each row of the panel showing what a repaint of the
whole row would: the top row the plan's, the bottom row that of the slot shown, each from the offset
its marquee is at. What it writes is a patch, from a row's second write on. -/
theorem lcd_repaints (panel : LcdPanel) (past : List (LcdPlan × Nat)) (plan : LcdPlan) (now : Nat) :
    let before := lcdScreen.run (.new, panel) past
    let after := lcdScreen.next before (plan, now)
    let frame := (before.1.tick plan now).2
    (∃ anim0 anim1, after.1.row0.anim = some anim0 ∧ after.1.row1.anim = some anim1 ∧
        after.2.row0 = rowCells plan.row0 anim0.offset ∧
        after.2.row1 = rowCells (LcdAnimator.slotText plan after.1.slot) anim1.offset) ∧
      WritesRow (past = []) before.2.row0 after.2.row0 frame.row0 ∧
      WritesRow (past = []) before.2.row1 after.2.row1 frame.row1 := by
  obtain ⟨shown, seen⟩ := LcdAnimator.run_shown panel past
  have isNext : ∀ p : LcdAnimator × LcdPanel, lcdScreen.next p (plan, now) =
      ((p.1.tick plan now).1, p.2.write (p.1.tick plan now).2) := fun _ => rfl
  dsimp only
  rw [isNext]
  generalize lcdScreen.run (.new, panel) past = before at shown seen
  obtain ⟨a, panel⟩ := before
  dsimp only at shown seen ⊢
  obtain ⟨top, bottom⟩ := shown.tick plan now
  obtain ⟨anim0, isAnim0, _, window0⟩ := top.repaint
  obtain ⟨anim1, isAnim1, _, window1⟩ := bottom.repaint
  have kept := (shown.turn plan now).2
  rw [LcdAnimator.tick_eq]
  refine ⟨⟨anim0, anim1, isAnim0, isAnim1, window0, window1⟩, ?_⟩
  rcases seen with ⟨first, isNew⟩ | ⟨seen0, seen1⟩
  · refine ⟨.inl ⟨first, top.whole ?_⟩, .inl ⟨first, bottom.whole ?_⟩⟩
    · rw [isNew]
      rfl
    · rw [kept, isNew]
      rfl
  · refine ⟨.inr (top.patch seen0), .inr (bottom.patch ?_)⟩
    rw [kept]
    exact seen1

end AnovaOven
