import AnovaOven.Laws.LcdTurns

/-!
# Laws of the marquee

A row too wide for the panel is shown window by window, and each window is a span of its text (`windowAt`). From one
to the next is never further than a window is wide, so that the windows leave no gap, and the turn is over
once one has reached the text's end (`MarqueeTold`). A row that is advanced looks at its first window as it is
set, and that is at the text's start (`marquee_covers`); a first look after the opening hold would be past it,
and no row has one.
-/

namespace AnovaOven

/-- The window of a text at an offset. -/
def windowAt (text : String) (offset : Nat) : Span Char := ⟨offset, (text.toList.drop offset).take lcdWidth⟩

/-- A row's marquee as a machine: the times of the calls, and the window that each returns. -/
def marquee : Machine RowAnim Nat (Span Char) where
  step a now :=
    let seen := a.visibleWindow now
    (seen.1, [⟨seen.1.offset, seen.2.1.toList⟩])

/-- A row that is advanced to one text as a machine: the times, and the window that each advance looks at. -/
def rowMarquee (text : String) : Machine RowState Nat (Span Char) where
  step r now := ((r.advance text now).1, marquee.effects (r.animOf text now).1 now)

/-- Every character of a text has been inside some window. -/
def ShownWhole (text : String) (windows : List (Span Char)) : Prop :=
  ∀ i < text.toList.length, ∃ w ∈ windows, w.Covers i

/-! ## One call -/

namespace RowAnim

variable (a : RowAnim) (overflow now : Nat)

theorem stepped_offset_le : (a.stepped overflow now).offset ≤ overflow := by
  unfold stepped
  dsimp only
  split
  · split <;> exact Nat.min_le_right _ _
  · exact Nat.zero_le _

/-- A step goes on by some cells at most. -/
theorem stepped_offset_near : (a.stepped overflow now).offset ≤ a.offset + charScrollCount := by
  unfold stepped
  dsimp only
  split
  · split <;> exact Nat.min_le_left _ _
  · exact Nat.zero_le _

/-- A turn that a step completes has come to the tail. -/
theorem stepped_complete (complete : (a.stepped overflow now).cycleComplete = true) :
    a.cycleComplete = true ∨ (a.stepped overflow now).offset = overflow := by
  unfold stepped at complete ⊢
  dsimp only at complete ⊢
  split at complete
  next more =>
    rw [if_pos more]
    split at complete
    next tail =>
      rw [if_pos tail]
      exact .inr (Nat.le_antisymm (Nat.min_le_right _ _) tail)
    next => exact .inl complete
  next => exact .inl complete

end RowAnim

/-- What a call does to a row that is too wide. -/
structure Scrolled (a b : RowAnim) : Prop where
  text : b.text = a.text
  inside : a.offset ≤ a.text.toList.length - lcdWidth → b.offset ≤ a.text.toList.length - lcdWidth
  near : b.offset ≤ a.offset + charScrollCount
  complete : b.cycleComplete = true →
    a.cycleComplete = true ∨ b.offset = a.text.toList.length - lcdWidth

section Wide

variable {a : RowAnim} (wide : lcdWidth < a.text.toList.length) (now : Nat)
include wide

/-- A wide row moves on where it is time to, and stays where it isn't. -/
theorem marquee_next : marquee.next a now =
    if a.steps now then a.stepped (a.text.toList.length - lcdWidth) now else a := by
  show (a.visibleWindow now).1 = _
  unfold RowAnim.visibleWindow
  rw [if_neg (Nat.not_le.mpr wide)]

theorem marquee_scrolled : Scrolled a (marquee.next a now) := by
  rw [marquee_next wide]
  split
  · exact ⟨a.stepped_text _ now, fun _ => a.stepped_offset_le _ now, a.stepped_offset_near _ now,
      a.stepped_complete _ now⟩
  · exact ⟨rfl, id, Nat.le_add_right _ _, .inl⟩

/-- It returns the window at the offset it leaves. -/
theorem marquee_effects : marquee.effects a now = [windowAt a.text (marquee.next a now).offset] := by
  show [(⟨(a.visibleWindow now).1.offset, (a.visibleWindow now).2.1.toList⟩ : Span Char)] =
    [windowAt a.text (a.visibleWindow now).1.offset]
  unfold RowAnim.visibleWindow windowAt
  rw [if_neg (Nat.not_le.mpr wide)]
  simp only [String.toList_ofList]

end Wide

/-! ## Every run -/

/-- A window that is a slice of the text, as wide as the panel. -/
structure InText (text : String) (w : Span Char) : Prop where
  isOf : w.IsOf text.toList
  width : w.cells.length = lcdWidth
  inside : w.endCol ≤ text.toList.length

theorem InText.endCol {text : String} {w : Span Char} (inText : InText text w) : w.endCol = w.col + lcdWidth := by
  unfold Span.endCol
  rw [inText.width]

theorem inText_windowAt {text : String} {offset : Nat} (inside : offset + lcdWidth ≤ text.toList.length) :
    InText text (windowAt text offset) := by
  have width : (windowAt text offset).cells.length = lcdWidth := by
    show ((text.toList.drop offset).take lcdWidth).length = lcdWidth
    rw [List.length_take, List.length_drop]
    omega
  refine ⟨fun k cell isCell => ?_, width, ?_⟩
  · have inWindow : ((text.toList.drop offset).take lcdWidth)[k]? = some cell := isCell
    rw [List.getElem?_take] at inWindow
    split at inWindow
    · rwa [List.getElem?_drop] at inWindow
    · cases inWindow
  · unfold Span.endCol
    rw [width]
    exact inside

/-- What is known of a wide row and of the windows it has returned. -/
structure Slices (text : String) (a : RowAnim) (windows : List (Span Char)) : Prop where
  isText : a.text = text
  inside : a.offset ≤ text.toList.length - lcdWidth
  inText : ∀ w ∈ windows, InText text w

/-- What is known of it besides, once it has returned the text's first: the windows leave no gap up to the one it
is at, and a turn that is complete has come to the end. -/
structure MarqueeTold (text : String) (a : RowAnim) (windows : List (Span Char)) : Prop where
  slices : Slices text a windows
  current : windowAt text a.offset ∈ windows
  gapless : Gapless windows
  complete : a.cycleComplete = true → ∃ w ∈ windows, w.endCol = text.toList.length

section Run

variable {text : String} (wide : lcdWidth < text.toList.length)
include wide

theorem Slices.next {a : RowAnim} {windows : List (Span Char)} (slices : Slices text a windows) (now : Nat) :
    Slices text (marquee.next a now) (windows ++ marquee.effects a now) := by
  obtain ⟨rfl, inside, inText⟩ := slices
  have scrolled := marquee_scrolled wide now
  have within := scrolled.inside inside
  rw [marquee_effects wide]
  refine ⟨scrolled.text, within, fun w item => ?_⟩
  rcases List.mem_append.mp item with old | new
  · exact inText w old
  · obtain rfl := List.mem_singleton.mp new
    exact inText_windowAt (by omega)

theorem marquee_slices (setAt : Nat) (times : List Nat) :
    Slices text (marquee.run (.new text setAt) times) (marquee.trace (.new text setAt) times) :=
  Machine.run_told (I := Slices text) ⟨rfl, Nat.zero_le _, List.forall_mem_nil _⟩
    (fun _ _ now slices => slices.next wide now) times

/-- A call goes on from the window before. -/
theorem MarqueeTold.next {a : RowAnim} {windows : List (Span Char)} (told : MarqueeTold text a windows)
    (now : Nat) : MarqueeTold text (marquee.next a now) (windows ++ marquee.effects a now) := by
  have slices := told.slices.next wide now
  obtain ⟨⟨rfl, inside, inText⟩, current, gapless, complete⟩ := told
  have scrolled := marquee_scrolled wide now
  rw [marquee_effects wide] at slices ⊢
  have returned : windowAt a.text (marquee.next a now).offset ∈
      windows ++ [windowAt a.text (marquee.next a now).offset] := List.mem_concat_self
  refine ⟨slices, returned, ?gapless, ?complete⟩
  case gapless =>
    apply gapless.concat
    refine ⟨_, current, Nat.le_trans scrolled.near ?_⟩
    rw [(inText _ current).endCol]
    exact Nat.add_le_add_left (by decide) a.offset
  case complete =>
    intro done
    rcases scrolled.complete done with before | tail
    · obtain ⟨w, item, ends⟩ := complete before
      exact ⟨w, List.mem_append_left _ item, ends⟩
    · refine ⟨_, returned, ?_⟩
      rw [(slices.inText _ returned).endCol]
      show (marquee.next a now).offset + lcdWidth = _
      omega

/-- A first look within the opening hold is at the text's start. -/
theorem marqueeTold_first {setAt first : Nat} (early : first < setAt + endPause) :
    MarqueeTold text (marquee.next (.new text setAt) first) (marquee.effects (.new text setAt) first) := by
  have holds : (RowAnim.new text setAt).steps first = false := by
    have held : ¬ (RowAnim.new text setAt).pauseUntil ≤ first := Nat.not_le.mpr early
    unfold RowAnim.steps
    rw [decide_eq_false held, Bool.false_and]
  have isWide : lcdWidth < (RowAnim.new text setAt).text.toList.length := wide
  have still : marquee.next (.new text setAt) first = .new text setAt := by
    rw [marquee_next isWide, holds]
    rfl
  have slices := Slices.next wide (marquee_slices wide setAt []) first
  have effects : marquee.effects (.new text setAt) first = [windowAt text 0] := by
    rw [marquee_effects isWide, still]
    rfl
  change Slices text (marquee.next (.new text setAt) first) (marquee.effects (.new text setAt) first) at slices
  rw [effects, still] at slices ⊢
  exact ⟨slices, List.mem_singleton_self _, gapless_singleton rfl, fun done => by cases done⟩

theorem marquee_told {setAt first : Nat} (early : first < setAt + endPause) (later : List Nat) :
    MarqueeTold text (marquee.run (.new text setAt) (first :: later))
      (marquee.trace (.new text setAt) (first :: later)) := by
  have start := marqueeTold_first wide early
  rw [Machine.run_cons, Machine.trace_cons]
  exact Machine.run_told
    (I := fun a windows => MarqueeTold text a (marquee.effects (.new text setAt) first ++ windows))
    (by rwa [List.append_nil])
    (fun a windows now told => by
      rw [← List.append_assoc]
      exact told.next wide now) later

end Run

/-- A turn that is over has shown the whole text. -/
theorem MarqueeTold.shownWhole {text : String} {a : RowAnim} {windows : List (Span Char)}
    (told : MarqueeTold text a windows) {now : Nat} (done : a.cycleDone now = true) :
    ShownWhole text windows := by
  unfold RowAnim.cycleDone at done
  obtain ⟨w, item, ends⟩ := told.complete (Bool.and_eq_true_iff.mp done).1
  intro i inside
  exact told.gapless w item i (ends ▸ inside)

/-! ## The row -/

section Row

variable {text : String} {r : RowState} {a : RowAnim}

/-- An advance to the text of its own marquee is a call of that. -/
theorem rowMarquee_step (isAnim : r.anim = some a) (isText : a.text = text) (now : Nat) :
    ((rowMarquee text).next r now).anim = some (marquee.next a now) ∧
      (rowMarquee text).effects r now = marquee.effects a now := by
  subst isText
  have own := RowState.animOf_own isAnim now
  constructor
  · show (r.advance a.text now).1.anim = some (a.visibleWindow now).1
    rw [RowState.advance_anim, own]
  · show marquee.effects (r.animOf a.text now).1 now = marquee.effects a now
    rw [own]

theorem rowMarquee_run (isAnim : r.anim = some a) (isText : a.text = text) (times : List Nat) :
    ((rowMarquee text).run r times).anim = some (marquee.run a times) ∧
      (rowMarquee text).trace r times = marquee.trace a times := by
  induction times generalizing r a with
  | nil => exact ⟨isAnim, rfl⟩
  | cons now times ih =>
    obtain ⟨nextAnim, effects⟩ := rowMarquee_step isAnim isText now
    have nextText : (marquee.next a now).text = text := (a.visibleWindow_sees now).text.trans isText
    obtain ⟨run, trace⟩ := ih nextAnim nextText
    exact ⟨run, by rw [Machine.trace_cons, Machine.trace_cons, effects, trace]⟩

/-- The advance that sets a row looks at a new marquee, and those after go on with it. -/
theorem rowMarquee_set {setAt : Nat} (set : (r.animOf text setAt).2 = true) (times : List Nat) :
    ((rowMarquee text).run r (setAt :: times)).anim =
        some (marquee.run (.new text setAt) (setAt :: times)) ∧
      (rowMarquee text).trace r (setAt :: times) = marquee.trace (.new text setAt) (setAt :: times) := by
  have new : r.animOf text setAt = (.new text setAt, true) := by
    rcases r.animOf_cases text setAt with ⟨_, old, _⟩ | new
    · rw [old] at set
      cases set
    · exact new
  have first : ((rowMarquee text).next r setAt).anim = some (marquee.next (.new text setAt) setAt) := by
    show (r.advance text setAt).1.anim = some ((RowAnim.new text setAt).visibleWindow setAt).1
    rw [RowState.advance_anim, new]
  have effects : (rowMarquee text).effects r setAt = marquee.effects (.new text setAt) setAt := by
    show marquee.effects (r.animOf text setAt).1 setAt = _
    rw [new]
  have isText : (marquee.next (.new text setAt) setAt).text = text :=
    ((RowAnim.new text setAt).visibleWindow_sees setAt).text
  obtain ⟨run, trace⟩ := rowMarquee_run first isText times
  exact ⟨run, by rw [Machine.trace_cons, Machine.trace_cons, effects, trace]⟩

end Row

/-- **The marquee.** A text wider than the panel, set at any time and looked at at any non-decreasing times
after (the clock's; nothing here needs their order): the offset never exceeds the overflow, and every window
is a slice of the text. Where the first look comes before the opening hold is over, as that of the advance
that sets the row always does, a turn that is over has shown every character. -/
theorem marquee_covers {text : String} (wide : lcdWidth < text.toList.length) (setAt : Nat) :
    (∀ times : List Nat,
      (marquee.run (.new text setAt) times).offset ≤ text.toList.length - lcdWidth ∧
      ∀ w ∈ marquee.trace (.new text setAt) times, InText text w) ∧
    (∀ (times : List Nat) (now : Nat), (∀ first ∈ times.head?, first < setAt + endPause) →
      (marquee.run (.new text setAt) times).cycleDone now = true →
        ShownWhole text (marquee.trace (.new text setAt) times)) ∧
    ∀ (r : RowState) (times : List Nat) (now : Nat), (r.animOf text setAt).2 = true →
      ((rowMarquee text).run r (setAt :: times)).cycleDone now = true →
        ShownWhole text ((rowMarquee text).trace r (setAt :: times)) := by
  have covers (times : List Nat) (now : Nat) (early : ∀ first ∈ times.head?, first < setAt + endPause)
      (done : (marquee.run (.new text setAt) times).cycleDone now = true) :
      ShownWhole text (marquee.trace (.new text setAt) times) := by
    cases times with
    | nil => cases done
    | cons first later => exact (marquee_told wide (early first rfl) later).shownWhole done
  refine ⟨fun times => ?_, covers, fun r times now set done => ?_⟩
  · have slices := marquee_slices wide setAt times
    exact ⟨slices.inside, slices.inText⟩
  · obtain ⟨anim, windows⟩ := rowMarquee_set set times
    unfold RowState.cycleDone at done
    rw [anim] at done
    rw [windows]
    refine covers (setAt :: times) now (fun first isFirst => ?_) done
    obtain rfl := Option.some.inj isFirst
    exact Nat.lt_add_of_pos_right (by decide)

namespace Kitchen

/-- A name one character too wide for the panel. -/
def wideName : String := "Chicken and chips"

/-- A row that is set and looked at every half second shows all of the name. -/
theorem wideName_covers :
    ShownWhole wideName ((rowMarquee wideName).trace .new (0 :: [500000, 1000000, 1500000, 2000000])) :=
  (marquee_covers (show lcdWidth < wideName.toList.length by decide +kernel) 0).2.2 .new
    [500000, 1000000, 1500000, 2000000] 3000000 (by decide +kernel) (by decide +kernel)

end Kitchen

end AnovaOven
