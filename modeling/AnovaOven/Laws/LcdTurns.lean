import AnovaOven.Laws.Lcd

/-!
# Laws of the bottom row's rotation

**Every slot has its turn** (`slots_take_turns`): where a slot's text stays what it was while the slot
is shown, no slot stays shown for longer than its hold and two gaps between ticks.

A text that changes while it is shown starts its hold over, so a countdown that changes every second
is never turned from (`countdown_stays`).
-/

namespace AnovaOven

/-! ## The rows' animations after a tick -/

namespace RowState

variable {r : RowState} {text : String} {now : Nat}

theorem advance_anim (r : RowState) (text : String) (now : Nat) :
    (r.advance text now).1.anim = some ((r.animOf text now).1.visibleWindow now).1 := by
  rcases advance_cases r text now with ⟨_, _, _, skips⟩ | renders
  · rw [skips]
  · rw [renders]

/-- A row that fits is held. -/
theorem advance_fits (r : RowState) (now : Nat) (fits : text.toList.length ≤ lcdWidth) :
    (r.advance text now).1.anim = some ((r.animOf text now).1.hold now) := by
  rw [advance_anim]
  unfold RowAnim.visibleWindow
  dsimp only
  rw [animOf_text, if_pos fits]

theorem animOf_own {a : RowAnim} (isAnim : r.anim = some a) (now : Nat) :
    (r.animOf a.text now).1 = a := by
  unfold animOf
  rw [isAnim, Option.filter_some, if_pos (by simp)]

end RowState

/-! ## How long a slot stays -/

-- from here on an advance is known by its animation alone
attribute [local irreducible] RowState.advance

/-- Since when the slot shown is the one shown, and when the last tick was. -/
structure Stay where
  since : Nat
  last : Nat

/-- A tick's part in it: the stay goes on where the slot is the same. -/
def noteStay (a : LcdAnimator) (stay : Option Stay) (tick : LcdPlan × Nat) : Option Stay :=
  match stay with
  | none => some ⟨tick.2, tick.2⟩
  | some stay =>
    if (a.tick tick.1 tick.2).1.slot = a.slot then some ⟨stay.since, tick.2⟩
    else some ⟨tick.2, tick.2⟩

/-- The animator, with the stay of the slot it shows. -/
def lcdTurns : Machine (LcdAnimator × Option Stay) (LcdPlan × Nat) LcdFrame :=
  lcdAnimator.noting noteStay

/-- A tick of a plan of so many slots that fit, in time order and no further than a gap from the last
one. -/
structure Regular (slots gap : Nat) (p : LcdAnimator × Option Stay) (tick : LcdPlan × Nat) : Prop where
  slots : tick.1.row1Slots.length = slots
  fits : ∀ text ∈ tick.1.row1Slots, text.toList.length ≤ lcdWidth
  inTime : ∀ stay ∈ p.2, stay.last ≤ tick.2 ∧ tick.2 ≤ stay.last + gap

instance Regular.decidable (slots gap : Nat) (p : LcdAnimator × Option Stay)
    (tick : LcdPlan × Nat) : Decidable (Regular slots gap p tick) :=
  decidable_of_iff (tick.1.row1Slots.length = slots ∧
    (∀ text ∈ tick.1.row1Slots, text.toList.length ≤ lcdWidth) ∧
    ∀ stay ∈ p.2, stay.last ≤ tick.2 ∧ tick.2 ≤ stay.last + gap)
    ⟨fun ⟨slots, fits, inTime⟩ => ⟨slots, fits, inTime⟩, fun h => ⟨h.slots, h.fits, h.inTime⟩⟩

/-- The plan has the text the bottom row shows, where the tick doesn't turn from it. -/
def KeepsText (a : LcdAnimator) (tick : LcdPlan × Nat) : Prop :=
  a.row1.cycleDone tick.2 ∨
    ∀ anim ∈ a.row1.anim, tick.1.row1Slots[a.slot]? = some anim.text

instance KeepsText.decidable (a : LcdAnimator) (tick : LcdPlan × Nat) :
    Decidable (KeepsText a tick) :=
  inferInstanceAs (Decidable (_ ∨ _))

/-- Up to a tick the slot shown has stayed for its hold and two gaps at most. -/
def TakesTurns (gap : Nat) (p : LcdAnimator × Option Stay) (tick : LcdPlan × Nat) : Prop :=
  ∀ stay ∈ p.2, tick.2 ≤ stay.since + minSlotHold + 2 * gap

instance TakesTurns.decidable (gap : Nat) (p : LcdAnimator × Option Stay) (tick : LcdPlan × Nat) :
    Decidable (TakesTurns gap p tick) :=
  inferInstanceAs (Decidable (∀ stay ∈ p.2, _))

/-- A slot in its turn: its text fits and went up when the slot did, its hold was over at the last
tick or not, and not by more than a gap. -/
structure InTurn (slots gap : Nat) (a : LcdAnimator) (stay : Stay) : Prop where
  slot : a.slot < slots
  anim : ∃ anim, a.row1.anim = some anim ∧ anim.text.toList.length ≤ lcdWidth ∧
    anim.shownAt = stay.since ∧ anim.pauseUntil = stay.last ∧
    (anim.cycleComplete = false → stay.last < stay.since + minSlotHold)
  late : stay.last < stay.since + minSlotHold + gap

namespace LcdAnimator

variable {a : LcdAnimator} {plan : LcdPlan} {now slots gap : Nat} {stay : Stay}

/-- The text of a slot there is fits, where they all do. -/
theorem slotText_fits (fits : ∀ text ∈ plan.row1Slots, text.toList.length ≤ lcdWidth) (slot : Nat) :
    (slotText plan slot).toList.length ≤ lcdWidth := by
  unfold slotText
  cases found : plan.row1Slots[slot]? with
  | none => exact Nat.zero_le _
  | some text => exact fits text (List.mem_of_getElem? found)

/-- A slot that has just come up is in its turn. -/
theorem inTurn_fresh {text : String} {r : RowState} (slot : Nat) (bound : slot < slots)
    (fresh : r.anim = none) (fits : text.toList.length ≤ lcdWidth) (row0 : RowState) :
    InTurn slots gap ⟨row0, (r.advance text now).1, slot⟩ ⟨now, now⟩ := by
  have isNew : r.animOf text now = (RowAnim.new text now, true) := by
    unfold RowState.animOf
    rw [fresh]
    rfl
  have hold : 0 < minSlotHold := by decide
  refine ⟨bound, ⟨(RowAnim.new text now).hold now, ?_, fits, rfl, rfl, fun _ => ?_⟩, ?_⟩
  · rw [RowState.advance_fits r now fits, isNew]
  · exact Nat.lt_add_of_pos_right hold
  · show now < now + minSlotHold + gap
    omega

/-- The slot a turned rotation comes to is another. -/
theorem next_slot_ne {slot : Nat} (two : 2 ≤ slots) (bound : slot < slots) :
    (slot + 1) % slots ≠ slot := by
  by_cases last : slot + 1 = slots
  · rw [last, Nat.mod_self]
    omega
  · rw [Nat.mod_eq_of_lt (by omega)]
    omega

/-- The first tick brings the first slot up. -/
theorem first_inTurn (two : 2 ≤ slots) (regular : Regular slots gap (new, none) (plan, now)) :
    InTurn slots gap (new.tick plan now).1 ⟨now, now⟩ := by
  have isSlots : plan.row1Slots.length = slots := regular.slots
  have turned : new.turn plan now = (0, RowState.new) := by
    unfold turn
    dsimp only
    rw [if_neg (by simp [new, RowState.new, RowState.cycleDone]),
      if_neg (by simp only [new]; omega)]
    rfl
  rw [tick_eq, turned]
  exact inTurn_fresh 0 (by omega) rfl (slotText_fits regular.fits 0) _

/-- A tick that turns brings another slot up. -/
theorem turned_inTurn (two : 2 ≤ slots) (h : InTurn slots gap a stay)
    (regular : Regular slots gap (a, some stay) (plan, now)) (done : a.row1.cycleDone now) :
    (a.tick plan now).1.slot ≠ a.slot ∧ InTurn slots gap (a.tick plan now).1 ⟨now, now⟩ := by
  have isSlots : plan.row1Slots.length = slots := regular.slots
  have turned : a.turn plan now = ((a.slot + 1) % slots, a.row1.restart) := by
    unfold turn
    dsimp only
    rw [isSlots, Nat.max_eq_left (by omega), if_pos (by rw [done]; simp; omega)]
  rw [tick_eq, turned]
  exact ⟨next_slot_ne two h.slot, inTurn_fresh _ (Nat.mod_lt _ (by omega)) rfl
    (slotText_fits regular.fits _) _⟩

/-- A tick that doesn't turn holds the slot for as long as it was to be held. -/
theorem held_inTurn (h : InTurn slots gap a stay)
    (regular : Regular slots gap (a, some stay) (plan, now)) (notDone : ¬ a.row1.cycleDone now)
    (keeps : ∀ anim ∈ a.row1.anim, plan.row1Slots[a.slot]? = some anim.text) :
    (a.tick plan now).1.slot = a.slot ∧
      InTurn slots gap (a.tick plan now).1 ⟨stay.since, now⟩ := by
  obtain ⟨anim, isAnim, fits, shownAt, pauseUntil, early⟩ := h.anim
  obtain ⟨after, within⟩ := regular.inTime stay rfl
  have bound := h.slot
  have isSlots : plan.row1Slots.length = slots := regular.slots
  have turned : a.turn plan now = (a.slot, a.row1) := by
    unfold turn
    dsimp only
    rw [if_neg (by simp [notDone]), if_neg (by omega)]
  have isText : slotText plan a.slot = anim.text := by
    unfold slotText
    rw [keeps anim isAnim]
    rfl
  -- the hold wasn't over at the last tick, or this one would turn
  have incomplete : anim.cycleComplete = false := by
    rw [← Bool.not_eq_true]
    intro complete
    apply notDone
    unfold RowState.cycleDone RowAnim.cycleDone
    simp only [isAnim, Option.any_some, complete, pauseUntil, Bool.true_and, decide_eq_true_eq]
    exact after
  have inHold := early incomplete
  dsimp only at after within
  rw [tick_eq, turned, isText]
  refine ⟨rfl, bound, ⟨anim.hold now, ?_, fits, shownAt, rfl, fun still => ?_⟩, ?_⟩
  · rw [RowState.advance_fits a.row1 now fits, RowState.animOf_own isAnim]
  · have short : ¬ now - anim.shownAt ≥ minSlotHold := by
      simp only [RowAnim.hold, incomplete, Bool.false_or, decide_eq_false_iff_not] at still
      exact still
    rw [shownAt] at short
    show now < stay.since + minSlotHold
    omega
  · show now < stay.since + minSlotHold + gap
    omega

end LcdAnimator

/-- What holds between ticks: the first slot is to come, or a slot is in its turn. -/
def Turning (slots gap : Nat) (p : LcdAnimator × Option Stay) : Prop :=
  match p.2 with
  | none => p.1 = .new
  | some stay => InTurn slots gap p.1 stay

/-- A tick keeps a slot in its turn. -/
theorem turning_next {slots gap : Nat} (two : 2 ≤ slots) (p : LcdAnimator × Option Stay)
    (tick : LcdPlan × Nat) (h : Turning slots gap p)
    (admitted : Regular slots gap p tick ∧ KeepsText p.1 tick) :
    Turning slots gap (lcdTurns.next p tick) := by
  obtain ⟨a, stay⟩ := p
  obtain ⟨plan, now⟩ := tick
  obtain ⟨regular, keeps⟩ := admitted
  have isNext : lcdTurns.next (a, stay) (plan, now) =
      ((a.tick plan now).1, noteStay a stay (plan, now)) := rfl
  rw [isNext]
  cases stay with
  | none =>
    show InTurn slots gap (a.tick plan now).1 ⟨now, now⟩
    rw [show a = .new from h] at regular ⊢
    exact LcdAnimator.first_inTurn two regular
  | some stay =>
    unfold noteStay
    dsimp only
    by_cases done : a.row1.cycleDone now
    · obtain ⟨other, inTurn⟩ := LcdAnimator.turned_inTurn two h regular done
      rw [if_neg other]
      exact inTurn
    · obtain ⟨same, inTurn⟩ :=
        LcdAnimator.held_inTurn h regular done (keeps.resolve_left done)
      rw [if_pos same]
      exact inTurn

/-- **Turns.** In every run of plans of one number of slots, at least two, whose texts all fit, at ticks
no further apart than a gap, where a slot's text doesn't change while it is shown, no slot is shown for
longer than its hold and two gaps. -/
theorem slots_take_turns {slots : Nat} (gap : Nat) (two : 2 ≤ slots) (ticks : List (LcdPlan × Nat))
    (admitted : lcdTurns.Each (fun p tick => Regular slots gap p tick ∧ KeepsText p.1 tick)
      (.new, none) ticks) :
    lcdTurns.Each (TakesTurns gap) (.new, none) ticks := by
  refine Machine.Each.law (I := Turning slots gap) (turning_next two) ?_ rfl admitted
  rintro ⟨a, _⟩ ⟨plan, now⟩ turning ⟨regular, _⟩ stay rfl
  have late := InTurn.late turning
  have within := (regular.inTime stay rfl).2
  dsimp only at within ⊢
  omega

namespace Kitchen

/-- A plan of a countdown and a temperature. -/
def countdown (timer : String) : LcdPlan := ⟨"Bread", [timer, "212F>220F"]⟩

/-- A timer that runs, and a tick a second. -/
def runningTimer : List (LcdPlan × Nat) :=
  ["00:09", "00:08", "00:07", "00:06", "00:05", "00:04", "00:03"].mapIdx fun i timer =>
    (countdown timer, ticksOfSecs i)

/-- A timer and a temperature that each change while the other is shown, and a tick a second. -/
def hiddenChanges : List (LcdPlan × Nat) :=
  [("00:09", "212F>220F"), ("00:09", "213F>220F"), ("00:09", "214F>220F"), ("00:09", "215F>220F"),
    ("00:05", "216F>220F"), ("00:04", "216F>220F"), ("00:03", "216F>220F"), ("00:02", "216F>220F"),
    ("00:01", "220F>220F"), ("00:01", "221F>220F")].mapIdx
    fun i texts => (⟨"Bread", [texts.1, texts.2]⟩, ticksOfSecs i)

end Kitchen

/-- Where the texts change out of sight, both slots have their turns. -/
theorem hiddenChanges_turns :
    lcdTurns.Each (TakesTurns (ticksOfSecs 1)) (.new, none) Kitchen.hiddenChanges :=
  slots_take_turns (ticksOfSecs 1) (Nat.le_refl 2) Kitchen.hiddenChanges (by decide +kernel)

/-- A running countdown is shown for longer than its turn. -/
theorem countdown_stays :
    ¬ ∀ (slots gap : Nat) (ticks : List (LcdPlan × Nat)), 2 ≤ slots →
      lcdTurns.Each (Regular slots gap) (.new, none) ticks →
      lcdTurns.Each (TakesTurns gap) (.new, none) ticks := by
  intro always
  have stays := always 2 (ticksOfSecs 1) Kitchen.runningTimer (Nat.le_refl 2) (by decide +kernel)
  exact absurd stays (by decide +kernel)

end AnovaOven
