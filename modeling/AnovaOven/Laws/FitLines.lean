import AnovaOven.PicoCore.ViewPlan
import Mathlib.Algebra.Ring.Int.Defs
import Mathlib.Order.Bounds.Basic

/-!
# Laws of the lines that fit

The last line kept is measured by its ink and the others by their heights, so the height of so many lines is
no sum of one measure. But the bottoms of the lines' ink (`bottoms`) go down the panel line by line, since a
line's ink is no higher than the line, so the loop stops at the first bottom past the panel and every later
one is past it too: it counts the bottoms on the panel (`fitFrom_eq`). So many lines fit just as many
bottoms are on it (`fits_iff`).
-/

namespace AnovaOven

variable (metrics : FontRole → LineMetrics)

/-- A line's height. -/
def lineHeight (line : PlanLine) : Int := (metrics line.role).lineHeight.toInt

/-- The height of its ink. -/
def inkHeight (line : PlanLine) : Int := (metrics line.role).inkHeight.toInt

/-- The height of some lines: the last by its ink, the others by their heights. -/
def stackHeight (lines : List PlanLine) : Int :=
  (lines.dropLast.map (lineHeight metrics)).sum + (lines.getLast?.map (inkHeight metrics)).getD 0

/-- Whether some lines fit. No lines do anywhere. -/
def LinesFit (avail : Int32) (lines : List PlanLine) : Prop :=
  lines = [] ∨ stackHeight metrics lines ≤ avail.toInt

/-- Lines with ink no higher than they are. -/
def Inked (lines : List PlanLine) : Prop :=
  ∀ line ∈ lines, 0 ≤ inkHeight metrics line ∧ inkHeight metrics line ≤ lineHeight metrics line

/-- The lines' heights sum up within 32 bits. -/
def SumFits (lines : List PlanLine) : Prop := (lines.map (lineHeight metrics)).sum ≤ 2147483647

/-- How far down the ink of each line comes, where the first begins at some height. -/
def bottoms (used : Int) : List PlanLine → List Int
  | [] => []
  | line :: lines => (used + inkHeight metrics line) :: bottoms (used + lineHeight metrics line) lines

variable {metrics} {line : PlanLine} {lines : List PlanLine}

/-! ## Bottoms -/

theorem Inked.tail (inked : Inked metrics (line :: lines)) : Inked metrics lines :=
  fun l item => inked l (List.mem_cons_of_mem line item)

/-- The heights of inked lines aren't below zero, nor is their sum. -/
theorem Inked.sum_nonneg (inked : Inked metrics lines) : 0 ≤ (lines.map (lineHeight metrics)).sum := by
  induction lines with
  | nil => exact Int.le_refl 0
  | cons line lines ih =>
    obtain ⟨positive, within⟩ := inked line List.mem_cons_self
    have rest := ih inked.tail
    rw [List.map_cons, List.sum_cons]
    omega

theorem bottoms_ge {used : Int} (inked : Inked metrics lines) :
    ∀ bottom ∈ bottoms metrics used lines, used ≤ bottom := by
  induction lines generalizing used with
  | nil => exact fun _ item => absurd item List.not_mem_nil
  | cons line lines ih =>
    obtain ⟨positive, within⟩ := inked line List.mem_cons_self
    intro bottom item
    rcases List.mem_cons.mp item with rfl | item
    · omega
    · have later := ih inked.tail bottom item
      omega

/-- Where a line's ink is past the panel, so is every later one's. -/
theorem bottoms_past {used avail : Int} (inked : Inked metrics (line :: lines))
    (past : avail < used + inkHeight metrics line) :
    (bottoms metrics (used + lineHeight metrics line) lines).countP (· ≤ avail) = 0 := by
  rw [List.countP_eq_zero]
  intro bottom item on
  have below := bottoms_ge inked.tail bottom item
  have within := (inked line List.mem_cons_self).2
  have on := of_decide_eq_true on
  omega

/-- The bottoms on the panel, one line at a time. -/
theorem countP_bottoms_cons {used avail : Int} :
    (bottoms metrics used (line :: lines)).countP (· ≤ avail) =
      (bottoms metrics (used + lineHeight metrics line) lines).countP (· ≤ avail) +
        if used + inkHeight metrics line ≤ avail then 1 else 0 := by
  rw [bottoms, List.countP_cons]
  simp only [decide_eq_true_eq]

/-! ## The loop -/

/-- Sums that fit don't wrap. -/
theorem toInt_add_of_fits {a b : Int32} (positive : 0 ≤ a.toInt + b.toInt)
    (fits : a.toInt + b.toInt ≤ 2147483647) : (a + b).toInt = a.toInt + b.toInt := by
  rw [Int32.toInt_add]
  exact Int.bmod_eq_of_le_mul_two (by omega) (by omega)

/-- **The loop** counts the bottoms on the panel, once it keeps a line. -/
theorem fitFrom_eq (avail : Int32) {used : Int32} {kept : Nat} (some : 0 < kept) (positive : 0 ≤ used.toInt)
    (inked : Inked metrics lines)
    (sum : used.toInt + (lines.map (lineHeight metrics)).sum ≤ 2147483647) :
    fitFrom metrics avail used kept lines =
      kept + (bottoms metrics used.toInt lines).countP (· ≤ avail.toInt) := by
  induction lines generalizing used kept with
  | nil => rfl
  | cons line lines ih =>
    obtain ⟨ink, within⟩ := inked line List.mem_cons_self
    have rest := inked.tail.sum_nonneg
    rw [List.map_cons, List.sum_cons] at sum
    have bottom : (used + (metrics line.role).inkHeight).toInt = used.toInt + inkHeight metrics line :=
      toInt_add_of_fits (Int.add_nonneg positive ink) (by unfold inkHeight lineHeight at *; omega)
    have next : (used + (metrics line.role).lineHeight).toInt = used.toInt + lineHeight metrics line :=
      toInt_add_of_fits (Int.add_nonneg positive (Int.le_trans ink within))
        (by unfold inkHeight lineHeight at *; omega)
    rw [countP_bottoms_cons]
    unfold fitFrom
    by_cases past : used + (metrics line.role).inkHeight > avail
    · have past' : avail.toInt < used.toInt + inkHeight metrics line := bottom ▸ Int32.lt_iff_toInt_lt.mp past
      rw [if_pos ⟨some, past⟩, bottoms_past inked past', if_neg (Int.not_le.mpr past')]
      rfl
    · have on : used.toInt + inkHeight metrics line ≤ avail.toInt := by
        rw [← bottom]
        exact Int.not_lt.mp fun beyond => past (Int32.lt_iff_toInt_lt.mpr beyond)
      rw [if_neg fun both => past both.2, ih (Nat.succ_pos kept) (by omega) inked.tail (by omega), next,
        if_pos on]
      omega

/-- **What is kept**: a line for each bottom on the panel, and the first line in any case. -/
theorem fitLineCount_eq (avail : Int32) (inked : Inked metrics lines) (sum : SumFits metrics lines) :
    fitLineCount lines avail metrics =
      max ((bottoms metrics 0 lines).countP (· ≤ avail.toInt)) (min 1 lines.length) := by
  cases lines with
  | nil => rfl
  | cons line lines =>
    obtain ⟨ink, within⟩ := inked line List.mem_cons_self
    have rest := inked.tail.sum_nonneg
    unfold SumFits at sum
    rw [List.map_cons, List.sum_cons] at sum
    have kept := fitFrom_eq avail (Nat.succ_pos 0) (Int.le_trans ink within) inked.tail sum
    have first : fitLineCount (line :: lines) avail metrics =
        fitFrom metrics avail (metrics line.role).lineHeight 1 lines := by
      show fitFrom metrics avail (0 + (metrics line.role).lineHeight) 1 lines = _
      rw [Int32.zero_add]
    rw [first, kept, countP_bottoms_cons, Int.zero_add, Int.zero_add]
    show 1 + (bottoms metrics (lineHeight metrics line) lines).countP _ = _
    rw [List.length_cons]
    split_ifs with on
    · omega
    · have past : avail.toInt < 0 + inkHeight metrics line := by omega
      have none := bottoms_past inked past
      rw [Int.zero_add] at none
      omega

/-! ## So many lines -/

theorem stackHeight_cons (line : PlanLine) (lines : List PlanLine) :
    stackHeight metrics (line :: lines) =
      if lines = [] then inkHeight metrics line else lineHeight metrics line + stackHeight metrics lines := by
  cases lines with
  | nil => exact Int.zero_add _
  | cons next lines =>
    rw [if_neg (List.cons_ne_nil next lines)]
    unfold stackHeight
    rw [List.dropLast_cons_of_ne_nil (List.cons_ne_nil next lines), List.map_cons, List.sum_cons,
      List.getLast?_cons_cons, Int.add_assoc]

/-- So many lines fit just as many bottoms are on the panel. -/
theorem fits_iff {used avail : Int} (inked : Inked metrics lines) {n : Nat} (within : n ≤ lines.length) :
    (lines.take n = [] ∨ used + stackHeight metrics (lines.take n) ≤ avail) ↔
      n ≤ (bottoms metrics used lines).countP (· ≤ avail) := by
  induction n generalizing used lines with
  | zero => exact iff_of_true (.inl List.take_zero) (Nat.zero_le _)
  | succ n ih =>
    cases lines with
    | nil => exact absurd within (Nat.not_succ_le_zero n)
    | cons line lines =>
      have rest : (lines.take n = [] ∨
          used + lineHeight metrics line + stackHeight metrics (lines.take n) ≤ avail) ↔ _ :=
        ih inked.tail (Nat.le_of_succ_le_succ within)
      rw [List.take_succ_cons, countP_bottoms_cons, stackHeight_cons]
      simp only [List.cons_ne_nil, false_or]
      by_cases on : used + inkHeight metrics line ≤ avail
      · rw [if_pos on]
        by_cases last : lines.take n = []
        · rw [if_pos last]
          exact iff_of_true on (Nat.succ_le_succ (rest.mp (.inl last)))
        · rw [if_neg last, ← Int.add_assoc, Nat.succ_le_succ_iff, ← rest]
          exact (or_iff_right last).symm
      · -- The later lines are past the panel with this one.
        rw [if_neg on, bottoms_past inked (Int.not_le.mp on)]
        rw [bottoms_past inked (Int.not_le.mp on)] at rest
        refine iff_of_false ?_ (by omega)
        by_cases last : lines.take n = []
        · rwa [if_pos last]
        · rw [if_neg last, ← Int.add_assoc]
          intro fits
          have zero := rest.mp (.inr fits)
          obtain rfl : n = 0 := by omega
          exact last List.take_zero

theorem length_bottoms (used : Int) : (bottoms metrics used lines).length = lines.length := by
  induction lines generalizing used with
  | nil => rfl
  | cons line lines ih => exact congrArg Nat.succ (ih _)

/-- **The lines that fit.** Of lines with ink no higher than they are, the most are kept that fit, the last
measured by its ink; and the first where even it doesn't fit. A higher panel keeps no fewer. -/
theorem fit_line_count (inked : Inked metrics lines) (sum : SumFits metrics lines) :
    (∀ avail,
      (lines = [] ∨ LinesFit metrics avail (lines.take 1) →
        IsGreatest { n | n ≤ lines.length ∧ LinesFit metrics avail (lines.take n) }
          (fitLineCount lines avail metrics)) ∧
      (lines ≠ [] ∧ ¬ LinesFit metrics avail (lines.take 1) → fitLineCount lines avail metrics = 1)) ∧
    ∀ avail more, avail ≤ more → fitLineCount lines avail metrics ≤ fitLineCount lines more metrics := by
  -- The count of the bottoms decides.
  have fits (avail : Int32) {n : Nat} (within : n ≤ lines.length) :
      LinesFit metrics avail (lines.take n) ↔
        n ≤ (bottoms metrics 0 lines).countP (· ≤ avail.toInt) := by
    rw [← fits_iff inked within, Int.zero_add]
    rfl
  have bounded (avail : Int32) : (bottoms metrics 0 lines).countP (· ≤ avail.toInt) ≤ lines.length :=
    Nat.le_trans List.countP_le_length (Nat.le_of_eq (length_bottoms 0))
  refine ⟨fun avail => ⟨?fit, ?first⟩, ?more⟩
  case fit =>
    intro some
    have count : fitLineCount lines avail metrics =
        (bottoms metrics 0 lines).countP (· ≤ avail.toInt) := by
      rw [fitLineCount_eq avail inked sum]
      rcases some with none | one
      · rw [none]
        rfl
      · have within := bounded avail
        by_cases empty : lines.length = 0
        · omega
        · have kept := (fits avail (Nat.pos_of_ne_zero empty)).mp one
          omega
    rw [count]
    exact ⟨⟨bounded avail, (fits avail (bounded avail)).mpr (Nat.le_refl _)⟩,
      fun n ⟨within, fit⟩ => (fits avail within).mp fit⟩
  case first =>
    rintro ⟨some, past⟩
    have one : 1 ≤ lines.length := List.length_pos_iff.mpr some
    have zero := mt (fits avail one).mpr past
    rw [fitLineCount_eq avail inked sum]
    omega
  case more =>
    intro avail more higher
    have counts : (bottoms metrics 0 lines).countP (· ≤ avail.toInt) ≤
        (bottoms metrics 0 lines).countP (· ≤ more.toInt) := by
      apply List.countP_mono_left
      intro bottom _ on
      exact decide_eq_true (Int.le_trans (of_decide_eq_true on) (Int32.le_iff_toInt_le.mp higher))
    rw [fitLineCount_eq avail inked sum, fitLineCount_eq more inked sum]
    omega

namespace Kitchen

/-- A panel's fonts. -/
def panelFonts : FontRole → LineMetrics
  | .giant => ⟨30, 24⟩
  | .hero => ⟨20, 16⟩
  | .title => ⟨14, 11⟩
  | .body => ⟨10, 8⟩

/-- A title and two details. -/
def cookingLines : List PlanLine := [⟨.title, "Bread"⟩, ⟨.body, "Timer: 05:00"⟩, ⟨.body, "S: 100%"⟩]

end Kitchen

/-- On a panel of 22 the title and the first detail are kept, and no fewer on a higher one. -/
theorem fit_line_count_two :
    fitLineCount Kitchen.cookingLines 22 Kitchen.panelFonts = 2 ∧
      fitLineCount Kitchen.cookingLines 22 Kitchen.panelFonts ≤
        fitLineCount Kitchen.cookingLines 40 Kitchen.panelFonts :=
  ⟨by decide, (@fit_line_count Kitchen.panelFonts Kitchen.cookingLines
    (by unfold Inked; decide) (by unfold SumFits; decide)).2 22 40 (by decide)⟩

end AnovaOven
