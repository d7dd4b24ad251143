import Mathlib.Data.List.Basic
import Mathlib.Data.List.Induction

/-!
# Rows repainted by spans

A span is a run of cells and the column it starts at; painting a row with spans writes each in turn.
A `Patch` of one row to another is a list of spans that are cells of the other, apart from one
another, and cover exactly the cells the rows differ in. Painting the one with it gives the other
(`Patch.paint`), and a scan of the two rows that collects the runs of cells that differ is one
(`scan_patch`).

Spans that come one by one from the row's start, none further than the end of one before it, cover all that
comes before the end of any (`Gapless.concat`).
-/

universe u

variable {α : Type u}

/-- A run of cells, and the column of the first. -/
structure Span (α : Type u) where
  col : Nat
  cells : List α
  deriving Repr, DecidableEq

namespace Span

/-- The column after a span's last cell. -/
def endCol (s : Span α) : Nat := s.col + s.cells.length

/-- A column that is one of a span's. -/
def Covers (s : Span α) (i : Nat) : Prop := s.col ≤ i ∧ i < s.endCol

/-- A row with a span written to it; what is past the row's end is lost. -/
def writeTo (s : Span α) (row : List α) : List α :=
  row.mapIdx fun i cell => if s.col ≤ i then (s.cells[i - s.col]?).getD cell else cell

/-- A row with spans written to it, in order. -/
def paint (row : List α) (spans : List (Span α)) : List α :=
  spans.foldl (fun row s => s.writeTo row) row

@[simp] theorem length_writeTo (s : Span α) (row : List α) : (s.writeTo row).length = row.length :=
  List.length_mapIdx

@[simp] theorem length_paint (row : List α) (spans : List (Span α)) :
    (paint row spans).length = row.length := by
  induction spans generalizing row with
  | nil => rfl
  | cons s spans ih => exact (ih (s.writeTo row)).trans (length_writeTo s row)

/-- A span's cells are a row's, in their columns. -/
def IsOf (s : Span α) (row : List α) : Prop :=
  ∀ k cell, s.cells[k]? = some cell → row[s.col + k]? = some cell

/-- Writing cells of another row puts them where the span is, and leaves the others. -/
theorem getElem?_writeTo {s : Span α} {row next : List α} (isOf : s.IsOf next)
    (same : row.length = next.length) {i : Nat} :
    (s.Covers i → (s.writeTo row)[i]? = next[i]?) ∧
      (¬ s.Covers i → (s.writeTo row)[i]? = row[i]?) := by
  unfold writeTo
  rw [List.getElem?_mapIdx]
  constructor
  · rintro ⟨from', upTo⟩
    have inside : i - s.col < s.cells.length := by
      unfold endCol at upTo
      omega
    have cell := isOf (i - s.col) _ (List.getElem?_eq_getElem inside)
    rw [Nat.add_sub_cancel' from'] at cell
    have bound : i < row.length := by
      rw [same]
      exact (List.getElem?_eq_some_iff.mp cell).1
    rw [cell, List.getElem?_eq_getElem bound, Option.map_some, if_pos from',
      List.getElem?_eq_getElem inside]
    rfl
  · intro outside
    have kept : ∀ cell : α,
        (if s.col ≤ i then (s.cells[i - s.col]?).getD cell else cell) = cell := by
      intro cell
      split
      · rename_i from'
        have past : s.cells.length ≤ i - s.col := by
          have notUpTo : ¬ i < s.endCol := fun upTo => outside ⟨from', upTo⟩
          unfold endCol at notUpTo
          omega
        rw [List.getElem?_eq_none past]
        rfl
      · rfl
    simp only [kept, Option.map_id']

end Span

/-- The spans that take one row to another: cells of the other, apart, and exactly where the two
differ. -/
structure Patch (prev next : List α) (spans : List (Span α)) : Prop where
  isOf : ∀ s ∈ spans, s.IsOf next
  bounded : ∀ s ∈ spans, s.endCol ≤ next.length
  apart : spans.Pairwise fun s t => s.endCol < t.col
  covers : ∀ i, (∃ s ∈ spans, s.Covers i) ↔ prev[i]? ≠ next[i]?

/-- Painting with cells of another row puts them where any of the spans is. -/
theorem getElem?_paint {row next : List α} {spans : List (Span α)}
    (isOf : ∀ s ∈ spans, s.IsOf next) (same : row.length = next.length) {i : Nat} :
    ((∃ s ∈ spans, s.Covers i) → (Span.paint row spans)[i]? = next[i]?) ∧
      ((¬ ∃ s ∈ spans, s.Covers i) → (Span.paint row spans)[i]? = row[i]?) := by
  induction spans generalizing row with
  | nil => simp [Span.paint]
  | cons s spans ih =>
    have first := Span.getElem?_writeTo (isOf s List.mem_cons_self) same (i := i)
    have rest := ih (fun t item => isOf t (List.mem_cons_of_mem s item))
      ((Span.length_writeTo s row).trans same)
    show (_ → (Span.paint (s.writeTo row) spans)[i]? = _) ∧
      (_ → (Span.paint (s.writeTo row) spans)[i]? = _)
    by_cases later : ∃ t ∈ spans, t.Covers i
    · obtain ⟨t, item, covered⟩ := later
      refine ⟨fun _ => rest.1 ⟨t, item, covered⟩, fun none => ?_⟩
      exact absurd ⟨t, List.mem_cons_of_mem s item, covered⟩ none
    · rw [rest.2 later]
      constructor
      · rintro ⟨t, item, covered⟩
        rcases List.mem_cons.mp item with rfl | item
        · exact first.1 covered
        · exact absurd ⟨t, item, covered⟩ later
      · intro none
        exact first.2 fun covered => none ⟨s, List.mem_cons_self, covered⟩

/-- **Patches.** A row painted with a patch to another is that other row. -/
theorem Patch.paint {prev next : List α} {spans : List (Span α)} (h : Patch prev next spans)
    (same : prev.length = next.length) : Span.paint prev spans = next := by
  apply List.ext_getElem?
  intro i
  have painted := getElem?_paint h.isOf same (i := i)
  by_cases covered : ∃ s ∈ spans, s.Covers i
  · exact painted.1 covered
  · rw [painted.2 covered]
    exact not_not.mp fun differ => covered ((h.covers i).mpr differ)

/-- One row has no patch to itself but the empty one. -/
theorem Patch.refl (row : List α) : Patch row row [] := by
  constructor <;> simp

/-! ## Scanning for what differs -/

/-- A scan of two rows: the runs that are over, and the one that isn't. -/
structure Scan (α : Type u) where
  done : List (Span α)
  run : Option (Span α)

namespace Scan

/-- All the runs. -/
def spans (scan : Scan α) : List (Span α) := scan.done ++ scan.run.toList

/-- A cell of the new row, at its column, joins the run that isn't over or begins one. -/
def extend (scan : Scan α) (i : Nat) (cell : α) : Scan α :=
  ⟨scan.done, some (match scan.run with
    | some s => ⟨s.col, s.cells ++ [cell]⟩
    | none => ⟨i, [cell]⟩)⟩

/-- The run that isn't over is. -/
def close (scan : Scan α) : Scan α := ⟨scan.spans, none⟩

/-- One pair of cells, at its column. -/
def step [DecidableEq α] (scan : Scan α) (pair : (α × α) × Nat) : Scan α :=
  if pair.1.1 ≠ pair.1.2 then scan.extend pair.2 pair.1.2 else scan.close

/-- The scan of two rows, given as pairs of cells. -/
def of [DecidableEq α] (pairs : List (α × α)) : Scan α := pairs.zipIdx.foldl step ⟨[], none⟩

theorem of_concat [DecidableEq α] (pairs : List (α × α)) (pair : α × α) :
    of (pairs ++ [pair]) = (of pairs).step (pair, pairs.length) := by
  unfold of
  rw [List.zipIdx_append, List.foldl_append]
  simp

/-- What a scan has found of the pairs it has seen. -/
structure Found (pairs : List (α × α)) (scan : Scan α) : Prop where
  isOf : ∀ s ∈ scan.spans, s.IsOf (pairs.map Prod.snd)
  apart : scan.spans.Pairwise fun s t => s.endCol < t.col
  covers : ∀ i, (∃ s ∈ scan.spans, s.Covers i) ↔ ∃ pair, pairs[i]? = some pair ∧ pair.1 ≠ pair.2
  ended : ∀ s ∈ scan.done, s.endCol < pairs.length
  running : ∀ s, scan.run = some s → s.endCol = pairs.length

theorem found_nil : Found ([] : List (α × α)) ⟨[], none⟩ := by
  constructor <;> simp [spans]

variable {pairs : List (α × α)} {pair : α × α} {scan : Scan α}

theorem isOf_concat {s : Span α} (h : s.IsOf (pairs.map Prod.snd)) :
    s.IsOf ((pairs ++ [pair]).map Prod.snd) := by
  intro k cell isCell
  have found := h k cell isCell
  rw [List.map_append, List.getElem?_append_left (List.getElem?_eq_some_iff.mp found).1]
  exact found

/-- A differing pair at a column, among the pairs seen with one more. -/
theorem differs_concat {i : Nat} :
    (∃ p, (pairs ++ [pair])[i]? = some p ∧ p.1 ≠ p.2) ↔
      (∃ p, pairs[i]? = some p ∧ p.1 ≠ p.2) ∨ i = pairs.length ∧ pair.1 ≠ pair.2 := by
  rcases Nat.lt_trichotomy i pairs.length with before | rfl | after
  · rw [List.getElem?_append_left before]
    simp [Nat.ne_of_lt before]
  · simp
  · have past : (pairs ++ [pair])[i]? = none := List.getElem?_eq_none (by simp; omega)
    have past' : pairs[i]? = none := List.getElem?_eq_none (Nat.le_of_lt after)
    simp [past, past', Nat.ne_of_gt after]

/-- A pair of equal cells ends the run. -/
theorem Found.close (h : Found pairs scan) (same : pair.1 = pair.2) :
    Found (pairs ++ [pair]) scan.close := by
  have all : scan.close.spans = scan.spans := List.append_nil _
  have bound : ∀ s ∈ scan.spans, s.endCol ≤ pairs.length := by
    intro s item
    rcases List.mem_append.mp item with ended | running
    · exact Nat.le_of_lt (h.ended s ended)
    · exact Nat.le_of_eq (h.running s (Option.mem_toList.mp running))
  constructor
  · rw [all]
    exact fun s item => isOf_concat (h.isOf s item)
  · rw [all]
    exact h.apart
  · intro i
    rw [all, differs_concat, h.covers i]
    simp [same]
  · intro s item
    rw [List.length_append]
    exact Nat.lt_succ_of_le (bound s item)
  · intro s running
    cases running

/-- The run a differing pair extends or begins. -/
theorem Found.extended (h : Found pairs scan) (pair : α × α) :
    ∃ s, (scan.extend pairs.length pair.2).run = some s ∧ s.endCol = pairs.length + 1 ∧
      s.IsOf ((pairs ++ [pair]).map Prod.snd) ∧ (∀ t ∈ scan.done, t.endCol < s.col) ∧
      ∀ i, s.Covers i ↔ (∃ t ∈ scan.run.toList, t.Covers i) ∨ i = pairs.length := by
  unfold extend
  cases running : scan.run with
  | none =>
    refine ⟨⟨pairs.length, [pair.2]⟩, rfl, rfl, ?_, h.ended, ?_⟩
    · intro k cell isCell
      cases k with
      | zero => simpa using isCell
      | succ k => simp at isCell
    · intro i
      simp [Span.Covers, Span.endCol]
      omega
  | some s =>
    have ends := h.running s running
    have item : s ∈ scan.spans := by simp [spans, running]
    refine ⟨⟨s.col, s.cells ++ [pair.2]⟩, rfl, ?_, ?_, ?_, ?_⟩
    · rw [← ends]
      simp [Span.endCol, Nat.add_assoc]
    · intro k cell isCell
      rcases Nat.lt_or_ge k s.cells.length with inside | past
      · rw [List.getElem?_append_left inside] at isCell
        exact isOf_concat (h.isOf s item) k cell isCell
      · have last : k = s.cells.length := by
          have bound := (List.getElem?_eq_some_iff.mp isCell).1
          simp at bound
          omega
        subst last
        have col : s.col + s.cells.length = pairs.length := ends
        simp only [List.getElem?_concat_length] at isCell
        show ((pairs ++ [pair]).map Prod.snd)[s.col + s.cells.length]? = some cell
        rw [col]
        simpa using isCell
    · intro t ended
      have apart := (List.pairwise_append.mp h.apart).2.2 t ended s
      exact apart (by simp [running])
    · intro i
      have col : s.col + s.cells.length = pairs.length := ends
      simp only [Span.Covers, Span.endCol, List.length_append, List.length_singleton,
        Option.toList_some, List.mem_singleton, exists_eq_left]
      omega

/-- A pair of different cells joins the run. -/
theorem Found.extend (h : Found pairs scan) (differ : pair.1 ≠ pair.2) :
    Found (pairs ++ [pair]) (scan.extend pairs.length pair.2) := by
  obtain ⟨s, isRun, ends, isOf, apart, covers⟩ := h.extended pair
  have all : (scan.extend pairs.length pair.2).spans = scan.done ++ [s] := by
    unfold spans
    rw [isRun]
    rfl
  have old : ∀ t ∈ scan.done, t ∈ scan.spans := fun t ended => List.mem_append_left _ ended
  constructor
  · rw [all]
    intro t item
    rcases List.mem_append.mp item with ended | new
    · exact isOf_concat (h.isOf t (old t ended))
    · rw [List.mem_singleton.mp new]
      exact isOf
  · rw [all, List.pairwise_append]
    refine ⟨(List.pairwise_append.mp h.apart).1, List.pairwise_singleton _ _, ?_⟩
    intro t ended t' new
    rw [List.mem_singleton.mp new]
    exact apart t ended
  · intro i
    rw [all, differs_concat, ← h.covers i]
    simp only [spans, List.mem_append, or_and_right, exists_or, List.mem_singleton, exists_eq_left,
      covers i, ne_eq, differ, not_false_eq_true, and_true, or_assoc]
  · intro t ended
    rw [List.length_append]
    exact Nat.lt_succ_of_lt (h.ended t ended)
  · intro t running
    obtain rfl := Option.some.inj (isRun.symm.trans running)
    rw [List.length_append]
    exact ends

variable [DecidableEq α]

theorem of_found (pairs : List (α × α)) : Found pairs (of pairs) := by
  induction pairs using List.reverseRecOn with
  | nil => exact found_nil
  | append_singleton pairs pair ih =>
    rw [of_concat]
    unfold step
    split
    · rename_i differ
      exact ih.extend differ
    · rename_i same
      exact ih.close (not_not.mp same)

end Scan

/-- **Scanning.** The runs a scan of two rows of one length finds are a patch of the one to the
other. -/
theorem scan_patch [DecidableEq α] {prev next : List α} (same : prev.length = next.length) :
    Patch prev next (Scan.of (prev.zip next)).spans := by
  have found := Scan.of_found (prev.zip next)
  have second : (prev.zip next).map Prod.snd = next := List.map_snd_zip (Nat.le_of_eq same.symm)
  have length : (prev.zip next).length = next.length := by simp [same]
  constructor
  · have isOf := found.isOf
    rw [second] at isOf
    exact isOf
  · intro s item
    rw [← length]
    rcases List.mem_append.mp item with ended | running
    · exact Nat.le_of_lt (found.ended s ended)
    · exact Nat.le_of_eq (found.running s (Option.mem_toList.mp running))
  · exact found.apart
  · intro i
    rw [found.covers i]
    constructor
    · rintro ⟨pair, isPair, differ⟩ equal
      obtain ⟨first, second⟩ := List.getElem?_zip_eq_some.mp isPair
      rw [first, second] at equal
      exact differ (Option.some.inj equal)
    · intro differ
      have inside : i < prev.length := by
        refine Nat.lt_of_not_le fun past => differ ?_
        rw [List.getElem?_eq_none past, List.getElem?_eq_none (same ▸ past)]
      have first := List.getElem?_eq_getElem inside
      have second := List.getElem?_eq_getElem (same ▸ inside : i < next.length)
      refine ⟨(prev[i], next[i]), List.getElem?_zip_eq_some.mpr ⟨first, second⟩, ?_⟩
      intro equal
      exact differ (by rw [first, second]; exact congrArg some equal)

/-! ## Spans without gaps -/

/-- Spans cover all that comes before the end of any of them. -/
def Gapless (spans : List (Span α)) : Prop := ∀ s ∈ spans, ∀ i < s.endCol, ∃ t ∈ spans, t.Covers i

/-- A span at the row's start. -/
theorem gapless_singleton {s : Span α} (start : s.col = 0) : Gapless [s] := by
  intro t item i before
  obtain rfl := List.mem_singleton.mp item
  exact ⟨t, item, by rw [start]; exact Nat.zero_le i, before⟩

/-- **One more span**, from no further than the end of one before it. -/
theorem Gapless.concat {spans : List (Span α)} (gapless : Gapless spans) {s : Span α}
    (near : ∃ t ∈ spans, s.col ≤ t.endCol) : Gapless (spans ++ [s]) := by
  -- What was covered still is.
  have old (t : Span α) (item : t ∈ spans) (i : Nat) (before : i < t.endCol) :
      ∃ u ∈ spans ++ [s], u.Covers i := by
    obtain ⟨u, mem, covers⟩ := gapless t item i before
    exact ⟨u, List.mem_append_left _ mem, covers⟩
  intro t item i before
  rcases List.mem_append.mp item with earlier | new
  · exact old t earlier i before
  · obtain rfl := List.mem_singleton.mp new
    rcases Nat.lt_or_ge i t.col with below | inside
    · obtain ⟨u, mem, reaches⟩ := near
      exact old u mem i (Nat.lt_of_lt_of_le below reaches)
    · exact ⟨t, item, inside, before⟩
