import Mathlib.Algebra.Order.Monoid.Defs
import Mathlib.Data.List.Induction
import Mathlib.Order.Defs.LinearOrder

/-!
# Records of a list

A record of a list is an item whose key is above every key before it. Who reads a list item by item need only
keep the last record to tell the next one (`above_iff`), and a sum over neighbouring records grows by one
term at each (`sumSteps_concat`).
-/

universe u v w

namespace Records

variable {α : Type u} {κ : Type v} [LinearOrder κ] (key : α → κ)

/-- An item above all that came before it. -/
def Above (past : List α) (a : α) : Prop := ∀ b ∈ past, key b < key a

instance Above.decidable (past : List α) (a : α) : Decidable (Above key past a) :=
  inferInstanceAs (Decidable (∀ b ∈ past, key b < key a))

/-- The records of a list, after some items. -/
def recordsAfter : List α → List α → List α
  | _, [] => []
  | past, a :: l =>
    if Above key past a then a :: recordsAfter (past ++ [a]) l else recordsAfter (past ++ [a]) l

/-- The records of a list. -/
def records (l : List α) : List α := recordsAfter key [] l

variable {key}

theorem recordsAfter_concat (past l : List α) (a : α) :
    recordsAfter key past (l ++ [a]) =
      recordsAfter key past l ++ if Above key (past ++ l) a then [a] else [] := by
  induction l generalizing past with
  | nil =>
    rw [List.append_nil]
    rfl
  | cons b l ih =>
    have next := ih (past ++ [b])
    rw [List.append_assoc, List.singleton_append] at next
    simp only [List.cons_append, recordsAfter, next]
    split <;> rfl

/-- One more item is a record, or leaves them as they are. -/
theorem records_concat (l : List α) (a : α) :
    records key (l ++ [a]) = records key l ++ if Above key l a then [a] else [] :=
  recordsAfter_concat [] l a

theorem records_concat_above {l : List α} {a : α} (above : Above key l a) :
    records key (l ++ [a]) = records key l ++ [a] := by
  rw [records_concat, if_pos above]

theorem records_concat_below {l : List α} {a : α} (below : ¬ Above key l a) :
    records key (l ++ [a]) = records key l := by
  rw [records_concat, if_neg below, List.append_nil]

/-- **The last record** is all it takes to tell the next. -/
theorem above_iff {l : List α} {a : α} : Above key l a ↔ ∀ b ∈ (records key l).getLast?, key b < key a := by
  induction l using List.reverseRecOn generalizing a with
  | nil =>
    constructor
    · intro _ _ none
      cases none
    · intro _ _ none
      cases none
  | append_singleton l b ih =>
    by_cases above : Above key l b
    · rw [records_concat_above above, List.getLast?_concat]
      constructor
      · intro all c last
        obtain rfl := Option.mem_some.mp last
        exact all _ List.mem_concat_self
      · intro past c item
        have before := past b rfl
        rcases List.mem_append.mp item with old | new
        · exact (above c old).trans before
        · obtain rfl := List.mem_singleton.mp new
          exact before
    · rw [records_concat_below above, ← ih]
      constructor
      · exact fun all c item => all c (List.mem_append_left _ item)
      · intro all c item
        rcases List.mem_append.mp item with old | new
        · exact all c old
        · obtain rfl := List.mem_singleton.mp new
          -- What keeps `c` from being a record keeps it below `a`.
          unfold Above at above
          push Not at above
          obtain ⟨d, old, le⟩ := above
          exact le.trans_lt (all d old)

section Sums

variable {M : Type w} [AddMonoid M]

/-- The sum over each item and the next. -/
def sumSteps (f : α → α → M) : List α → M
  | [] => 0
  | a :: l => l.head?.elim 0 (f a) + sumSteps f l

theorem sumSteps_concat (f : α → α → M) (l : List α) (b : α) :
    sumSteps f (l ++ [b]) = sumSteps f l + l.getLast?.elim 0 (f · b) := by
  induction l with
  | nil => rfl
  | cons a l ih =>
    cases l with
    | nil =>
      show f a b + (0 + 0) = 0 + 0 + f a b
      simp only [add_zero, zero_add]
    | cons c l =>
      show f a c + sumSteps f (c :: l ++ [b]) = f a c + sumSteps f (c :: l) + _
      rw [ih, add_assoc, List.getLast?_cons_cons]

end Sums

end Records
