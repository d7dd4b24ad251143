import Mathlib.Data.List.Destutter

/-!
# What changed

A sequence of values without those that repeat the one before them, as `List.destutter` has it, built from its end:
a value is added where it isn't the last one (`destutter_concat`).
-/

namespace Changes

variable {α : Type*} [DecidableEq α]

/-- Of values that follow another. -/
theorem destutter'_concat (b : α) (xs : List α) (x : α) :
    (xs ++ [x]).destutter' (· ≠ ·) b =
      if (b :: xs).getLast? = some x then xs.destutter' (· ≠ ·) b else xs.destutter' (· ≠ ·) b ++ [x] := by
  induction xs generalizing b with
  | nil =>
    by_cases same : b = x <;> simp [same]
  | cons a xs ih =>
    rw [List.cons_append, List.destutter'_cons, List.destutter'_cons, List.getLast?_cons_cons]
    split
    · rw [ih]
      split <;> rfl
    · rename_i same
      rw [not_not.mp same]
      exact ih a

/-- **A value at the end** is added where it isn't the last one. -/
theorem destutter_concat (xs : List α) (x : α) :
    (xs ++ [x]).destutter (· ≠ ·) =
      if xs.getLast? = some x then xs.destutter (· ≠ ·) else xs.destutter (· ≠ ·) ++ [x] := by
  cases xs with
  | nil => rfl
  | cons a xs => exact destutter'_concat a xs x

end Changes
