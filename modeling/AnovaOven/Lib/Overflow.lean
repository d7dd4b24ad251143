import Mathlib.Data.Option.Basic

/-!
# Arithmetic that may overflow

What unsigned 64-bit arithmetic does with a result that is too large is the build's to say: it panics, or wraps
around. Either way a computation from sums and products comes to what its exact result does
(`fit_add_bind`): it is enough to know that number, and that it fits (`fit_of_lt`) or does not
(`fit_panics`).
-/

/-- What a build does where a result is too large. -/
inductive Overflow where
  | panics
  | wraps
  deriving Repr, DecidableEq

namespace Overflow

/-- An exact result as a build has it, and none where the build panics. -/
def fit : Overflow → Nat → Option UInt64
  | .panics, n => if n < UInt64.size then some (.ofNat n) else none
  | .wraps, n => some (.ofNat n)

/-- A sum. -/
def add (o : Overflow) (x y : UInt64) : Option UInt64 := o.fit (x.toNat + y.toNat)

/-- A product. -/
def mul (o : Overflow) (x y : UInt64) : Option UInt64 := o.fit (x.toNat * y.toNat)

variable {o : Overflow} {a b n : Nat}

/-- What fits is exact in every build. -/
theorem fit_of_lt (small : n < UInt64.size) : o.fit n = some (.ofNat n) := by
  cases o with
  | panics => exact if_pos small
  | wraps => rfl

/-- What does not fit is a panic in a build that has them. -/
theorem fit_panics (large : UInt64.size ≤ n) : panics.fit n = none := if_neg (Nat.not_lt.mpr large)

@[simp] theorem fit_zero : o.fit 0 = some 0 := fit_of_lt (by decide)

@[simp] theorem fit_toNat (x : UInt64) : o.fit x.toNat = some x := by
  rw [fit_of_lt x.toNat_lt, UInt64.ofNat_toNat]

/-- **Sums of computations.** The sum of what two of them come to is what the exact sum does. -/
theorem fit_add (o : Overflow) (a b : Nat) :
    ((o.fit a).bind fun x => (o.fit b).bind fun y => o.add x y) = o.fit (a + b) := by
  cases o with
  | panics =>
    by_cases left : a < UInt64.size
    · by_cases right : b < UInt64.size
      · rw [fit_of_lt left, fit_of_lt right]
        show panics.fit ((UInt64.ofNat a).toNat + (UInt64.ofNat b).toNat) = panics.fit (a + b)
        rw [UInt64.toNat_ofNat_of_lt' left, UInt64.toNat_ofNat_of_lt' right]
      · have large := Nat.not_lt.mp right
        rw [fit_of_lt left, fit_panics large, fit_panics (Nat.le_add_left_of_le large)]
        rfl
    · have large := Nat.not_lt.mp left
      rw [fit_panics large, fit_panics (Nat.le_add_right_of_le large)]
      rfl
  | wraps =>
    show some (UInt64.ofNat ((UInt64.ofNat a).toNat + (UInt64.ofNat b).toNat)) = some (UInt64.ofNat (a + b))
    rw [UInt64.ofNat_add, UInt64.ofNat_toNat, UInt64.ofNat_toNat, UInt64.ofNat_add]

/-- So it is in what follows. -/
theorem fit_add_bind {β : Type*} (o : Overflow) (a b : Nat) (k : UInt64 → Option β) :
    ((o.fit a).bind fun x => (o.fit b).bind fun y => (o.add x y).bind k) = (o.fit (a + b)).bind k := by
  rw [← fit_add, Option.bind_assoc]
  congr 1
  funext x
  rw [Option.bind_assoc]

end Overflow
