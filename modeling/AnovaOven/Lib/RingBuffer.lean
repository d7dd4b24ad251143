import Mathlib.Data.List.Basic
import Mathlib.Data.Nat.ModEq

/-!
# Ring buffers

A fixed number of slots written round and round, and a counter of all that was written. The slot to write
and the slots to read come from the counter alone.

**What is read** (`RingBuffer.Holds.read`): the last items written, as many as there are slots, the newest first.
-/

universe u

/-- Slots, and how many items were ever written. -/
structure RingBuffer (α : Type u) (n : Nat) where
  slots : Vector α n
  head : Nat

namespace RingBuffer

variable {α : Type u} {n : Nat} [NeZero n]

/-- The slot of a count, going round. -/
def slot (n : Nat) [NeZero n] (count : Nat) : Fin n := ⟨count % n, Nat.mod_lt count (Nat.pos_of_neZero n)⟩

/-- Write an item. -/
def push (r : RingBuffer α n) (x : α) : RingBuffer α n :=
  ⟨r.slots.set (r.head % n) x (Nat.mod_lt r.head (Nat.pos_of_neZero n)), r.head + 1⟩

/-- The items there are, the newest first. -/
def read (r : RingBuffer α n) : List α :=
  (List.range (min r.head n)).map fun i => r.slots.get (slot n (r.head + n - 1 - i))

/-- A ring the items were written to, the newest first. -/
structure Holds (r : RingBuffer α n) (xs : List α) : Prop where
  head : r.head = xs.length
  slots : ∀ i x, i < n → xs[i]? = some x → r.slots.get (slot n (r.head + n - 1 - i)) = x

/-- A ring nothing was written to. -/
theorem holds_nil (slots : Vector α n) : (⟨slots, 0⟩ : RingBuffer α n).Holds [] :=
  ⟨rfl, fun i x _ item => by cases item⟩

/-- Slots less than a round apart are different. -/
theorem slot_ne {count back : Nat} (some : 0 < back) (round : back < n) :
    slot n (count + n - back) ≠ slot n count := by
  intro same
  have values : (count + (n - back)) % n = (count + 0) % n := by
    have eq := congrArg Fin.val same
    rwa [Nat.add_zero, ← Nat.add_sub_assoc (Nat.le_of_lt round)]
  have zero : (n - back) % n = 0 % n := Nat.ModEq.add_left_cancel' count values
  rw [Nat.mod_eq_of_lt (by omega), Nat.zero_mod] at zero
  omega

/-- A write sets the slot of the count, and no other. -/
theorem get_push (r : RingBuffer α n) (x : α) (i : Fin n) :
    (r.push x).slots.get i = if slot n r.head = i then x else r.slots.get i := by
  have turned : r.head % n < n := Nat.mod_lt r.head (Nat.pos_of_neZero n)
  show (r.slots.set (r.head % n) x turned)[i.val] = _
  rw [Vector.getElem_set]
  by_cases same : slot n r.head = i
  · have value : r.head % n = i.val := congrArg Fin.val same
    rw [if_pos same, if_pos value]
  · have other : r.head % n ≠ i.val := fun value => same (Fin.ext value)
    rw [if_neg same, if_neg other]
    rfl

/-- **One item more.** -/
theorem Holds.push {r : RingBuffer α n} {xs : List α} (holds : r.Holds xs) (x : α) :
    (r.push x).Holds (x :: xs) := by
  refine ⟨congrArg Nat.succ holds.head, ?_⟩
  intro i y inside item
  show (r.push x).slots.get (slot n (r.head + 1 + n - 1 - i)) = y
  rw [get_push]
  cases i with
  | zero =>
    have newest : slot n (r.head + 1 + n - 1 - 0) = slot n r.head := by
      apply Fin.ext
      show (r.head + 1 + n - 1 - 0) % n = r.head % n
      rw [show r.head + 1 + n - 1 - 0 = r.head + n by omega, Nat.add_mod_right]
    cases item
    exact if_pos newest.symm
  | succ i =>
    have older : slot n (r.head + n - (i + 1)) ≠ slot n r.head := slot_ne (Nat.succ_pos i) inside
    rw [show r.head + 1 + n - 1 - (i + 1) = r.head + n - (i + 1) by omega, if_neg older.symm,
      show r.head + n - (i + 1) = r.head + n - 1 - i by omega]
    exact holds.slots i y (by omega) item

/-- **Many items more**, written one by one. -/
theorem Holds.pushes {r : RingBuffer α n} {xs : List α} (holds : r.Holds xs) (ys : List α) :
    (ys.foldl RingBuffer.push r).Holds (ys.reverse ++ xs) := by
  induction ys generalizing r xs with
  | nil => exact holds
  | cons y ys ih =>
    rw [List.reverse_cons, List.append_assoc]
    exact ih (holds.push y)

/-- **What is read**: the last items, as many as there are slots. -/
theorem Holds.read {r : RingBuffer α n} {xs : List α} (holds : r.Holds xs) : r.read = xs.take n := by
  apply List.ext_getElem?
  intro i
  unfold RingBuffer.read
  rw [List.getElem?_map]
  by_cases there : i < min r.head n
  · have inside : i < xs.length := by
      rw [← holds.head]
      omega
    have at' := holds.slots i xs[i] (by omega) (List.getElem?_eq_getElem inside)
    rw [List.getElem?_range there, List.getElem?_take_of_lt (by omega), List.getElem?_eq_getElem inside]
    exact congrArg some at'
  · rw [List.getElem?_eq_none (by rw [List.length_range]; omega), List.getElem?_eq_none]
    · rfl
    · rw [List.length_take, ← holds.head]
      omega

end RingBuffer
