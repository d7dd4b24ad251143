/-!
# Checks in sequence

A validator is a sequence of checks, each refusing under its own error, over every item of a list.
The laws read an accepted input back as the checks it passed: `refuseIf_bind_ok` for one check and
`traverseIdx_ok_iff` for a list.
-/

universe u v w

variable {ε : Type u} {α : Type v} {β : Type v}

/-- Refuse with an error under a condition. -/
def refuseIf (c : Prop) [Decidable c] (e : ε) : Except ε PUnit.{v + 1} :=
  if c then .error e else .ok ⟨⟩

/-- A check and what follows it succeed exactly when the check passes and the rest does. -/
theorem refuseIf_bind_ok {c : Prop} [Decidable c] {e : ε} {f : PUnit.{v + 1} → Except ε α} {a : α} :
    (refuseIf c e >>= f) = .ok a ↔ ¬ c ∧ f ⟨⟩ = .ok a := by
  unfold refuseIf
  by_cases h : c <;> simp [h, bind, Except.bind]

/-- A sequence succeeds exactly when each step does. -/
theorem except_bind_ok {x : Except ε α} {f : α → Except ε β} {b : β} :
    (x >>= f) = .ok b ↔ ∃ a, x = .ok a ∧ f a = .ok b := by
  cases x <;> simp [bind, Except.bind]

/-- Run a fallible step on every item, with its index, to the first error. -/
def traverseIdx (f : Nat → α → Except ε β) : Nat → List α → Except ε (List β)
  | _, [] => .ok []
  | i, x :: xs => do
    let y ← f i x
    let ys ← traverseIdx f (i + 1) xs
    .ok (y :: ys)

/-- **Traversals.** Where every step succeeds, each result is the step's on the item at its index. -/
theorem traverseIdx_ok {f : Nat → α → Except ε β} {i : Nat} {xs : List α} {ys : List β}
    (h : traverseIdx f i xs = .ok ys) :
    ys.length = xs.length ∧ ∀ j y, ys[j]? = some y → ∃ x, xs[j]? = some x ∧ f (i + j) x = .ok y := by
  induction xs generalizing i ys with
  | nil =>
    cases h
    exact ⟨rfl, fun j y item => by simp at item⟩
  | cons x xs ih =>
    obtain ⟨y, head, rest⟩ := except_bind_ok.mp h
    obtain ⟨ys', tail, done⟩ := except_bind_ok.mp rest
    cases done
    obtain ⟨length, items⟩ := ih tail
    refine ⟨by simp [length], ?_⟩
    intro j z item
    cases j with
    | zero =>
      cases item
      exact ⟨x, rfl, head⟩
    | succ j =>
      obtain ⟨x', at', ok⟩ := items j z item
      exact ⟨x', at', by rwa [show i + (j + 1) = i + 1 + j by omega]⟩

/-- A traversal whose steps give a list's items gives the list. -/
theorem traverseIdx_eq_ok {f : Nat → α → Except ε β} {i : Nat} {xs : List α} {ys : List β}
    (length : ys.length = xs.length)
    (steps : ∀ j x y, xs[j]? = some x → ys[j]? = some y → f (i + j) x = .ok y) :
    traverseIdx f i xs = .ok ys := by
  induction xs generalizing i ys with
  | nil =>
    obtain rfl := List.length_eq_zero_iff.mp length
    rfl
  | cons x xs ih =>
    cases ys with
    | nil => cases length
    | cons y ys =>
      refine except_bind_ok.mpr ⟨y, steps 0 x y rfl rfl, except_bind_ok.mpr ⟨ys, ?_, rfl⟩⟩
      apply ih (Nat.succ.inj length)
      intro j x' y' atX atY
      rw [show i + 1 + j = i + (j + 1) by omega]
      exact steps (j + 1) x' y' atX atY

/-- Where each step succeeds on some items with the result a function gives, the traversal succeeds on a
list of those items, with the function's results. -/
theorem traverseIdx_ok_iff {f : Nat → α → Except ε β} {P : Nat → α → Prop} {g : Nat → α → β}
    (step : ∀ i x y, f i x = .ok y ↔ P i x ∧ y = g i x) {xs : List α} {ys : List β} :
    traverseIdx f 0 xs = .ok ys ↔
      (∀ i x, xs[i]? = some x → P i x) ∧ ys = xs.mapIdx g := by
  constructor
  · intro h
    obtain ⟨length, items⟩ := traverseIdx_ok h
    have at' {i : Nat} {x : α} (atX : xs[i]? = some x) : P i x ∧ ys[i]? = some (g i x) := by
      have inside : i < ys.length := by
        rw [length]
        exact (List.getElem?_eq_some_iff.mp atX).1
      obtain ⟨x', atX', ok⟩ := items i _ (List.getElem?_eq_getElem inside)
      obtain rfl := Option.some.inj (atX.symm.trans atX')
      rw [Nat.zero_add] at ok
      obtain ⟨holds, eq⟩ := (step i x _).mp ok
      exact ⟨holds, by rw [List.getElem?_eq_getElem inside, eq]⟩
    refine ⟨fun i x atX => (at' atX).1, List.ext_getElem? ?_⟩
    intro i
    rw [List.getElem?_mapIdx]
    cases atX : xs[i]? with
    | none =>
      rw [Option.map_none, List.getElem?_eq_none_iff, length]
      exact List.getElem?_eq_none_iff.mp atX
    | some x => exact (at' atX).2
  · rintro ⟨holds, rfl⟩
    apply traverseIdx_eq_ok List.length_mapIdx
    intro i x y atX atY
    rw [List.getElem?_mapIdx, atX] at atY
    cases atY
    rw [Nat.zero_add]
    exact (step i x _).mpr ⟨holds i x atX, rfl⟩
