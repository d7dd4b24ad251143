import Mathlib.Data.List.Nodup
import Mathlib.Data.List.Perm.Basic

/-!
# Occurrences

The elements of a list, each numbered by how often its key has come (`number`). A key and a number name one
element at most (`nodup_number`), and one at least where the number is within the key's count
(`mem_number_iff`).

Where equal keys stand together, a pass that remembers only the last key and its number gives the same
numbers (`numberRuns_eq`).

An element that stands once among others that keep their order (`once_iff`) is the only one of its kind.
-/

namespace Occurrences

universe u v

variable {α : Type u} {κ : Type v} [DecidableEq κ]

/-- The elements, each with how often its key has come with it, after some keys that came before. -/
def number (key : α → κ) (done : List κ) : List α → List (Nat × α)
  | [] => []
  | a :: rest => (done.count (key a) + 1, a) :: number key (key a :: done) rest

/-- The elements, each with its place in a run of one key, after some elements of a run. -/
def numberRuns (key : α → κ) (previous : Option κ) (nth : Nat) : List α → List (Nat × α)
  | [] => []
  | a :: rest =>
    let nth := if previous = some (key a) then nth + 1 else 1
    (nth, a) :: numberRuns key (some (key a)) nth rest

variable {key : α → κ} {done : List κ} {l : List α} {k : κ} {n : Nat} {a : α}

/-- The elements keep their order. -/
theorem map_snd_number (key : α → κ) (done : List κ) (l : List α) :
    (number key done l).map Prod.snd = l := by
  induction l generalizing done with
  | nil => rfl
  | cons a rest ih => exact congrArg (a :: ·) (ih _)

/-- **The numbers of a key** are those after what came before, up to its count. -/
theorem mem_number_iff :
    (∃ a, key a = k ∧ (n, a) ∈ number key done l) ↔
      done.count k < n ∧ n ≤ done.count k + (l.map key).count k := by
  induction l generalizing done with
  | nil =>
    constructor
    · rintro ⟨_, _, mem⟩
      cases mem
    · rintro ⟨above, within⟩
      exact absurd (Nat.lt_of_lt_of_le above within) (Nat.lt_irrefl _)
  | cons a rest ih =>
    have tail : (∃ b, key b = k ∧ (n, b) ∈ number key (key a :: done) rest) ↔
        (key a :: done).count k < n ∧ n ≤ (key a :: done).count k + (rest.map key).count k := ih
    constructor
    · rintro ⟨b, own, mem⟩
      rcases List.mem_cons.mp mem with same | mem
      · cases same
        subst own
        rw [List.map_cons, List.count_cons_self]
        omega
      · have range := tail.mp ⟨b, own, mem⟩
        rw [List.count_cons] at range
        rw [List.map_cons, List.count_cons]
        omega
    · intro range
      by_cases first : key a = k ∧ n = done.count k + 1
      · obtain ⟨own, rfl⟩ := first
        exact ⟨a, own, List.mem_cons.mpr (.inl (by rw [own]))⟩
      · have later : (key a :: done).count k < n ∧
            n ≤ (key a :: done).count k + (rest.map key).count k := by
          rw [List.map_cons, List.count_cons] at range
          rw [List.count_cons]
          by_cases own : key a = k
          · simp only [own, beq_self_eq_true, if_true] at range ⊢
            have other : n ≠ done.count k + 1 := fun same => first ⟨own, same⟩
            omega
          · simp only [beq_iff_eq, own, if_false] at range ⊢
            exact range
        obtain ⟨b, own', mem⟩ := tail.mpr later
        exact ⟨b, own', List.mem_cons_of_mem _ mem⟩

/-- **A key and a number** name one element at most. -/
theorem nodup_number (key : α → κ) (done : List κ) (l : List α) :
    ((number key done l).map fun e => (key e.2, e.1)).Nodup := by
  induction l generalizing done with
  | nil => exact List.nodup_nil
  | cons a rest ih =>
    apply List.nodup_cons.mpr
    refine ⟨?_, ih _⟩
    intro mem
    obtain ⟨⟨n, b⟩, mem, same⟩ := List.mem_map.mp mem
    obtain ⟨own, rfl⟩ := Prod.mk.inj same
    -- the numbers of the key go on after its first
    have later := (mem_number_iff.mp ⟨b, own, mem⟩).1
    rw [List.count_cons_self] at later
    exact Nat.lt_irrefl _ later

variable {r : κ → κ → Prop}

/-- After some elements whose last key's run stands at its count. -/
theorem numberRuns_after (antisymm : ∀ a b, r a b → r b a → a = b)
    (sorted : ((k :: done).reverse ++ l.map key).Pairwise r) :
    numberRuns key (some k) ((k :: done).count k) l = number key (k :: done) l := by
  induction l generalizing k done with
  | nil => rfl
  | cons a rest ih =>
    have sorted' : ((key a :: k :: done).reverse ++ rest.map key).Pairwise r := by
      rw [List.reverse_cons, List.append_assoc]
      exact sorted
    have number : (if some k = some (key a) then (k :: done).count k + 1 else 1) =
        (key a :: k :: done).count (key a) := by
      by_cases same : k = key a
      · rw [if_pos (congrArg some same), same]
        simp only [List.count_cons_self]
      · rw [if_neg fun eq => same (Option.some.inj eq), List.count_cons_self]
        -- a key that has come and isn't the last would stand on both sides of the last
        have fresh : key a ∉ k :: done := by
          intro come
          rw [List.reverse_cons, List.append_assoc, List.pairwise_append] at sorted
          obtain ⟨_, after, before⟩ := sorted
          have come := List.mem_reverse.mpr (List.mem_of_ne_of_mem (Ne.symm same) come)
          have one := before _ come k List.mem_cons_self
          have other := (List.pairwise_cons.mp after).1 (key a) List.mem_cons_self
          exact same (antisymm _ _ other one)
        rw [List.count_eq_zero_of_not_mem fresh]
    show (_, a) :: numberRuns key (some (key a)) _ rest = (_, a) :: Occurrences.number key _ rest
    rw [number, ih sorted', List.count_cons_self]

/-- **Runs.** In a sorted list the place in a key's run is its number. -/
theorem numberRuns_eq (antisymm : ∀ a b, r a b → r b a → a = b) (sorted : (l.map key).Pairwise r) :
    numberRuns key none n l = number key [] l := by
  cases l with
  | nil => rfl
  | cons a rest =>
    have one : [key a].count (key a) = 1 := List.count_singleton_self
    have after : numberRuns key (some (key a)) ([key a].count (key a)) rest = number key [key a] rest :=
      numberRuns_after antisymm sorted
    rw [one] at after
    exact congrArg _ after

/-! ## Once among others -/

variable {β : Type v} {f : α → β} {b : β}

/-- **Once.** A list is the elements of one kind with an element put somewhere among them, where that element is
all there is of the other kind. -/
theorem once_iff (p : α → Bool) (l : List α) :
    (∃ before after, l.map f = before ++ b :: after ∧ before ++ after = (l.filter (!p ·)).map f) ↔
      (l.filter p).map f = [b] := by
  constructor
  · rintro ⟨before, after, split, rest⟩
    have kinds : ((l.filter p).map f ++ (before ++ after)).Perm (l.map f) := by
      rw [rest, ← List.map_append]
      exact (List.filter_append_perm p l).map f
    rw [split] at kinds
    exact List.perm_singleton.mp
      ((List.perm_append_right_iff (before ++ after)).mp (kinds.trans List.perm_middle))
  · intro one
    obtain ⟨a, only, rfl⟩ := List.map_eq_singleton_iff.mp one
    obtain ⟨before, after, rfl, none, own, last⟩ := List.filter_eq_cons_iff.mp only
    have others (part : List α) (away : ∀ x ∈ part, ¬ p x = true) : part.filter (!p ·) = part :=
      List.filter_eq_self.mpr fun x item => by simpa using away x item
    refine ⟨before.map f, after.map f, by simp, ?_⟩
    rw [List.filter_append, List.filter_cons_of_neg (by simpa using own), others before none,
      others after (List.filter_eq_nil_iff.mp last), List.map_append]

end Occurrences
