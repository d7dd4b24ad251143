import AnovaOven.Lib.Machine

/-!
# Stopwatches

A field of a machine's state that some steps set, each to a reading of its own, and all others leave. It
shows when something last happened: the law (`Stopwatch.run_shows`) says which step of a run it comes from.
-/

universe u v w

namespace Machine

variable {σ : Type u} {ι : Type v} {ε : Type w} {τ : Type*} {m : Machine σ ι ε} {shown : σ → τ}

/-- The steps that set a field, and what each sets it to. -/
structure Stopwatch (m : Machine σ ι ε) (shown : σ → τ) where
  sets : σ → ι → Prop
  reading : σ → ι → τ
  set : ∀ s i, sets s i → shown (m.next s i) = reading s i
  left : ∀ s i, ¬ sets s i → shown (m.next s i) = shown s

namespace Stopwatch

variable (watch : Stopwatch m shown)

/-- No step of the run sets the field. -/
def Untouched (s : σ) (is : List ι) : Prop := m.Each (fun s i => ¬ watch.sets s i) s is

/-- A run that doesn't set the field leaves it. -/
theorem run_untouched {s : σ} {is : List ι} (untouched : watch.Untouched s is) :
    shown (m.run s is) = shown s := by
  induction is generalizing s with
  | nil => rfl
  | cons i is ih =>
    rw [run_cons, ih untouched.2]
    exact watch.left s i untouched.1

/-- The step of the run, after some others, that set the field last. -/
structure LastSet (s : σ) (is : List ι) (past : List ι) (i : ι) (rest : List ι) : Prop where
  split : is = past ++ i :: rest
  sets : watch.sets (m.run s past) i
  untouched : watch.Untouched (m.next (m.run s past) i) rest

/-- **What it shows.** After a run the field shows the reading of the last step that set it, and what it
showed at first where none did. -/
theorem run_shows (s : σ) (is : List ι) :
    (watch.Untouched s is ∧ shown (m.run s is) = shown s) ∨
      ∃ past i rest, watch.LastSet s is past i rest ∧
        shown (m.run s is) = watch.reading (m.run s past) i := by
  induction is using List.reverseRecOn with
  | nil => exact .inl ⟨trivial, rfl⟩
  | append_singleton is i ih =>
    have last : m.run s (is ++ [i]) = m.next (m.run s is) i := by rw [run_append]; rfl
    rw [last]
    by_cases sets : watch.sets (m.run s is) i
    · exact .inr ⟨is, i, [], ⟨rfl, sets, trivial⟩, watch.set _ i sets⟩
    · rw [watch.left _ i sets]
      rcases ih with ⟨untouched, shows⟩ | ⟨past, j, rest, ⟨rfl, set, untouched⟩, shows⟩
      · exact .inl ⟨each_append.mpr ⟨untouched, sets, trivial⟩, shows⟩
      · refine .inr ⟨past, j, rest ++ [i], ⟨by simp, set, each_append.mpr ⟨untouched, ?_, trivial⟩⟩, shows⟩
        rwa [run_append] at sets

end Stopwatch

end Machine
