import Mathlib.Data.List.Basic
import Mathlib.Data.List.Induction

/-!
# Machines that answer inputs with effects

A machine is a total step function: a state and an input give the next state and the effects the
step asks for. A run is a list of inputs. The file names the two ways a property is carried over a
run: `Each`, a property of every step of the run at the state it is taken from, and the induction
rules that lift a one-step law to it.

A run's `trace` is all it says, and `Simulates` the square by which one machine's traces are
another's.

**The rule most laws use** (`Each.iff_of_invariant`): where an invariant makes "this step is good"
and "this step meets the condition" the same, and a step that meets the condition keeps the
invariant, a whole run is good exactly when all its steps meet the condition.
-/

universe u v w

/-- A deterministic machine over states `σ`, inputs `ι` and effects `ε`. -/
structure Machine (σ : Type u) (ι : Type v) (ε : Type w) where
  step : σ → ι → σ × List ε

namespace Machine

variable {σ : Type u} {ι : Type v} {ε : Type w} (m : Machine σ ι ε)

/-- The state a step leads to. -/
def next (s : σ) (i : ι) : σ := (m.step s i).1

/-- The effects a step asks for, in order. -/
def effects (s : σ) (i : ι) : List ε := (m.step s i).2

/-- The state a run leads to. -/
def run (s : σ) (is : List ι) : σ := is.foldl m.next s

@[simp] theorem run_nil (s : σ) : m.run s [] = s := rfl

@[simp] theorem run_cons (s : σ) (i : ι) (is : List ι) :
    m.run s (i :: is) = m.run (m.next s i) is := rfl

theorem run_append (s : σ) (is js : List ι) : m.run s (is ++ js) = m.run (m.run s is) js :=
  List.foldl_append

/-- What a run asks for, in order. -/
def trace : σ → List ι → List ε
  | _, [] => []
  | s, i :: is => m.effects s i ++ trace (m.next s i) is

@[simp] theorem trace_nil (s : σ) : m.trace s [] = [] := rfl

@[simp] theorem trace_cons (s : σ) (i : ι) (is : List ι) :
    m.trace s (i :: is) = m.effects s i ++ m.trace (m.next s i) is := rfl

/-- Every step of the run has `P`, at the state it is taken from. -/
def Each (P : σ → ι → Prop) : σ → List ι → Prop
  | _, [] => True
  | s, i :: is => P s i ∧ Each P (m.next s i) is

instance Each.decidable (P : σ → ι → Prop) [∀ s i, Decidable (P s i)] :
    ∀ s is, Decidable (m.Each P s is)
  | _, [] => isTrue trivial
  | s, i :: is =>
    let _ := Each.decidable P (m.next s i) is
    inferInstanceAs (Decidable (P s i ∧ m.Each P (m.next s i) is))

variable {m} {P Q : σ → ι → Prop} {I : σ → Prop} {s : σ}

theorem each_append {is js : List ι} :
    m.Each P s (is ++ js) ↔ m.Each P s is ∧ m.Each P (m.run s is) js := by
  induction is generalizing s with
  | nil => simp only [List.nil_append, Each, run_nil, true_and]
  | cons i is ih => simp only [List.cons_append, Each, run_cons, ih, and_assoc]

/-- Every step of a run, by where it is in it. -/
theorem each_iff {is : List ι} :
    m.Each P s is ↔ ∀ past i rest, is = past ++ i :: rest → P (m.run s past) i := by
  constructor
  · rintro each past i rest rfl
    exact (each_append.mp each).2.1
  · intro all
    induction is generalizing s with
    | nil => trivial
    | cons i is ih =>
      refine ⟨all [] i is rfl, ih ?_⟩
      rintro past j rest rfl
      exact all (i :: past) j rest rfl

/-- An effect of a run is of one of its steps. -/
theorem mem_trace {is : List ι} {e : ε} (h : e ∈ m.trace s is) :
    ∃ past i rest, is = past ++ i :: rest ∧ e ∈ m.effects (m.run s past) i := by
  induction is generalizing s with
  | nil => exact absurd h List.not_mem_nil
  | cons i is ih =>
    rcases List.mem_append.mp h with now | later
    · exact ⟨[], i, is, rfl, now⟩
    · obtain ⟨past, j, rest, rfl, mem⟩ := ih later
      exact ⟨i :: past, j, rest, rfl, mem⟩

/-- A property that each of a run's inputs keeps holds after the run. -/
theorem run_keeps {is : List ι} (keeps : ∀ s, ∀ i ∈ is, I s → I (m.next s i)) (start : I s) :
    I (m.run s is) := by
  induction is generalizing s with
  | nil => exact start
  | cons i is ih =>
    exact ih (fun s j item => keeps s j (List.mem_cons_of_mem i item))
      (keeps s i List.mem_cons_self start)

/-- A block of inputs repeated: what it does once it does so many times. -/
theorem run_repeat {I : ℕ → σ → Prop} {block : List ι} {n : ℕ}
    (once : ∀ k < n, ∀ s, I k s → I (k + 1) (m.run s block)) (start : I 0 s) :
    I n (m.run s (List.replicate n block).flatten) := by
  induction n with
  | zero => exact start
  | succ n ih =>
    rw [List.replicate_succ', List.flatten_append, run_append, List.flatten_singleton]
    exact once n (Nat.lt_succ_self n) _ (ih fun k before => once k (Nat.lt_succ_of_lt before))

/-- **Invariants.** A property that each admitted step keeps holds after every admitted run. -/
theorem Each.invariant (keeps : ∀ s i, I s → P s i → I (m.next s i)) {is : List ι}
    (start : I s) (admitted : m.Each P s is) : I (m.run s is) := by
  induction is generalizing s with
  | nil => exact start
  | cons i is ih => exact ih (keeps s i start admitted.1) admitted.2

/-- **Invariants over what a run has said.** `note` reads the inputs one by one into a value the
machine doesn't keep; an invariant may relate the state to it. -/
theorem Each.invariant_noted {γ : Type*} {note : γ → ι → γ} {I : σ → γ → Prop}
    (keeps : ∀ s g i, I s g → P s i → I (m.next s i) (note g i)) {is : List ι} {g : γ}
    (start : I s g) (admitted : m.Each P s is) : I (m.run s is) (is.foldl note g) := by
  induction is generalizing s g with
  | nil => exact start
  | cons i is ih => exact ih (keeps s g i start admitted.1) admitted.2

/-- **Exact conditions.** Where the invariant makes `Q` and the condition `P` the same property of
a step, and a step that meets the condition keeps the invariant, a run has `Q` at each of its steps
exactly when all of them meet the condition. -/
theorem Each.iff_of_invariant (keeps : ∀ s i, I s → P s i → I (m.next s i))
    (law : ∀ s i, I s → (Q s i ↔ P s i)) {is : List ι} (start : I s) :
    m.Each Q s is ↔ m.Each P s is := by
  induction is generalizing s with
  | nil => exact Iff.rfl
  | cons i is ih =>
    constructor
    · rintro ⟨good, rest⟩
      have ok := (law s i start).mp good
      exact ⟨ok, (ih (keeps s i start ok)).mp rest⟩
    · rintro ⟨ok, rest⟩
      exact ⟨(law s i start).mpr ok, (ih (keeps s i start ok)).mpr rest⟩

/-! ## History variables -/

/-- A machine with a history variable: a value that notes every step and that no step reads. -/
def noting {γ : Type*} (m : Machine σ ι ε) (note : σ → γ → ι → γ) : Machine (σ × γ) ι ε where
  step s i := ((m.next s.1 i, note s.1 s.2 i), m.effects s.1 i)

section Noting

variable {γ : Type*} (note : σ → γ → ι → γ) (g : γ)

@[simp] theorem noting_next (s : σ) (i : ι) :
    (m.noting note).next (s, g) i = (m.next s i, note s g i) := rfl

@[simp] theorem noting_effects (s : σ) (i : ι) : (m.noting note).effects (s, g) i = m.effects s i :=
  rfl

/-- **History variables.** A run with a history variable goes through the states of the run without. -/
theorem noting_run_fst (s : σ) (is : List ι) : ((m.noting note).run (s, g) is).1 = m.run s is := by
  induction is generalizing s g with
  | nil => rfl
  | cons i is ih => exact ih (note s g i) (m.next s i)

/-- A property of the steps that doesn't read the history variable is one of the run without. -/
theorem noting_each (s : σ) (is : List ι) :
    (m.noting note).Each (fun p i => P p.1 i) (s, g) is ↔ m.Each P s is := by
  induction is generalizing s g with
  | nil => exact Iff.rfl
  | cons i is ih => exact and_congr_right fun _ => ih (note s g i) (m.next s i)

end Noting

/-- **Laws under an invariant.** Where the admitted steps keep the invariant and each of them has the
law under it, every step of an admitted run has the law. -/
theorem Each.law (keeps : ∀ s i, I s → P s i → I (m.next s i)) (law : ∀ s i, I s → P s i → Q s i)
    {is : List ι} (start : I s) (admitted : m.Each P s is) : m.Each Q s is := by
  induction is generalizing s with
  | nil => trivial
  | cons i is ih =>
    exact ⟨law s i start admitted.1, ih (keeps s i start admitted.1) admitted.2⟩

/-! ## What came in, what is kept and what went out -/

/-- **Invariants over the run so far.** A property of a state and of the inputs that led to it. -/
theorem run_past {I : σ → List ι → Prop} (start : I s [])
    (keeps : ∀ s past i, I s past → I (m.next s i) (past ++ [i])) (is : List ι) :
    I (m.run s is) is := by
  induction is using List.reverseRecOn with
  | nil => exact start
  | append_singleton is i ih =>
    rw [run_append]
    exact keeps _ is i ih

theorem trace_append (s : σ) (is js : List ι) :
    m.trace s (is ++ js) = m.trace s is ++ m.trace (m.run s is) js := by
  induction is generalizing s with
  | nil => rfl
  | cons i is ih => rw [List.cons_append, trace_cons, trace_cons, ih, List.append_assoc, run_cons]

/-- **Invariants over all that was said.** A property of a state, of the inputs that led to it and of
what they were answered, which each admitted step keeps. -/
theorem Each.told {I : σ → List ι → List ε → Prop} (start : I s [] [])
    (keeps : ∀ s past said i, I s past said → P s i →
      I (m.next s i) (past ++ [i]) (said ++ m.effects s i)) {is : List ι}
    (admitted : m.Each P s is) : I (m.run s is) is (m.trace s is) := by
  induction is using List.reverseRecOn with
  | nil => exact start
  | append_singleton is i ih =>
    obtain ⟨before, now, _⟩ := each_append.mp admitted
    rw [run_append, trace_append, trace_cons, trace_nil, List.append_nil]
    exact keeps _ is _ i (ih before) now

/-- The same, where every step is admitted, and what came in is left out. -/
theorem run_told {I : σ → List ε → Prop} (start : I s [])
    (keeps : ∀ s said i, I s said → I (m.next s i) (said ++ m.effects s i)) (is : List ι) :
    I (m.run s is) (m.trace s is) := by
  have admitted : m.Each (fun _ _ => True) s is := each_iff.mpr fun _ _ _ _ => trivial
  exact Each.told (I := fun s _ said => I s said) start (fun s _ said i kept _ => keeps s said i kept)
    admitted

/-- **Queues.** Where each step takes from the front of what it keeps and adds at its end, so does a
run. -/
theorem run_queues {α : Type*} (kept : σ → List α) (added taken : ε → Option α)
    (queues : ∀ s i, kept s ++ (m.effects s i).filterMap added =
      (m.effects s i).filterMap taken ++ kept (m.next s i)) (s : σ) (is : List ι) :
    kept s ++ (m.trace s is).filterMap added =
      (m.trace s is).filterMap taken ++ kept (m.run s is) := by
  induction is generalizing s with
  | nil => simp only [trace_nil, List.filterMap_nil, List.append_nil, run_nil, List.nil_append]
  | cons i is ih =>
    rw [trace_cons, List.filterMap_append, List.filterMap_append, run_cons]
    calc kept s ++ ((m.effects s i).filterMap added ++ (m.trace (m.next s i) is).filterMap added)
      _ = (m.effects s i).filterMap taken ++
            (kept (m.next s i) ++ (m.trace (m.next s i) is).filterMap added) := by
        rw [← List.append_assoc, queues s i, List.append_assoc]
      _ = _ := by rw [ih (m.next s i), List.append_assoc]

/-- **First in, first out.** What a step takes, when fewer things have been taken than a queue held at
an earlier time, is one the queue held then. -/
theorem mem_kept_of_taken {α : Type*} {kept : σ → List α} {added taken : ε → Option α}
    (queues : ∀ s i, kept s ++ (m.effects s i).filterMap added =
      (m.effects s i).filterMap taken ++ kept (m.next s i)) {s : σ} {is : List ι} {i : ι} {x : α}
    {more : List α} (takes : (m.effects (m.run s is) i).filterMap taken = x :: more)
    (early : ((m.trace s is).filterMap taken).length < (kept s).length) : x ∈ kept s := by
  have before := m.run_queues kept added taken queues s is
  have now := queues (m.run s is) i
  rw [takes] at now
  generalize (m.trace s is).filterMap taken = gone at before early
  -- What the queue held, then what came, is what went, then what is taken now, then what is left.
  have all : kept s ++ ((m.trace s is).filterMap added ++ (m.effects (m.run s is) i).filterMap added) =
      gone ++ x :: (more ++ kept (m.next (m.run s is) i)) := by
    rw [← List.append_assoc, before, List.append_assoc, now, List.cons_append]
  have at' := congrArg (fun items => items[gone.length]?) all
  rw [List.getElem?_append_left early, List.getElem?_append_right (Nat.le_refl _), Nat.sub_self] at at'
  exact List.mem_of_getElem? at'

/-- **Conservation.** Where each step keeps or puts out what it had and took in, a run puts out or
still keeps what it started with and took in, each thing as often. -/
theorem run_conserves {α : Type*} (kept : σ → List α) (taken : ι → List α) (out : ε → Option α)
    (conserves : ∀ s i, (kept s ++ taken i).Perm
      (kept (m.next s i) ++ (m.effects s i).filterMap out)) (s : σ) (is : List ι) :
    (kept s ++ is.flatMap taken).Perm (kept (m.run s is) ++ (m.trace s is).filterMap out) := by
  induction is generalizing s with
  | nil => simp only [List.flatMap_nil, List.append_nil, run_nil, trace_nil, List.filterMap_nil,
      List.Perm.refl]
  | cons i is ih =>
    rw [List.flatMap_cons, ← List.append_assoc, run_cons, trace_cons, List.filterMap_append]
    calc
      List.Perm ((kept s ++ taken i) ++ is.flatMap taken)
          ((kept (m.next s i) ++ (m.effects s i).filterMap out) ++ is.flatMap taken) :=
        (conserves s i).append_right _
      List.Perm _ ((m.effects s i).filterMap out ++ (kept (m.next s i) ++ is.flatMap taken)) := by
        rw [← List.append_assoc]
        exact List.perm_append_comm.append_right _
      List.Perm _ ((m.effects s i).filterMap out ++
          (kept (m.run (m.next s i) is) ++ (m.trace (m.next s i) is).filterMap out)) :=
        (ih (m.next s i)).append_left _
      List.Perm _ (kept (m.run (m.next s i) is) ++
          ((m.effects s i).filterMap out ++ (m.trace (m.next s i) is).filterMap out)) := by
        rw [← List.append_assoc, ← List.append_assoc]
        exact List.perm_append_comm.append_right _

/-- **Nothing is spent twice.** Where each step under an invariant spends no more than it had and earns,
so does a run. -/
theorem run_spends (kept : σ → ℕ) {spent earned : ε → Bool} (keeps : ∀ s i, I s → I (m.next s i))
    (spends : ∀ s i, I s → (m.effects s i).countP spent + kept (m.next s i) ≤
      kept s + (m.effects s i).countP earned) (start : I s) (is : List ι) :
    (m.trace s is).countP spent + kept (m.run s is) ≤ kept s + (m.trace s is).countP earned := by
  induction is generalizing s with
  | nil => exact Nat.le_of_eq (Nat.add_comm _ _)
  | cons i is ih =>
    rw [trace_cons, List.countP_append, List.countP_append, run_cons]
    have now := spends s i start
    have later := ih (keeps s i start)
    omega

/-! ## What a trace had said before -/

/-- Every entry has `P` of the entries before it. -/
def Along (P : List ε → ε → Prop) : List ε → List ε → Prop
  | _, [] => True
  | past, e :: rest => P past e ∧ Along P (past ++ [e]) rest

instance Along.decidable (P : List ε → ε → Prop) [∀ past e, Decidable (P past e)] :
    ∀ past entries, Decidable (Along P past entries)
  | _, [] => isTrue trivial
  | past, e :: rest =>
    let _ := Along.decidable P (past ++ [e]) rest
    inferInstanceAs (Decidable (P past e ∧ Along P (past ++ [e]) rest))

theorem along_append {P : List ε → ε → Prop} {past a b : List ε} :
    Along P past (a ++ b) ↔ Along P past a ∧ Along P (past ++ a) b := by
  induction a generalizing past with
  | nil => simp only [List.nil_append, Along, true_and, List.append_nil]
  | cons e a ih =>
    simp only [List.cons_append, Along, ih, and_assoc, List.append_assoc, List.nil_append]

/-! ## Simulation -/

variable {σ' ι' ε' : Type*}

/-- One machine's steps are another's: at a view of the state, on a reading of the input, and with
the effects read one by one. -/
structure Simulates (m : Machine σ ι ε) (abstract : Machine σ' ι' ε') (view : σ → σ')
    (reading : σ → ι → ι') (said : ε → ε') : Prop where
  next : ∀ s i, view (m.next s i) = abstract.next (view s) (reading s i)
  effects : ∀ s i, (m.effects s i).map said = abstract.effects (view s) (reading s i)

/-- The readings of a run's inputs, each at the state it meets. -/
def readings (m : Machine σ ι ε) (reading : σ → ι → ι') : σ → List ι → List ι'
  | _, [] => []
  | s, i :: is => reading s i :: readings m reading (m.next s i) is

variable {abstract : Machine σ' ι' ε'} {view : σ → σ'} {reading : σ → ι → ι'} {said : ε → ε'}

/-- **Simulation.** A run's trace is that of the run it simulates. -/
theorem Simulates.trace (h : Simulates m abstract view reading said) (s : σ) (is : List ι) :
    (m.trace s is).map said = abstract.trace (view s) (m.readings reading s is) := by
  induction is generalizing s with
  | nil => rfl
  | cons i is ih =>
    rw [trace_cons, List.map_append, h.effects, ih, h.next]
    rfl

/-! ## Refinement -/

/-- The runs of a relation between a state, an input, what is said to it and the next state. -/
inductive Allowed (R : σ' → ι → List ε → σ' → Prop) : σ' → List ι → List ε → σ' → Prop
  | nil (a : σ') : Allowed R a [] [] a
  | cons {a b c : σ'} {i : ι} {is : List ι} {now later : List ε} :
    R a i now b → Allowed R b is later c → Allowed R a (i :: is) (now ++ later) c

/-- **Refinement.** Where every step under an invariant is one the relation allows, at a view of the
state, so is every run. -/
theorem run_allowed {R : σ' → ι → List ε → σ' → Prop} (keeps : ∀ s i, I s → I (m.next s i))
    (step : ∀ s i, I s → R (view s) i (m.effects s i) (view (m.next s i))) (start : I s)
    (is : List ι) : Allowed R (view s) is (m.trace s is) (view (m.run s is)) := by
  induction is generalizing s with
  | nil => exact .nil (view s)
  | cons i is ih => exact .cons (step s i start) (ih (keeps s i start))

end Machine
