import Mathlib.Logic.Function.Basic

/-!
# What a broker retains

A broker keeps the last retained payload of each topic. A publisher that sends a value only where it differs
from the one it sent last keeps a copy of that one: while the copy is of what the broker retains, the broker
retains the value (`retained_publishChanged`).
-/

universe u v

/-- A payload published to a topic. -/
structure Publish (τ : Type u) (π : Type v) where
  topic : τ
  retain : Bool
  payload : π
  deriving Repr, DecidableEq

namespace Publish

variable {τ : Type u} {π : Type v} [DecidableEq τ]

/-- What is retained once a payload is published. -/
def retainedBy (store : τ → Option π) (p : Publish τ π) : τ → Option π :=
  if p.retain then Function.update store p.topic (some p.payload) else store

/-- What is retained once some are. -/
def retained (store : τ → Option π) (ps : List (Publish τ π)) : τ → Option π := ps.foldl retainedBy store

variable {store : τ → Option π} {ps : List (Publish τ π)} {topic : τ}

@[simp] theorem retained_nil (store : τ → Option π) : retained store [] = store := rfl

theorem retained_append (store : τ → Option π) (ps qs : List (Publish τ π)) :
    retained store (ps ++ qs) = retained (retained store ps) qs := List.foldl_append

/-- A retained payload is held in its topic. -/
@[simp] theorem retained_cons_retain (store : τ → Option π) (topic : τ) (payload : π) (ps : List (Publish τ π)) :
    retained store (⟨topic, true, payload⟩ :: ps) =
      retained (Function.update store topic (some payload)) ps := rfl

/-- What isn't to be retained leaves what is. -/
theorem retained_events {store : τ → Option π} {ps : List (Publish τ π)} (events : ∀ p ∈ ps, p.retain = false) :
    retained store ps = store := by
  induction ps with
  | nil => rfl
  | cons p ps ih =>
    have now : retainedBy store p = store := by
      unfold retainedBy
      rw [events p List.mem_cons_self]
      rfl
    show retained (retainedBy store p) ps = store
    rw [now]
    exact ih fun q item => events q (List.mem_cons_of_mem p item)

/-- What is published to other topics leaves what a topic holds. -/
theorem retained_other (other : ∀ p ∈ ps, p.topic ≠ topic) (store : τ → Option π) :
    retained store ps topic = store topic := by
  induction ps generalizing store with
  | nil => rfl
  | cons p ps ih =>
    have now : retainedBy store p topic = store topic := by
      unfold retainedBy
      split
      · exact Function.update_of_ne (Ne.symm (other p List.mem_cons_self)) _ _
      · rfl
    exact (ih (fun q item => other q (List.mem_cons_of_mem p item)) _).trans now

/-! ## Publishing what changed -/

variable {α : Type*} [DecidableEq α]

/-- A value published where it isn't the one sent last, or anyway. -/
def publishChanged (topic : τ) (payload : α → π) (force : Bool) (sent : Option α) (value : α) :
    List (Publish τ π) :=
  if force || sent ≠ some value then [⟨topic, true, payload value⟩] else []

omit [DecidableEq τ] in
/-- What is published where it changed is of its topic. -/
theorem topic_publishChanged {topic : τ} {payload : α → π} {force : Bool} {sent : Option α} {value : α}
    {p : Publish τ π} (item : p ∈ publishChanged topic payload force sent value) : p.topic = topic := by
  unfold publishChanged at item
  split at item
  · rw [List.mem_singleton.mp item]
  · cases item

/-- **Changes are enough.** Where the value sent last is retained, the value published is retained. -/
theorem retained_publishChanged {store : τ → Option π} {topic : τ} {payload : α → π} {force : Bool}
    {sent : Option α} (value : α)
    (held : force = false → ∀ old, sent = some old → store topic = some (payload old)) :
    retained store (publishChanged topic payload force sent value) =
      Function.update store topic (some (payload value)) := by
  unfold publishChanged
  split
  · rfl
  · rename_i same
    simp only [Bool.or_eq_true, decide_eq_true_eq, not_or, not_not, Bool.not_eq_true] at same
    rw [← held same.1 value same.2, Function.update_eq_self]
    rfl

end Publish
