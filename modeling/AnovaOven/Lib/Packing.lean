import Mathlib.Data.List.Induction

/-!
# Greedy packing

Items are packed into groups in their order: each goes into the open group as long as the group fits with
it, and opens a new one otherwise. The first item of a group is taken whether it fits or not. The groups
are the items (`pack_flatten`), and a group of more than one fits (`pack_fit`).
-/

universe u

variable {α : Type u}

/-- A packing in progress: the groups that are closed, and the one that is open. -/
structure Packing (α : Type u) where
  closed : List (List α)
  current : List α

namespace Packing

/-- One item more. -/
def add (fits : List α → Prop) [DecidablePred fits] (p : Packing α) (x : α) : Packing α :=
  if p.current = [] ∨ fits (p.current ++ [x]) then { p with current := p.current ++ [x] }
  else ⟨p.closed ++ [p.current], [x]⟩

/-- All the groups. -/
def groups (p : Packing α) : List (List α) :=
  if p.current = [] then p.closed else p.closed ++ [p.current]

theorem flatten_groups (p : Packing α) : p.groups.flatten = p.closed.flatten ++ p.current := by
  unfold groups
  split
  case isTrue empty => rw [empty, List.append_nil]
  case isFalse => simp

end Packing

/-- Items packed into groups that fit. -/
def pack (fits : List α → Prop) [DecidablePred fits] (xs : List α) : Packing α :=
  xs.foldl (Packing.add fits) ⟨[], []⟩

/-- What a group of a packing is: not empty, and it fits or is a single item. -/
structure Packed (fits : List α → Prop) (group : List α) : Prop where
  ne_nil : group ≠ []
  fits : fits group ∨ group.length = 1

section Laws

variable {fits : List α → Prop} [DecidablePred fits]

theorem pack_concat (xs : List α) (x : α) :
    pack fits (xs ++ [x]) = (pack fits xs).add fits x := by
  unfold pack
  rw [List.foldl_append, List.foldl_cons, List.foldl_nil]

/-- **In order.** The groups, one after another, are the items. -/
theorem pack_flatten (xs : List α) : (pack fits xs).groups.flatten = xs := by
  rw [Packing.flatten_groups]
  induction xs using List.reverseRecOn with
  | nil => rfl
  | append_singleton xs x ih =>
    rw [pack_concat]
    unfold Packing.add
    split
    · rw [← List.append_assoc, ih]
    · simp [ih]

/-- A packing all of whose groups are packed. -/
structure Packing.Good (fits : List α → Prop) (p : Packing α) : Prop where
  closed : ∀ group ∈ p.closed, Packed fits group
  current : p.current ≠ [] → Packed fits p.current

/-- **One item** goes into a group that fits with it, or into one of its own. -/
theorem Packing.Good.add {p : Packing α} (good : p.Good fits) (x : α) : (p.add fits x).Good fits := by
  unfold Packing.add
  split
  case isTrue taken =>
    refine ⟨good.closed, fun _ => ⟨by simp, ?_⟩⟩
    rcases taken with empty | fit
    · exact .inr (by simp [empty])
    · exact .inl fit
  case isFalse closes =>
    refine ⟨?_, fun _ => ⟨List.cons_ne_nil x [], .inr rfl⟩⟩
    intro group item
    rcases List.mem_append.mp item with before | last
    · exact good.closed group before
    · obtain rfl := List.mem_singleton.mp last
      exact good.current fun empty => closes (.inl empty)

/-- **What fits.** Every group is packed. -/
theorem pack_packed (xs : List α) : ∀ group ∈ (pack fits xs).groups, Packed fits group := by
  have good : (pack fits xs).Good fits := by
    induction xs using List.reverseRecOn with
    | nil => exact ⟨nofun, fun some => absurd rfl some⟩
    | append_singleton xs x ih =>
      rw [pack_concat]
      exact ih.add x
  intro group item
  unfold Packing.groups at item
  split at item
  case isTrue => exact good.closed group item
  case isFalse some =>
    rcases List.mem_append.mp item with closed | last
    · exact good.closed group closed
    · obtain rfl := List.mem_singleton.mp last
      exact good.current some

end Laws
