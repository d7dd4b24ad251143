import Mathlib.Data.List.DropRight

/-!
# Trimmed lists

A list without the elements of a kind that it begins and ends with (`trimBy`). What is left is neat: it
neither begins nor ends with one (`neat_trimBy`), and the neat lists are those that a trim leaves alone
(`trimBy_eq_self_iff`).
-/

namespace Trim

universe u

variable {α : Type u} {p : α → Bool} {l : List α} {a : α}

/-- A list without what it begins and ends with of a kind. -/
def trimBy (p : α → Bool) (l : List α) : List α := (l.dropWhile p).rdropWhile p

/-- A list that neither begins nor ends with an element of a kind. -/
structure Neat (p : α → Bool) (l : List α) : Prop where
  first : ∀ a ∈ l.head?, p a = false
  last : ∀ a ∈ l.getLast?, p a = false

theorem Neat.dropWhile (neat : Neat p l) : l.dropWhile p = l := by
  cases l with
  | nil => rfl
  | cons a l => rw [List.dropWhile_cons, neat.first a rfl, if_neg Bool.false_ne_true]

theorem Neat.rdropWhile (neat : Neat p l) : l.rdropWhile p = l := by
  rw [List.rdropWhile_eq_self_iff]
  intro nonempty
  rw [neat.last _ (List.getLast?_eq_some_getLast nonempty)]
  exact Bool.false_ne_true

/-- A neat list has nothing to trim. -/
theorem Neat.trimBy (neat : Neat p l) : trimBy p l = l := by
  rw [Trim.trimBy, neat.dropWhile, neat.rdropWhile]

/-- **What is trimmed** is neat. -/
theorem neat_trimBy (p : α → Bool) (l : List α) : Neat p (trimBy p l) := by
  constructor
  · intro a first
    obtain ⟨rest, begins⟩ := List.head?_eq_some_iff.mp (Option.mem_def.mp first)
    -- it begins as the list does once its beginning is dropped
    obtain ⟨tail, whole⟩ : trimBy p l <+: l.dropWhile p := List.rdropWhile_prefix p _
    have dropped := List.head?_dropWhile_not p l
    rw [← whole, begins] at dropped
    exact dropped
  · intro a last
    obtain ⟨nonempty, rfl⟩ := List.mem_getLast?_eq_getLast (Option.mem_def.mp last)
    exact Bool.eq_false_iff.mpr (List.rdropWhile_last_not p _ nonempty)

/-- A trim leaves alone exactly what is neat. -/
theorem trimBy_eq_self_iff : trimBy p l = l ↔ Neat p l :=
  ⟨fun same => same ▸ neat_trimBy p l, Neat.trimBy⟩

theorem trimBy_isInfix (p : α → Bool) (l : List α) : trimBy p l <:+: l :=
  (List.rdropWhile_prefix p _).isInfix.trans (List.dropWhile_suffix p).isInfix

theorem length_trimBy_le (p : α → Bool) (l : List α) : (trimBy p l).length ≤ l.length :=
  (trimBy_isInfix p l).length_le

theorem dropWhile_isInfix {part : List α} (p : α → Bool) (inside : part <:+: l) :
    part.dropWhile p <:+: l.dropWhile p := by
  obtain ⟨before, after, rfl⟩ := inside
  rw [List.append_assoc, List.dropWhile_append]
  split
  · rw [List.dropWhile_append]
    split
    · rename_i blank
      rw [List.isEmpty_iff.mp blank]
      exact List.nil_infix
    · exact (List.prefix_append _ _).isInfix
  · exact (List.dropWhile_suffix p).isInfix.trans (List.infix_append' _ _ _)

/-- A part of a list isn't longer when both are trimmed. -/
theorem length_trimBy_le_of_isInfix {part : List α} (p : α → Bool) (inside : part <:+: l) :
    (trimBy p part).length ≤ (trimBy p l).length := by
  have dropped := dropWhile_isInfix p (List.reverse_infix.mpr (dropWhile_isInfix p inside))
  exact (List.reverse_infix.mpr dropped).length_le

/-! ## What a trim takes off -/

/-- What a trim takes off a list. -/
def trimmedOff (p : α → Bool) (l : List α) : List α :=
  l.takeWhile p ++ (l.dropWhile p).rtakeWhile p

/-- A list is what a trim takes off around what it leaves. -/
theorem trimBy_between (p : α → Bool) (l : List α) :
    l.takeWhile p ++ (trimBy p l ++ (l.dropWhile p).rtakeWhile p) = l := by
  rw [trimBy, List.rdropWhile_append_rtakeWhile, List.takeWhile_append_dropWhile]

/-- Only elements of the kind are taken off. -/
theorem of_mem_trimmedOff (mem : a ∈ trimmedOff p l) : p a = true := by
  rcases List.mem_append.mp mem with before | after
  · exact List.mem_takeWhile_imp before
  · exact List.mem_rtakeWhile_imp after

theorem countP_trimBy (p q : α → Bool) (l : List α) :
    (trimmedOff p l).countP q + (trimBy p l).countP q = l.countP q := by
  have whole := congrArg (List.countP q) (trimBy_between p l)
  rw [List.countP_append, List.countP_append] at whole
  rw [trimmedOff, List.countP_append]
  omega

theorem mem_of_trimmedOff (mem : a ∈ trimmedOff p l) : a ∈ l := by
  rw [← trimBy_between p l]
  rcases List.mem_append.mp mem with before | after
  · exact List.mem_append_left _ before
  · exact List.mem_append_right _ (List.mem_append_right _ after)

/-- What isn't of the kind is left by a trim. -/
theorem mem_trimBy (mem : a ∈ l) (other : p a = false) : a ∈ trimBy p l := by
  rw [← trimBy_between p l] at mem
  rcases List.mem_append.mp mem with before | mem
  · rw [of_mem_trimmedOff (List.mem_append_left _ before)] at other
    cases other
  · rcases List.mem_append.mp mem with left | after
    · exact left
    · rw [of_mem_trimmedOff (List.mem_append_right _ after)] at other
      cases other

/-- Elements of the kind around a list are trimmed with its own. -/
theorem trimBy_surrounded {before after : List α} (first : ∀ a ∈ before, p a = true)
    (last : ∀ a ∈ after, p a = true) : trimBy p (before ++ (l ++ after)) = trimBy p l := by
  have right (kept : List α) : (kept ++ after).rdropWhile p = kept.rdropWhile p := by
    rw [List.rdropWhile, List.reverse_append, List.dropWhile_append_of_pos
      fun a mem => last a (List.mem_reverse.mp mem)]
    rfl
  rw [trimBy, List.dropWhile_append_of_pos first, List.dropWhile_append]
  split
  · rename_i blank
    rw [trimBy, List.isEmpty_iff.mp blank, List.dropWhile_eq_nil_iff.mpr last]
  · rw [right, trimBy]

/-- **Two trims** do what the second does alone exactly where it would take off all that the first
does. -/
theorem trimBy_trimBy_iff {q : α → Bool} :
    trimBy p (trimBy q l) = trimBy p l ↔ ∀ a ∈ trimmedOff q l, p a = true := by
  constructor
  · intro same a mem
    by_contra other
    -- the elements of another kind are as many as they were, so none is taken off
    have kept (l : List α) : (trimBy p l).countP (fun a => !p a) = l.countP fun a => !p a := by
      have off : (trimmedOff p l).countP (fun a => !p a) = 0 :=
        List.countP_eq_zero.mpr fun a mem => by rw [of_mem_trimmedOff mem]; decide
      have whole := countP_trimBy p (fun a => !p a) l
      omega
    have whole := countP_trimBy q (fun a => !p a) l
    have after := congrArg (List.countP fun a => !p a) same
    rw [kept, kept] at after
    have none : (trimmedOff q l).countP (fun a => !p a) = 0 := by omega
    exact List.countP_eq_zero.mp none a mem (by simpa using other)
  · intro off
    have surrounded := trimBy_surrounded (l := trimBy q l)
      (fun a mem => off a (List.mem_append_left _ mem))
      fun a mem => off a (List.mem_append_right _ mem)
    rw [trimBy_between] at surrounded
    exact surrounded.symm

/-! ## Cut back -/

/-- A list cut back to where it ends outside of a kind: its longest prefix that doesn't end with one. -/
structure CutBack (p : α → Bool) (l cut : List α) : Prop where
  begins : cut <+: l
  ends : ∀ a ∈ cut.getLast?, p a = false
  longest : ∀ other, other <+: l → (∀ a ∈ other.getLast?, p a = false) → other <+: cut

/-- **Dropping from the end** cuts back. -/
theorem cutBack_rdropWhile (p : α → Bool) (l : List α) : CutBack p l (l.rdropWhile p) := by
  refine ⟨List.rdropWhile_prefix p l, ?_, ?_⟩
  · intro a last
    obtain ⟨nonempty, rfl⟩ := List.mem_getLast?_eq_getLast (Option.mem_def.mp last)
    exact Bool.eq_false_iff.mpr (List.rdropWhile_last_not p l nonempty)
  · induction l using List.reverseRecOn with
    | nil => exact fun other begins _ => begins
    | append_singleton l x ih =>
      intro other begins ends
      by_cases kind : p x = true
      · rw [List.rdropWhile_concat_pos p l x kind]
        rcases List.prefix_concat_iff.mp begins with rfl | begins
        · exact absurd kind (Bool.eq_false_iff.mp (ends x List.getLast?_concat))
        · exact ih other begins ends
      · rwa [List.rdropWhile_concat_neg p l x kind]

/-- What a list is cut back to, from its first element on. -/
theorem rdropWhile_cons (p : α → Bool) (a : α) (l : List α) :
    (a :: l).rdropWhile p = if l.rdropWhile p = [] then [a].rdropWhile p else a :: l.rdropWhile p := by
  induction l using List.reverseRecOn with
  | nil => rfl
  | append_singleton l x ih =>
    rw [← List.cons_append]
    by_cases kind : p x = true
    · rw [List.rdropWhile_concat_pos p _ x kind, List.rdropWhile_concat_pos p l x kind, ih]
    · rw [List.rdropWhile_concat_neg p _ x kind, List.rdropWhile_concat_neg p l x kind,
        if_neg (List.append_ne_nil_of_right_ne_nil l (List.cons_ne_nil x []))]
      rfl

end Trim
