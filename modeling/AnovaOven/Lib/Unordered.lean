import Mathlib.Data.List.Nodup
import Mathlib.Data.List.Perm.Basic
import Mathlib.Logic.Function.Basic

/-!
# Unordered vectors

A vector whose order means nothing: an element is taken out by moving the last one into its place,
and the least one is found by a scan. Where no two elements share a key the vector is a finite map
from keys (`find`), and each operation on it is the map's (`find_concat`, `find_modify`,
`find_swapRemove`), wherever the elements stand.

Where they stand decides ties alone: the scan ends on the first of the least (`least_first`), and what
a removal does to that order is `Ahead.swapRemove`.
-/

namespace Unordered

universe u v

variable {α : Type u} {κ : Type v}

/-! ## Taking an element out -/

/-- The vector with the element at an index taken out, the last one moved into its place. -/
def swapRemove (l : List α) (i : Nat) : List α :=
  match l.getLast? with
  | none => []
  | some last => (l.set i last).dropLast

/-- What is taken out and what is left are what there was. -/
theorem swapRemove_perm {l : List α} {i : Nat} {a : α} (h : l[i]? = some a) :
    l.Perm (a :: swapRemove l i) := by
  obtain rfl | ⟨init, last, rfl⟩ := List.eq_nil_or_concat l
  · simp at h
  · unfold swapRemove
    simp only [List.concat_eq_append, List.getLast?_append, List.getLast?_singleton,
      Option.some_or] at h ⊢
    obtain ⟨bound, at'⟩ := List.getElem?_eq_some_iff.mp h
    by_cases inside : i < init.length
    · rw [List.set_append_left _ _ inside, List.dropLast_concat]
      rw [List.getElem_append_left inside] at at'
      subst at'
      calc
        List.Perm (init ++ [last]) (last :: init) := List.perm_append_comm
        List.Perm _ (last :: init[i] :: init.eraseIdx i) :=
          (List.getElem_cons_eraseIdx_perm inside).symm.cons last
        List.Perm _ (init[i] :: last :: init.eraseIdx i) := List.Perm.swap _ _ _
        List.Perm _ (init[i] :: init.set i last) :=
          (List.set_perm_cons_eraseIdx inside last).symm.cons _
    · -- the last element itself goes
      have isLast : i = init.length := by
        simp only [List.length_append, List.length_singleton] at bound
        omega
      subst isLast
      simp only [List.getElem_append_right (Nat.le_refl _), Nat.sub_self,
        List.getElem_cons_zero] at at'
      subst at'
      rw [List.set_append_right _ _ (Nat.le_refl _), Nat.sub_self, List.set_cons_zero,
        List.dropLast_concat]
      exact List.perm_append_comm

theorem length_swapRemove (l : List α) (i : Nat) : (swapRemove l i).length = l.length - 1 := by
  unfold swapRemove
  cases last : l.getLast? with
  | none => rw [List.getLast?_eq_none_iff.mp last]; rfl
  | some a => rw [List.length_dropLast, List.length_set]

theorem map_swapRemove {β : Type v} (f : α → β) (l : List α) (i : Nat) :
    (swapRemove l i).map f = swapRemove (l.map f) i := by
  unfold swapRemove
  rw [List.getLast?_map]
  cases l.getLast? with
  | none => rfl
  | some last =>
    show ((l.set i last).dropLast).map f = ((l.map f).set i (f last)).dropLast
    rw [List.map_dropLast, List.map_set]

/-! ## The least element -/

section Least

variable (before : α → α → Bool)

/-- The first least element, by a scan that moves on where a later one is before it. -/
def least : List α → Option α
  | [] => none
  | a :: rest => some (rest.foldl (fun best b => if before b best then b else best) a)

variable {before}

theorem least_eq_none {l : List α} : least before l = none ↔ l = [] := by
  cases l <;> simp [least]

/-- The scan ends on the element it began with or on a later one. -/
theorem scan_mem (l : List α) (a : α) :
    l.foldl (fun best b => if before b best then b else best) a ∈ a :: l := by
  induction l generalizing a with
  | nil => exact List.mem_cons_self
  | cons b l ih =>
    rw [List.foldl_cons]
    split
    · exact List.mem_cons_of_mem a (ih b)
    · rcases List.mem_cons.mp (ih a) with same | later
      · rw [same]
        exact List.mem_cons_self
      · exact List.mem_cons_of_mem a (List.mem_cons_of_mem b later)

theorem least_mem {l : List α} {a : α} (h : least before l = some a) : a ∈ l := by
  cases l with
  | nil => cases h
  | cons b l =>
    obtain rfl := Option.some.inj h
    exact scan_mem l b

/-- A strict weak order: two elements neither of which is before the other are alike. -/
structure StrictWeak (before : α → α → Bool) : Prop where
  irrefl : ∀ a, before a a = false
  trans : ∀ a b c, before b a = false → before c b = false → before c a = false
  asymm : ∀ a b, before a b = true → before b a = false

/-- Nothing the scan has seen is before what it ends on. -/
theorem scan_least (order : StrictWeak before) (l : List α) (a : α) :
    ∀ b ∈ a :: l,
      before b (l.foldl (fun best b => if before b best then b else best) a) = false := by
  induction l generalizing a with
  | nil =>
    intro b item
    rw [List.mem_singleton.mp item]
    exact order.irrefl a
  | cons c l ih =>
    intro b item
    rw [List.foldl_cons]
    split
    · rename_i earlier
      rcases List.mem_cons.mp item with rfl | item
      · exact order.trans _ _ _ (ih c c List.mem_cons_self) (order.asymm c b earlier)
      · exact ih c b item
    · rename_i notEarlier
      rcases List.mem_cons.mp item with rfl | item
      · exact ih b b List.mem_cons_self
      · rcases List.mem_cons.mp item with rfl | item
        · exact order.trans _ _ _ (ih a a List.mem_cons_self) (by simpa using notEarlier)
        · exact ih a b (List.mem_cons_of_mem a item)

/-- **The least element.** Nothing is before the one found. -/
theorem least_least (order : StrictWeak before) {l : List α} {a : α} (h : least before l = some a) :
    ∀ b ∈ l, before b a = false := by
  cases l with
  | nil => cases h
  | cons c l =>
    obtain rfl := Option.some.inj h
    exact scan_least order l c

/-- What the scan passed before the element it ends on goes after that one. -/
theorem scan_first (order : StrictWeak before) (l : List α) (a : α) :
    ∃ pre post,
      a :: l = pre ++ l.foldl (fun best b => if before b best then b else best) a :: post ∧
        ∀ b ∈ pre, before (l.foldl (fun best b => if before b best then b else best) a) b := by
  induction l generalizing a with
  | nil => exact ⟨[], [], rfl, by simp⟩
  | cons c l ih =>
    rw [List.foldl_cons]
    split
    · rename_i earlier
      obtain ⟨pre, post, whole, later⟩ := ih c
      have notBefore := scan_least order l c c List.mem_cons_self
      refine ⟨a :: pre, post, by rw [whole, List.cons_append], ?_⟩
      intro b item
      rcases List.mem_cons.mp item with rfl | item
      · by_contra notAfter
        have best := order.trans _ _ _ (by simpa using notAfter) notBefore
        exact Bool.false_ne_true (best.symm.trans earlier)
      · exact later b item
    · rename_i notEarlier
      obtain ⟨pre, post, whole, later⟩ := ih a
      cases pre with
      | nil =>
        obtain ⟨isFirst, rfl⟩ := List.cons.inj whole
        exact ⟨[], c :: l, by rw [List.nil_append, ← isFirst], by simp⟩
      | cons d pre =>
        obtain ⟨rfl, isRest⟩ := List.cons.inj whole
        have first := later a List.mem_cons_self
        refine ⟨a :: c :: pre, post, congrArg (fun rest => a :: c :: rest) isRest, ?_⟩
        intro b item
        rcases List.mem_cons.mp item with rfl | item
        · exact first
        · rcases List.mem_cons.mp item with rfl | item
          · by_contra notAfter
            have alike := order.trans _ _ _ (by simpa using notEarlier) (by simpa using notAfter)
            exact Bool.false_ne_true (alike.symm.trans first)
          · exact later b (List.mem_cons_of_mem a item)

/-- **Ties.** The element found is before all that stand ahead of it: it is the first of the least. -/
theorem least_first (order : StrictWeak before) {l : List α} {a : α} (h : least before l = some a) :
    ∃ pre post, l = pre ++ a :: post ∧ ∀ b ∈ pre, before a b := by
  cases l with
  | nil => cases h
  | cons c l =>
    obtain rfl := Option.some.inj h
    exact scan_first order l c

end Least

/-! ## Where the elements stand -/

/-- One element stands before another. -/
def Ahead (l : List α) (a b : α) : Prop := [a, b].Sublist l

instance Ahead.decidable [DecidableEq α] (l : List α) (a b : α) : Decidable (Ahead l a b) :=
  inferInstanceAs (Decidable ([a, b].Sublist l))

section Ahead

variable {l : List α} {a b : α}

theorem Ahead.append (h : Ahead l a b) (l' : List α) : Ahead (l ++ l') a b :=
  h.trans (List.sublist_append_left l l')

theorem ahead_concat (item : a ∈ l) (b : α) : Ahead (l ++ [b]) a b :=
  (List.singleton_sublist.mpr item).append (List.Sublist.refl [b])

/-- Of two elements one stands before the other. -/
theorem ahead_total (ha : a ∈ l) (hb : b ∈ l) (differ : a ≠ b) : Ahead l a b ∨ Ahead l b a := by
  induction l with
  | nil => cases ha
  | cons c l ih =>
    rcases List.mem_cons.mp ha with rfl | laterA
    · have laterB := (List.mem_cons.mp hb).resolve_left (Ne.symm differ)
      exact .inl ((List.singleton_sublist.mpr laterB).cons_cons a)
    · rcases List.mem_cons.mp hb with rfl | laterB
      · exact .inr ((List.singleton_sublist.mpr laterA).cons_cons b)
      · exact (ih laterA laterB).imp (List.Sublist.cons c) (List.Sublist.cons c)

/-- What stands before an element that is there once is before its place. -/
theorem Ahead.mem_before {pre post : List α} (nodup : (pre ++ a :: post).Nodup)
    (h : Ahead (pre ++ a :: post) b a) : b ∈ pre := by
  have once : a ∉ post := (List.nodup_cons.mp nodup.of_append_right).1
  obtain ⟨first, rest, isPair, inPre, inPost⟩ := List.sublist_append_iff.mp h
  cases first with
  | nil =>
    obtain rfl : rest = [b, a] := isPair.symm
    cases inPost with
    | cons _ later => exact absurd (later.subset (by simp)) once
    | cons_cons _ later => exact absurd (later.subset (by simp)) once
  | cons c first =>
    obtain ⟨rfl, _⟩ := List.cons.inj isPair
    exact inPre.subset List.mem_cons_self

/-- The last element takes the place of one that is taken out before it. -/
theorem swapRemove_inner (pre mid : List α) (p last : α) :
    swapRemove (pre ++ p :: (mid ++ [last])) pre.length = pre ++ last :: mid := by
  have whole : pre ++ p :: (mid ++ [last]) = (pre ++ p :: mid) ++ [last] := by simp
  unfold swapRemove
  rw [whole, List.getLast?_concat]
  dsimp only
  rw [List.set_append_left _ _ (by simp), List.dropLast_concat,
    List.set_append_right _ _ (Nat.le_refl _), Nat.sub_self, List.set_cons_zero]

/-- The last element, taken out, leaves the ones before it. -/
theorem swapRemove_last (pre : List α) (p : α) : swapRemove (pre ++ [p]) pre.length = pre := by
  unfold swapRemove
  rw [List.getLast?_concat]
  dsimp only
  rw [List.set_append_right _ _ (Nat.le_refl _), Nat.sub_self, List.set_cons_zero,
    List.dropLast_concat]

/-- **The order left.** Taking an element out leaves two others in their order, but where it stands
before them and the later is the last, which is moved into its place. -/
theorem Ahead.swapRemove {i : Nat} {p : α} (h : Ahead l a b) (at' : l[i]? = some p)
    (notA : a ≠ p) (notB : b ≠ p) :
    Ahead (Unordered.swapRemove l i) a b ∨ Ahead l p a ∧ l.getLast? = some b := by
  obtain ⟨bound, isAt⟩ := List.getElem?_eq_some_iff.mp at'
  obtain ⟨pre, post, rfl, rfl⟩ : ∃ pre post, l = pre ++ p :: post ∧ pre.length = i :=
    ⟨l.take i, l.drop (i + 1), by rw [← isAt, List.getElem_cons_drop, List.take_append_drop],
      List.length_take_of_le (Nat.le_of_lt bound)⟩
  -- the two stand in their order among the others
  have others : [a, b].Sublist (pre ++ post) := by
    obtain ⟨first, rest, isPair, inPre, inPost⟩ := List.sublist_append_iff.mp h
    rw [isPair]
    apply inPre.append
    rcases List.sublist_cons_iff.mp inPost with inPost | ⟨_, rfl, _⟩
    · exact inPost
    · have taken : p ∈ [a, b] := by simp [isPair]
      simp [Ne.symm notA, Ne.symm notB] at taken
  obtain rfl | ⟨mid, last, rfl⟩ := List.eq_nil_or_concat post
  · rw [swapRemove_last]
    rw [List.append_nil] at others
    exact .inl others
  · rw [List.concat_eq_append] at others ⊢
    rw [swapRemove_inner]
    rw [← List.append_assoc] at others
    obtain ⟨first, rest, isPair, inFirst, inLast⟩ := List.sublist_append_iff.mp others
    rcases List.sublist_singleton.mp inLast with rfl | rfl
    · -- neither is the last
      rw [List.append_nil] at isPair
      rw [← isPair] at inFirst
      exact .inl (inFirst.trans ((List.sublist_cons_self last mid).append_left pre))
    · have isPair : [a] ++ [b] = first ++ [last] := isPair
      obtain ⟨rfl, isLast⟩ := List.append_inj' isPair rfl
      obtain rfl := List.singleton_inj.mp isLast
      rcases List.mem_append.mp (List.singleton_sublist.mp inFirst) with inPre | inMid
      · exact .inl ((List.singleton_sublist.mpr inPre).append
          (List.singleton_sublist.mpr List.mem_cons_self))
      · refine .inr ⟨?_, by rw [← List.cons_append, ← List.append_assoc, List.getLast?_concat]⟩
        refine List.Sublist.trans ?_ (List.sublist_append_right pre _)
        exact (List.singleton_sublist.mpr (List.mem_append_left _ inMid)).cons_cons p

end Ahead

/-! ## As a finite map -/

/-- No two elements share a key. -/
def Keyed (key : α → κ) (l : List α) : Prop := (l.map key).Nodup

section Keyed

variable {key : α → κ} {l : List α} {k : κ} {a : α}

theorem Keyed.perm {l' : List α} (h : Keyed key l) (perm : l.Perm l') : Keyed key l' :=
  (perm.map key).nodup_iff.mp h

theorem Keyed.swapRemove {i : Nat} (h : Keyed key l) (at' : l[i]? = some a) :
    Keyed key (swapRemove l i) :=
  (List.nodup_cons.mp (h.perm (swapRemove_perm at'))).2

theorem map_modify (key : α → κ) {f : α → α} (keeps : ∀ a, key (f a) = key a) (l : List α)
    (i : Nat) : (l.modify i f).map key = l.map key := by
  apply List.ext_getElem?
  intro j
  simp only [List.getElem?_map, List.getElem?_modify]
  split <;> cases l[j]? <;> simp [keeps]

theorem Keyed.modify {i : Nat} {f : α → α} (h : Keyed key l) (keeps : ∀ a, key (f a) = key a) :
    Keyed key (l.modify i f) := by
  unfold Keyed
  rw [map_modify key keeps]
  exact h

variable [DecidableEq κ]

/-- The element with a key. -/
def find (key : α → κ) (l : List α) (k : κ) : Option α := l.find? fun a => key a = k

theorem find_eq_none : find key l k = none ↔ ∀ a ∈ l, key a ≠ k := by
  simp [find]

/-- What is found is an element with the key. -/
theorem of_find (found : find key l k = some a) : a ∈ l ∧ key a = k :=
  ⟨List.mem_of_find?_eq_some found, of_decide_eq_true (List.find?_some (p := fun a => key a = k) found)⟩

/-- An element whose key no other shares is found by it. -/
theorem find_of_unique (item : a ∈ l) (unique : ∀ b ∈ l, key b = key a → b = a) :
    find key l (key a) = some a := by
  cases found : find key l (key a) with
  | none => exact absurd rfl (find_eq_none.mp found a item)
  | some b =>
    obtain ⟨other, same⟩ := of_find found
    rw [unique b other same]

/-- With distinct keys, an element is found exactly by its own. -/
theorem Keyed.find_eq_some (h : Keyed key l) : find key l k = some a ↔ a ∈ l ∧ key a = k := by
  constructor
  · exact of_find
  · rintro ⟨item, rfl⟩
    exact find_of_unique item fun b other same => List.inj_on_of_nodup_map h other item same

/-- Two vectors with the same elements under each key are the same map. -/
theorem Keyed.find_congr {l' : List α} (h : Keyed key l) (h' : Keyed key l')
    (same : ∀ a, key a = k → (a ∈ l ↔ a ∈ l')) : find key l k = find key l' k := by
  apply Option.ext
  intro a
  rw [h.find_eq_some, h'.find_eq_some]
  constructor
  · rintro ⟨item, isKey⟩
    exact ⟨(same a isKey).mp item, isKey⟩
  · rintro ⟨item, isKey⟩
    exact ⟨(same a isKey).mpr item, isKey⟩

theorem Keyed.find_perm {l' : List α} (h : Keyed key l) (perm : l.Perm l') :
    find key l = find key l' := by
  funext k
  exact h.find_congr (h.perm perm) fun a _ => perm.mem_iff

/-- **Adding.** An element under a new key is put there. -/
theorem Keyed.concat (h : Keyed key l) (new : find key l (key a) = none) :
    Keyed key (l ++ [a]) := by
  unfold Keyed
  rw [List.map_append, List.map_singleton, List.nodup_append]
  refine ⟨h, List.nodup_singleton _, ?_⟩
  rintro k item k' item' rfl
  obtain ⟨b, isItem, isKey⟩ := List.mem_map.mp item
  exact find_eq_none.mp new b isItem (isKey.trans (List.mem_singleton.mp item'))

theorem Keyed.find_concat (h : Keyed key l) (new : find key l (key a) = none) :
    find key (l ++ [a]) = Function.update (find key l) (key a) (some a) := by
  funext k
  by_cases isKey : k = key a
  · subst isKey
    rw [Function.update_self, (h.concat new).find_eq_some]
    exact ⟨List.mem_append_right l List.mem_cons_self, rfl⟩
  · rw [Function.update_of_ne isKey]
    unfold find
    rw [List.find?_append]
    have other : [a].find? (fun b => key b = k) = none := by simp [Ne.symm isKey]
    rw [other, Option.or_none]

/-- **Removing.** The element at an index leaves the map. -/
theorem Keyed.find_swapRemove {i : Nat} (h : Keyed key l) (at' : l[i]? = some a) :
    find key (Unordered.swapRemove l i) = Function.update (find key l) (key a) none := by
  have moved := h.perm (swapRemove_perm at')
  rw [h.find_perm (swapRemove_perm at')]
  funext k
  by_cases isKey : k = key a
  · subst isKey
    rw [Function.update_self, find_eq_none]
    intro b item same
    exact (List.nodup_cons.mp moved).1 (same ▸ List.mem_map_of_mem item)
  · rw [Function.update_of_ne isKey]
    unfold find
    rw [List.find?_cons_of_neg (by simpa using Ne.symm isKey)]

/-- **Updating.** The element at an index changes under its key. -/
theorem Keyed.find_modify {i : Nat} {f : α → α} (h : Keyed key l) (keeps : ∀ a, key (f a) = key a)
    (at' : l[i]? = some a) :
    find key (l.modify i f) = Function.update (find key l) (key a) (some (f a)) := by
  have changed := h.modify (i := i) keeps
  funext k
  by_cases isKey : k = key a
  · subst isKey
    rw [Function.update_self, changed.find_eq_some]
    refine ⟨List.mem_iff_getElem?.mpr ⟨i, ?_⟩, keeps a⟩
    simp [at']
  · rw [Function.update_of_ne isKey]
    apply changed.find_congr h
    intro b hb
    have notHere : b ≠ a := fun same => isKey (by rw [← hb, same])
    constructor
    · intro item
      obtain ⟨j, hj⟩ := List.mem_iff_getElem?.mp item
      rw [List.getElem?_modify] at hj
      by_cases here : i = j
      · subst here
        rw [at'] at hj
        have isItem : f a = b := by simpa using hj
        exact absurd ((hb.symm.trans (congrArg key isItem.symm)).trans (keeps a)) isKey
      · exact List.mem_iff_getElem?.mpr ⟨j, by simpa [here] using hj⟩
    · intro item
      obtain ⟨j, hj⟩ := List.mem_iff_getElem?.mp item
      have elsewhere : i ≠ j := by
        rintro rfl
        exact notHere (Option.some.inj (hj.symm.trans at'))
      exact List.mem_iff_getElem?.mpr ⟨j, by simpa [List.getElem?_modify, elsewhere] using hj⟩

end Keyed

end Unordered
