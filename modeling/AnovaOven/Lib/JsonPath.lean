import AnovaOven.Lib.Json

/-!
# Paths into JSON values

A path is the keys that lead to a value inside of another. An assignment along a path, as
`value[k₁][k₂] = ..` makes it, is read back at its end and at no path that leads elsewhere
(`sameBut_assignAt`): neither to the value assigned or into it, nor to an object it is in.
-/

namespace Json

/-- The value a path of keys leads to. -/
def valueAt (j : Json) : List String → Option Json
  | [] => some j
  | key :: path => (j.get key).bind fun value => value.valueAt path

/-- Assign along a path of keys. What is missing on the way is made an object. -/
def assignAt (j : Json) : List String → Json → Json
  | [], value => value
  | key :: path, value => j.assign key ((j.index key).assignAt path value)

/-- Whether an assignment along a path finds an object wherever it indexes, or nothing: on anything
else it panics. -/
def Indexable (j : Json) : List String → Prop
  | [] => True
  | key :: path => (j.isObj ∨ j = null) ∧ (j.index key).Indexable path

/-- Whether neither of two paths leads on from the other. -/
def Apart (path other : List String) : Prop := ¬ path <+: other ∧ ¬ other <+: path

/-- Two values that read the same but at some paths, inside of what these lead to, and around it. -/
def SameBut (edited : List (List String)) (j j' : Json) : Prop :=
  ∀ path, (∀ edit ∈ edited, Apart edit path) → j'.valueAt path = j.valueAt path

@[simp] theorem valueAt_nil (j : Json) : j.valueAt [] = some j := rfl

theorem valueAt_cons (j : Json) (key : String) (path : List String) :
    j.valueAt (key :: path) = (j.get key).bind fun value => value.valueAt path := rfl

@[simp] theorem valueAt_singleton (j : Json) (key : String) : j.valueAt [key] = j.get key := by
  rw [valueAt_cons]
  cases j.get key <;> rfl

theorem valueAt_append (j : Json) (path rest : List String) :
    j.valueAt (path ++ rest) = (j.valueAt path).bind fun value => value.valueAt rest := by
  induction path generalizing j with
  | nil => rfl
  | cons key path ih =>
    rw [List.cons_append, valueAt_cons, valueAt_cons]
    cases j.get key with
    | none => rfl
    | some value => exact ih value

/-- Reading after an assignment through an index. -/
theorem get_assign {j : Json} (usable : j.isObj ∨ j = null) (key other : String) (value : Json) :
    (j.assign key value).get other = if other = key then some value else j.get other := by
  rcases usable with object | rfl
  · cases j with
    | obj fields => exact get_set object key other value
    | _ => simp only [isObj, Bool.false_eq_true] at object
  · show ([(key, value)] : List (String × Json)).lookup other = _
    by_cases h : other = key
    · simp [h]
    · simp [h, List.lookup_cons, beq_eq_false_iff_ne.mpr h, get]

/-- What has been assigned to is an object. -/
theorem isObj_assign {j : Json} (usable : j.isObj ∨ j = null) (key : String) (value : Json) :
    (j.assign key value).isObj := by
  rcases usable with object | rfl
  · cases j with
    | obj fields => rfl
    | _ => simp only [isObj, Bool.false_eq_true] at object
  · rfl

theorem index_assign {j : Json} (usable : j.isObj ∨ j = null) (key : String) (value : Json) :
    (j.assign key value).index key = value := by
  rw [index, get_assign usable, if_pos rfl, Option.getD_some]

theorem index_assign_of_ne {j : Json} (usable : j.isObj ∨ j = null) {key other : String}
    (h : other ≠ key) (value : Json) : (j.assign key value).index other = j.index other := by
  rw [index, get_assign usable, if_neg h, index]

theorem setField_setField (key : String) (value value' : Json) (fields : List (String × Json)) :
    setField key value' (setField key value fields) = setField key value' fields := by
  induction fields with
  | nil => simp only [setField, if_true]
  | cons field rest ih =>
    obtain ⟨k, v⟩ := field
    by_cases same : k = key
    · simp only [setField, same, if_true]
    · simp only [setField, same, if_false, ih]

/-- Of two assignments under one key the second stays. -/
theorem assign_assign {j : Json} (usable : j.isObj ∨ j = null) (key : String)
    (value value' : Json) : (j.assign key value).assign key value' = j.assign key value' := by
  rcases usable with object | rfl
  · cases j with
    | obj fields => exact congrArg obj (setField_setField key value value' fields)
    | _ => simp only [isObj, Bool.false_eq_true] at object
  · exact congrArg obj (setField_setField key value value' [])

/-- An index that finds something reads it. -/
theorem get_of_index {j : Json} {key : String} (found : j.index key ≠ null) :
    j.get key = some (j.index key) := by
  unfold index at found ⊢
  cases present : j.get key with
  | none => exact absurd (by rw [present, Option.getD_none]) found
  | some value => rfl

/-- What an index answers leads on as the value there does, but for its own absence. -/
theorem valueAt_index (j : Json) (key : String) {path : List String} (further : path ≠ []) :
    (j.index key).valueAt path = (j.get key).bind fun value => value.valueAt path := by
  cases path with
  | nil => exact absurd rfl further
  | cons key' path =>
    unfold index
    cases j.get key <;> rfl

theorem Apart.symm {path other : List String} (h : Apart path other) : Apart other path :=
  ⟨h.2, h.1⟩

/-- Paths that are apart under one key are apart after it. -/
theorem Apart.tail {key : String} {path other : List String}
    (h : Apart (key :: path) (key :: other)) : Apart path other :=
  ⟨fun leads => h.1 ((List.prefix_cons_inj key).mpr leads),
    fun leads => h.2 ((List.prefix_cons_inj key).mpr leads)⟩

/-- Paths that part under one key are apart before it. -/
theorem Apart.cons {path other : List String} (h : Apart path other) (key : String) :
    Apart (key :: path) (key :: other) :=
  ⟨fun leads => h.1 ((List.prefix_cons_inj key).mp leads),
    fun leads => h.2 ((List.prefix_cons_inj key).mp leads)⟩

/-- Paths from different keys are apart. -/
theorem apart_of_ne {key key' : String} (h : key ≠ key') (path other : List String) :
    Apart (key :: path) (key' :: other) :=
  ⟨fun leads => h (List.cons_prefix_cons.mp leads).1,
    fun leads => h (List.cons_prefix_cons.mp leads).1.symm⟩

/-- An assignment is read at its path. -/
theorem valueAt_assignAt {j : Json} {path : List String} (usable : j.Indexable path) (value : Json) :
    (j.assignAt path value).valueAt path = some value := by
  induction path generalizing j with
  | nil => rfl
  | cons key path ih =>
    rw [assignAt, valueAt_cons, get_assign usable.1, if_pos rfl, Option.bind_some]
    exact ih usable.2

/-- **Assignments.** An assignment along a path is not seen at any path apart from it. -/
theorem valueAt_assignAt_of_apart {j : Json} {path other : List String} (usable : j.Indexable path)
    (value : Json) (apart : Apart path other) :
    (j.assignAt path value).valueAt other = j.valueAt other := by
  induction path generalizing j other with
  | nil => exact absurd List.nil_prefix apart.1
  | cons key path ih =>
    cases other with
    | nil => exact absurd List.nil_prefix apart.2
    | cons key' other =>
      rw [assignAt, valueAt_cons, get_assign usable.1, valueAt_cons]
      by_cases same : key' = key
      · subst same
        have further : other ≠ [] := fun done => apart.tail.2 (done ▸ List.nil_prefix)
        rw [if_pos rfl, Option.bind_some, ih usable.2 apart.tail, valueAt_index j key' further]
      · rw [if_neg same]

theorem sameBut_assignAt {j : Json} {path : List String} (usable : j.Indexable path)
    (value : Json) : SameBut [path] j (j.assignAt path value) := by
  intro other apart
  exact valueAt_assignAt_of_apart usable value (apart path (List.mem_singleton_self path))

theorem SameBut.refl (edited : List (List String)) (j : Json) : SameBut edited j j :=
  fun _ _ => rfl

/-- Edits in sequence. -/
theorem SameBut.trans {edited edited' : List (List String)} {j j' j'' : Json}
    (first : SameBut edited j j') (second : SameBut edited' j' j'') :
    SameBut (edited ++ edited') j j'' := by
  intro path apart
  rw [second path fun edit mem => apart edit (List.mem_append_right _ mem),
    first path fun edit mem => apart edit (List.mem_append_left _ mem)]

/-- An edit that wrote what was there was none, where the paths around it are around another. -/
theorem SameBut.drop {edit : List String} {edited : List (List String)} {j j' : Json}
    (h : SameBut (edit :: edited) j j') (same : j'.valueAt edit = j.valueAt edit)
    (around : ∀ path, path <+: edit → path ≠ edit → ∃ other ∈ edited, path <+: other) :
    SameBut edited j j' := by
  intro path apart
  by_cases into : edit <+: path
  · obtain ⟨rest, rfl⟩ := into
    rw [valueAt_append, valueAt_append, same]
  · by_cases outOf : path <+: edit
    · have other : path ≠ edit := fun eq => into (eq ▸ List.prefix_refl edit)
      obtain ⟨around, mem, leads⟩ := around path outOf other
      exact absurd leads (apart around mem).2
    · apply h path
      intro another mem
      rcases List.mem_cons.mp mem with rfl | mem
      · exact ⟨into, outOf⟩
      · exact apart another mem

end Json
