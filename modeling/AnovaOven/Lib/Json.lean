import Mathlib.Algebra.Group.Int.Defs
import Mathlib.Algebra.Group.Nat.Defs
import Mathlib.Data.Rat.Defs

/-!
# JSON values

The value model of a JSON library: objects are association lists read at their first entry, and a
number is an integer or a rational. Field reads, updates and removals have the equations a map has
(`get_set`, `get_erase`), so a codec law never opens the representation. Two values are the same but for
what is under some keys where their masks are (`mask`).
-/

/-- A JSON value. Integers and other numbers are kept apart, as `as_u64` tells them apart. -/
inductive Json where
  | null
  | bool (b : Bool)
  | int (n : Int)
  | float (q : ℚ)
  | str (s : String)
  | arr (items : List Json)
  | obj (fields : List (String × Json))
  deriving Repr, Inhabited

namespace Json

/-- The value of an object's field: none for a missing field, and for a value that is no object. -/
def get : Json → String → Option Json
  | obj fields, key => fields.lookup key
  | _, _ => none

/-- A field read that answers null where there is nothing. -/
def index (j : Json) (key : String) : Json := (j.get key).getD null

def asStr : Json → Option String
  | str s => some s
  | _ => none

def asBool : Json → Option Bool
  | bool b => some b
  | _ => none

/-- Any number, read exactly. -/
def asF64 : Json → Option ℚ
  | int n => some n
  | float q => some q
  | _ => none

/-- An integer that fits 64 unsigned bits. -/
def asU64 : Json → Option UInt64
  | int n => if 0 ≤ n ∧ n < 2 ^ 64 then some (UInt64.ofNat n.toNat) else none
  | _ => none

/-- Replace the first entry under a key, or append one. -/
def setField (key : String) (value : Json) : List (String × Json) → List (String × Json)
  | [] => [(key, value)]
  | (k, v) :: rest => if k = key then (k, value) :: rest else (k, v) :: setField key value rest

/-- Assign an object's field; a value that is no object is left as it is. -/
def set (j : Json) (key : String) (value : Json) : Json :=
  match j with
  | obj fields => obj (setField key value fields)
  | other => other

/-- Assign a field through an index, `value[key] = ..`: a null becomes an object, and a value that
is neither (on which the index panics) is left as it is. -/
def assign (j : Json) (key : String) (value : Json) : Json :=
  match j with
  | null => obj [(key, value)]
  | other => other.set key value

/-- Drop an object's field. -/
def erase (j : Json) (key : String) : Json :=
  match j with
  | obj fields => obj (fields.filter fun field => field.1 ≠ key)
  | other => other

/-- Drop several fields. -/
def eraseAll (j : Json) (keys : List String) : Json := keys.foldl erase j

def isObj : Json → Bool
  | obj _ => true
  | _ => false

@[simp] theorem asStr_str (s : String) : asStr (str s) = some s := rfl
@[simp] theorem asBool_bool (b : Bool) : asBool (bool b) = some b := rfl
@[simp] theorem asF64_int (n : Int) : asF64 (int n) = some (n : ℚ) := rfl
@[simp] theorem asF64_float (q : ℚ) : asF64 (float q) = some q := rfl

/-- A natural number that fits 64 bits reads back. -/
theorem asU64_natCast {n : Nat} (h : n < 2 ^ 64) : asU64 (int n) = some (UInt64.ofNat n) := by
  have fits : 0 ≤ (n : Int) ∧ (n : Int) < 2 ^ 64 := by
    constructor <;> omega
  simp only [asU64, fits, and_self, if_true, Int.toNat_natCast]

/-- An unsigned 64-bit integer reads back. -/
@[simp] theorem asU64_toNat (n : UInt64) : asU64 (int n.toNat) = some n := by
  rw [asU64_natCast n.toNat_lt, UInt64.ofNat_toNat]

@[simp] theorem get_obj (fields : List (String × Json)) (key : String) :
    (obj fields).get key = fields.lookup key := rfl

@[simp] theorem isObj_obj (fields : List (String × Json)) : (obj fields).isObj = true := rfl

@[simp] theorem isObj_set (j : Json) (key : String) (value : Json) :
    (j.set key value).isObj = j.isObj := by cases j <;> rfl

theorem lookup_setField (key other : String) (value : Json) (fields : List (String × Json)) :
    (setField key value fields).lookup other =
      if other = key then some value else fields.lookup other := by
  induction fields with
  | nil =>
    by_cases h : other = key
    · simp only [setField, List.lookup_cons, h, beq_self_eq_true, if_true]
    · simp only [setField, List.lookup_cons, List.lookup_nil, beq_eq_false_iff_ne.mpr h, if_neg h]
  | cons field rest ih =>
    obtain ⟨k, v⟩ := field
    by_cases hk : k = key
    · subst hk
      by_cases h : other = k
      · simp only [setField, if_true, List.lookup_cons, h, beq_self_eq_true]
      · simp only [setField, if_true, List.lookup_cons, beq_eq_false_iff_ne.mpr h, if_neg h]
    · simp only [setField, if_neg hk, List.lookup_cons]
      by_cases h : other = k
      · subst h
        simp only [beq_self_eq_true, if_neg hk]
      · simp only [beq_eq_false_iff_ne.mpr h, ih]

/-- Reading after an assignment to an object. -/
theorem get_set {j : Json} (object : j.isObj) (key other : String) (value : Json) :
    (j.set key value).get other = if other = key then some value else j.get other := by
  cases j with
  | obj fields => exact lookup_setField key other value fields
  | _ => simp only [isObj, Bool.false_eq_true] at object

theorem lookup_filter_ne (key other : String) (fields : List (String × Json)) :
    (fields.filter fun field => field.1 ≠ key).lookup other =
      if other = key then none else fields.lookup other := by
  induction fields with
  | nil => simp only [List.filter_nil, List.lookup_nil, ite_self]
  | cons field rest ih =>
    obtain ⟨k, v⟩ := field
    by_cases hk : k = key
    · subst hk
      rw [List.filter_cons_of_neg (by simp only [ne_eq, not_true, decide_false, Bool.false_eq_true,
        not_false_eq_true]), ih]
      by_cases h : other = k
      · simp only [h, if_true]
      · simp only [List.lookup_cons, beq_eq_false_iff_ne.mpr h, if_neg h]
    · rw [List.filter_cons_of_pos (by simp only [ne_eq, hk, not_false_eq_true, decide_true])]
      by_cases h : other = k
      · subst h
        simp only [List.lookup_cons, beq_self_eq_true, if_neg hk]
      · simp only [List.lookup_cons, beq_eq_false_iff_ne.mpr h, ih]

/-- Reading after a removal. -/
theorem get_erase (j : Json) (key other : String) :
    (j.erase key).get other = if other = key then none else j.get other := by
  cases j with
  | obj fields => exact lookup_filter_ne key other fields
  | _ => simp only [erase, get, ite_self]

/-- Reading after several removals. -/
theorem get_eraseAll (j : Json) (keys : List String) (other : String) :
    (j.eraseAll keys).get other = if other ∈ keys then none else j.get other := by
  induction keys generalizing j with
  | nil => simp only [eraseAll, List.foldl_nil, List.not_mem_nil, if_false]
  | cons key keys ih =>
    have step : (j.eraseAll (key :: keys)) = (j.erase key).eraseAll keys := rfl
    rw [step, ih, get_erase]
    by_cases hk : other = key
    · simp only [hk, if_true, ite_self, List.mem_cons, true_or]
    · simp only [hk, if_false, List.mem_cons, false_or]

/-! ## Values but for some keys -/

mutual

/-- A value with what is under some keys blanked, at any depth. -/
def mask (keys : List String) : Json → Json
  | obj fields => obj (maskFields keys fields)
  | arr items => arr (maskItems keys items)
  | null => null
  | bool b => bool b
  | int n => int n
  | float q => float q
  | str s => str s

def maskFields (keys : List String) : List (String × Json) → List (String × Json)
  | [] => []
  | field :: rest => maskField keys field :: maskFields keys rest

def maskField (keys : List String) : String × Json → String × Json
  | (key, value) => (key, if key ∈ keys then null else mask keys value)

def maskItems (keys : List String) : List Json → List Json
  | [] => []
  | item :: rest => mask keys item :: maskItems keys rest

end

theorem lookup_maskFields (keys : List String) (fields : List (String × Json)) (key : String) :
    (maskFields keys fields).lookup key =
      (fields.lookup key).map fun value => if key ∈ keys then null else mask keys value := by
  induction fields with
  | nil => rfl
  | cons field rest ih =>
    obtain ⟨k, v⟩ := field
    by_cases h : key = k
    · subst h
      simp [maskFields, maskField]
    · simp [maskFields, maskField, List.lookup_cons, beq_eq_false_iff_ne.mpr h, ih]

/-- Reading a masked value. -/
theorem get_mask (keys : List String) (j : Json) (key : String) :
    (j.mask keys).get key =
      (j.get key).map fun value => if key ∈ keys then null else value.mask keys := by
  cases j with
  | obj fields => exact lookup_maskFields keys fields key
  | null | bool | int | float | str | arr => rfl

theorem maskFields_setField (keys : List String) (key : String) (value : Json)
    (fields : List (String × Json)) :
    maskFields keys (setField key value fields) =
      setField key (if key ∈ keys then null else value.mask keys) (maskFields keys fields) := by
  induction fields with
  | nil => rfl
  | cons field rest ih =>
    obtain ⟨k, v⟩ := field
    by_cases h : k = key
    · subst h
      simp [maskFields, maskField, setField]
    · simp [maskFields, maskField, setField, h, ih]

/-- Masking after an assignment. -/
theorem mask_set (keys : List String) (j : Json) (key : String) (value : Json) :
    (j.set key value).mask keys =
      (j.mask keys).set key (if key ∈ keys then null else value.mask keys) := by
  cases j with
  | obj fields => exact congrArg obj (maskFields_setField keys key value fields)
  | null | bool | int | float | str | arr => rfl

end Json
