import AnovaOven.Lib.JsonText
import Mathlib.Data.Nat.Find

/-!
# Text cut short

The bytes of a text, cut anywhere, and the text that is still whole in them. UTF-8 is read from the front,
so a text's bytes begin another's just where its characters do (`utf8_prefix_iff`).

**The longest text** (`longest_readText`): of the bytes of a text, cut at any of them, the part that is read
is the longest prefix of the text that fits.
-/

namespace JsonText

theorem toByteArray_utf8 (s : String) : (utf8 s).toByteArray = s.toByteArray := by
  rw [← String.utf8Encode_toList]
  rfl

/-- Bytes are read as the text whose bytes they are. -/
theorem utf8_of_decode {bytes : Bytes} {s : String} (h : decode bytes = some s) : utf8 s = bytes := by
  unfold decode String.fromUTF8? at h
  split at h
  case isTrue valid =>
    cases h
    exact List.toByteArray_inj.mp (toByteArray_utf8 _)
  case isFalse => cases h

/-- The first character can be told from the bytes. -/
theorem utf8EncodeChar_append_inj {c d : Char} {x y : Bytes}
    (h : String.utf8EncodeChar c ++ x = String.utf8EncodeChar d ++ y) : c = d := by
  have first (c : Char) (x : Bytes) :
      (String.utf8EncodeChar c ++ x).toByteArray.utf8DecodeChar? 0 = some c := by
    rw [List.toByteArray_append, ← List.utf8Encode_singleton]
    exact List.utf8DecodeChar?_utf8Encode_singleton_append
  exact Option.some.inj ((first c x).symm.trans (h ▸ first d y))

/-- **Prefixes.** A text's bytes begin another's just where its characters do. -/
theorem utf8_prefix_iff {a b : String} : utf8 a <+: utf8 b ↔ a.toList <+: b.toList := by
  unfold utf8
  constructor
  · generalize a.toList = cs
    generalize b.toList = ds
    intro within
    induction cs generalizing ds with
    | nil => exact List.nil_prefix
    | cons c cs ih =>
      obtain ⟨rest, eq⟩ := within
      rw [List.flatMap_cons, List.append_assoc] at eq
      cases ds with
      | nil =>
        have some : String.utf8EncodeChar c ≠ [] := by
          intro none
          have size := String.length_utf8EncodeChar c
          rw [none, List.length_nil] at size
          have := c.utf8Size_pos
          omega
        exact absurd (List.append_eq_nil_iff.mp eq).1 some
      | cons d ds =>
        rw [List.flatMap_cons] at eq
        obtain rfl := utf8EncodeChar_append_inj eq
        exact List.cons_prefix_cons.mpr ⟨rfl, ih ds ⟨rest, List.append_cancel_left eq⟩⟩
  · rintro ⟨rest, eq⟩
    rw [← eq, List.flatMap_append]
    exact List.prefix_append _ _

/-- Only the empty text has no bytes. -/
theorem utf8_pos {s : String} (some : s ≠ "") : 0 < (utf8 s).length := by
  apply List.length_pos_of_ne_nil
  intro none
  have begins : utf8 s <+: utf8 "" := by
    rw [none]
    exact List.nil_prefix
  exact some (String.toList_eq_nil_iff.mp (List.prefix_nil.mp (utf8_prefix_iff.mp begins)))

/-- How many of the bytes are whole text: as far as they can be read. -/
def validUpTo (bytes : Bytes) : Nat :=
  Nat.findGreatest (fun n => (decode (bytes.take n)).isSome) bytes.length

/-- The text that is whole in the bytes. -/
def readText (bytes : Bytes) : String := (decode (bytes.take (validUpTo bytes))).getD ""

/-- The longest prefix of a text that fits in so many bytes. -/
structure LongestWithin (n : Nat) (s t : String) : Prop where
  begins : t.toList <+: s.toList
  fits : (utf8 t).length ≤ n
  longest : ∀ other : String, other.toList <+: s.toList → (utf8 other).length ≤ n →
    other.toList <+: t.toList

/-- What is read are the bytes up to where they can be read. -/
theorem utf8_readText (bytes : Bytes) : utf8 (readText bytes) = bytes.take (validUpTo bytes) := by
  have valid : (decode (bytes.take (validUpTo bytes))).isSome :=
    Nat.findGreatest_spec (P := fun n => (decode (bytes.take n)).isSome) (Nat.zero_le _)
      (by rw [List.take_zero]; exact Option.isSome_iff_exists.mpr ⟨"", decode_utf8 ""⟩)
  obtain ⟨s, read⟩ := Option.isSome_iff_exists.mp valid
  unfold readText
  rw [read]
  exact utf8_of_decode read

/-- **The longest text.** Of a text's bytes, cut at some length, the longest prefix of it that fits is
read. -/
theorem longest_readText (s : String) (n : Nat) : LongestWithin n s (readText ((utf8 s).take n)) := by
  have read := utf8_readText ((utf8 s).take n)
  refine ⟨?begins, ?fits, ?longest⟩
  case begins =>
    apply utf8_prefix_iff.mp
    rw [read]
    exact (List.take_prefix _ _).trans (List.take_prefix _ _)
  case fits =>
    rw [read, List.length_take, List.length_take]
    omega
  case longest =>
    intro other begins fits
    obtain ⟨rest, eq⟩ := utf8_prefix_iff.mpr begins
    have length : (utf8 other).length ≤ ((utf8 s).take n).length := by
      rw [List.length_take, ← eq, List.length_append]
      omega
    have bytes : ((utf8 s).take n).take (utf8 other).length = utf8 other := by
      rw [List.take_take, Nat.min_eq_left fits, ← eq, List.take_left]
    have valid : (decode (((utf8 s).take n).take (utf8 other).length)).isSome := by
      rw [bytes, decode_utf8]
      rfl
    have reach : (utf8 other).length ≤ validUpTo ((utf8 s).take n) := Nat.le_findGreatest length valid
    apply utf8_prefix_iff.mp
    rw [read, ← bytes]
    exact List.take_prefix_take_left reach

end JsonText
