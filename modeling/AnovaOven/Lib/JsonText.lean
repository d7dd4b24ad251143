import Mathlib.Data.List.Basic

/-!
# JSON text as bytes

The text of a JSON object of strings and counts, as a compact serializer writes it, and the balance
every JSON text has: its brackets close, its strings end, a string is followed by punctuation and
nothing follows the end.

**Joined texts** (`not_balanced_joined`): a line that begins with a bracket and runs into the text of
an object is never balanced, wherever it was torn. **Torn texts** (`not_balanced_torn`): nor is an
object's text without its end.
-/

/-- Text, as the bytes a file holds. -/
abbrev Bytes := List UInt8

namespace JsonText

/-! ## UTF-8 -/

/-- The bytes of a text. -/
def utf8 (s : String) : Bytes := s.toList.flatMap String.utf8EncodeChar

/-- The text of bytes, where they are valid UTF-8. -/
def decode (bytes : Bytes) : Option String := String.fromUTF8? bytes.toByteArray

/-- Text reads back from its bytes. -/
@[simp] theorem decode_utf8 (s : String) : decode (utf8 s) = some s := by
  have bytes : (utf8 s).toByteArray = s.toByteArray := by
    rw [← String.utf8Encode_toList]
    rfl
  unfold decode String.fromUTF8?
  rw [bytes, dif_pos s.isValidUTF8]
  rfl

theorem utf8_append (a b : String) : utf8 (a ++ b) = utf8 a ++ utf8 b := by
  simp [utf8, String.toList_append, List.flatMap_append]

/-- A character's bytes are its code below 128, and all from 128 up otherwise. -/
theorem utf8EncodeChar_cases (c : Char) :
    (∃ b : UInt8, b < 0x80 ∧ String.utf8EncodeChar c = [b]) ∨
      ∀ b ∈ String.utf8EncodeChar c, 0x80 ≤ b := by
  unfold String.utf8EncodeChar
  dsimp only
  split
  · refine .inl ⟨_, ?_, rfl⟩
    rw [UInt8.lt_iff_toNat_lt, UInt8.toNat_ofNat']
    simp only [UInt8.reduceToNat]
    omega
  · right
    -- every byte of a longer encoding is a remainder on top of 0x80 or more
    have high : ∀ n, 0x80 ≤ n → n < 0x100 → 0x80 ≤ UInt8.ofNat n := by
      intro n lower upper
      rw [UInt8.le_iff_toNat_le, UInt8.toNat_ofNat', Nat.mod_eq_of_lt upper]
      exact lower
    split
    · simp only [List.mem_cons, List.not_mem_nil, or_false, forall_eq_or_imp, forall_eq]
      exact ⟨high _ (by omega) (by omega), high _ (by omega) (by omega)⟩
    · split
      · simp only [List.mem_cons, List.not_mem_nil, or_false, forall_eq_or_imp, forall_eq]
        exact ⟨high _ (by omega) (by omega), high _ (by omega) (by omega),
          high _ (by omega) (by omega)⟩
      · simp only [List.mem_cons, List.not_mem_nil, or_false, forall_eq_or_imp, forall_eq]
        exact ⟨high _ (by omega) (by omega), high _ (by omega) (by omega),
          high _ (by omega) (by omega), high _ (by omega) (by omega)⟩

/-! ## Strings and counts -/

/-- A hexadecimal digit, in lower case. -/
def hexDigit (n : UInt8) : UInt8 := if n < 10 then 0x30 + n else 0x57 + n

/-- A byte of a string as it is written: quotes, backslashes and control characters escaped. -/
def escapeByte (b : UInt8) : Bytes :=
  if b = 0x22 then [0x5C, 0x22]
  else if b = 0x5C then [0x5C, 0x5C]
  else if b = 0x08 then [0x5C, 0x62]
  else if b = 0x0C then [0x5C, 0x66]
  else if b = 0x0A then [0x5C, 0x6E]
  else if b = 0x0D then [0x5C, 0x72]
  else if b = 0x09 then [0x5C, 0x74]
  else if b < 0x20 then [0x5C, 0x75, 0x30, 0x30, hexDigit (b / 16), hexDigit (b % 16)]
  else [b]

/-- A string's bytes as they are written. -/
def escape (bytes : Bytes) : Bytes := bytes.flatMap escapeByte

/-- A string as it is written. -/
def quote (s : String) : Bytes := 0x22 :: (escape (utf8 s) ++ [0x22])

/-- A count as it is written. -/
def count (n : Nat) : Bytes := (Nat.toDigits 10 n).flatMap String.utf8EncodeChar

/-! ## Balance -/

/-- Where a scan of JSON text is: outside of strings, within one, after a backslash in one, after one
or after a closing bracket, each at its depth; or past the first thing no JSON text has. -/
inductive Scan where
  | free (depth : Nat)
  | inString (depth : Nat)
  | escaped (depth : Nat)
  | closed (depth : Nat)
  | dead
  deriving Repr, DecidableEq

/-- The white space of JSON. -/
def isSpace (b : UInt8) : Bool := b = 0x20 ∨ b = 0x09 ∨ b = 0x0A ∨ b = 0x0D

namespace Scan

/-- Close a bracket. -/
def close : Nat → Scan
  | 0 => dead
  | depth + 1 => closed depth

/-- Read one byte. -/
def step : Scan → UInt8 → Scan
  | free depth, b =>
    if b = 0x22 then inString depth
    else if b = 0x7B ∨ b = 0x5B then free (depth + 1)
    else if b = 0x7D ∨ b = 0x5D then close depth
    else free depth
  | inString depth, b =>
    if b = 0x22 then closed depth
    else if b = 0x5C then escaped depth
    else inString depth
  | escaped depth, _ => inString depth
  | closed depth, b =>
    if isSpace b then closed depth
    else if b = 0x2C ∨ b = 0x3A then
      match depth with
      | 0 => dead
      | depth + 1 => free (depth + 1)
    else if b = 0x7D ∨ b = 0x5D then close depth
    else dead
  | dead, _ => dead

/-- Read bytes. -/
def run (s : Scan) (bytes : Bytes) : Scan := bytes.foldl step s

@[simp] theorem run_nil (s : Scan) : s.run [] = s := rfl

@[simp] theorem run_cons (s : Scan) (b : UInt8) (bytes : Bytes) :
    s.run (b :: bytes) = (s.step b).run bytes := rfl

theorem run_append (s : Scan) (a b : Bytes) : s.run (a ++ b) = (s.run a).run b :=
  List.foldl_append

@[simp] theorem run_dead (bytes : Bytes) : dead.run bytes = dead := by
  induction bytes with
  | nil => rfl
  | cons b bytes ih => exact ih

/-- A scan that may end there: at no depth, and not within a string. -/
def accepts : Scan → Bool
  | free 0 | closed 0 => true
  | _ => false

end Scan

/-- What every JSON text has: its brackets close, its strings end, a string is followed by
punctuation or a closing bracket, and nothing follows the end. -/
def Balanced (bytes : Bytes) : Prop := ((Scan.free 0).run bytes).accepts = true

open Scan

/-- A hexadecimal digit is a plain byte of a string. -/
theorem hexDigit_plain {n : UInt8} (h : n < 16) :
    hexDigit n ≠ 0x22 ∧ hexDigit n ≠ 0x5C ∧ hexDigit n ≠ 0x0A ∧ hexDigit n < 0x80 := by
  have small : n.toNat < 16 := UInt8.lt_iff_toNat_lt.mp h
  unfold hexDigit
  split
  · rename_i digit
    have digit : n.toNat < 10 := UInt8.lt_iff_toNat_lt.mp digit
    simp only [ne_eq, ← UInt8.toNat_inj, UInt8.lt_iff_toNat_lt, UInt8.toNat_add,
      UInt8.reduceToNat]
    refine ⟨?_, ?_, ?_, ?_⟩ <;> omega
  · rename_i letter
    have letter : ¬ n.toNat < 10 := fun digit => letter (UInt8.lt_iff_toNat_lt.mpr digit)
    simp only [ne_eq, ← UInt8.toNat_inj, UInt8.lt_iff_toNat_lt, UInt8.toNat_add,
      UInt8.reduceToNat]
    refine ⟨?_, ?_, ?_, ?_⟩ <;> omega

/-- The two digits of a control character are below 16. -/
theorem digits_lt {b : UInt8} (h : b < 0x20) : b / 16 < 16 ∧ b % 16 < 16 := by
  have small : b.toNat < 32 := UInt8.lt_iff_toNat_lt.mp h
  simp only [UInt8.lt_iff_toNat_lt, UInt8.toNat_div, UInt8.toNat_mod, UInt8.reduceToNat]
  omega

/-- What an escaped byte is: a backslash and a letter, a control character's six bytes, or a plain
byte itself. -/
theorem escapeByte_cases (b : UInt8) :
    (∃ e : UInt8, e ≠ 0x0A ∧ e < 0x80 ∧ escapeByte b = [0x5C, e]) ∨
      (∃ high low : UInt8, high < 16 ∧ low < 16 ∧
        escapeByte b = [0x5C, 0x75, 0x30, 0x30, hexDigit high, hexDigit low]) ∨
      (b ≠ 0x22 ∧ b ≠ 0x5C ∧ b ≠ 0x0A ∧ escapeByte b = [b]) := by
  generalize written : escapeByte b = bytes
  unfold escapeByte at written
  split_ifs at written with quote backslash _ _ newline _ _ control <;> subst written
  · exact .inl ⟨0x22, by decide, by decide, rfl⟩
  · exact .inl ⟨0x5C, by decide, by decide, rfl⟩
  · exact .inl ⟨0x62, by decide, by decide, rfl⟩
  · exact .inl ⟨0x66, by decide, by decide, rfl⟩
  · exact .inl ⟨0x6E, by decide, by decide, rfl⟩
  · exact .inl ⟨0x72, by decide, by decide, rfl⟩
  · exact .inl ⟨0x74, by decide, by decide, rfl⟩
  · exact .inr (.inl ⟨b / 16, b % 16, (digits_lt control).1, (digits_lt control).2, rfl⟩)
  · exact .inr (.inr ⟨quote, backslash, newline, rfl⟩)

/-- A plain byte of a string leaves the scan in the string. -/
theorem step_plain (depth : Nat) {b : UInt8} (quote : b ≠ 0x22) (backslash : b ≠ 0x5C) :
    (inString depth).step b = inString depth := by
  simp only [step, quote, backslash, if_false]

/-- A byte of a string, escaped, leaves the scan in the string. -/
theorem run_escapeByte (depth : Nat) (b : UInt8) :
    (inString depth).run (escapeByte b) = inString depth := by
  rcases escapeByte_cases b with ⟨e, _, _, h⟩ | ⟨high, low, hh, hl, h⟩ | ⟨quote, backslash, _, h⟩ <;>
    rw [h]
  · rfl
  · obtain ⟨hq, hb, _⟩ := hexDigit_plain hh
    obtain ⟨lq, lb, _⟩ := hexDigit_plain hl
    show ((inString depth).step (hexDigit high)).step (hexDigit low) = _
    rw [step_plain depth hq hb, step_plain depth lq lb]
  · exact step_plain depth quote backslash

theorem run_escape (depth : Nat) (bytes : Bytes) :
    (inString depth).run (escape bytes) = inString depth := by
  induction bytes with
  | nil => rfl
  | cons b bytes ih =>
    show (inString depth).run (escapeByte b ++ escape bytes) = _
    rw [run_append, run_escapeByte, ih]

/-- A string is read whole. -/
theorem run_quote (depth : Nat) (s : String) : (free depth).run (quote s) = closed depth := by
  show (inString depth).run (escape (utf8 s) ++ [0x22]) = _
  rw [run_append, run_escape]
  rfl

/-- A count's bytes are digits. -/
theorem mem_count {n : Nat} {b : UInt8} (h : b ∈ count n) : 0x30 ≤ b ∧ b ≤ 0x39 := by
  obtain ⟨c, digit, byte⟩ := List.mem_flatMap.mp h
  have isDigit := Nat.isDigit_of_mem_toDigits (by decide) (by decide) digit
  simp only [Char.isDigit, Bool.and_eq_true, decide_eq_true_eq] at isDigit
  obtain ⟨lower, upper⟩ := isDigit
  have lower : 48 ≤ c.val.toNat := UInt32.le_iff_toNat_le.mp lower
  have upper : c.val.toNat ≤ 57 := UInt32.le_iff_toNat_le.mp upper
  unfold String.utf8EncodeChar at byte
  dsimp only at byte
  rw [if_pos (by omega), List.mem_singleton] at byte
  rw [byte, UInt8.le_iff_toNat_le, UInt8.le_iff_toNat_le, UInt8.toNat_ofNat']
  simp only [UInt8.reduceToNat]
  omega

/-- A count leaves the scan outside of strings. -/
theorem run_count (depth : Nat) (n : Nat) : (free depth).run (count n) = free depth := by
  have digits : ∀ bytes : Bytes, (∀ b ∈ bytes, 0x30 ≤ b ∧ b ≤ 0x39) →
      (free depth).run bytes = free depth := by
    intro bytes all
    induction bytes with
    | nil => rfl
    | cons b bytes ih =>
      obtain ⟨lower, upper⟩ := all b List.mem_cons_self
      have plain : (free depth).step b = free depth := by
        simp only [UInt8.le_iff_toNat_le, UInt8.reduceToNat] at lower upper
        simp only [step, ← UInt8.toNat_inj, UInt8.reduceToNat]
        rw [if_neg (by omega), if_neg (by omega), if_neg (by omega)]
      rw [run_cons, plain]
      exact ih fun b item => all b (List.mem_cons_of_mem _ item)
  exact digits _ fun b => mem_count

/-! ## Joined and torn texts -/

/-- Nothing leads back to the start of a text. -/
theorem step_ne_start {s : Scan} (h : s ≠ free 0) (b : UInt8) : s.step b ≠ free 0 := by
  cases s with
  | free depth =>
    cases depth with
    | zero => exact absurd rfl h
    | succ depth =>
      simp only [step]
      split_ifs <;> simp [close]
  | inString depth =>
    simp only [step]
    split_ifs <;> simp
  | escaped depth => simp [step]
  | closed depth =>
    simp only [step]
    split_ifs
    · simp
    · split <;> simp
    · cases depth <;> simp [close]
    · simp
  | dead => simp [step]

theorem run_ne_start {s : Scan} (h : s ≠ free 0) (bytes : Bytes) : s.run bytes ≠ free 0 := by
  induction bytes generalizing s with
  | nil => exact h
  | cons b bytes ih => exact ih (step_ne_start h b)

/-- An object's text: an opening bracket and the quote of its first key, whose first letter no string
may be followed by, to the bracket that closes it. -/
structure ObjectText (bytes : Bytes) : Prop where
  opens : ∃ (letter : UInt8) (rest : Bytes), bytes = 0x7B :: 0x22 :: letter :: rest ∧
    ∀ depth, (closed depth).step letter = dead
  closes : ∃ inner, bytes = inner ++ [0x7D]
  reads : ∀ depth, (free depth).run bytes = closed depth

/-- An object's text is balanced. -/
theorem ObjectText.balanced {bytes : Bytes} (h : ObjectText bytes) : Balanced bytes := by
  unfold Balanced
  rw [h.reads 0]
  rfl

/-- **Joined texts.** Bytes that begin with a bracket and run into an object's text are not
balanced. -/
theorem not_balanced_joined {torn text : Bytes} (begins : ∃ rest, torn = 0x7B :: rest)
    (object : ObjectText text) : ¬ Balanced (torn ++ text) := by
  obtain ⟨rest, rfl⟩ := begins
  obtain ⟨letter, inner, opens, refused⟩ := object.opens
  have started : (free 0).run (0x7B :: rest) ≠ free 0 :=
    run_ne_start (by simp [step]) rest
  unfold Balanced
  rw [run_append]
  cases reached : (free 0).run (0x7B :: rest) with
  | free depth =>
    -- the object closes, the bracket before it doesn't
    rw [object.reads depth]
    cases depth with
    | zero => exact absurd reached started
    | succ depth => simp [accepts]
  | inString depth =>
    -- the key's quote ends the string, and its letter follows
    rw [opens]
    show ¬ (((closed depth).step letter).run inner).accepts = true
    rw [refused, run_dead]
    simp [accepts]
  | escaped depth =>
    rw [opens]
    show ¬ (((closed depth).step letter).run inner).accepts = true
    rw [refused, run_dead]
    simp [accepts]
  | closed depth =>
    rw [opens]
    show ¬ (dead.run (0x22 :: letter :: inner)).accepts = true
    rw [run_dead]
    simp [accepts]
  | dead =>
    rw [run_dead]
    simp [accepts]

/-- After the end there is only white space. -/
theorem run_ended (bytes : Bytes) :
    (closed 0).run bytes = closed 0 ∨ (closed 0).run bytes = dead := by
  induction bytes with
  | nil => exact .inl rfl
  | cons b bytes ih =>
    rw [run_cons]
    by_cases space : isSpace b
    · rwa [step, if_pos space]
    · have refused : (closed 0).step b = dead := by
        rw [step, if_neg space]
        split_ifs <;> rfl
      rw [refused, run_dead]
      exact .inr rfl

/-- **Torn texts.** A proper prefix of an object's text, where there is any of it, is not
balanced. -/
theorem not_balanced_torn {torn rest : Bytes} (any : torn ≠ []) (more : rest ≠ [])
    (object : ObjectText (torn ++ rest)) : ¬ Balanced torn := by
  intro balanced
  obtain ⟨letter, inner, opens, _⟩ := object.opens
  obtain ⟨first, torn, rfl⟩ := List.exists_cons_of_ne_nil any
  obtain ⟨rfl, _⟩ := List.cons.inj opens
  have started : (free 0).run (0x7B :: torn) ≠ free 0 := run_ne_start (by simp [step]) torn
  have ended : (free 0).run (0x7B :: torn) = closed 0 := by
    unfold Balanced at balanced
    cases reached : (free 0).run (0x7B :: torn) with
    | free depth =>
      cases depth with
      | zero => exact absurd reached started
      | succ depth => simp [reached, accepts] at balanced
    | closed depth =>
      cases depth with
      | zero => rfl
      | succ depth => simp [reached, accepts] at balanced
    | _ => simp [reached, accepts] at balanced
  -- the bracket that closes the object is in the rest, after the end
  obtain ⟨before, last, rfl⟩ := List.eq_nil_or_concat rest |>.resolve_left more
  obtain ⟨whole, closes⟩ := object.closes
  have bracket : last = 0x7D := by
    rw [List.concat_eq_append, ← List.append_assoc] at closes
    exact (List.append_inj' closes rfl).2 |> List.cons.inj |>.1
  have read := object.reads 0
  rw [run_append, ended, List.concat_eq_append, run_append, bracket] at read
  rcases run_ended before with h | h <;> rw [h] at read <;> cases read

end JsonText
