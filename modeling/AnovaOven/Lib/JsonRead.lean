import AnovaOven.Lib.Utf8

/-!
# Reading JSON text back

A reader of the strings and counts that `JsonText` writes, and its round trips
(`unquote_quote`, `readCount_count`); and what the written text is: UTF-8 (`IsText`), on one line
(`newline_quote`). The reader takes the escapes a writer makes, no others.
-/

namespace JsonText

/-! ## Text -/

/-- Bytes that are a text's. -/
def IsText (bytes : Bytes) : Prop := ∃ s, utf8 s = bytes

theorem isText_utf8 (s : String) : IsText (utf8 s) := ⟨s, rfl⟩

theorem IsText.append {a b : Bytes} (ha : IsText a) (hb : IsText b) : IsText (a ++ b) := by
  obtain ⟨s, rfl⟩ := ha
  obtain ⟨t, rfl⟩ := hb
  exact ⟨s ++ t, utf8_append s t⟩

theorem IsText.flatMap {α : Type*} {f : α → Bytes} (h : ∀ x, IsText (f x)) (xs : List α) :
    IsText (xs.flatMap f) := by
  induction xs with
  | nil => exact isText_utf8 ""
  | cons x xs ih => exact (h x).append ih

/-- A text is read from its bytes, and from no others. -/
theorem IsText.decodes {bytes : Bytes} (h : IsText bytes) : ∃ s, decode bytes = some s := by
  obtain ⟨s, rfl⟩ := h
  exact ⟨s, decode_utf8 s⟩

/-- What follows a text in a text is one. -/
theorem IsText.after {a b : Bytes} (first : IsText a) (both : IsText (a ++ b)) : IsText b := by
  obtain ⟨s, rfl⟩ := first
  obtain ⟨t, eq⟩ := both
  obtain ⟨rest, split⟩ := utf8_prefix_iff.mp ⟨b, eq.symm⟩
  have whole : utf8 s ++ utf8 (String.ofList rest) = utf8 s ++ b := by
    rw [← utf8_append, ← eq, ← String.ofList_toList (s := t), ← split, String.ofList_append,
      String.ofList_toList]
  exact ⟨String.ofList rest, List.append_cancel_left whole⟩

/-- What comes before a byte below 128 in a text is one: no character is torn there. -/
theorem IsText.before_ascii {a rest : Bytes} {b : UInt8} (ascii : b < 0x80)
    (text : IsText (a ++ b :: rest)) : IsText a := by
  obtain ⟨s, eq⟩ := text
  unfold utf8 at eq
  generalize s.toList = cs at eq
  induction cs generalizing a with
  | nil => simp at eq
  | cons c cs ih =>
    rw [List.flatMap_cons] at eq
    rcases List.append_eq_append_iff.mp eq with ⟨more, rfl, left⟩ | ⟨part, torn, left⟩
    · have char : IsText (String.utf8EncodeChar c) := ⟨String.singleton c, by simp [utf8]⟩
      exact char.append (ih left)
    · cases a with
      | nil => exact isText_utf8 ""
      | cons first more =>
        cases part with
        | nil =>
          rw [List.append_nil] at torn
          exact ⟨String.singleton c, by simp [utf8, torn]⟩
        | cons byte part =>
          -- the byte would be one of the character's, and not its only one
          obtain rfl := (List.cons.inj left).1
          rcases utf8EncodeChar_cases c with ⟨_, _, single⟩ | high
          · rw [single] at torn
            simp at torn
          · have within : b ∈ String.utf8EncodeChar c := by
              rw [torn]
              exact List.mem_append_right _ List.mem_cons_self
            exact absurd ascii (UInt8.not_lt.mpr (high b within))

/-- One byte below 128 is a text. -/
theorem isText_ascii {b : UInt8} (h : b < 0x80) : IsText [b] := by
  have small : b.toNat < 128 := UInt8.lt_iff_toNat_lt.mp h
  have valid : b.toNat.isValidChar := .inl (by omega)
  refine ⟨String.singleton (Char.ofNatAux b.toNat valid), ?_⟩
  have code : (Char.ofNatAux b.toNat valid).val.toNat = b.toNat := rfl
  unfold utf8
  rw [String.toList_singleton, List.flatMap_singleton]
  unfold String.utf8EncodeChar
  dsimp only
  rw [if_pos (by omega), code, UInt8.ofNat_toNat]

/-- A byte from 128 up is written as it is. -/
theorem escapeByte_high {b : UInt8} (h : 0x80 ≤ b) : escapeByte b = [b] := by
  have other : ∀ c : UInt8, c < 0x80 → b ≠ c := by
    intro c small same
    exact absurd (same ▸ small) (UInt8.not_lt.mpr h)
  have printed : ¬ b < 0x20 := fun control => other b (UInt8.lt_trans control (by decide)) rfl
  unfold escapeByte
  rw [if_neg (other _ (by decide)), if_neg (other _ (by decide)), if_neg (other _ (by decide)),
    if_neg (other _ (by decide)), if_neg (other _ (by decide)), if_neg (other _ (by decide)),
    if_neg (other _ (by decide)), if_neg printed]

/-- A byte below 128 is written as a text. -/
theorem isText_escapeByte {b : UInt8} (h : b < 0x80) : IsText (escapeByte b) := by
  have ascii : ∀ bytes : Bytes, (∀ b ∈ bytes, b < 0x80) → IsText bytes := by
    intro bytes all
    induction bytes with
    | nil => exact isText_utf8 ""
    | cons b bytes ih =>
      exact (isText_ascii (all b List.mem_cons_self)).append
        (ih fun b item => all b (List.mem_cons_of_mem _ item))
  apply ascii _
  rcases escapeByte_cases b with ⟨e, _, small, h'⟩ | ⟨high, low, hh, hl, h'⟩ | ⟨_, _, _, h'⟩ <;>
    rw [h']
  · simpa using small
  · obtain ⟨_, _, _, high⟩ := hexDigit_plain hh
    obtain ⟨_, _, _, low⟩ := hexDigit_plain hl
    simp [high, low]
  · simpa using h

/-- A string's bytes are written as a text. -/
theorem isText_quote (s : String) : IsText (quote s) := by
  have chars : ∀ c : Char, IsText (escape (String.utf8EncodeChar c)) := by
    intro c
    rcases utf8EncodeChar_cases c with ⟨b, small, h⟩ | high
    · rw [h]
      simpa [escape] using isText_escapeByte small
    · have same : escape (String.utf8EncodeChar c) = String.utf8EncodeChar c := by
        unfold escape
        rw [List.flatMap_congr (g := fun b => [b]) fun b item => escapeByte_high (high b item)]
        exact List.flatMap_singleton' _
      rw [same]
      exact ⟨String.singleton c, by simp [utf8]⟩
  have body : escape (utf8 s) = s.toList.flatMap fun c => escape (String.utf8EncodeChar c) := by
    unfold escape utf8
    exact List.flatMap_assoc
  unfold quote
  rw [body]
  exact (isText_ascii (b := 0x22) (by decide)).append
    ((IsText.flatMap chars _).append (isText_ascii (b := 0x22) (by decide)))

theorem isText_count (n : Nat) : IsText (count n) :=
  ⟨String.ofList (Nat.toDigits 10 n), by simp [utf8, count]⟩

/-- A string's bytes are on one line. -/
theorem newline_quote (s : String) : (0x0A : UInt8) ∉ quote s := by
  have bytes : ∀ bytes : Bytes, (0x0A : UInt8) ∉ escape bytes := by
    intro bytes item
    obtain ⟨b, _, item⟩ := List.mem_flatMap.mp item
    rcases escapeByte_cases b with ⟨e, he, _, h⟩ | ⟨high, low, hh, hl, h⟩ | ⟨_, _, hb, h⟩ <;>
      rw [h] at item
    · simp [Ne.symm he] at item
    · simp [Ne.symm (hexDigit_plain hh).2.2.1, Ne.symm (hexDigit_plain hl).2.2.1] at item
    · simp [Ne.symm hb] at item
  simp [quote, bytes]

theorem newline_count (n : Nat) : (0x0A : UInt8) ∉ count n := fun item =>
  absurd (mem_count item).1 (by decide)

/-! ## Strings -/

/-- Where the reading of a string is: at a byte of its own, after a backslash, or at a digit of a
code, with more to come. -/
inductive Reading where
  | plain
  | slash
  | hex (more : Nat) (value : UInt8)
  deriving Repr, DecidableEq

/-- The value of a hexadecimal digit. -/
def unhex (b : UInt8) : UInt8 := if b < 0x3A then b - 0x30 else b - 0x57

/-- The byte an escape's letter stands for. -/
def unletter (b : UInt8) : UInt8 :=
  if b = 0x62 then 0x08
  else if b = 0x66 then 0x0C
  else if b = 0x6E then 0x0A
  else if b = 0x72 then 0x0D
  else if b = 0x74 then 0x09
  else b

/-- Read a string's bytes to the quote that ends it: the bytes, and what follows. -/
def unescape (s : Reading) (read : Bytes) : Bytes → Option (Bytes × Bytes)
  | [] => none
  | b :: rest =>
    match s with
    | .plain =>
      if b = 0x22 then some (read, rest)
      else if b = 0x5C then unescape .slash read rest
      else unescape .plain (read ++ [b]) rest
    | .slash =>
      if b = 0x75 then unescape (.hex 3 0) read rest
      else unescape .plain (read ++ [unletter b]) rest
    | .hex 0 value => unescape .plain (read ++ [value * 16 + unhex b]) rest
    | .hex (more + 1) value => unescape (.hex more (value * 16 + unhex b)) read rest

/-- Read a text's beginning. -/
def expect (text bytes : Bytes) : Option Bytes :=
  if bytes.take text.length = text then some (bytes.drop text.length) else none

@[simp] theorem expect_append (text rest : Bytes) : expect text (text ++ rest) = some rest := by
  simp [expect]

/-- Read a string: its text, and what follows. -/
def unquote (bytes : Bytes) : Option (String × Bytes) := do
  let bytes ← expect [0x22] bytes
  let (read, rest) ← unescape .plain [] bytes
  let text ← decode read
  some (text, rest)

theorem unhex_hexDigit {n : UInt8} (h : n < 16) : unhex (hexDigit n) = n := by
  have small : n.toNat < 16 := UInt8.lt_iff_toNat_lt.mp h
  unfold unhex hexDigit
  by_cases digit : n < 10
  · have low : n.toNat < 10 := UInt8.lt_iff_toNat_lt.mp digit
    rw [if_pos digit, if_pos, ← UInt8.toNat_inj]
    · simp only [UInt8.toNat_sub, UInt8.toNat_add, UInt8.reduceToNat]
      omega
    · simp only [UInt8.lt_iff_toNat_lt, UInt8.toNat_add, UInt8.reduceToNat]
      omega
  · have high : ¬ n.toNat < 10 := fun low => digit (UInt8.lt_iff_toNat_lt.mpr low)
    rw [if_neg digit, if_neg, ← UInt8.toNat_inj]
    · simp only [UInt8.toNat_sub, UInt8.toNat_add, UInt8.reduceToNat]
      omega
    · simp only [UInt8.lt_iff_toNat_lt, UInt8.toNat_add, UInt8.reduceToNat]
      omega

/-- A control character's two digits give it back. -/
theorem digits_value (b : UInt8) : b / 16 * 16 + b % 16 = b := by
  have small := b.toNat_lt
  rw [← UInt8.toNat_inj]
  simp only [UInt8.toNat_add, UInt8.toNat_mul, UInt8.toNat_div, UInt8.toNat_mod, UInt8.reduceToNat]
  omega

/-- A byte is read back as it was written. -/
theorem unescape_escapeByte (read : Bytes) (b : UInt8) (rest : Bytes) :
    unescape .plain read (escapeByte b ++ rest) = unescape .plain (read ++ [b]) rest := by
  generalize written : escapeByte b = bytes
  unfold escapeByte at written
  split_ifs at written with quote backslash h08 h0C h0A h0D h09 control <;> subst written
  · rw [quote]; rfl
  · rw [backslash]; rfl
  · rw [h08]; rfl
  · rw [h0C]; rfl
  · rw [h0A]; rfl
  · rw [h0D]; rfl
  · rw [h09]; rfl
  · obtain ⟨high, low⟩ := digits_lt control
    show unescape .plain
      (read ++ [(0 * 16 + unhex (hexDigit (b / 16))) * 16 + unhex (hexDigit (b % 16))]) rest = _
    rw [unhex_hexDigit high, unhex_hexDigit low, UInt8.zero_mul, UInt8.zero_add, digits_value]
  · rw [List.singleton_append, unescape, if_neg quote, if_neg backslash]

/-- A string's bytes are read back to the quote. -/
theorem unescape_escape (read bytes rest : Bytes) :
    unescape .plain read (escape bytes ++ 0x22 :: rest) = some (read ++ bytes, rest) := by
  induction bytes generalizing read with
  | nil =>
    rw [List.append_nil]
    rfl
  | cons b bytes ih =>
    show unescape .plain read ((escapeByte b ++ escape bytes) ++ 0x22 :: rest) = _
    rw [List.append_assoc, unescape_escapeByte, ih, List.append_assoc, List.singleton_append]

/-- **Strings** are read back. -/
theorem unquote_quote (s : String) (rest : Bytes) : unquote (quote s ++ rest) = some (s, rest) := by
  have opened : quote s ++ rest = [0x22] ++ (escape (utf8 s) ++ 0x22 :: rest) := by simp [quote]
  unfold unquote
  rw [opened, expect_append]
  simp [unescape_escape]

/-! ## Counts -/

/-- Whether a byte is a decimal digit. -/
def isDigit (b : UInt8) : Bool := 0x30 ≤ b ∧ b ≤ 0x39

/-- The character of a byte below 128. -/
def charOf (b : UInt8) : Char := Char.ofNat b.toNat

/-- Read a count: its value, and what follows. -/
def readCount (bytes : Bytes) : Nat × Bytes :=
  (Nat.ofDigitChars 10 ((bytes.takeWhile isDigit).map charOf) 0, bytes.dropWhile isDigit)

/-- A count's bytes are its digits. -/
theorem charOf_count (n : Nat) : (count n).map charOf = Nat.toDigits 10 n := by
  have digits : ∀ cs : List Char, (∀ c ∈ cs, c.isDigit) →
      (cs.flatMap String.utf8EncodeChar).map charOf = cs := by
    intro cs all
    induction cs with
    | nil => rfl
    | cons c cs ih =>
      have digit := all c List.mem_cons_self
      simp only [Char.isDigit, Bool.and_eq_true, decide_eq_true_eq] at digit
      have upper : c.val.toNat ≤ 57 := UInt32.le_iff_toNat_le.mp digit.2
      have one : String.utf8EncodeChar c = [UInt8.ofNat c.val.toNat] := by
        unfold String.utf8EncodeChar
        dsimp only
        rw [if_pos (by omega)]
      have back : charOf (UInt8.ofNat c.val.toNat) = c := by
        unfold charOf
        rw [UInt8.toNat_ofNat', Nat.mod_eq_of_lt (by omega)]
        exact Char.ofNat_toNat c
      rw [List.flatMap_cons, one, List.map_append, List.map_singleton, back,
        ih fun c item => all c (List.mem_cons_of_mem _ item)]
      rfl
  exact digits _ fun c item => Nat.isDigit_of_mem_toDigits (by decide) (by decide) item

/-- **Counts** are read back, where no digit follows. -/
theorem readCount_count (n : Nat) {b : UInt8} (h : isDigit b = false) (rest : Bytes) :
    readCount (count n ++ b :: rest) = (n, b :: rest) := by
  have digits : ∀ b ∈ count n, isDigit b = true := fun b item => by
    simpa [isDigit] using mem_count item
  unfold readCount
  rw [List.takeWhile_append_of_pos digits, List.dropWhile_append_of_pos digits,
    List.takeWhile_cons_of_neg (by simp [h]), List.dropWhile_cons_of_neg (by simp [h]),
    List.append_nil, charOf_count, Nat.ofDigitChars_ten_toDigits]

end JsonText
