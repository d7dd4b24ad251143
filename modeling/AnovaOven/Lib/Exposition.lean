import Mathlib.Data.List.TakeDrop

/-!
# The text exposition format

Metrics as text, one sample a line: a name, labels and a value. A label's value may hold anything: a quote, a
backslash and a newline are escaped. Lines that begin with a number sign are comments.

**What is written is read back** (`read_write`): each sample with the labels it was written with, whatever the
values of these hold, and no others.
-/

namespace Exposition

/-- A sample. -/
structure Sample where
  name : String
  labels : List (String × String)
  value : String
  deriving Repr, DecidableEq

/-- A line. -/
inductive Line where
  | comment (text : String)
  | sample (sample : Sample)
  deriving Repr, DecidableEq

/-- The sample of a line. -/
def Line.sample? : Line → Option Sample
  | comment _ => none
  | sample written => some written

/-! ## Writing -/

/-- A character of a label's value. -/
def escapeChar : Char → List Char
  | '\\' => ['\\', '\\']
  | '"' => ['\\', '"']
  | '\n' => ['\\', 'n']
  | c => [c]

/-- A label's value. -/
def escape (value : List Char) : List Char := value.flatMap escapeChar

/-- A label. -/
def writeLabel (label : String × String) : List Char :=
  label.1.toList ++ '=' :: '"' :: (escape label.2.toList ++ ['"'])

/-- Labels, up to the brace that closes them. -/
def writeLabels : List (String × String) → List Char
  | [] => []
  | [label] => writeLabel label
  | label :: more => writeLabel label ++ ',' :: writeLabels more

/-- Labels in their braces. -/
def writeBraced : List (String × String) → List Char
  | [] => []
  | label :: more => '{' :: (writeLabels (label :: more) ++ ['}'])

/-- A line, without its end. -/
def writeLine : Line → List Char
  | .comment text => '#' :: ' ' :: text.toList
  | .sample s => s.name.toList ++ (writeBraced s.labels ++ ' ' :: s.value.toList)

/-- A text: each line with its end. -/
def write (lines : List Line) : List Char := lines.flatMap fun line => writeLine line ++ ['\n']

/-! ## Reading -/

/-- A character of a name. -/
def isPlain (c : Char) : Bool := c.isAlphanum || c = '_'

/-- A label's value, from its opening quote on, and what comes after its closing one. -/
def readValue : List Char → Option (List Char × List Char)
  | '"' :: rest => some ([], rest)
  | '\\' :: '\\' :: rest => (readValue rest).map (Prod.map ('\\' :: ·) id)
  | '\\' :: '"' :: rest => (readValue rest).map (Prod.map ('"' :: ·) id)
  | '\\' :: 'n' :: rest => (readValue rest).map (Prod.map ('\n' :: ·) id)
  | c :: rest => if c = '\\' then none else (readValue rest).map (Prod.map (c :: ·) id)
  | [] => none

/-- A label, and what comes after it. -/
def readLabel (text : List Char) : Option ((String × String) × List Char) :=
  match text.span isPlain with
  | (key, '=' :: '"' :: rest) =>
    (readValue rest).map fun (value, rest) => ((String.ofList key, String.ofList value), rest)
  | _ => none

/-- Labels up to the brace that closes them, so many at most, and what comes after it. -/
def readLabels : Nat → List Char → Option (List (String × String) × List Char)
  | 0, _ => none
  | n + 1, text => match readLabel text with
    | some (label, ',' :: rest) => (readLabels n rest).map (Prod.map (label :: ·) id)
    | some (label, '}' :: rest) => some ([label], rest)
    | _ => none

/-- A sample's line. -/
def readSample (line : List Char) : Option Sample :=
  match line.span isPlain with
  | (name, '{' :: rest) => match readLabels rest.length rest with
    | some (labels, ' ' :: value) => some ⟨String.ofList name, labels, String.ofList value⟩
    | _ => none
  | (name, ' ' :: value) => some ⟨String.ofList name, [], String.ofList value⟩
  | _ => none

/-- A line, which may hold no sample. -/
def readLine : List Char → Option (Option Sample)
  | [] | '#' :: _ => some none
  | line => (readSample line).map some

/-- A text's samples. None where a line can't be read. -/
def read (text : List Char) : Option (List Sample) :=
  ((text.splitOn '\n').mapM readLine).map fun samples => samples.filterMap id

/-! ## What is written well -/

/-- A name is plain, and isn't empty. -/
def Named (name : String) : Prop := name.toList ≠ [] ∧ ∀ c ∈ name.toList, isPlain c = true

instance (name : String) : Decidable (Named name) :=
  -- one character of the name after the other, not all the characters there are
  @instDecidableAnd _ _ inferInstance (List.decidableBAll (fun c => isPlain c = true) name.toList)

/-- A text that stays on its line. -/
def OneLine (text : String) : Prop := '\n' ∉ text.toList

instance (text : String) : Decidable (OneLine text) := inferInstanceAs (Decidable ('\n' ∉ text.toList))

/-- A line that is written well. Labels' values may hold anything. -/
def Line.WellFormed : Line → Prop
  | comment text => OneLine text
  | sample s => Named s.name ∧ (∀ label ∈ s.labels, Named label.1) ∧ OneLine s.value

theorem oneLine_append {a b : String} (first : OneLine a) (second : OneLine b) : OneLine (a ++ b) := by
  unfold OneLine at *
  rw [String.toList_append, List.mem_append]
  exact fun item => item.elim first second

theorem oneLine_toString (n : Nat) : OneLine (toString n) := by
  unfold OneLine
  rw [Nat.toString_eq_repr, Nat.toList_repr]
  exact fun item => absurd (Nat.isDigit_of_mem_toDigits (by decide) (by decide) item) (by decide)

/-- A character that is escaped is none of those that end a value or a line. -/
theorem escape_newline (value : List Char) : '\n' ∉ escape value := by
  unfold escape
  rw [List.mem_flatMap]
  rintro ⟨c, _, mem⟩
  unfold escapeChar at mem
  split at mem
  · simp at mem
  · simp at mem
  · simp at mem
  · rename_i notNewline
    exact notNewline (List.mem_singleton.mp mem).symm

/-- **A value** is read back, whatever it holds. -/
theorem readValue_escape (value rest : List Char) :
    readValue (escape value ++ '"' :: rest) = some (value, rest) := by
  induction value with
  | nil => rfl
  | cons c value ih =>
    have first : escape (c :: value) ++ '"' :: rest = escapeChar c ++ (escape value ++ '"' :: rest) := by
      unfold escape
      rw [List.flatMap_cons, List.append_assoc]
    rw [first]
    unfold escapeChar
    split
    · simp [readValue, ih]
    · simp [readValue, ih]
    · simp [readValue, ih]
    · rename_i notBackslash notQuote notNewline
      have plain : ∀ text, readValue (c :: text) = (readValue text).map (Prod.map (c :: ·) id) := by
        intro text
        rw [readValue]
        · exact if_neg notBackslash
        · exact notQuote
        all_goals
          intro more isBackslash
          exact absurd isBackslash notBackslash
      rw [List.singleton_append, plain, ih]
      rfl

/-- A plain text up to a character that isn't. -/
theorem span_plain {name : List Char} (plain : ∀ c ∈ name, isPlain c = true) {c : Char}
    (ends : isPlain c = false) (rest : List Char) : (name ++ c :: rest).span isPlain = (name, c :: rest) := by
  rw [List.span_eq_takeWhile_dropWhile, List.takeWhile_append_of_pos plain, List.dropWhile_append_of_pos plain,
    List.takeWhile_cons_of_neg (by simp [ends]), List.dropWhile_cons_of_neg (by simp [ends]), List.append_nil]

/-- **A label** is read back. -/
theorem readLabel_write {label : String × String} (named : Named label.1) (rest : List Char) :
    readLabel (writeLabel label ++ rest) = some (label, rest) := by
  have first : writeLabel label ++ rest =
      label.1.toList ++ '=' :: ('"' :: (escape label.2.toList ++ '"' :: rest)) := by
    simp [writeLabel]
  unfold readLabel
  rw [first, span_plain named.2 (by decide)]
  show (readValue (escape label.2.toList ++ '"' :: rest)).map _ = _
  rw [readValue_escape]
  simp

/-- **Labels** are read back, where there are any. -/
theorem readLabels_write {labels : List (String × String)} (some' : labels ≠ [])
    (named : ∀ label ∈ labels, Named label.1) {n : Nat} (enough : labels.length ≤ n) (rest : List Char) :
    readLabels n (writeLabels labels ++ '}' :: rest) = some (labels, rest) := by
  induction labels generalizing n with
  | nil => exact absurd rfl some'
  | cons label more ih =>
    obtain ⟨n, rfl⟩ : ∃ m, n = m + 1 := ⟨n - 1, by simp at enough; omega⟩
    have first := named label List.mem_cons_self
    cases more with
    | nil =>
      show readLabels (n + 1) (writeLabel label ++ '}' :: rest) = _
      rw [readLabels, readLabel_write first]
      rfl
    | cons next more =>
      have text : writeLabels (label :: next :: more) ++ '}' :: rest =
          writeLabel label ++ ',' :: (writeLabels (next :: more) ++ '}' :: rest) := by
        simp [writeLabels]
      rw [text, readLabels, readLabel_write first]
      show (readLabels n (writeLabels (next :: more) ++ '}' :: rest)).map _ = _
      rw [ih (List.cons_ne_nil _ _) (fun l item => named l (List.mem_cons_of_mem _ item))
        (Nat.le_of_succ_le_succ enough)]
      rfl

/-- Labels are no longer than they are written. -/
theorem length_writeLabels (labels : List (String × String)) : labels.length ≤ (writeLabels labels).length := by
  induction labels with
  | nil => exact Nat.zero_le _
  | cons label more ih =>
    cases more with
    | nil =>
      simp only [writeLabels, writeLabel, List.length_append, List.length_cons, List.length_nil]
      omega
    | cons next more =>
      simp only [writeLabels, List.length_append, List.length_cons] at ih ⊢
      omega

/-- A line that begins with a name's character is a sample's. -/
theorem readLine_named {c : Char} (plain : isPlain c = true) (rest : List Char) :
    readLine (c :: rest) = (readSample (c :: rest)).map some := by
  have notSign : c ≠ '#' := by
    rintro rfl
    exact absurd plain (by decide)
  rw [readLine]
  · exact List.cons_ne_nil c rest
  · intro more isSign
    exact notSign (List.cons.inj isSign).1

/-- **A sample** is read back. -/
theorem readSample_write {s : Sample} (formed : (Line.sample s).WellFormed) :
    readSample (writeLine (.sample s)) = some s := by
  obtain ⟨name, labels, value⟩ := s
  obtain ⟨⟨_, plain⟩, keys, _⟩ := formed
  cases labels with
  | nil =>
    have line : writeLine (.sample ⟨name, [], value⟩) = name.toList ++ ' ' :: value.toList := rfl
    unfold readSample
    rw [line, span_plain plain (by decide)]
    simp
  | cons label more =>
    have line : writeLine (.sample ⟨name, label :: more, value⟩) =
        name.toList ++ '{' :: (writeLabels (label :: more) ++ '}' :: ' ' :: value.toList) := by
      simp [writeLine, writeBraced]
    have long := length_writeLabels (label :: more)
    have labels := readLabels_write (List.cons_ne_nil label more) keys
      (n := (writeLabels (label :: more) ++ '}' :: ' ' :: value.toList).length)
      (by rw [List.length_append]; omega) (' ' :: value.toList)
    unfold readSample
    rw [line, span_plain plain (by decide)]
    simp only [labels, String.ofList_toList]

/-- **A line** is read back. -/
theorem readLine_write {line : Line} (formed : line.WellFormed) :
    readLine (writeLine line) = some line.sample? := by
  cases line with
  | comment text => rfl
  | sample s =>
    have sample := readSample_write formed
    obtain ⟨c, rest, begins⟩ := List.exists_cons_of_ne_nil formed.1.1
    have line : writeLine (.sample s) = c :: (rest ++ (writeBraced s.labels ++ ' ' :: s.value.toList)) := by
      show s.name.toList ++ _ = _
      rw [begins]
      rfl
    rw [line] at sample ⊢
    rw [readLine_named (formed.1.2 c (by rw [begins]; exact List.mem_cons_self)), sample]
    rfl

theorem newline_named {name : String} (named : Named name) : '\n' ∉ name.toList :=
  fun item => absurd (named.2 '\n' item) (by decide)

theorem newline_writeLabels {labels : List (String × String)} (named : ∀ label ∈ labels, Named label.1) :
    '\n' ∉ writeLabels labels := by
  have one : ∀ label : String × String, Named label.1 → '\n' ∉ writeLabel label := by
    intro label key
    simp [writeLabel, newline_named key, escape_newline]
  induction labels with
  | nil => exact List.not_mem_nil
  | cons label more ih =>
    have first := one label (named label List.mem_cons_self)
    cases more with
    | nil => exact first
    | cons next more =>
      have rest := ih fun l item => named l (List.mem_cons_of_mem _ item)
      simp [writeLabels, first, rest]

/-- A line that is written well stays on its line. -/
theorem newline_writeLine {line : Line} (formed : line.WellFormed) : '\n' ∉ writeLine line := by
  cases line with
  | comment text =>
    have oneLine : '\n' ∉ text.toList := formed
    simp [writeLine, oneLine]
  | sample s =>
    obtain ⟨name, labels, value⟩ := s
    obtain ⟨named, keys, oneLine⟩ := formed
    have oneLine : '\n' ∉ value.toList := oneLine
    have braced : '\n' ∉ writeBraced labels := by
      cases labels with
      | nil => exact List.not_mem_nil
      | cons label more => simp [writeBraced, newline_writeLabels keys]
    simp [writeLine, newline_named named, braced, oneLine]

/-- **What is written is read back.** -/
theorem read_write {lines : List Line} (formed : ∀ line ∈ lines, line.WellFormed) :
    read (write lines) = some (lines.filterMap Line.sample?) := by
  have cut : (write lines).splitOn '\n' = lines.map writeLine ++ [[]] := by
    induction lines with
    | nil => rfl
    | cons line lines ih =>
      have text : write (line :: lines) = writeLine line ++ '\n' :: write lines := by
        simp [write]
      rw [text, List.splitOn_append_cons_self_of_not_mem (newline_writeLine (formed line List.mem_cons_self)),
        ih fun l item => formed l (List.mem_cons_of_mem _ item)]
      rfl
  have each : (lines.map writeLine ++ [[]]).mapM readLine = some (lines.map Line.sample? ++ [none]) := by
    clear cut
    induction lines with
    | nil => rfl
    | cons line lines ih =>
      have rest := ih fun l item => formed l (List.mem_cons_of_mem _ item)
      rw [List.map_cons, List.cons_append, List.mapM_cons, readLine_write (formed line List.mem_cons_self), rest]
      rfl
  unfold read
  rw [cut, each]
  simp [List.filterMap_map]

end Exposition
