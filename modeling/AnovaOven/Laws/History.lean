import AnovaOven.Laws.LocalStore
import AnovaOven.Laws.Normalize
import AnovaOven.Lib.JsonRead

/-!
# What the history file reads as

A history line is a JSON object on one line of UTF-8 (`historyText_object`, `isText_historyLine`), so
a file of whole lines reads as their entries (`entriesOf_lines`), a line torn before its end as none
(`entriesOf_torn`), and a torn line takes the line appended to it with it (`entriesOf_joined`). These
hold of every reader that reads what the store wrote (`ReadsEntriesBack`) and reads nothing that isn't
balanced (`ReadsBalanced`), as a JSON parser does.
-/

namespace AnovaOven

open JsonText LineFile LocalStore

variable {read : Bytes → Option HistoryEntry}

/-- A reader reads an entry back from its text. -/
def ReadsEntriesBack (read : Bytes → Option HistoryEntry) : Prop :=
  ∀ entry, read (historyText entry) = some entry

/-- A reader reads nothing that isn't balanced. -/
def ReadsBalanced (read : Bytes → Option HistoryEntry) : Prop :=
  ∀ line entry, read line = some entry → Balanced line

/-! ## The text of an entry -/

/-- The scan of the text before the title. -/
theorem run_title (depth : Nat) :
    (Scan.free depth).run titleKey = .free (depth + 1) := rfl

/-- The scan of the text between the title and the end time. -/
theorem run_endedAt (depth : Nat) :
    (Scan.closed (depth + 1)).run endedAtKey = .free (depth + 1) := rfl

/-- The scan of the text between the end time and the stage count. -/
theorem run_stageCount (depth : Nat) :
    (Scan.closed (depth + 1)).run stageCountKey = .free (depth + 1) := rfl

/-- An entry's text is an object's. -/
theorem historyText_object (entry : HistoryEntry) : ObjectText (historyText entry) where
  opens := ⟨0x72, _, rfl, fun _ => rfl⟩
  closes := ⟨_, rfl⟩
  reads depth := by
    unfold historyText
    simp only [Scan.run_append, run_title, run_quote, run_endedAt, run_stageCount, run_count]
    rfl

/-- An entry's text is on one line. -/
theorem newline_historyText (entry : HistoryEntry) : newline ∉ historyText entry := by
  have keys : newline ∉ titleKey ∧ newline ∉ endedAtKey ∧
      newline ∉ stageCountKey ∧ newline ∉ closingBrace := by decide
  obtain ⟨title, endedAt, stageCount, closing⟩ := keys
  unfold historyText
  exact List.not_mem_append (List.not_mem_append (List.not_mem_append (List.not_mem_append
    (List.not_mem_append (List.not_mem_append title (newline_quote _)) endedAt) (newline_quote _))
    stageCount) (newline_count _)) closing

/-- An entry's text begins with its bracket and key. -/
theorem historyText_begins (entry : HistoryEntry) :
    ∃ rest, historyText entry = titleKey ++ rest ∧ IsText rest := by
  have endedAt : IsText endedAtKey := isText_utf8 _
  have stageCount : IsText stageCountKey := isText_utf8 _
  have closing : IsText closingBrace := isText_utf8 _
  refine ⟨_, ?_, (((((isText_quote entry.recipeTitle).append endedAt).append
    (isText_quote entry.endedAt)).append stageCount).append
    (isText_count entry.stageCount)).append closing⟩
  simp only [historyText, List.append_assoc]

theorem isText_historyText (entry : HistoryEntry) : IsText (historyText entry) := by
  obtain ⟨rest, begins, text⟩ := historyText_begins entry
  rw [begins]
  exact (isText_utf8 _).append text

theorem isText_historyLine (entry : HistoryEntry) : IsText (historyLine entry) :=
  (isText_historyText entry).append (isText_ascii (by decide))

theorem ended_historyLine (entry : HistoryEntry) : Ended (historyLine entry) :=
  .inr ⟨historyText entry, rfl⟩

/-- What isn't white space is left by a trim. -/
theorem trim_ne_empty {s : String} {c : Char} (item : c ∈ s.toList) (plain : isWhitespace c = false) :
    trim s ≠ "" := by
  intro empty
  have left := Trim.mem_trimBy item plain
  rw [← toList_trim, empty] at left
  cases left

/-- An entry's line isn't blank. -/
theorem isBlank_historyText (entry : HistoryEntry) : isBlank (historyText entry) = false := by
  obtain ⟨rest, begins, text, rfl⟩ := historyText_begins entry
  have bracket : '{' ∈ ("\x7b\"recipe_title\":" ++ text).toList := by
    rw [String.toList_append]
    exact List.mem_append_left _ (by decide)
  unfold isBlank
  rw [begins]
  unfold titleKey
  rw [← utf8_append, decode_utf8]
  simpa using trim_ne_empty bracket (by decide)

/-! ## Entries -/

/-- What is appended to a file of whole lines adds its own entries. -/
theorem entriesOf_append {bytes : Bytes} (ended : Ended bytes) (rest : Bytes) :
    entriesOf read (bytes ++ rest) = entriesOf read bytes ++ entriesOf read rest := by
  unfold entriesOf
  rw [lines_append ended, List.filter_append, List.filterMap_append]

/-- The bracket an entry's text closes with is no carriage return. -/
theorem dropReturn_closed (bytes : Bytes) (entry : HistoryEntry) :
    dropReturn (bytes ++ historyText entry) = bytes ++ historyText entry := by
  obtain ⟨inner, closes⟩ := (historyText_object entry).closes
  unfold dropReturn
  rw [closes, ← List.append_assoc, List.getLast?_concat, if_neg (by decide)]

/-- A line is read back, with or without its end. -/
theorem entriesOf_line (back : ReadsEntriesBack read) (entry : HistoryEntry) :
    entriesOf read (historyLine entry) = [entry] := by
  have line : lines (historyLine entry) = [historyText entry] := by
    unfold historyLine
    rw [lines_cons (newline_historyText entry), ← List.nil_append (historyText entry),
      dropReturn_closed]
    rfl
  unfold entriesOf
  rw [line, List.filter_cons_of_pos (by simp [isBlank_historyText]), List.filter_nil,
    List.filterMap_cons_some (back entry), List.filterMap_nil]

theorem entriesOf_text (back : ReadsEntriesBack read) (entry : HistoryEntry) :
    entriesOf read (historyText entry) = [entry] := by
  obtain ⟨letter, rest, opens, _⟩ := (historyText_object entry).opens
  unfold entriesOf
  rw [lines_unended (newline_historyText entry), if_neg (by rw [opens]; simp),
    List.filter_cons_of_pos (by simp [isBlank_historyText]), List.filter_nil,
    List.filterMap_cons_some (back entry), List.filterMap_nil]

/-- **Whole lines** read as their entries. -/
theorem entriesOf_lines (back : ReadsEntriesBack read) (entries : List HistoryEntry) :
    entriesOf read (entries.flatMap historyLine) = entries := by
  induction entries with
  | nil => rfl
  | cons entry entries ih =>
    rw [List.flatMap_cons, entriesOf_append (ended_historyLine entry), entriesOf_line back, ih]
    rfl

/-- A line that isn't balanced reads as nothing. -/
theorem entriesOf_unbalanced (balanced : ReadsBalanced read) {line : Bytes}
    (bad : ¬ Balanced line) : ([line].filter fun line => !isBlank line).filterMap read = [] := by
  rw [List.filterMap_eq_nil_iff]
  intro line' item
  obtain ⟨item, _⟩ := List.mem_filter.mp item
  obtain rfl := List.mem_singleton.mp item
  cases parsed : read line' with
  | none => rfl
  | some entry => exact absurd (balanced _ _ parsed) bad

/-- **A torn line** reads as nothing. -/
theorem entriesOf_torn (balanced : ReadsBalanced read) {entry : HistoryEntry} {torn rest : Bytes}
    (split : historyText entry = torn ++ rest) (more : rest ≠ []) : entriesOf read torn = [] := by
  have plain : newline ∉ torn := fun item =>
    newline_historyText entry (split ▸ List.mem_append_left _ item)
  unfold entriesOf
  rw [lines_unended plain]
  split
  · rfl
  · rename_i any
    exact entriesOf_unbalanced balanced
      (not_balanced_torn any more (split ▸ historyText_object entry))

/-- **A joined line**: what was torn takes the line appended to it with it. -/
theorem entriesOf_joined (balanced : ReadsBalanced read) {entry : HistoryEntry} {torn rest : Bytes}
    (split : historyText entry = torn ++ rest) (any : torn ≠ []) (next : HistoryEntry)
    (later : Bytes) :
    entriesOf read (torn ++ (historyLine next ++ later)) = entriesOf read later := by
  have plain : newline ∉ torn ++ historyText next :=
    List.not_mem_append (fun item => newline_historyText entry (split ▸ List.mem_append_left _ item))
      (newline_historyText next)
  have joined : lines (torn ++ (historyLine next ++ later)) =
      [torn ++ historyText next] ++ lines later := by
    have one : torn ++ (historyLine next ++ later) =
        (torn ++ historyText next) ++ newline :: later := by simp [historyLine]
    rw [one, lines_cons plain, dropReturn_closed]
    rfl
  have begins : ∃ inner, torn = 0x7B :: inner := by
    obtain ⟨letter, inner, opens, _⟩ := (historyText_object entry).opens
    obtain ⟨first, torn, rfl⟩ := List.exists_cons_of_ne_nil any
    rw [split] at opens
    exact ⟨torn, by rw [(List.cons.inj opens).1]⟩
  unfold entriesOf
  rw [joined, List.filter_append, List.filterMap_append,
    entriesOf_unbalanced balanced (not_balanced_joined begins (historyText_object next))]
  rfl

/-! ## A reader of what the store writes -/

/-- Read an entry from the text `historyText` gives it, and from no other. -/
def readEntry (line : Bytes) : Option HistoryEntry := do
  let rest ← expect titleKey line
  let (title, rest) ← unquote rest
  let rest ← expect endedAtKey rest
  let (endedAt, rest) ← unquote rest
  let rest ← expect stageCountKey rest
  let entry := ⟨title, endedAt, (readCount rest).1⟩
  if historyText entry = line then some entry else none

theorem readEntry_back : ReadsEntriesBack readEntry := by
  intro entry
  have counted : (readCount (count entry.stageCount ++ closingBrace)).1 = entry.stageCount := by
    have brace : closingBrace = [0x7D] := by decide
    rw [brace, readCount_count entry.stageCount (by decide)]
  unfold readEntry
  rw [show historyText entry = titleKey ++ (quote entry.recipeTitle ++
      (endedAtKey ++ (quote entry.endedAt ++ (stageCountKey ++
        (count entry.stageCount ++ closingBrace))))) by simp only [historyText, List.append_assoc]]
  simp only [expect_append, Option.bind_eq_bind, Option.bind_some, unquote_quote, counted]
  rw [if_pos]
  simp only [historyText, List.append_assoc]

theorem readEntry_balanced : ReadsBalanced readEntry := by
  intro line entry parsed
  unfold readEntry at parsed
  simp only [Option.bind_eq_bind, Option.bind_eq_some_iff] at parsed
  obtain ⟨_, _, _, _, _, _, _, _, _, _, kept⟩ := parsed
  split at kept
  · rename_i text
    rw [← text]
    exact (historyText_object _).balanced
  · cases kept

end AnovaOven
