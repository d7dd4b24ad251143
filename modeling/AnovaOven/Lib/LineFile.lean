import AnovaOven.Lib.JsonText

/-!
# Files of lines

A text file read line by line (`str::lines`), and what an append does to it: where the file is empty
or ends its last line, the lines of what is appended follow the lines it had (`lines_append`).

A newline's byte is never part of another character's, so lines are cut from the bytes.
-/

namespace LineFile

/-- The newline's byte. -/
def newline : UInt8 := 0x0A

/-- The line a newline ends: a carriage return before it goes with it. -/
def dropReturn (line : Bytes) : Bytes := if line.getLast? = some 0x0D then line.dropLast else line

/-- The lines from here on, after the part of a line read so far. -/
def linesFrom (line : Bytes) : Bytes → List Bytes
  | [] => if line = [] then [] else [line]
  | b :: rest =>
    if b = newline then dropReturn line :: linesFrom [] rest else linesFrom (line ++ [b]) rest

/-- `str::lines`: the lines of a text, without their ends. The last may lack one. -/
def lines (bytes : Bytes) : List Bytes := linesFrom [] bytes

/-- A file each of whose lines has its end. -/
def Ended (bytes : Bytes) : Prop := bytes = [] ∨ ∃ before, bytes = before ++ [newline]

/-- Bytes without a newline only grow the line being read. -/
theorem linesFrom_plain {plain : Bytes} (h : newline ∉ plain) (line rest : Bytes) :
    linesFrom line (plain ++ rest) = linesFrom (line ++ plain) rest := by
  induction plain generalizing line with
  | nil => rw [List.nil_append, List.append_nil]
  | cons b plain ih =>
    obtain ⟨hb, hrest⟩ := not_or.mp (fun mem => h (List.mem_cons.mpr mem))
    rw [List.cons_append, linesFrom, if_neg (Ne.symm hb), ih hrest, List.append_assoc,
      List.singleton_append]

/-- The lines on either side of a newline don't depend on each other. -/
theorem linesFrom_ended (line before rest : Bytes) :
    linesFrom line (before ++ newline :: rest) =
      linesFrom line (before ++ [newline]) ++ lines rest := by
  induction before generalizing line with
  | nil => simp only [List.nil_append, linesFrom, if_true, lines, List.cons_append]
  | cons b before ih =>
    simp only [List.cons_append, linesFrom]
    split
    · rw [ih, List.cons_append]
    · exact ih _

/-- **Appends.** What is appended to a file whose lines have their ends adds its own lines. -/
theorem lines_append {bytes : Bytes} (ended : Ended bytes) (rest : Bytes) :
    lines (bytes ++ rest) = lines bytes ++ lines rest := by
  rcases ended with rfl | ⟨before, rfl⟩
  · rfl
  · rw [List.append_assoc, List.singleton_append]
    exact linesFrom_ended [] before rest

/-- A line without its end is read as it is. -/
theorem lines_unended {line : Bytes} (h : newline ∉ line) :
    lines line = if line = [] then [] else [line] := by
  have := linesFrom_plain h [] []
  rwa [List.append_nil, List.nil_append] at this

/-- A line is read back from its text and its end. -/
theorem lines_cons {line : Bytes} (h : newline ∉ line) (rest : Bytes) :
    lines (line ++ newline :: rest) = dropReturn line :: lines rest := by
  unfold lines
  rw [linesFrom_plain h, List.nil_append, linesFrom, if_pos rfl]

theorem Ended.append {bytes rest : Bytes} (h : Ended bytes) (h' : Ended rest) :
    Ended (bytes ++ rest) := by
  rcases h' with rfl | ⟨before, rfl⟩
  · rwa [List.append_nil]
  · exact .inr ⟨bytes ++ before, (List.append_assoc ..).symm⟩

end LineFile
