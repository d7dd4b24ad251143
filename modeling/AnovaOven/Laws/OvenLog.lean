import AnovaOven.Lib.Changes
import AnovaOven.OvenLog
import Mathlib.Data.List.TakeDrop

/-!
# Laws of the oven's log

**The log tells what changed** (`ovenLog_told`): over any reports, the lines of the outputs are read as what these
were, without those that repeat the one before; so are the lines of the stages that were active. A line's text is
read back, whatever the lamp's preference is (`Outputs.read_text`).
-/

namespace AnovaOven

namespace Outputs

/-! ## The text -/

/-- What comes after a text that another begins with. -/
def after (start text : List Char) : Option (List Char) :=
  if start.isPrefixOf text then some (text.drop start.length) else none

/-- What comes after the first of two texts that it begins with. -/
def choose {α : Type} (first second : List Char × α) (text : List Char) : Option (α × List Char) :=
  match after first.1 text with
  | some rest => some (first.2, rest)
  | none => (after second.1 text).map fun rest => (second.2, rest)

/-- A text, read from both ends: all but the lamp's preference is there once. -/
def read (text : List Char) : Option Outputs := do
  let (lampOn, rest) ← choose ("lamp=on lamp_preference=".toList, true) ("lamp=off lamp_preference=".toList, false) text
  let (ventOpen, back) ← choose (" vent=open".toList.reverse, true) (" vent=closed".toList.reverse, false) rest.reverse
  let (digits, back) := back.span Char.isDigit
  let preference ← after " fan=".toList.reverse back
  some ⟨lampOn, String.ofList preference.reverse, UInt32.ofNat (Nat.ofDigitChars 10 digits.reverse 0), ventOpen⟩

theorem after_append (start rest : List Char) : after start (start ++ rest) = some rest := by
  simp [after]

/-- A lamp is read. -/
theorem choose_lamp (on : Bool) (rest : List Char) :
    choose ("lamp=on lamp_preference=".toList, true) ("lamp=off lamp_preference=".toList, false)
      (("lamp=" ++ onOff on ++ " lamp_preference=").toList ++ rest) = some (on, rest) := by
  cases on with
  | true => rfl
  | false => rfl

/-- A vent is read, from the end. -/
theorem choose_vent (isOpen : Bool) (rest : List Char) :
    choose (" vent=open".toList.reverse, true) (" vent=closed".toList.reverse, false)
      ((" vent=" ++ if isOpen then "open" else "closed").toList.reverse ++ rest) = some (isOpen, rest) := by
  cases isOpen with
  | true => rfl
  | false => rfl

/-- A number is read, from the end. -/
theorem span_digits (n : Nat) (rest : List Char) :
    ((toString n).toList.reverse ++ '=' :: rest).span Char.isDigit = ((toString n).toList.reverse, '=' :: rest) := by
  have digits : ∀ c ∈ (toString n).toList.reverse, c.isDigit = true := by
    intro c item
    rw [List.mem_reverse, Nat.toString_eq_repr, Nat.toList_repr] at item
    exact Nat.isDigit_of_mem_toDigits (by decide) (by decide) item
  rw [List.span_eq_takeWhile_dropWhile, List.takeWhile_append_of_pos digits, List.dropWhile_append_of_pos digits,
    List.takeWhile_cons_of_neg (by decide), List.dropWhile_cons_of_neg (by decide), List.append_nil]

/-- **A line of the outputs** is read back, whatever the lamp's preference is. -/
theorem read_text (outputs : Outputs) : read outputs.text.toList = some outputs := by
  obtain ⟨lampOn, preference, fan, ventOpen⟩ := outputs
  have front : (Outputs.text ⟨lampOn, preference, fan, ventOpen⟩).toList =
      ("lamp=" ++ onOff lampOn ++ " lamp_preference=").toList ++ (preference.toList ++ (" fan=".toList ++
        ((toString fan.toNat).toList ++ (" vent=" ++ if ventOpen then "open" else "closed").toList))) := by
    simp only [text, String.toList_append, List.append_assoc]
  have back : (preference.toList ++ (" fan=".toList ++ ((toString fan.toNat).toList ++
        (" vent=" ++ if ventOpen then "open" else "closed").toList))).reverse =
      (" vent=" ++ if ventOpen then "open" else "closed").toList.reverse ++
        ((toString fan.toNat).toList.reverse ++ '=' :: ("naf ".toList ++ preference.toList.reverse)) := by
    simp only [List.reverse_append, List.append_assoc]
    rfl
  have fanBack : after " fan=".toList.reverse ('=' :: ("naf ".toList ++ preference.toList.reverse)) =
      some preference.toList.reverse := after_append " fan=".toList.reverse preference.toList.reverse
  unfold read
  rw [front, choose_lamp]
  simp only [Option.bind_eq_bind, Option.bind_some]
  rw [back, choose_vent]
  simp only [Option.bind_some]
  rw [span_digits]
  simp only [fanBack, Option.bind_some, List.reverse_reverse, String.ofList_toList]
  rw [Nat.toString_eq_repr, Nat.toList_repr, Nat.ofDigitChars_ten_toDigits, UInt32.ofNat_toNat]

end Outputs

/-! ## The lines of a run -/

/-- The text of a line of the outputs. -/
def Logged.outputs? : Logged → Option String
  | .outputs text => some text
  | .stageStarted _ => none

/-- The stage of a line of a stage. -/
def Logged.stage? : Logged → Option Nat
  | .stageStarted index => some index
  | .outputs _ => none

namespace OvenLog

/-- What was logged of some reports, and what the log keeps of them. -/
structure Told (log : OvenLog) (reports : List WatchedStatus) (lines : List Logged) : Prop where
  outputs : lines.filterMap Logged.outputs? = ((reports.map Outputs.of).destutter (· ≠ ·)).map Outputs.text
  lastOutputs : log.outputs = (reports.map Outputs.of).getLast?
  stages : lines.filterMap Logged.stage? =
    ((none :: reports.map stageOf).destutter (· ≠ ·)).filterMap (Option.map Prod.snd)
  lastStage : (none :: reports.map stageOf).getLast? = some log.stage

/-- One report's lines. -/
theorem Told.step {log : OvenLog} {reports : List WatchedStatus} {lines : List Logged}
    (told : Told log reports lines) (status : WatchedStatus) :
    Told (log.observe status).1 (reports ++ [status]) (lines ++ (log.observe status).2) := by
  have outputs : (log.observe status).2.filterMap Logged.outputs? =
      if (reports.map Outputs.of).getLast? = some (Outputs.of status) then []
      else [(Outputs.of status).text] := by
    rw [← told.lastOutputs, observe, List.filterMap_append]
    have none' : (started log status).filterMap Logged.outputs? = [] := by
      unfold started
      split <;> rfl
    rw [none', List.nil_append]
    unfold changed
    cases log.outputs with
    | none => rfl
    | some previous => by_cases same : previous = Outputs.of status <;> simp [same, Logged.outputs?]
  have stages : (log.observe status).2.filterMap Logged.stage? =
      if (none :: reports.map stageOf).getLast? = some (stageOf status) then []
      else [stageOf status].filterMap (Option.map Prod.snd) := by
    rw [told.lastStage, observe, List.filterMap_append]
    have none' : (changed log status).filterMap Logged.stage? = [] := by
      unfold changed
      split
      · rfl
      · split <;> rfl
    rw [none', List.append_nil]
    unfold started
    cases stageOf status with
    | none => by_cases same : log.stage = none <;> simp [same]
    | some stage =>
      by_cases same : log.stage = some stage
      · simp [same]
      · have other : some stage ≠ log.stage := fun eq => same eq.symm
        simp only [Option.filter, other, ne_eq, not_false_eq_true, decide_true, if_true, Option.some.injEq]
        simp [Logged.stage?, same]
  constructor
  · rw [List.filterMap_append, told.outputs, outputs, List.map_append, List.map_singleton,
      Changes.destutter_concat]
    split
    · exact List.append_nil _
    · rw [List.map_append, List.map_singleton]
  · rw [List.map_append, List.map_singleton, List.getLast?_concat]
    rfl
  · rw [List.filterMap_append, told.stages, stages, List.map_append, List.map_singleton, ← List.cons_append,
      Changes.destutter_concat]
    split
    · exact List.append_nil _
    · rw [List.filterMap_append]
  · rw [List.map_append, List.map_singleton, ← List.cons_append, List.getLast?_concat]
    rfl

end OvenLog

/-- **The log tells what changed**, over any reports. -/
theorem ovenLog_told (reports : List WatchedStatus) :
    ((ovenLog.trace OvenLog.default reports).filterMap Logged.outputs?).map (fun text => Outputs.read text.toList) =
        ((reports.map Outputs.of).destutter (· ≠ ·)).map some ∧
      (ovenLog.trace OvenLog.default reports).filterMap Logged.stage? =
        ((none :: reports.map OvenLog.stageOf).destutter (· ≠ ·)).filterMap (Option.map Prod.snd) := by
  have admitted : ovenLog.Each (fun _ _ => True) OvenLog.default reports :=
    Machine.each_iff.mpr fun _ _ _ _ => trivial
  have start : OvenLog.Told OvenLog.default [] [] := ⟨rfl, rfl, rfl, rfl⟩
  have step : ∀ log past said status, OvenLog.Told log past said → True →
      OvenLog.Told (ovenLog.next log status) (past ++ [status]) (said ++ ovenLog.effects log status) :=
    fun _ _ _ status told _ => told.step status
  have told := Machine.Each.told (I := OvenLog.Told) start step admitted
  refine ⟨?_, told.stages⟩
  rw [told.outputs, List.map_map]
  exact List.map_congr_left fun outputs _ => outputs.read_text

end AnovaOven
