import AnovaOven.Processors.LocalStore.Normalize

/-!
# Text on the panel (`anova-oven-pico-core/src/view_plan.rs`)

`fit_line_count` keeps as many of a plan's lines as a panel is high. `wrap_lines` fills lines with words, and
ellipsises the last line it keeps where there are more. Its measure is of one font: it passes its own role
on.
-/

namespace AnovaOven

/-- `FontRole`. -/
inductive FontRole where
  | giant
  | hero
  | title
  | body
  deriving Repr, DecidableEq

/-- `PlanLine`. -/
structure PlanLine where
  role : FontRole
  text : String
  deriving Repr, DecidableEq

/-- `LineMetrics`. -/
structure LineMetrics where
  lineHeight : Int32
  inkHeight : Int32
  deriving Repr, DecidableEq

/-- The loop of `fit_line_count`, from where it has used some height and kept some lines. -/
def fitFrom (metrics : FontRole → LineMetrics) (avail used : Int32) (kept : Nat) :
    List PlanLine → Nat
  | [] => kept
  | line :: lines =>
    let m := metrics line.role
    if kept > 0 ∧ used + m.inkHeight > avail then kept
    else fitFrom metrics avail (used + m.lineHeight) (kept + 1) lines

/-- `fit_line_count`. -/
def fitLineCount (lines : List PlanLine) (avail : Int32) (metrics : FontRole → LineMetrics) : Nat :=
  fitFrom metrics avail 0 0 lines

/-- `str::split_whitespace`. -/
def splitWhitespace (text : String) : List String :=
  ((text.toList.splitOnP isWhitespace).filter fun word => word ≠ []).map String.ofList

/-- What the loop of `wrap_lines` keeps: the lines that are done, and the one it fills. -/
structure Wrapping where
  lines : List String
  cur : String

namespace Wrapping

variable (measure : String → UInt32) (maxW : UInt32)

/-- The loop's body. -/
def word (w : Wrapping) (word : String) : Wrapping :=
  let candidate := if w.cur = "" then word else w.cur ++ " " ++ word
  if w.cur = "" ∨ measure candidate ≤ maxW then { w with cur := candidate }
  else ⟨w.lines ++ [w.cur], word⟩

end Wrapping

/-- The lines of `wrap_lines` before it counts them. -/
def filledLines (measure : String → UInt32) (text : String) (maxW : UInt32) : List String :=
  let w := (splitWhitespace text).foldl (Wrapping.word measure maxW) ⟨[], ""⟩
  let lines := if w.cur = "" then w.lines else w.lines ++ [w.cur]
  if lines = [] then [""] else lines

/-- The loop that takes characters from before a line's ellipsis, as long as it is too wide. -/
def shorten (measure : String → UInt32) (maxW : UInt32) (last : List Char) : List Char :=
  if measure (String.ofList last) > maxW then
    if last.dropLast = [] then ['…']
    else shorten measure maxW (last.dropLast.dropLast ++ ['…'])
  else last
termination_by last.length
decreasing_by
  rename_i bare
  have some := List.length_pos_iff.mpr bare
  simp only [List.length_dropLast, List.length_append, List.length_singleton] at some ⊢
  omega

/-- A last line that is kept, ellipsised. -/
def ellipsise (measure : String → UInt32) (maxW : UInt32) (last : String) : String :=
  String.ofList (shorten measure maxW (last.push '…').toList)

/-- `wrap_lines`. -/
def wrapLines (measure : String → UInt32) (text : String) (maxW : UInt32) (maxLines : Nat) :
    List String :=
  let lines := filledLines measure text maxW
  if lines.length > maxLines then
    let lines := lines.take maxLines
    match lines.getLast? with
    | some last => lines.dropLast ++ [ellipsise measure maxW last]
    | none => lines
  else lines

end AnovaOven
