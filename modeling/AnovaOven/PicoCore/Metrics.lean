import AnovaOven.Lib.Machine
import AnovaOven.Lib.JsonText

/-!
# The metrics' buffer (`anova-oven-pico-core/src/metrics.rs`)

The writer that `render` writes its metrics to, piece by piece. Positions in a text are in characters. What
has room in the buffer is the buffer's to say: a piece is pushed whole or not at all.
-/

namespace AnovaOven

open JsonText

/-- `METRICS_BUF_LEN`. -/
def metricsBufLen : Nat := 2048

/-- What a buffer of `METRICS_BUF_LEN` bytes has room for. -/
def metricsRoom (buf s : String) : Bool := (utf8 buf).length + (utf8 s).length ≤ metricsBufLen

/-- `heapless::String::push_str`: all of a piece, or nothing. -/
def pushStr (room : String → String → Bool) (buf s : String) : Option String :=
  if room buf s then some (buf ++ s) else none

/-- `str::rfind` of a character. -/
def rfind (c : Char) : List Char → Option Nat
  | [] => none
  | d :: chars =>
    match rfind c chars with
    | some i => some (i + 1)
    | none => if d = c then some 0 else none

/-- `String::truncate`. -/
def truncate (s : String) (keep : Nat) : String := String.ofList (s.toList.take keep)

/-- `LineTruncatingWriter`. -/
structure LineTruncatingWriter where
  buf : String
  overflowed : Bool
  deriving Repr, DecidableEq

namespace LineTruncatingWriter

/-- The writer that `render` begins with. -/
def new : LineTruncatingWriter := ⟨"", false⟩

/-- `LineTruncatingWriter::write_str`, and whether it is `Ok`. -/
def writeStr (room : String → String → Bool) (w : LineTruncatingWriter) (s : String) :
    LineTruncatingWriter × Bool :=
  if w.overflowed then (w, false)
  else match pushStr room w.buf s with
    | some buf => ({ w with buf := buf }, true)
    | none =>
      let keep := (rfind '\n' w.buf.toList).elim 0 (· + 1)
      (⟨truncate w.buf keep, true⟩, false)

/-- `write_all`, of the pieces its text comes in: it stops at the first that fails. -/
def writeAll (room : String → String → Bool) (w : LineTruncatingWriter) :
    List String → LineTruncatingWriter
  | [] => w
  | s :: pieces =>
    let (w, ok) := w.writeStr room s
    if ok then writeAll room w pieces else w

end LineTruncatingWriter

/-- The writer as a machine, which says whether each piece was taken. -/
def metricsWriter (room : String → String → Bool) : Machine LineTruncatingWriter String Bool where
  step w s := ((w.writeStr room s).1, [(w.writeStr room s).2])

/-- `render`, of the pieces its text comes in. -/
def renderMetrics (pieces : List String) : String :=
  (LineTruncatingWriter.new.writeAll metricsRoom pieces).buf

end AnovaOven
