import AnovaOven.Lib.Overflow
import AnovaOven.Processors.LocalStore.Normalize

/-!
# Durations on the command line (`anova-oven-cli/src/main.rs`)

The durations that the command line reads and writes. Their arithmetic is not checked, so what it does with a
number that is too large is the build's to say: none stands for a panic.
-/

namespace AnovaOven

/-- `str::to_ascii_lowercase`. -/
def toAsciiLowercase (s : String) : String := String.ofList (s.toList.map Char.toLower)

/-- `str::parse` to a `u64`: digits, after a plus or not. -/
def parseU64 (s : List Char) : Option UInt64 :=
  let digits := if s.head? = some '+' then s.tail else s
  if digits ≠ [] ∧ digits.all Char.isDigit ∧ Nat.ofDigitChars 10 digits 0 < UInt64.size then
    some (.ofNat (Nat.ofDigitChars 10 digits 0))
  else none

/-- The seconds of a unit. -/
def unitSeconds (c : Char) : Option UInt64 :=
  if c = 'h' then some 3600
  else if c = 'm' then some 60
  else if c = 's' then some 1
  else none

def badDuration (s : String) : String := s!"bad duration `{s}`"

def needsUnit (s : String) : String := s!"`{s}` needs a unit, e.g. {s}m or {s}s"

/-- `parse_duration` of a text with colons. -/
def parseClock (o : Overflow) (s : String) : Option (Except String UInt64) :=
  match (s.toList.splitOn ':').mapM parseU64 with
  | none => some (.error (badDuration s))
  | some [m, sec] => do
    let m ← o.mul m 60
    let secs ← o.add m sec
    return .ok secs
  | some [h, m, sec] => do
    let h ← o.mul h 3600
    let m ← o.mul m 60
    let hm ← o.add h m
    let secs ← o.add hm sec
    return .ok secs
  | some _ => some (.error (badDuration s))

/-- `parse_duration`'s loop over a text without colons: the number so far, the characters to come and the total
so far. -/
def parseUnits (o : Overflow) (s : String) :
    List Char → List Char → UInt64 → Option (Except String UInt64)
  | number, [], total => some (if number ≠ [] then .error (needsUnit s) else .ok total)
  | number, c :: chars, total =>
    if c.isDigit then parseUnits o s (number ++ [c]) chars total
    else match unitSeconds c with
      | none => some (.error (badDuration s))
      | some unit =>
        match parseU64 number with
        | none => some (.error (badDuration s))
        | some n => do
          let secs ← o.mul n unit
          let total ← o.add total secs
          parseUnits o s [] chars total

/-- A duration has to last. -/
def aboveZero (secs : UInt64) : Except String UInt64 :=
  if secs = 0 then .error "the duration must be above zero" else .ok secs

/-- `parse_duration`. -/
def parseDuration (o : Overflow) (s : String) : Option (Except String UInt64) := do
  let s := toAsciiLowercase (trim s)
  let secs ←
    if ':' ∈ s.toList then parseClock o s
    else parseUnits o s [] (s.toList.filter fun c => !isWhitespace c) 0
  return secs.bind aboveZero

/-- A number in at least two digits. -/
def twoDigits (n : UInt64) : String := if n < 10 then "0" ++ toString n else toString n

/-- `format_duration`. -/
def formatDuration (secs : UInt64) : String :=
  let h := secs / 3600
  let m := secs % 3600 / 60
  let s := secs % 60
  if 0 < h then toString h ++ ":" ++ twoDigits m ++ ":" ++ twoDigits s
  else twoDigits m ++ ":" ++ twoDigits s

end AnovaOven
