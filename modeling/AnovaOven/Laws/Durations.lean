import AnovaOven.Cli.Durations
import AnovaOven.Laws.Normalize

/-!
# Laws of the command line's durations

A text says a number of seconds (`Says`): a clock's, or the sum of its counts, each in a unit. Reading one comes to
what that number does in the build's arithmetic, until a part of it is refused (`parseDuration_computes`). So
it is exact just where the sum of what is read is a `u64` (`durationExact_iff`), and a duration that the
command line writes is read back.
-/

namespace AnovaOven

open Trim

/-! ## What a text says -/

/-- A count, in digits, and the letter of its unit. -/
structure Count where
  digits : List Char
  unit : Char
  deriving Repr, DecidableEq

namespace Count

def text (c : Count) : List Char := c.digits ++ [c.unit]

def seconds (c : Count) : Nat :=
  Nat.ofDigitChars 10 c.digits 0 * (unitSeconds c.unit).elim 0 UInt64.toNat

structure WellFormed (c : Count) : Prop where
  nonempty : c.digits ≠ []
  digit : ∀ d ∈ c.digits, d.isDigit
  unit : (unitSeconds c.unit).isSome

end Count

/-- The seconds that a text says, as a clock or in units. -/
inductive Says (text : List Char) : Nat → Prop
  | minutes {m sec : UInt64} : (text.splitOn ':').mapM parseU64 = some [m, sec] →
      Says text (m.toNat * 60 + sec.toNat)
  | hours {h m sec : UInt64} : (text.splitOn ':').mapM parseU64 = some [h, m, sec] →
      Says text (h.toNat * 3600 + m.toNat * 60 + sec.toNat)
  | units {counts : List Count} : (∀ c ∈ counts, c.WellFormed) →
      (text.filter fun c => !isWhitespace c) = counts.flatMap Count.text →
      Says text (counts.map Count.seconds).sum

/-- The text that `parse_duration` reads. -/
def durationText (s : String) : String := toAsciiLowercase (trim s)

/-- A text's duration is exact: no build panics, and what one returns is what the text says. -/
def DurationExact (s : String) : Prop :=
  ∀ o, ∃ read, parseDuration o s = some read ∧
    ∀ secs, read = .ok secs → Says (durationText s).toList secs.toNat

/-- The counts that a text has, after a number, up to the first that is refused. -/
def countsRead : List Char → List Char → List Count
  | _, [] => []
  | number, c :: chars =>
    if c.isDigit then countsRead (number ++ [c]) chars
    else if (unitSeconds c).isSome ∧ (parseU64 number).isSome then ⟨number, c⟩ :: countsRead [] chars
    else []

/-- The seconds that a clock's parts make. -/
def clockSum : List UInt64 → Nat
  | [m, sec] => m.toNat * 60 + sec.toNat
  | [h, m, sec] => h.toNat * 3600 + m.toNat * 60 + sec.toNat
  | _ => 0

/-- The exact sum of the counts that are read, each times its unit. -/
def durationSum (s : String) : Nat :=
  let text := (durationText s).toList
  if ':' ∈ text then ((text.splitOn ':').mapM parseU64).elim 0 clockSum
  else ((countsRead [] (text.filter fun c => !isWhitespace c)).map Count.seconds).sum

/-! ## Numbers -/

/-- Digits that stand for a number. -/
structure Spells (digits : List Char) (n : Nat) : Prop where
  nonempty : digits ≠ []
  digit : ∀ d ∈ digits, d.isDigit
  value : Nat.ofDigitChars 10 digits 0 = n

theorem Spells.parse {digits : List Char} {n : Nat} (spells : Spells digits n) :
    parseU64 digits = if n < UInt64.size then some (.ofNat n) else none := by
  have plain : ¬ digits.head? = some '+' := by
    intro plus
    have digit := spells.digit '+' (List.mem_of_head? plus)
    cases digit
  have all : digits.all Char.isDigit := List.all_eq_true.mpr spells.digit
  unfold parseU64
  simp only [if_neg plain, spells.value, all, ne_eq, spells.nonempty, not_false_eq_true, true_and]

theorem Spells.parse_uInt64 {digits : List Char} {n : UInt64} (spells : Spells digits n.toNat) :
    parseU64 digits = some n := by
  rw [spells.parse, if_pos n.toNat_lt, UInt64.ofNat_toNat]

/-- What is read of digits is the number they stand for. -/
theorem spells_of_parse {digits : List Char} {n : UInt64} (all : ∀ d ∈ digits, d.isDigit)
    (read : parseU64 digits = some n) : Spells digits n.toNat := by
  have nonempty : digits ≠ [] := by
    rintro rfl
    cases read
  have spells : Spells digits (Nat.ofDigitChars 10 digits 0) := ⟨nonempty, all, rfl⟩
  rw [spells.parse] at read
  split at read
  case isTrue small =>
    obtain rfl := Option.some.inj read
    rwa [UInt64.toNat_ofNat_of_lt' small]
  case isFalse => cases read

/-! ## Reading a clock -/

/-- What is returned of a total, with a refusal or without. -/
def outcome (refused : Option String) (secs : UInt64) : Except String UInt64 :=
  refused.elim (.ok secs) .error

/-- A reading comes to what an exact number does, in every build. -/
def ComesTo (read : Overflow → Option (Except String UInt64)) (n : Nat) (refused : Option String) : Prop :=
  ∀ o, read o = (o.fit n).map (outcome refused)

theorem parseClock_minutes {s : String} {m sec : UInt64}
    (parts : (s.toList.splitOn ':').mapM parseU64 = some [m, sec]) :
    ComesTo (parseClock · s) (m.toNat * 60 + sec.toNat) none := by
  intro o
  have sum := Overflow.fit_add_bind o (m.toNat * 60) sec.toNat (some ∘ outcome none)
  rw [Overflow.fit_toNat] at sum
  unfold parseClock
  rw [parts, Option.map_eq_bind]
  exact sum

theorem parseClock_hours {s : String} {h m sec : UInt64}
    (parts : (s.toList.splitOn ':').mapM parseU64 = some [h, m, sec]) :
    ComesTo (parseClock · s) (h.toNat * 3600 + m.toNat * 60 + sec.toNat) none := by
  intro o
  have sum := Overflow.fit_add_bind o (h.toNat * 3600 + m.toNat * 60) sec.toNat (some ∘ outcome none)
  rw [Overflow.fit_toNat, ← Overflow.fit_add_bind] at sum
  unfold parseClock
  rw [parts, Option.map_eq_bind]
  exact sum

/-- The parts of a clock that is none. -/
theorem parseClock_bad {s : String}
    (bad : ∀ o, parseClock o s = some (.error (badDuration s))) :
    ComesTo (parseClock · s) 0 (some (badDuration s)) := by
  intro o
  rw [Overflow.fit_zero]
  exact bad o

/-- **A clock** comes to what its sum does, or is refused. -/
theorem parseClock_computes (s : String) : ∃ refused : Option String,
    ComesTo (parseClock · s) (((s.toList.splitOn ':').mapM parseU64).elim 0 clockSum) refused ∧
    (refused = none → Says s.toList (((s.toList.splitOn ':').mapM parseU64).elim 0 clockSum)) := by
  cases parts : (s.toList.splitOn ':').mapM parseU64 with
  | none =>
    refine ⟨some (badDuration s), parseClock_bad fun o => ?_, nofun⟩
    unfold parseClock
    rw [parts]
  | some numbers =>
    rcases numbers with _ | ⟨h, _ | ⟨m, _ | ⟨sec, _ | ⟨more, rest⟩⟩⟩⟩
    case cons.cons.nil => exact ⟨none, parseClock_minutes parts, fun _ => .minutes parts⟩
    case cons.cons.cons.nil => exact ⟨none, parseClock_hours parts, fun _ => .hours parts⟩
    -- Any other number of parts is refused.
    all_goals
      refine ⟨some (badDuration s), parseClock_bad fun o => ?_, nofun⟩
      unfold parseClock
      rw [parts]

/-! ## Reading counts -/

theorem digits_concat {number : List Char} {c : Char} (digits : ∀ d ∈ number, d.isDigit)
    (digit : c.isDigit) : ∀ d ∈ number ++ [c], d.isDigit := by
  intro d item
  rcases List.mem_append.mp item with old | new
  · exact digits d old
  · obtain rfl := List.mem_singleton.mp new
    exact digit

/-- The counts that are read are well formed. -/
theorem countsRead_wellFormed {number chars : List Char} (digits : ∀ d ∈ number, d.isDigit) :
    ∀ c ∈ countsRead number chars, c.WellFormed := by
  induction chars generalizing number with
  | nil =>
    intro count item
    cases item
  | cons c chars ih =>
    unfold countsRead
    split
    next digit => exact ih (digits_concat digits digit)
    next =>
      split
      next taken =>
        intro count item
        rcases List.mem_cons.mp item with rfl | later
        · obtain ⟨n, read⟩ := Option.isSome_iff_exists.mp taken.2
          exact ⟨(spells_of_parse digits read).nonempty, digits, taken.1⟩
        · exact ih (List.forall_mem_nil _) count later
      next =>
        intro count item
        cases item

section Loop

variable {s : String} {number : List Char} {c : Char} {chars : List Char}

/-- A digit goes to the number. -/
theorem parseUnits_digit (digit : c.isDigit = true) (o : Overflow) (total : UInt64) :
    parseUnits o s number (c :: chars) total = parseUnits o s (number ++ [c]) chars total := by
  rw [parseUnits, if_pos digit]

/-- A letter without a unit, or without a number, is refused. -/
theorem parseUnits_bad (letter : c.isDigit ≠ true)
    (bad : ¬((unitSeconds c).isSome ∧ (parseU64 number).isSome)) (o : Overflow) (total : UInt64) :
    parseUnits o s number (c :: chars) total = some (.error (badDuration s)) := by
  rw [parseUnits, if_neg letter]
  cases unit : unitSeconds c with
  | none => rfl
  | some unit =>
    cases read : parseU64 number with
    | none => rfl
    | some n =>
      rw [unit, read] at bad
      exact absurd ⟨rfl, rfl⟩ bad

/-- A unit adds to the total. -/
theorem parseUnits_unit (letter : c.isDigit ≠ true) {unit n : UInt64} (known : unitSeconds c = some unit)
    (read : parseU64 number = some n) (o : Overflow) (t : Nat) :
    ((o.fit t).bind fun total => parseUnits o s number (c :: chars) total) =
      (o.fit (t + n.toNat * unit.toNat)).bind fun total => parseUnits o s [] chars total := by
  rw [← Overflow.fit_add_bind]
  congr 1
  funext total
  rw [parseUnits, if_neg letter, known]
  simp only [read]
  rfl

end Loop

/-- **The loop** comes to what the sum of the counts it reads does, or is refused; where it isn't, the counts are
all there is to read. -/
theorem parseUnits_computes (s : String) {number : List Char} (digits : ∀ d ∈ number, d.isDigit)
    (chars : List Char) : ∃ refused : Option String,
    (∀ t, ComesTo (fun o => (o.fit t).bind fun total => parseUnits o s number chars total)
      (t + ((countsRead number chars).map Count.seconds).sum) refused) ∧
    (refused = none → number ++ chars = (countsRead number chars).flatMap Count.text) := by
  induction chars generalizing number with
  | nil =>
    by_cases none : number = []
    · subst none
      exact ⟨.none, fun t o => Option.map_eq_bind.symm, fun _ => rfl⟩
    · refine ⟨some (needsUnit s), fun t o => ?_, nofun⟩
      simp only [parseUnits, ne_eq, none, not_false_eq_true, if_true]
      exact Option.map_eq_bind.symm
  | cons c chars ih =>
    by_cases digit : c.isDigit = true
    · have more : countsRead number (c :: chars) = countsRead (number ++ [c]) chars := if_pos digit
      obtain ⟨refused, result, whole⟩ := ih (digits_concat digits digit)
      simp only [more, parseUnits_digit digit]
      refine ⟨refused, result, fun read => ?_⟩
      rw [← whole read, List.append_assoc, List.singleton_append]
    · by_cases taken : (unitSeconds c).isSome ∧ (parseU64 number).isSome
      · have counts : countsRead number (c :: chars) = ⟨number, c⟩ :: countsRead [] chars :=
          (if_neg digit).trans (if_pos taken)
        obtain ⟨unit, known⟩ := Option.isSome_iff_exists.mp taken.1
        obtain ⟨n, read⟩ := Option.isSome_iff_exists.mp taken.2
        have seconds : (⟨number, c⟩ : Count).seconds = n.toNat * unit.toNat := by
          unfold Count.seconds
          rw [(spells_of_parse digits read).value, known]
          rfl
        obtain ⟨refused, result, whole⟩ := ih (List.forall_mem_nil _)
        rw [counts]
        refine ⟨refused, fun t o => ?_, fun told => ?_⟩
        · rw [List.map_cons, List.sum_cons, seconds, ← Nat.add_assoc, ← result]
          exact parseUnits_unit digit known read o t
        · rw [List.flatMap_cons, ← whole told]
          exact (List.append_assoc number [c] chars).symm
      · have counts : countsRead number (c :: chars) = [] := (if_neg digit).trans (if_neg taken)
        refine ⟨some (badDuration s), fun t o => ?_, nofun⟩
        simp only [counts, parseUnits_bad digit taken]
        exact Option.map_eq_bind.symm

/-! ## Reading a duration -/

theorem durationSum_clock {s : String} (colons : ':' ∈ (durationText s).toList) :
    durationSum s = (((durationText s).toList.splitOn ':').mapM parseU64).elim 0 clockSum := by
  unfold durationSum
  rw [if_pos colons]

theorem durationSum_units {s : String} (plain : ':' ∉ (durationText s).toList) :
    durationSum s =
      ((countsRead [] ((durationText s).toList.filter fun c => !isWhitespace c)).map Count.seconds).sum := by
  unfold durationSum
  rw [if_neg plain]

theorem parseDuration_clock {s : String} (colons : ':' ∈ (durationText s).toList) (o : Overflow) :
    parseDuration o s = (parseClock o (durationText s)).bind fun secs => some (secs.bind aboveZero) := by
  unfold durationText at colons
  unfold parseDuration durationText
  simp only [if_pos colons]
  rfl

theorem parseDuration_units {s : String} (plain : ':' ∉ (durationText s).toList) (o : Overflow) :
    parseDuration o s =
      (parseUnits o (durationText s) [] ((durationText s).toList.filter fun c => !isWhitespace c) 0).bind
        fun secs => some (secs.bind aboveZero) := by
  unfold durationText at plain
  unfold parseDuration durationText
  simp only [if_neg plain]
  rfl

/-- The last step returns what it is given, if anything. -/
theorem aboveZero_ok {total secs : UInt64} (read : (outcome none total).bind aboveZero = .ok secs) :
    total = secs := by
  change aboveZero total = .ok secs at read
  unfold aboveZero at read
  split at read
  · cases read
  · exact Except.ok.inj read

/-- What is read comes to what the exact sum does, or is refused. -/
theorem parseDuration_computes (s : String) : ∃ refused : Option String,
    (∀ o, parseDuration o s = (o.fit (durationSum s)).map fun secs => (outcome refused secs).bind aboveZero) ∧
    (refused = none → Says (durationText s).toList (durationSum s)) := by
  -- Whichever way it is read, the last step is made of what that returns.
  have last {read : Overflow → Option (Except String UInt64)} {n : Nat} {refused : Option String}
      (result : ComesTo read n refused) (o : Overflow) :
      ((read o).bind fun secs => some (secs.bind aboveZero)) =
        (o.fit n).map fun secs => (outcome refused secs).bind aboveZero := by
    rw [result o, ← Function.comp_def, ← Option.map_eq_bind, Option.map_map]
    rfl
  by_cases colons : ':' ∈ (durationText s).toList
  · obtain ⟨refused, result, told⟩ := parseClock_computes (durationText s)
    rw [durationSum_clock colons]
    exact ⟨refused, fun o => (parseDuration_clock colons o).trans (last result o), told⟩
  · obtain ⟨refused, result, whole⟩ := parseUnits_computes (durationText s) (List.forall_mem_nil _)
      ((durationText s).toList.filter fun c => !isWhitespace c)
    have start := result 0
    simp only [Nat.zero_add, Overflow.fit_zero, Option.bind_some] at start
    rw [durationSum_units colons]
    refine ⟨refused, fun o => (parseDuration_units colons o).trans (last start o), fun read => ?_⟩
    have all := whole read
    rw [List.nil_append] at all
    exact .units (countsRead_wellFormed (List.forall_mem_nil _)) all

/-- A duration is exact just where the sum of what is read of it is a `u64`. -/
theorem durationExact_iff (s : String) : DurationExact s ↔ durationSum s < UInt64.size := by
  obtain ⟨refused, result, told⟩ := parseDuration_computes s
  constructor
  · intro exact
    obtain ⟨read, some, -⟩ := exact .panics
    rw [result] at some
    by_contra large
    rw [Overflow.fit_panics (Nat.not_lt.mp large)] at some
    cases some
  · intro small o
    rw [result, Overflow.fit_of_lt small]
    refine ⟨_, rfl, fun secs read => ?_⟩
    cases refused with
    | some error => cases read
    | none =>
      rw [← aboveZero_ok read, UInt64.toNat_ofNat_of_lt' small]
      exact told rfl

/-! ## What is written -/

theorem spells_toString (n : UInt64) : Spells (toString n).toList n.toNat := by
  have digits : (toString n).toList = Nat.toDigits 10 n.toNat := Nat.toList_repr
  rw [digits]
  exact ⟨Nat.toDigits_ne_nil, fun d item => Nat.isDigit_of_mem_toDigits (by decide) (by decide) item,
    Nat.ofDigitChars_ten_toDigits⟩

theorem spells_twoDigits (n : UInt64) : Spells (twoDigits n).toList n.toNat := by
  have spells := spells_toString n
  unfold twoDigits
  split
  case isFalse => exact spells
  case isTrue =>
    rw [String.toList_append]
    refine ⟨List.cons_ne_nil _ _, fun d item => ?_, ?_⟩
    · rcases List.mem_cons.mp item with rfl | later
      · rfl
      · exact spells.digit d later
    · exact Nat.ofDigitChars_cons.trans spells.value

/-- A clock is read part by part. -/
theorem parts_intercalate {parts : List (String × UInt64)} (nonempty : parts ≠ [])
    (spells : ∀ part ∈ parts, Spells part.1.toList part.2.toNat) :
    (([':'].intercalate (parts.map fun part => part.1.toList)).splitOn ':').mapM parseU64 =
      some (parts.map Prod.snd) := by
  have plain : ∀ text ∈ parts.map fun part => part.1.toList, ':' ∉ text := by
    intro text item colon
    obtain ⟨part, mem, rfl⟩ := List.mem_map.mp item
    have digit := (spells part mem).digit ':' colon
    cases digit
  have some : (parts.map fun part => part.1.toList) ≠ [] := fun none => nonempty (List.map_eq_nil_iff.mp none)
  rw [List.splitOn_intercalate ':' plain some]
  clear plain some nonempty
  induction parts with
  | nil => rfl
  | cons part parts ih =>
    obtain ⟨first, later⟩ := List.forall_mem_cons.mp spells
    rw [List.map_cons, List.mapM_cons, first.parse_uInt64, ih later]
    rfl

/-- A text of digits and colons is read as it is. -/
theorem durationText_plain {s : String} (plain : ∀ c ∈ s.toList, c.isDigit ∨ c = ':') :
    durationText s = s := by
  have range : ∀ c ∈ s.toList, 48 ≤ c.toNat ∧ c.toNat ≤ 58 := by
    intro c item
    rcases plain c item with digit | rfl
    · have between := Char.isDigit_iff_toNat.mp digit
      exact ⟨between.1, between.2.trans (by decide)⟩
    · decide
  have black : ∀ c ∈ s.toList, isWhitespace c = false := by
    intro c item
    have between := range c item
    unfold isWhitespace
    simp only [Bool.decide_or, decide_eq_false_iff_not, Bool.or_eq_false_iff]
    omega
  have lower : ∀ c ∈ s.toList, c.toLower = c := by
    intro c item
    have digits := (range c item).2
    unfold Char.toLower
    apply dif_neg
    rintro ⟨upper, -⟩
    have above : 65 ≤ c.toNat := UInt32.le_iff_toNat_le.mp upper
    omega
  have trimmed : trim s = s := by
    rw [trim_eq_self_iff]
    exact ⟨fun c first => black c (List.mem_of_head? first), fun c last => black c (List.mem_of_getLast? last)⟩
  unfold durationText toAsciiLowercase
  rw [trimmed, List.map_congr_left lower, List.map_id', String.ofList_toList]

/-- The parts of the clock that is written, each with its number. -/
def clockParts (secs : UInt64) : List (String × UInt64) :=
  let h := secs / 3600
  let m := secs % 3600 / 60
  let s := secs % 60
  if 0 < h then [(toString h, h), (twoDigits m, m), (twoDigits s, s)] else [(twoDigits m, m), (twoDigits s, s)]

theorem clockParts_spells (secs : UInt64) :
    ∀ part ∈ clockParts secs, Spells part.1.toList part.2.toNat := by
  unfold clockParts
  dsimp only
  split
  · simp only [List.forall_mem_cons, spells_toString, spells_twoDigits, List.not_mem_nil, false_imp_iff,
      implies_true, and_self]
  · simp only [List.forall_mem_cons, spells_twoDigits, List.not_mem_nil, false_imp_iff, implies_true, and_self]

theorem clockParts_ne_nil (secs : UInt64) : clockParts secs ≠ [] := by
  unfold clockParts
  dsimp only
  split <;> exact List.cons_ne_nil _ _

theorem formatDuration_parts (secs : UInt64) :
    (formatDuration secs).toList = [':'].intercalate ((clockParts secs).map fun part => part.1.toList) := by
  unfold formatDuration clockParts
  dsimp only
  split
  · simp only [String.toList_append, List.map_cons, List.map_nil, List.intercalate_cons_cons,
      List.intercalate_singleton, List.append_assoc]
    rfl
  · simp only [String.toList_append, List.map_cons, List.map_nil, List.intercalate_cons_cons,
      List.intercalate_singleton]
    rfl

theorem formatDuration_colon (secs : UInt64) : ':' ∈ (formatDuration secs).toList := by
  unfold formatDuration
  dsimp only
  split <;> simp only [String.toList_append, List.mem_append] <;> simp

/-- It is written in digits and colons. -/
theorem formatDuration_text (secs : UInt64) : durationText (formatDuration secs) = formatDuration secs := by
  apply durationText_plain
  intro c item
  have digits {part : String} {n : Nat} (spells : Spells part.toList n) (mem : c ∈ part.toList) :
      c.isDigit ∨ c = ':' := .inl (spells.digit c mem)
  have colon (mem : c ∈ ":".toList) : c.isDigit ∨ c = ':' := .inr (List.mem_singleton.mp mem)
  unfold formatDuration at item
  dsimp only at item
  split at item
  · simp only [String.toList_append, List.mem_append] at item
    rcases item with ((((hours | mid) | minutes) | mid) | seconds)
    · exact digits (spells_toString _) hours
    · exact colon mid
    · exact digits (spells_twoDigits _) minutes
    · exact colon mid
    · exact digits (spells_twoDigits _) seconds
  · simp only [String.toList_append, List.mem_append] at item
    rcases item with ((minutes | mid) | seconds)
    · exact digits (spells_twoDigits _) minutes
    · exact colon mid
    · exact digits (spells_twoDigits _) seconds

/-- The parts that are written make up the duration. -/
theorem parseClock_formatDuration (secs : UInt64) :
    ComesTo (parseClock · (formatDuration secs)) secs.toNat none := by
  have read := parts_intercalate (clockParts_ne_nil secs) (clockParts_spells secs)
  rw [← formatDuration_parts] at read
  have hours : (secs / 3600).toNat = secs.toNat / 3600 := UInt64.toNat_div ..
  have minutes : (secs % 3600 / 60).toNat = secs.toNat % 3600 / 60 := UInt64.toNat_div ..
  have seconds : (secs % 60).toNat = secs.toNat % 60 := UInt64.toNat_mod ..
  by_cases long : 0 < secs / 3600
  · have parts : (clockParts secs).map Prod.snd = [secs / 3600, secs % 3600 / 60, secs % 60] := by
      unfold clockParts
      dsimp only
      rw [if_pos long]
      rfl
    rw [parts] at read
    have sum := parseClock_hours read
    rw [hours, minutes, seconds] at sum
    have whole : secs.toNat / 3600 * 3600 + secs.toNat % 3600 / 60 * 60 + secs.toNat % 60 = secs.toNat := by
      omega
    rwa [whole] at sum
  · have parts : (clockParts secs).map Prod.snd = [secs % 3600 / 60, secs % 60] := by
      unfold clockParts
      dsimp only
      rw [if_neg long]
      rfl
    rw [parts] at read
    have sum := parseClock_minutes read
    rw [minutes, seconds] at sum
    have short : secs.toNat / 3600 = 0 := by
      rw [← hours]
      exact Nat.eq_zero_of_not_pos fun above => long (UInt64.lt_iff_toNat_lt.mpr above)
    have whole : secs.toNat % 3600 / 60 * 60 + secs.toNat % 60 = secs.toNat := by omega
    rwa [whole] at sum

/-- A duration that is written is read back. -/
theorem parse_formatDuration (o : Overflow) {secs : UInt64} (positive : 0 < secs) :
    parseDuration o (formatDuration secs) = some (.ok secs) := by
  have colon := formatDuration_colon secs
  rw [← formatDuration_text secs] at colon
  have clock : parseClock o (formatDuration secs) = _ := parseClock_formatDuration secs o
  rw [parseDuration_clock colon, formatDuration_text, clock, Overflow.fit_toNat]
  have above : aboveZero secs = .ok secs := if_neg (UInt64.pos_iff_ne_zero.mp positive)
  exact congrArg some above

/-- **Durations.** Reading a text is an error or exactly what the text says, without a sum or a product that
overflows, just where the sum of the counts it reads, each times its unit, is a `u64`. A duration that is
written is read back, in any build. -/
theorem duration_exact (s : String) :
    (DurationExact s ↔ durationSum s < UInt64.size) ∧
    ∀ (o : Overflow) (secs : UInt64), 0 < secs → parseDuration o (formatDuration secs) = some (.ok secs) :=
  ⟨durationExact_iff s, fun o _ positive => parse_formatDuration o positive⟩

namespace Kitchen

/-- A count of minutes that is no `u64` of seconds: a build panics, or takes 44 seconds. -/
theorem duration_overflows :
    ¬ DurationExact "307445734561825861m" ∧ parseDuration .panics "307445734561825861m" = none ∧
      parseDuration .wraps "307445734561825861m" = some (.ok 44) := by
  refine ⟨?_, by decide +kernel, by decide +kernel⟩
  rw [durationExact_iff]
  decide +kernel

end Kitchen

end AnovaOven
