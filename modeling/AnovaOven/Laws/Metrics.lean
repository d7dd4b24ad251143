import AnovaOven.Lib.Trim
import AnovaOven.PicoCore.Metrics

/-!
# Laws of the metrics' buffer

As long as every piece has room, the buffer is all that was written. The first piece that hasn't cuts it back
to its last whole line, and nothing is written after (`run_overflowed`). So the buffer begins the metrics'
text, however the text is split, and it never ends within a line it has no room for (`metrics_cut`).
-/

namespace AnovaOven

open Trim

/-! ## The last whole line -/

/-- A text cut back to its last whole line: the longest that begins it and ends a line, or is empty. -/
structure WholeLines (text kept : String) : Prop where
  begins : kept.toList <+: text.toList
  ends : kept = "" ∨ kept.toList.getLast? = some '\n'
  longest : ∀ other : String, other.toList <+: text.toList →
    other = "" ∨ other.toList.getLast? = some '\n' → other.toList <+: kept.toList

theorem rfind_later {c : Char} {chars : List Char} {i : Nat} (later : rfind c chars = some i) (d : Char) :
    rfind c (d :: chars) = some (i + 1) := by
  unfold rfind
  rw [later]

theorem rfind_first {c : Char} {chars : List Char} (never : rfind c chars = none) (d : Char) :
    rfind c (d :: chars) = if d = c then some 0 else none := by
  unfold rfind
  rw [never]

/-- `rfind` finds the character a list is cut back to. -/
theorem take_rfind (c : Char) (chars : List Char) :
    chars.take ((rfind c chars).elim 0 (· + 1)) = chars.rdropWhile (· ≠ c) := by
  induction chars with
  | nil => rfl
  | cons d chars ih =>
    rw [rdropWhile_cons, ← ih]
    cases found : rfind c chars with
    | some i =>
      rw [rfind_later found d]
      have some : chars.take (i + 1) ≠ [] := by
        intro none
        rcases List.take_eq_nil_iff.mp none with zero | rfl
        · cases zero
        · cases found
      exact (if_neg some).symm
    | none =>
      rw [rfind_first found d]
      by_cases same : d = c
      · subst same
        rw [if_pos rfl, List.rdropWhile_singleton]
        simp
      · rw [if_neg same, List.rdropWhile_singleton]
        simp [same]

/-- What `write_str` cuts back to. -/
theorem wholeLines_truncate (text : String) :
    WholeLines text (truncate text ((rfind '\n' text.toList).elim 0 (· + 1))) := by
  have cut := cutBack_rdropWhile (· ≠ '\n') text.toList
  have kept : (truncate text ((rfind '\n' text.toList).elim 0 (· + 1))).toList =
      text.toList.rdropWhile (· ≠ '\n') := by
    rw [← take_rfind]
    exact String.toList_ofList
  rw [← kept] at cut
  generalize truncate text _ = text' at cut
  -- A list that doesn't end outside of newlines is empty or ends with one.
  have ends (s : String) : (∀ a ∈ s.toList.getLast?, decide (a ≠ '\n') = false) ↔
      s = "" ∨ s.toList.getLast? = some '\n' := by
    cases last : s.toList.getLast? with
    | none =>
      have empty : s = "" := String.toList_eq_nil_iff.mp (List.getLast?_eq_none_iff.mp last)
      simp [empty]
    | some a =>
      have some : s ≠ "" := fun empty => by simp [empty] at last
      simp [some]
  exact ⟨cut.begins, (ends _).mp cut.ends,
    fun other begins ended => cut.longest other.toList begins ((ends other).mpr ended)⟩

/-! ## Writing -/

variable (room : String → String → Bool)

namespace LineTruncatingWriter

/-- A piece that has room is written after what is there. -/
theorem writeStr_fits {w : LineTruncatingWriter} (going : w.overflowed = false) {s : String}
    (fits : room w.buf s = true) : w.writeStr room s = (⟨w.buf ++ s, false⟩, true) := by
  unfold writeStr pushStr
  simp only [going, fits, Bool.false_eq_true, if_true, if_false]

/-- A piece that hasn't cuts the buffer back. -/
theorem writeStr_overflows {w : LineTruncatingWriter} (going : w.overflowed = false) {s : String}
    (full : room w.buf s = false) :
    w.writeStr room s = (⟨truncate w.buf ((rfind '\n' w.buf.toList).elim 0 (· + 1)), true⟩, false) := by
  unfold writeStr pushStr
  simp only [going, full, Bool.false_eq_true, if_false]

/-- After it nothing is written. -/
theorem writeStr_overflowed {w : LineTruncatingWriter} (full : w.overflowed = true) (s : String) :
    w.writeStr room s = (w, false) := by
  unfold writeStr
  rw [if_pos full]

/-- A piece fails only where the writer is cut back, or was. -/
theorem writeStr_fails {w : LineTruncatingWriter} {s : String} (failed : ¬(w.writeStr room s).2 = true) :
    (w.writeStr room s).1.overflowed = true := by
  cases going : w.overflowed with
  | true => rwa [writeStr_overflowed room going]
  | false =>
    cases fits : room w.buf s with
    | true =>
      rw [writeStr_fits room going fits] at failed
      exact absurd rfl failed
    | false => rw [writeStr_overflows room going fits]

end LineTruncatingWriter

/-- The writer after some pieces. -/
abbrev metricsAfter (pieces : List String) : LineTruncatingWriter := (metricsWriter room).run .new pieces

theorem metricsAfter_concat (pieces : List String) (s : String) :
    metricsAfter room (pieces ++ [s]) = ((metricsAfter room pieces).writeStr room s).1 :=
  (metricsWriter room).run_append _ pieces [s]

/-- What the writer holds of the pieces so far: all of them, until one has no room, and a beginning of them in
any case. -/
structure MetricsTold (w : LineTruncatingWriter) (pieces : List String) : Prop where
  going : w.overflowed = false → w.buf = String.join pieces
  begins : w.buf.toList <+: (String.join pieces).toList

/-- A piece keeps it so. -/
theorem MetricsTold.next {w : LineTruncatingWriter} {pieces : List String} (told : MetricsTold w pieces)
    (s : String) : MetricsTold ((metricsWriter room).next w s) (pieces ++ [s]) := by
  have join : String.join (pieces ++ [s]) = String.join pieces ++ s := by
    rw [String.join_append, String.join_cons, String.join_nil, String.append_empty]
  have more : (String.join pieces).toList <+: (String.join (pieces ++ [s])).toList := by
    rw [join, String.toList_append]
    exact List.prefix_append _ _
  show MetricsTold (w.writeStr room s).1 (pieces ++ [s])
  cases going : w.overflowed with
  | true =>
    rw [LineTruncatingWriter.writeStr_overflowed room going]
    refine ⟨fun reset => ?_, told.begins.trans more⟩
    rw [going] at reset
    cases reset
  | false =>
    cases fits : room w.buf s with
    | true =>
      rw [LineTruncatingWriter.writeStr_fits room going fits, told.going going, ← join]
      exact ⟨fun _ => rfl, List.prefix_rfl⟩
    | false =>
      rw [LineTruncatingWriter.writeStr_overflows room going fits]
      refine ⟨fun reset => ?_, (wholeLines_truncate _).begins.trans (told.begins.trans more)⟩
      cases reset

theorem metricsAfter_told (pieces : List String) : MetricsTold (metricsAfter room pieces) pieces :=
  Machine.run_past ⟨fun _ => rfl, List.nil_prefix⟩ (fun _ _ s told => told.next room s) pieces

/-- An overflow has a first piece that had no room. -/
theorem overflowed_piece {pieces : List String} (full : (metricsAfter room pieces).overflowed = true) :
    ∃ past s later, pieces = past ++ s :: later ∧ (metricsAfter room past).overflowed = false ∧
      room (metricsAfter room past).buf s = false := by
  induction pieces using List.reverseRecOn with
  | nil => cases full
  | append_singleton pieces s ih =>
    cases going : (metricsAfter room pieces).overflowed with
    | true =>
      obtain ⟨past, t, later, rfl, before⟩ := ih going
      exact ⟨past, t, later ++ [s], by rw [List.append_assoc, List.cons_append], before⟩
    | false =>
      cases fits : room (metricsAfter room pieces).buf s with
      | true =>
        rw [metricsAfter_concat, LineTruncatingWriter.writeStr_fits room going fits] at full
        cases full
      | false => exact ⟨pieces, s, [], rfl, going, fits⟩

/-- After an overflow the writer stays as it is. -/
theorem run_overflowed {w : LineTruncatingWriter} (full : w.overflowed = true) (later : List String) :
    (metricsWriter room).run w later = w := by
  induction later with
  | nil => rfl
  | cons s later ih =>
    have stays : (metricsWriter room).next w s = w :=
      congrArg Prod.fst (LineTruncatingWriter.writeStr_overflowed room full s)
    rw [Machine.run_cons, stays, ih]

/-- **Metrics cut.** Whatever the buffer has room for and however the text comes in pieces: the buffer begins
the text at any time, and is all of it until a piece has no room. Such a piece cuts it back to the last
whole line of what it held, and nothing is written after. -/
theorem metrics_cut :
    (∀ pieces : List String,
      (metricsAfter room pieces).buf.toList <+: (String.join pieces).toList ∧
      ((metricsAfter room pieces).overflowed = false →
        (metricsAfter room pieces).buf = String.join pieces) ∧
      ((metricsAfter room pieces).overflowed = true → ∃ past s later, pieces = past ++ s :: later ∧
        (metricsAfter room past).overflowed = false ∧ room (metricsAfter room past).buf s = false)) ∧
    ∀ (past : List String) (s : String) (later : List String),
      (metricsAfter room past).overflowed = false → room (metricsAfter room past).buf s = false →
        WholeLines (metricsAfter room past).buf (metricsAfter room (past ++ s :: later)).buf ∧
        (metricsAfter room (past ++ s :: later)).buf = (metricsAfter room (past ++ [s])).buf := by
  refine ⟨fun pieces => ?_, fun past s later going full => ?_⟩
  · have told := metricsAfter_told room pieces
    exact ⟨told.begins, told.going, overflowed_piece room⟩
  · have cut := LineTruncatingWriter.writeStr_overflows room going full
    have next : metricsAfter room (past ++ [s]) = _ :=
      (metricsAfter_concat room past s).trans (congrArg Prod.fst cut)
    have stays : metricsAfter room (past ++ s :: later) = metricsAfter room (past ++ [s]) := by
      rw [List.append_cons, metricsAfter, Machine.run_append]
      have full : (metricsAfter room (past ++ [s])).overflowed = true := by rw [next]
      exact run_overflowed room full later
    rw [stays, next]
    exact ⟨wholeLines_truncate _, rfl⟩

/-- `write_all` stops at the first piece that fails, which makes no difference: later ones would too. -/
theorem writeAll_eq_run (w : LineTruncatingWriter) (pieces : List String) :
    w.writeAll room pieces = (metricsWriter room).run w pieces := by
  induction pieces generalizing w with
  | nil => rfl
  | cons s pieces ih =>
    rw [Machine.run_cons]
    show (if (w.writeStr room s).2 then (w.writeStr room s).1.writeAll room pieces else (w.writeStr room s).1) =
      (metricsWriter room).run (w.writeStr room s).1 pieces
    split
    next => exact ih _
    next failed => exact (run_overflowed room (LineTruncatingWriter.writeStr_fails room failed) pieces).symm

/-- `render`'s text is the buffer of its writer, and begins the metrics. -/
theorem renderMetrics_begins (pieces : List String) :
    (renderMetrics pieces).toList <+: (String.join pieces).toList := by
  have after : renderMetrics pieces = (metricsAfter metricsRoom pieces).buf :=
    congrArg LineTruncatingWriter.buf (writeAll_eq_run metricsRoom .new pieces)
  rw [after]
  exact (metricsAfter_told metricsRoom pieces).begins

end AnovaOven
