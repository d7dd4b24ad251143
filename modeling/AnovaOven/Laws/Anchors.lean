import AnovaOven.Lib.Stopwatch
import AnovaOven.PicoCore.Fsm

/-!
# Laws of the snapshot's times

Between polls the display counts on from the timer's anchor, and an oven that is missing is timed from the
first word of it. Both are stopwatches over the calls on the snapshot (`anchorClock`, `missingClock`). The
anchor is set by an install that shows another reading than before, so it shows the first of the installs
of the current reading (`anchor_run`); the other is set by the first word after an install
(`missingSince_run`).
-/

namespace AnovaOven

/-- What a status says of the timer. -/
def OvenStatus.timerReading (status : OvenStatus) : String × UInt64 × UInt64 :=
  (status.timerMode, status.timerCurrentSecs, status.timerTotalSecs)

theorem sameTimer_iff {prev status : OvenStatus} :
    ApiSnapshot.sameTimer prev status = true ↔ prev.timerReading = status.timerReading := by
  simp [ApiSnapshot.sameTimer, OvenStatus.timerReading, and_assoc]

/-! ## The timer's anchor -/

/-- Whether a call sets the anchor. -/
def MovesAnchor (s : ApiSnapshot) : SnapshotCall → Prop
  | .install status _ =>
    s.timerAnchor = none ∨ ∀ prev, s.status = some prev → prev.timerReading ≠ status.timerReading
  | .missing _ => True

/-- What a call that sets the anchor sets it to. -/
def SnapshotCall.anchor : SnapshotCall → Option Nat
  | .install _ now => some now
  | .missing _ => none

/-- An install moves the anchor as the source checks it. -/
theorem moved_iff {s : ApiSnapshot} {status : OvenStatus} {now : Nat} :
    (s.timerAnchor.isNone || !(s.status.any fun prev => ApiSnapshot.sameTimer prev status)) = true ↔
      MovesAnchor s (.install status now) := by
  cases anchor : s.timerAnchor <;> cases set : s.status <;>
    simp [MovesAnchor, anchor, set, ← sameTimer_iff]

/-- **The anchor** as a stopwatch. -/
def anchorClock : Machine.Stopwatch snapshots ApiSnapshot.timerAnchor where
  sets := MovesAnchor
  reading _ call := call.anchor
  set s call moves := by
    cases call with
    | install status now => exact if_pos (moved_iff.mpr moves)
    | missing now => rfl
  left s call stays := by
    cases call with
    | install status now => exact if_neg fun moved => stays (moved_iff.mp moved)
    | missing now => exact absurd trivial stays

/-- There is an anchor just while there is a status. -/
def Anchored (s : ApiSnapshot) : Prop := s.timerAnchor = none ↔ s.status = none

theorem next_anchored (s : ApiSnapshot) (call : SnapshotCall) :
    Anchored (snapshots.next s call) := by
  cases call with
  | install status now =>
    apply iff_of_false
    · show (if _ then some now else s.timerAnchor) ≠ none
      split_ifs with moved
      · exact Option.some_ne_none now
      · intro none
        simp [none] at moved
    · exact Option.some_ne_none status
  | missing now => exact iff_of_true rfl rfl

theorem run_anchored (calls : List SnapshotCall) :
    Anchored (snapshots.run ApiSnapshot.empty calls) :=
  Machine.run_keeps (fun s call _ _ => next_anchored s call) (iff_of_true rfl rfl)

/-- After an install, the calls that leave the anchor are installs of its reading. -/
theorem anchor_untouched {s : ApiSnapshot} {status : OvenStatus} {calls : List SnapshotCall}
    (installed : s.status = some status)
    (untouched : anchorClock.Untouched s calls) :
    ∀ call ∈ calls, ∃ other now, call = .install other now ∧
      other.timerReading = status.timerReading := by
  induction calls generalizing s status with
  | nil => exact fun call item => absurd item List.not_mem_nil
  | cons call calls ih =>
    obtain ⟨stays, untouched⟩ := untouched
    cases call with
    | missing now => exact absurd trivial stays
    | install other now =>
      have same : status.timerReading = other.timerReading := by
        by_contra differ
        apply stays
        right
        intro prev set
        obtain rfl := Option.some.inj (installed.symm.trans set)
        exact differ
      have rest := @ih _ other rfl untouched
      intro call item
      rcases List.mem_cons.mp item with rfl | later
      · exact ⟨other, now, rfl, same.symm⟩
      · obtain ⟨again, at', eq, reading⟩ := rest call later
        exact ⟨again, at', eq, reading.trans same.symm⟩

/-- Without a status every call sets the anchor, so none does not. -/
theorem anchor_untouched_missing {s : ApiSnapshot} {calls : List SnapshotCall}
    (missing : s.timerAnchor = none) (untouched : anchorClock.Untouched s calls) : calls = [] := by
  cases calls with
  | nil => rfl
  | cons call calls =>
    refine absurd ?_ untouched.1
    cases call with
    | install status now => exact .inl missing
    | missing now => trivial

/-- The installs of the timer's current reading: those at the end of the calls that show it, from the first
of them on. -/
structure CurrentReading (calls past : List SnapshotCall) (status : OvenStatus) (now : Nat)
    (rest : List SnapshotCall) : Prop where
  split : calls = past ++ .install status now :: rest
  same : ∀ call ∈ rest, ∃ other at', call = .install other at' ∧
    other.timerReading = status.timerReading
  first : ∀ before other at', past = before ++ [.install other at'] →
    other.timerReading ≠ status.timerReading

/-- **The anchor** is the time of the first install of the current reading, and there is none without a
status. -/
theorem anchor_run (calls : List SnapshotCall) :
    ((snapshots.run ApiSnapshot.empty calls).timerAnchor = none ∧
        (snapshots.run ApiSnapshot.empty calls).status = none) ∨
      ∃ past status now rest, CurrentReading calls past status now rest ∧
        (snapshots.run ApiSnapshot.empty calls).timerAnchor = some now ∧
          (snapshots.run ApiSnapshot.empty calls).status ≠ none := by
  have anchored := run_anchored calls
  rcases anchorClock.run_shows ApiSnapshot.empty calls with
    ⟨untouched, _⟩ | ⟨past, call, rest, ⟨rfl, moves, untouched⟩, shows⟩
  · obtain rfl := anchor_untouched_missing rfl untouched
    exact .inl ⟨rfl, rfl⟩
  · cases call with
    | missing now => exact .inl ⟨shows, anchored.mp shows⟩
    | install status now =>
      refine .inr ⟨past, status, now, rest, ⟨rfl, anchor_untouched rfl untouched, ?_⟩, shows, ?_⟩
      · rintro before other at' rfl
        rw [Machine.run_append] at moves
        rcases moves with unanchored | differ
        · exact absurd ((next_anchored _ (.install other at')).mp unanchored) (Option.some_ne_none other)
        · exact differ other rfl
      · intro gone
        exact Option.some_ne_none now (shows.symm.trans (anchored.mpr gone))

/-! ## Since when the oven is missing -/

/-- **The time the oven is missing since** as a stopwatch: an install stops it, and the first word that the
oven is missing starts it. -/
def missingClock : Machine.Stopwatch snapshots ApiSnapshot.ovenMissingSince where
  sets s
    | .install _ _ => True
    | .missing _ => s.ovenMissingSince = none
  reading _
    | .install _ _ => none
    | .missing now => some now
  set s call sets := by
    cases call with
    | install status now => rfl
    | missing now => exact congrArg (fun since : Option Nat => some (since.getD now)) sets
  left s call unset := by
    cases call with
    | install status now => exact absurd trivial unset
    | missing now =>
      obtain ⟨since, eq⟩ := Option.ne_none_iff_exists'.mp unset
      show some (s.ovenMissingSince.getD now) = s.ovenMissingSince
      rw [eq]
      rfl

/-- The calls that leave a time running are words that the oven is missing. -/
theorem missing_untouched {s : ApiSnapshot} {calls : List SnapshotCall}
    (untouched : missingClock.Untouched s calls) :
    ∀ call ∈ calls, ∃ now, call = .missing now := by
  induction calls generalizing s with
  | nil => exact fun call item => absurd item List.not_mem_nil
  | cons call calls ih =>
    obtain ⟨stays, untouched⟩ := untouched
    intro other item
    rcases List.mem_cons.mp item with rfl | later
    · cases other with
      | install status now => exact absurd trivial stays
      | missing now => exact ⟨now, rfl⟩
    · exact ih untouched other later

/-- The words that the oven is missing since the last install, from the first of them on. -/
structure CurrentOutage (calls past : List SnapshotCall) (now : Nat) (rest : List SnapshotCall) :
    Prop where
  split : calls = past ++ .missing now :: rest
  missing : ∀ call ∈ rest, ∃ at', call = .missing at'
  first : ∀ before at', past ≠ before ++ [.missing at']

/-- **The time the oven is missing since** is that of the first word of it since the last install, and
there is none where an install came last. -/
theorem missingSince_run (calls : List SnapshotCall) :
    ((snapshots.run ApiSnapshot.empty calls).ovenMissingSince = none ∧
        ∀ before now, calls ≠ before ++ [.missing now]) ∨
      ∃ past now rest, CurrentOutage calls past now rest ∧
        (snapshots.run ApiSnapshot.empty calls).ovenMissingSince = some now := by
  have running (before : List SnapshotCall) (now : Nat) :
      (snapshots.run ApiSnapshot.empty (before ++ [.missing now])).ovenMissingSince ≠ none := by
    rw [Machine.run_append]
    exact Option.some_ne_none _
  rcases missingClock.run_shows ApiSnapshot.empty calls with
    ⟨untouched, shows⟩ | ⟨past, call, rest, ⟨rfl, sets, untouched⟩, shows⟩
  · refine .inl ⟨shows, ?_⟩
    rintro before now rfl
    exact running before now shows
  · cases call with
    | install status now =>
      refine .inl ⟨shows, ?_⟩
      intro before at' last
      exact running before at' (last ▸ shows)
    | missing now =>
      refine .inr ⟨past, now, rest, ⟨rfl, missing_untouched untouched, ?_⟩, shows⟩
      rintro before at' rfl
      exact running before at' sets

/-- **The snapshot's times.** The timer's anchor is the time of the first install of the current reading, and
there is none just where there is no status; and the time the oven is missing since is that of the first
word of it since the last install. -/
theorem snapshot_times (calls : List SnapshotCall) :
    (((snapshots.run ApiSnapshot.empty calls).timerAnchor = none ↔
        (snapshots.run ApiSnapshot.empty calls).status = none) ∧
      ((snapshots.run ApiSnapshot.empty calls).status ≠ none →
        ∃ past status now rest, CurrentReading calls past status now rest ∧
          (snapshots.run ApiSnapshot.empty calls).timerAnchor = some now)) ∧
    (((snapshots.run ApiSnapshot.empty calls).ovenMissingSince = none ↔
        ∀ before now, calls ≠ before ++ [.missing now]) ∧
      ((snapshots.run ApiSnapshot.empty calls).ovenMissingSince ≠ none →
        ∃ past now rest, CurrentOutage calls past now rest ∧
          (snapshots.run ApiSnapshot.empty calls).ovenMissingSince = some now)) := by
  refine ⟨⟨run_anchored calls, ?anchor⟩, ⟨?ends, ?ended⟩, ?since⟩
  case anchor =>
    intro known
    rcases anchor_run calls with ⟨_, unknown⟩ | ⟨past, status, now, rest, current, shows, _⟩
    · exact absurd unknown known
    · exact ⟨past, status, now, rest, current, shows⟩
  case ends =>
    intro stopped
    rcases missingSince_run calls with ⟨_, ended⟩ | ⟨_, _, _, _, shows⟩
    · exact ended
    · cases stopped.symm.trans shows
  case ended =>
    intro ended
    rcases List.eq_nil_or_concat calls with rfl | ⟨before, call, rfl⟩
    · rfl
    · cases call with
      | install status now =>
        rw [List.concat_eq_append, Machine.run_append]
        rfl
      | missing now => exact absurd (List.concat_eq_append) (ended before now)
  case since =>
    intro running
    rcases missingSince_run calls with ⟨stopped, _⟩ | outage
    · exact absurd stopped running
    · exact outage

end AnovaOven
