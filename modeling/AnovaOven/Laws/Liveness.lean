import AnovaOven.Lib.Stopwatch
import AnovaOven.Liveness

/-!
# Laws of upstream liveness

The socket and the oven are told of by separate calls, and the link is up while both are. Its clock is a
stopwatch (`linkClock`), set where the link is up before or after a call: it shows the time of the call
that took the link down (`linkClock_run`). The oven's own clock runs just while the oven is offline, and a
report without a time of its own leaves it running (`ovenClock_kept`).
-/

namespace AnovaOven

namespace Liveness

/-! ## One call -/

theorem trackTransition_connected (l : Liveness) (was : Bool) (now : Nat) :
    (l.trackTransition was now).isConnected = l.isConnected := by
  unfold trackTransition
  split_ifs <;> rfl

theorem trackTransition_ovenOnline (l : Liveness) (was : Bool) (now : Nat) :
    (l.trackTransition was now).ovenOnline = l.ovenOnline := by
  unfold trackTransition
  split_ifs <;> rfl

theorem trackTransition_offlineSince (l : Liveness) (was : Bool) (now : Nat) :
    (l.trackTransition was now).ovenOfflineSinceMs = l.ovenOfflineSinceMs := by
  unfold trackTransition
  split_ifs <;> rfl

/-- What a transition does to the link's clock. -/
theorem trackTransition_disconnectedSince (l : Liveness) (was : Bool) (now : Nat) :
    (l.trackTransition was now).disconnectedSinceMs =
      if l.isConnected then 0 else if was then now else l.disconnectedSinceMs := by
  unfold trackTransition
  split_ifs <;> rfl

/-- An oven that is set goes through a transition, and its own clock is all that is set besides. -/
theorem setOvenOnline_eq (l : Liveness) (online : Bool) (told : Option Nat) (now seen : Nat) :
    l.setOvenOnline online told now seen =
      { { l with ovenOnline := online }.trackTransition l.isConnected now with
        ovenOfflineSinceMs := if online then 0 else l.offlineSince told seen } := by
  unfold setOvenOnline
  cases online with
  | true => rfl
  | false => simp [offlineSince, trackTransition_offlineSince]

end Liveness

/-- **A call that sets the socket or the oven** stops the link's clock while the link is up, and starts it as
the link goes down. -/
theorem next_tracks (l : Liveness) {call : LivenessCall} (sets : ∀ now, call ≠ .recordState now) :
    (liveness.next l call).disconnectedSinceMs =
      if (liveness.next l call).isConnected then 0
      else if l.isConnected then call.now else l.disconnectedSinceMs := by
  cases call with
  | recordState now => exact absurd rfl (sets now)
  | setConnected connected now =>
    show (Liveness.trackTransition _ _ _).disconnectedSinceMs =
      if (Liveness.trackTransition _ _ _).isConnected then _ else _
    rw [Liveness.trackTransition_disconnectedSince, Liveness.trackTransition_connected]
    rfl
  | setOvenOnline online told now seen =>
    show (l.setOvenOnline online told now seen).disconnectedSinceMs =
      if (l.setOvenOnline online told now seen).isConnected then _ else _
    rw [Liveness.setOvenOnline_eq]
    show (Liveness.trackTransition _ _ _).disconnectedSinceMs =
      if (Liveness.trackTransition _ _ _).isConnected then _ else _
    rw [Liveness.trackTransition_disconnectedSince, Liveness.trackTransition_connected]
    rfl

/-- A link that is up after a call has its clock at zero, if it had while it was up before. -/
theorem next_up {l : Liveness} {call : LivenessCall} (zero : l.isConnected → l.disconnectedSinceMs = 0)
    (up : (liveness.next l call).isConnected) : (liveness.next l call).disconnectedSinceMs = 0 := by
  by_cases sets : ∀ now, call ≠ .recordState now
  · rw [next_tracks l sets, if_pos up]
  · push Not at sets
    obtain ⟨now, rfl⟩ := sets
    exact zero up

/-- A link that goes down starts its clock. -/
theorem next_down {l : Liveness} {call : LivenessCall} (up : l.isConnected)
    (down : ¬ (liveness.next l call).isConnected) :
    (liveness.next l call).disconnectedSinceMs = call.now := by
  by_cases sets : ∀ now, call ≠ .recordState now
  · rw [next_tracks l sets, if_neg down, if_pos up]
  · push Not at sets
    obtain ⟨now, rfl⟩ := sets
    exact absurd up down

/-- A link that stays down leaves its clock running. -/
theorem next_stays {l : Liveness} {call : LivenessCall} (before : ¬ l.isConnected)
    (after : ¬ (liveness.next l call).isConnected) :
    (liveness.next l call).disconnectedSinceMs = l.disconnectedSinceMs := by
  by_cases sets : ∀ now, call ≠ .recordState now
  · rw [next_tracks l sets, if_neg after, if_neg before]
  · push Not at sets
    obtain ⟨now, rfl⟩ := sets
    rfl

/-! ## Any calls -/

/-- **The link's clock** is set where the link is up before a call or after it. -/
def linkClock : Machine.Stopwatch liveness Liveness.disconnectedSinceMs where
  sets l call := l.isConnected ∨ (liveness.next l call).isConnected
  reading l call := (liveness.next l call).disconnectedSinceMs
  set _ _ _ := rfl
  left _ _ unset := next_stays (fun up => unset (.inl up)) (fun up => unset (.inr up))

/-- The link's clock is at zero while the link is up. -/
theorem linkClock_zero {l : Liveness} (zero : l.isConnected → l.disconnectedSinceMs = 0)
    (calls : List LivenessCall) :
    (liveness.run l calls).isConnected → (liveness.run l calls).disconnectedSinceMs = 0 :=
  @Machine.run_keeps _ _ _ liveness (fun l => l.isConnected → l.disconnectedSinceMs = 0) l calls
    (fun _ _ _ zero up => next_up zero up) zero

/-- A call took the link down, and none of those after it took it up again. -/
structure TookDown (l : Liveness) (past : List LivenessCall) (call : LivenessCall)
    (rest : List LivenessCall) : Prop where
  up : (liveness.run l past).isConnected
  down : ∀ more, more <+: rest → ¬ (liveness.run l (past ++ call :: more)).isConnected

/-- Where the link's clock isn't set and the link is down at the end, it is down all along. -/
theorem down_of_untouched {l : Liveness} {calls : List LivenessCall}
    (untouched : linkClock.Untouched l calls) (down : ¬ (liveness.run l calls).isConnected) :
    ∀ more, more <+: calls → ¬ (liveness.run l more).isConnected := by
  rintro more ⟨rest, rfl⟩
  cases rest with
  | nil => rwa [List.append_nil] at down
  | cons call rest =>
    intro up
    exact Machine.each_iff.mp untouched more call rest rfl (.inl up)

/-- **Outages.** While the link is down, its clock shows the reading of the call that took it down, or what
it showed at first where it never was up. -/
theorem linkClock_run {l : Liveness} {calls : List LivenessCall}
    (down : ¬ (liveness.run l calls).isConnected) :
    (∃ past call rest, calls = past ++ call :: rest ∧ TookDown l past call rest ∧
        (liveness.run l calls).disconnectedSinceMs = call.now) ∨
      (∀ more, more <+: calls → ¬ (liveness.run l more).isConnected) ∧
        (liveness.run l calls).disconnectedSinceMs = l.disconnectedSinceMs := by
  rcases linkClock.run_shows l calls with ⟨untouched, shows⟩ | ⟨past, call, rest, last, shows⟩
  · exact .inr ⟨down_of_untouched untouched down, shows⟩
  · obtain ⟨rfl, sets, untouched⟩ := last
    rw [Machine.run_append, Machine.run_cons] at down
    have downSince := down_of_untouched untouched down
    have after := downSince [] List.nil_prefix
    have up := sets.resolve_right after
    refine .inl ⟨past, call, rest, rfl, ⟨up, ?_⟩, shows.trans (next_down up after)⟩
    intro more within
    rw [Machine.run_append, Machine.run_cons]
    exact downSince more within

/-- A call whose readings of the clock are all past the epoch. -/
def LivenessCall.Positive (call : LivenessCall) : Prop := ∀ now ∈ call.readings, 0 < now

/-- The oven's clock runs just while the oven is offline. -/
def OvenTimed (l : Liveness) : Prop := l.ovenOfflineSinceMs = 0 ↔ l.ovenOnline = true

/-- An oven that is offline is so since some time. -/
theorem offlineSince_ne_zero (l : Liveness) (told : Option Nat) {seen : Nat} (positive : 0 < seen) :
    l.offlineSince told seen ≠ 0 := by
  unfold Liveness.offlineSince
  cases kept : told.filter fun ms => decide (ms ≠ 0) with
  | none =>
    show (if l.ovenOfflineSinceMs = 0 then seen else l.ovenOfflineSinceMs) ≠ 0
    split_ifs with running
    · omega
    · exact running
  | some ms => simpa using (Option.filter_eq_some_iff.mp kept).2

/-- A call keeps the oven timed. -/
theorem next_ovenTimed {l : Liveness} {call : LivenessCall} (positive : call.Positive)
    (timed : OvenTimed l) : OvenTimed (liveness.next l call) := by
  cases call with
  | recordState now => exact timed
  | setConnected connected now =>
    show (Liveness.trackTransition _ _ _).ovenOfflineSinceMs = 0 ↔
      (Liveness.trackTransition _ _ _).ovenOnline = true
    rw [Liveness.trackTransition_offlineSince, Liveness.trackTransition_ovenOnline]
    exact timed
  | setOvenOnline online told now seen =>
    have seen_pos : 0 < seen := positive seen (by simp [LivenessCall.readings])
    show (l.setOvenOnline online told now seen).ovenOfflineSinceMs = 0 ↔
      (l.setOvenOnline online told now seen).ovenOnline = true
    rw [Liveness.setOvenOnline_eq]
    show (if online then 0 else l.offlineSince told seen) = 0 ↔
      (Liveness.trackTransition _ _ _).ovenOnline = true
    rw [Liveness.trackTransition_ovenOnline]
    cases online with
    | true => exact iff_of_true rfl rfl
    | false => exact iff_of_false (offlineSince_ne_zero l told seen_pos) (by simp)

/-- The oven stays timed over a run. -/
theorem run_ovenTimed (timeout started : Nat) {calls : List LivenessCall}
    (positive : ∀ call ∈ calls, call.Positive) :
    OvenTimed (liveness.run (Liveness.new timeout started) calls) :=
  Machine.run_keeps (I := OvenTimed)
    (fun _ call item timed => next_ovenTimed (positive call item) timed) (iff_of_true rfl rfl)

/-- **What is told of the clocks**: of an oven that is online no seconds, and of a link that is up none. -/
theorem secs_run (timeout started now : Nat) {calls : List LivenessCall}
    (positive : ∀ call ∈ calls, call.Positive) :
    ((liveness.run (Liveness.new timeout started) calls).ovenOfflineSecs now = none ↔
        (liveness.run (Liveness.new timeout started) calls).ovenOnline = true) ∧
      ((liveness.run (Liveness.new timeout started) calls).isConnected = true →
        (liveness.run (Liveness.new timeout started) calls).disconnectedSecs now = 0) := by
  constructor
  · have timed := run_ovenTimed timeout started positive
    unfold OvenTimed at timed
    rw [← timed]
    unfold Liveness.ovenOfflineSecs
    split_ifs with zero <;> simp [zero]
  · intro up
    exact if_pos (linkClock_zero (fun up => by cases up) calls up)

/-- **A repeated report** that the oven is offline, with no time of its own, leaves its clock running. -/
theorem ovenClock_kept {l : Liveness} (running : l.ovenOfflineSinceMs ≠ 0) {told : Option Nat}
    (untold : told = none ∨ told = some 0) (now seen : Nat) :
    (l.setOvenOnline false told now seen).ovenOfflineSinceMs = l.ovenOfflineSinceMs := by
  rw [Liveness.setOvenOnline_eq]
  show l.offlineSince told seen = _
  unfold Liveness.offlineSince
  rw [if_neg running]
  rcases untold with rfl | rfl <;> rfl

/-- **The clocks of a tracker**, whatever calls it had. The link's is at zero just while the link is up; else
it shows when the last call took it down, or when the tracker started where none did. The oven's is at
zero just while the oven is online, and a report without a time of its own leaves it running. -/
theorem clocks_run {timeout started : Nat} {calls : List LivenessCall} (running : 0 < started)
    (positive : ∀ call ∈ calls, call.Positive) :
    ((liveness.run (Liveness.new timeout started) calls).disconnectedSinceMs = 0 ↔
        (liveness.run (Liveness.new timeout started) calls).isConnected = true) ∧
      (¬ (liveness.run (Liveness.new timeout started) calls).isConnected →
        (∃ past call rest, calls = past ++ call :: rest ∧
            TookDown (Liveness.new timeout started) past call rest ∧
            (liveness.run (Liveness.new timeout started) calls).disconnectedSinceMs = call.now) ∨
          (∀ more, more <+: calls →
              ¬ (liveness.run (Liveness.new timeout started) more).isConnected) ∧
            (liveness.run (Liveness.new timeout started) calls).disconnectedSinceMs = started) ∧
      ((liveness.run (Liveness.new timeout started) calls).ovenOfflineSinceMs = 0 ↔
        (liveness.run (Liveness.new timeout started) calls).ovenOnline = true) ∧
      ∀ told now seen, told = none ∨ told = some 0 →
        (liveness.run (Liveness.new timeout started) calls).ovenOfflineSinceMs ≠ 0 →
          ((liveness.run (Liveness.new timeout started) calls).setOvenOnline false told now
            seen).ovenOfflineSinceMs =
              (liveness.run (Liveness.new timeout started) calls).ovenOfflineSinceMs := by
  refine ⟨⟨?zero, linkClock_zero (fun up => by cases up) calls⟩, linkClock_run, ?oven, ?kept⟩
  case zero =>
    intro zero
    by_contra down
    rcases linkClock_run down with ⟨past, call, rest, rfl, _, shows⟩ | ⟨_, shows⟩
    · have item : call ∈ past ++ call :: rest := List.mem_append_right past List.mem_cons_self
      have now_pos : 0 < call.now :=
        positive call item _ (by cases call <;> simp [LivenessCall.now, LivenessCall.readings])
      omega
    · have start : (Liveness.new timeout started).disconnectedSinceMs = started := rfl
      omega
  case oven => exact run_ovenTimed timeout started positive
  case kept =>
    intro told now seen untold running
    exact ovenClock_kept running untold now seen

namespace Kitchen

/-- The socket comes up, the oven goes offline and is told to be so again, the socket goes down. -/
def outageCalls : List LivenessCall :=
  [.setConnected true 20, .setOvenOnline false none 30 31, .setOvenOnline false none 40 41,
    .setConnected false 50]

end Kitchen

/-- The link is down since the oven went offline. -/
theorem outageCalls_clocks :
    (liveness.run (Liveness.new 1200 10) Kitchen.outageCalls).disconnectedSinceMs = 30 ∧
      ((liveness.run (Liveness.new 1200 10) Kitchen.outageCalls).disconnectedSinceMs = 0 ↔
        (liveness.run (Liveness.new 1200 10) Kitchen.outageCalls).isConnected = true) :=
  ⟨rfl, (@clocks_run 1200 10 Kitchen.outageCalls (by omega)
    (by unfold LivenessCall.Positive; decide)).1⟩

end AnovaOven
