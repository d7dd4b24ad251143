import AnovaOven.Lib.Machine

/-!
# Two machines joined by a channel each way

A near machine's effects ask commands of a far one, whose effects are events for the near one. Each
channel delivers in order, and at any later turn. A run of the pair is a list of turns: a message of
its own for either side, the oldest command taken by the far side, or the oldest event heard by the
near side. Its trace tells what each side did and what each channel delivered.

**In order, and nothing lost on the way** (`commands_in_order`, `events_in_order`): what was sent is
what was delivered followed by what still waits.
-/

/-- How the two sides are wired. A side's own messages are those that don't come over its channel. -/
structure Wiring (ι ε τ κ δ μ ν γ η : Type*) where
  ownNear : ι → Bool
  ownFar : κ → Bool
  /-- The command an effect of the near side asks. -/
  sends : ε → Option μ
  /-- Whether the far side takes commands. -/
  ready : τ → Bool
  /-- A command as the far side's message, in the context of its taking. -/
  take : γ → μ → κ
  /-- The event an effect of the far side is. -/
  tells : δ → Option ν
  /-- An event as the near side's message, in the context of its hearing. -/
  hear : η → ν → ι

/-- The two sides and what waits between them, oldest first. -/
structure Duplex (σ τ μ ν : Type*) where
  near : σ
  commands : List μ
  far : τ
  events : List ν

/-- A turn of the pair. -/
inductive DuplexTurn (ι κ γ η : Type*) where
  | near (i : ι)
  | far (k : κ)
  | take (c : γ)
  | hear (c : η)

/-- What happens at a turn: an effect of either side, or a delivery. -/
inductive DuplexEffect (ε δ μ ν : Type*) where
  | near (e : ε)
  | far (d : δ)
  | took (m : μ)
  | heard (n : ν)

namespace DuplexEffect

variable {ε δ μ ν : Type*}

@[simp] def toNear : DuplexEffect ε δ μ ν → Option ε
  | near e => some e
  | _ => none

@[simp] def toFar : DuplexEffect ε δ μ ν → Option δ
  | far d => some d
  | _ => none

@[simp] def toTook : DuplexEffect ε δ μ ν → Option μ
  | took m => some m
  | _ => none

@[simp] def toHeard : DuplexEffect ε δ μ ν → Option ν
  | heard n => some n
  | _ => none

end DuplexEffect

namespace Duplex

variable {σ ι ε τ κ δ μ ν γ η : Type*}
variable (w : Wiring ι ε τ κ δ μ ν γ η) (a : Machine σ ι ε) (b : Machine τ κ δ)

/-- The near side takes a message. -/
def nearStep (s : Duplex σ τ μ ν) (i : ι) : Duplex σ τ μ ν × List (DuplexEffect ε δ μ ν) :=
  let effects := a.effects s.near i
  ({ s with near := a.next s.near i, commands := s.commands ++ effects.filterMap w.sends },
    effects.map .near)

/-- The far side takes a message. -/
def farStep (s : Duplex σ τ μ ν) (k : κ) : Duplex σ τ μ ν × List (DuplexEffect ε δ μ ν) :=
  let effects := b.effects s.far k
  ({ s with far := b.next s.far k, events := s.events ++ effects.filterMap w.tells },
    effects.map .far)

/-- One turn. A message that isn't the side's own, and a delivery with nothing to deliver or no one to
take it, is no turn. -/
def step (s : Duplex σ τ μ ν) :
    DuplexTurn ι κ γ η → Duplex σ τ μ ν × List (DuplexEffect ε δ μ ν)
  | .near i => if w.ownNear i then s.nearStep w a i else (s, [])
  | .far k => if w.ownFar k then s.farStep w b k else (s, [])
  | .take c => match s.commands with
    | [] => (s, [])
    | m :: rest =>
      if w.ready s.far then
        let (s, effects) := ({ s with commands := rest } : Duplex σ τ μ ν).farStep w b (w.take c m)
        (s, .took m :: effects)
      else (s, [])
  | .hear c => match s.events with
    | [] => (s, [])
    | n :: rest =>
      let (s, effects) := ({ s with events := rest } : Duplex σ τ μ ν).nearStep w a (w.hear c n)
      (s, .heard n :: effects)

/-- The pair as a machine. -/
def machine : Machine (Duplex σ τ μ ν) (DuplexTurn ι κ γ η) (DuplexEffect ε δ μ ν) :=
  ⟨step w a b⟩

/-- What a turn can do. -/
inductive Stepped (s : Duplex σ τ μ ν) :
    DuplexTurn ι κ γ η → Duplex σ τ μ ν × List (DuplexEffect ε δ μ ν) → Prop where
  | near (i : ι) (own : w.ownNear i = true) : Stepped s (.near i) (s.nearStep w a i)
  | far (k : κ) (own : w.ownFar k = true) : Stepped s (.far k) (s.farStep w b k)
  | took (c : γ) (m : μ) (rest : List μ) (waiting : s.commands = m :: rest)
      (ready : w.ready s.far = true) : Stepped s (.take c)
        ((({ s with commands := rest } : Duplex σ τ μ ν).farStep w b (w.take c m)).1,
          .took m :: (b.effects s.far (w.take c m)).map .far)
  | heard (c : η) (n : ν) (rest : List ν) (waiting : s.events = n :: rest) : Stepped s (.hear c)
        ((({ s with events := rest } : Duplex σ τ μ ν).nearStep w a (w.hear c n)).1,
          .heard n :: (a.effects s.near (w.hear c n)).map .near)
  | idle (t : DuplexTurn ι κ γ η) : Stepped s t (s, [])

theorem step_spec (s : Duplex σ τ μ ν) (t : DuplexTurn ι κ γ η) :
    Stepped w a b s t ((machine w a b).step s t) := by
  show Stepped w a b s t (step w a b s t)
  cases t with
  | near i =>
    simp only [step]
    split_ifs with own
    · exact .near i own
    · exact .idle _
  | far k =>
    simp only [step]
    split_ifs with own
    · exact .far k own
    · exact .idle _
  | take c =>
    cases waiting : s.commands with
    | nil => simpa only [step, waiting] using Stepped.idle (DuplexTurn.take c)
    | cons m rest =>
      simp only [step, waiting]
      split_ifs with ready
      · exact .took c m rest waiting ready
      · exact .idle _
  | hear c =>
    cases waiting : s.events with
    | nil => simpa only [step, waiting] using Stepped.idle (DuplexTurn.hear c)
    | cons n rest =>
      simp only [step, waiting]
      exact .heard c n rest waiting

section

variable {w a b} {s : Duplex σ τ μ ν} {t : DuplexTurn ι κ γ η}

/-- A delivered command is the oldest there was, and the far side was ready for it. -/
theorem took_spec {m : μ} (h : .took m ∈ (machine w a b).effects s t) :
    ∃ c rest, t = .take c ∧ s.commands = m :: rest ∧ w.ready s.far = true ∧
      (machine w a b).effects s t = .took m :: (b.effects s.far (w.take c m)).map .far := by
  have spec := step_spec w a b s t
  rw [Machine.effects] at h ⊢
  generalize (machine w a b).step s t = result at spec h ⊢
  cases spec with
  | near i own => simp [nearStep] at h
  | far k own => simp [farStep] at h
  | took c m' rest waiting ready =>
    have same : m = m' := by simpa using h
    exact ⟨c, rest, rfl, same ▸ waiting, ready, same ▸ rfl⟩
  | heard c n rest waiting => simp at h
  | idle => simp at h

/-- A delivered event is the oldest there was, and the near side has taken it. -/
theorem heard_spec {n : ν} (h : .heard n ∈ (machine w a b).effects s t) :
    ∃ c rest, t = .hear c ∧ s.events = n :: rest ∧
      (machine w a b).effects s t = .heard n :: (a.effects s.near (w.hear c n)).map .near ∧
      ((machine w a b).next s t).near = a.next s.near (w.hear c n) := by
  have spec := step_spec w a b s t
  rw [Machine.effects, Machine.next] at *
  generalize (machine w a b).step s t = result at spec h ⊢
  cases spec with
  | near i own => simp [nearStep] at h
  | far k own => simp [farStep] at h
  | took c m rest waiting ready => simp at h
  | heard c n' rest waiting =>
    have same : n = n' := by simpa using h
    exact ⟨c, rest, rfl, same ▸ waiting, same ▸ rfl, same ▸ rfl⟩
  | idle => simp at h

/-- Where the far side is ready, it takes the oldest command. -/
theorem take_effects {m : μ} {rest : List μ} (waiting : s.commands = m :: rest)
    (ready : w.ready s.far = true) (c : γ) : (machine w a b).effects s (.take c) =
      .took m :: (b.effects s.far (w.take c m)).map .far := by
  show (step w a b s (.take c)).2 = _
  simp only [step, waiting, ready, if_true, farStep]

/-- What the far side does at a turn, it does on a message of its own or on a command. -/
theorem far_spec {d : δ} (h : .far d ∈ (machine w a b).effects s t) :
    (∃ k, t = .far k ∧ w.ownFar k = true ∧ d ∈ b.effects s.far k) ∨
      ∃ c m, t = .take c ∧ .took m ∈ (machine w a b).effects s t ∧
        d ∈ b.effects s.far (w.take c m) := by
  have spec := step_spec w a b s t
  rw [Machine.effects] at h ⊢
  generalize (machine w a b).step s t = result at spec h ⊢
  cases spec with
  | near i own => simp [nearStep] at h
  | far k own => exact .inl ⟨k, rfl, own, by simpa [farStep] using h⟩
  | took c m rest waiting ready => exact .inr ⟨c, m, rfl, List.mem_cons_self, by simpa using h⟩
  | heard c n rest waiting => simp at h
  | idle => simp at h

end

/-! ## The channels -/

/-- The command an effect of the pair asks. -/
def asked (w : Wiring ι ε τ κ δ μ ν γ η) (e : DuplexEffect ε δ μ ν) : Option μ :=
  e.toNear.bind w.sends

/-- The event an effect of the pair tells. -/
def told (w : Wiring ι ε τ κ δ μ ν γ η) (e : DuplexEffect ε δ μ ν) : Option ν :=
  e.toFar.bind w.tells

section

variable {w} {a} {b}

@[simp] theorem asked_near (e : ε) : asked w (.near e) = w.sends e := rfl
@[simp] theorem asked_far (d : δ) : asked w (.far d) = none := rfl
@[simp] theorem asked_took (m : μ) : asked w (.took m) = none := rfl
@[simp] theorem asked_heard (n : ν) : asked w (.heard n) = none := rfl
@[simp] theorem told_near (e : ε) : told w (.near e) = none := rfl
@[simp] theorem told_far (d : δ) : told w (.far d) = w.tells d := rfl
@[simp] theorem told_took (m : μ) : told w (.took m) = none := rfl
@[simp] theorem told_heard (n : ν) : told w (.heard n) = none := rfl

/-- The queue of commands: what a turn asks goes to its end, what is taken comes from its front. -/
theorem commands_step (s : Duplex σ τ μ ν) (t : DuplexTurn ι κ γ η) :
    s.commands ++ ((machine w a b).effects s t).filterMap (asked w) =
      ((machine w a b).effects s t).filterMap DuplexEffect.toTook ++
        ((machine w a b).next s t).commands := by
  have spec := step_spec w a b s t
  rw [Machine.effects, Machine.next]
  generalize (machine w a b).step s t = result at spec ⊢
  cases spec with
  | near i own => simp [nearStep, Function.comp_def]
  | far k own => simp [farStep, Function.comp_def]
  | took c m rest waiting ready =>
    simp [farStep, waiting, Function.comp_def, List.filterMap_cons]
  | heard c n rest waiting =>
    simp [nearStep, Function.comp_def, List.filterMap_cons]
  | idle => simp

/-- The queue of events, the same way. -/
theorem events_step (s : Duplex σ τ μ ν) (t : DuplexTurn ι κ γ η) :
    s.events ++ ((machine w a b).effects s t).filterMap (told w) =
      ((machine w a b).effects s t).filterMap DuplexEffect.toHeard ++
        ((machine w a b).next s t).events := by
  have spec := step_spec w a b s t
  rw [Machine.effects, Machine.next]
  generalize (machine w a b).step s t = result at spec ⊢
  cases spec with
  | near i own => simp [nearStep, Function.comp_def]
  | far k own => simp [farStep, Function.comp_def]
  | took c m rest waiting ready =>
    simp [farStep, Function.comp_def, List.filterMap_cons]
  | heard c n rest waiting =>
    simp [nearStep, waiting, Function.comp_def, List.filterMap_cons]
  | idle => simp

/-! ### Answers -/

/-- The far side answers each command that asks for something with as many events, which say what was
asked (`wants`, `gives`), and tells no such event of its own accord. -/
structure Answers {α : Type*} (w : Wiring ι ε τ κ δ μ ν γ η) (b : Machine τ κ δ) (wants : μ → Option α)
    (gives : ν → Option α) : Prop where
  own : ∀ s k, w.ownFar k = true → ((b.effects s k).filterMap w.tells).filterMap gives = []
  taken : ∀ s c m, ((b.effects s (w.take c m)).filterMap w.tells).filterMap gives =
    (wants m).toList

/-- What has been asked and not been answered yet, oldest first: the answers on their way, then the
commands that wait. -/
def unanswered {α : Type*} (wants : μ → Option α) (gives : ν → Option α) (s : Duplex σ τ μ ν) :
    List α :=
  s.events.filterMap gives ++ s.commands.filterMap wants

/-- **Answers in order.** What is answered is the oldest that was asked and not answered. -/
theorem answers_step {α : Type*} {wants : μ → Option α} {gives : ν → Option α}
    (answers : Answers w b wants gives) (s : Duplex σ τ μ ν) (t : DuplexTurn ι κ γ η) :
    unanswered wants gives s ++
        ((machine w a b).effects s t).filterMap (fun e => (asked w e).bind wants) =
      ((machine w a b).effects s t).filterMap (fun e => e.toHeard.bind gives) ++
        unanswered wants gives ((machine w a b).next s t) := by
  have spec := step_spec w a b s t
  rw [Machine.effects, Machine.next]
  generalize (machine w a b).step s t = result at spec ⊢
  cases spec with
  | near i own =>
    simp [nearStep, unanswered, Function.comp_def, List.filterMap_filterMap]
  | far k own =>
    have quiet := answers.own s.far k own
    simp [farStep, unanswered, Function.comp_def, quiet]
  | took c m rest waiting ready =>
    have answer := answers.taken s.far c m
    cases asks : wants m <;>
      simp [farStep, unanswered, waiting, answer, asks, Function.comp_def, List.filterMap_cons]
  | heard c n rest waiting =>
    cases answer : gives n <;>
      simp [nearStep, unanswered, waiting, answer, Function.comp_def, List.filterMap_cons,
        List.filterMap_filterMap]
  | idle => simp

/-- **Commands in order.** Over a run, what waited and what was asked is what was taken, in order,
and what waits now. -/
theorem commands_in_order (s : Duplex σ τ μ ν) (ts : List (DuplexTurn ι κ γ η)) :
    s.commands ++ ((machine w a b).trace s ts).filterMap (asked w) =
      ((machine w a b).trace s ts).filterMap DuplexEffect.toTook ++
        ((machine w a b).run s ts).commands :=
  (machine w a b).run_queues Duplex.commands (asked w) DuplexEffect.toTook commands_step s ts

/-- **Events in order.** -/
theorem events_in_order (s : Duplex σ τ μ ν) (ts : List (DuplexTurn ι κ γ η)) :
    s.events ++ ((machine w a b).trace s ts).filterMap (told w) =
      ((machine w a b).trace s ts).filterMap DuplexEffect.toHeard ++
        ((machine w a b).run s ts).events :=
  (machine w a b).run_queues Duplex.events (told w) DuplexEffect.toHeard events_step s ts

/-- **What the far side makes of its commands.** A view of the far side that only commands change is,
after a run, what the commands taken make of it one by one. -/
theorem far_view {β : Type*} {view : τ → β} {makes : β → μ → β}
    (own : ∀ s k, w.ownFar k = true → view (b.next s k) = view s)
    (taken : ∀ s c m, view (b.next s (w.take c m)) = makes (view s) m) (s : Duplex σ τ μ ν)
    (ts : List (DuplexTurn ι κ γ η)) :
    view ((machine w a b).run s ts).far =
      (((machine w a b).trace s ts).filterMap DuplexEffect.toTook).foldl makes (view s.far) := by
  induction ts generalizing s with
  | nil => rfl
  | cons t ts ih =>
    rw [Machine.run_cons, ih, Machine.trace_cons, List.filterMap_append, List.foldl_append]
    congr 1
    have spec := step_spec w a b s t
    rw [Machine.effects, Machine.next]
    generalize (machine w a b).step s t = result at spec ⊢
    cases spec with
    | near i isOwn => simp [nearStep, Function.comp_def]
    | far k isOwn => simp [farStep, Function.comp_def, own _ _ isOwn]
    | took c m rest waiting ready =>
      simp [farStep, Function.comp_def, taken]
    | heard c n rest waiting => simp [nearStep, Function.comp_def, List.filterMap_cons]
    | idle => simp

/-- The commands that waited are the first that are taken. -/
theorem taken_first {s : Duplex σ τ μ ν} {ts : List (DuplexTurn ι κ γ η)} {waiting : List μ}
    (isFirst : waiting <+: s.commands)
    (count : (((machine w a b).trace s ts).filterMap DuplexEffect.toTook).length = waiting.length) :
    ((machine w a b).trace s ts).filterMap DuplexEffect.toTook = waiting := by
  have order := congrArg (List.take waiting.length)
    (commands_in_order (w := w) (a := a) (b := b) s ts)
  rw [List.take_append_of_le_length isFirst.length_le, List.take_left' count,
    ← List.prefix_iff_eq_take.mp isFirst] at order
  exact order.symm

end

end Duplex
