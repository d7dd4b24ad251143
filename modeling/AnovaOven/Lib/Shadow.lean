import Mathlib.Data.List.Basic

/-!
# A display that is sent what changed

A driver draws in a frame and keeps a shadow of it: what it last sent of each line. A flush sends the lines that
differ from their shadows, or all of them, and the shadow of a line is updated once a transfer of it has landed. A
transfer that fails may leave the panel's lines in any state; until one of a line lands the line is torn.

**A flush that ends shows the frame** (`Underway.shows`) on each line, but on a torn one that has been drawn back to
its shadow (`Stale`): nothing tells the driver that the panel doesn't hold that, and the line stays as the transfer
that failed left it. A flush that fails keeps what the next one rests on (`Underway.coherent`).
-/

universe u v

namespace Shadow

/-- A driver: what is drawn of each line, what was last sent of it, and whether all are to be sent. -/
structure Driver (α : Type u) where
  frame : Nat → α
  lastSent : Nat → α
  forceFull : Bool

/-- A panel: what it shows of each line, and whether the last transfer of the line failed. -/
structure Panel (γ : Type v) where
  glass : Nat → γ
  torn : Nat → Bool

/-- What becomes of a transfer: it lands, or it fails and leaves the panel so, as far as it is of it. -/
inductive Outcome (β : Type v) where
  | landed
  | failed (left : β)

variable {α : Type u} {γ : Type v}

namespace Driver

/-- Whether a line is to be sent. -/
def dirty [DecidableEq α] (d : Driver α) (line : Nat) : Bool := d.forceFull || d.frame line ≠ d.lastSent line

/-- The shadows of some lines updated. -/
def commit (d : Driver α) (sent : Nat → Bool) : Driver α :=
  { d with lastSent := fun line => if sent line then d.frame line else d.lastSent line }

end Driver

namespace Panel

/-- A transfer of some lines that lands. -/
def lands (p : Panel γ) (sent : Nat → Bool) (image : Nat → γ) : Panel γ where
  glass line := if sent line then image line else p.glass line
  torn line := !sent line && p.torn line

/-- A transfer of some lines that fails. -/
def tears (p : Panel γ) (sent : Nat → Bool) (left : Nat → γ) : Panel γ where
  glass line := if sent line then left line else p.glass line
  torn line := sent line || p.torn line

end Panel

/-- The panel shows the shadow of each line, as an image of it, but of those torn; or all are to be sent. -/
def Coherent (image : α → γ) (lines : Nat) (d : Driver α) (p : Panel γ) : Prop :=
  d.forceFull = true ∨ ∀ line < lines, p.torn line = true ∨ p.glass line = image (d.lastSent line)

/-- A line is shown as it is drawn. -/
def Shown (image : α → γ) (d : Driver α) (p : Panel γ) (line : Nat) : Prop := p.glass line = image (d.frame line)

variable {image : α → γ} {lines : Nat} {d d₀ : Driver α} {p p₀ : Panel γ} {sent : Nat → Bool}

/-- A transfer that fails keeps it so. -/
theorem Coherent.tears (coherent : Coherent image lines d p) (sent : Nat → Bool) (left : Nat → γ) :
    Coherent image lines d (p.tears sent left) := by
  refine coherent.imp_right fun shows line within => ?_
  simp only [Panel.tears]
  cases sent line with
  | true => exact .inl rfl
  | false => exact shows line within

variable [DecidableEq α]

/-- A line that is torn, and drawn as it was last sent: it isn't to be sent. -/
def Stale (d : Driver α) (p : Panel γ) (line : Nat) : Prop := p.torn line = true ∧ d.dirty line = false

/-- A line that isn't dirty is drawn as it was last sent. -/
theorem Driver.clean {line : Nat} (clean : ¬ d.dirty line = true) :
    d.forceFull = false ∧ d.frame line = d.lastSent line := by
  simpa [dirty] using clean

/-- A flush under way: of the lines that are done those that were dirty have been sent, and all else is as it was. -/
structure Underway (image : α → γ) (d₀ : Driver α) (p₀ : Panel γ) (done : Nat → Prop) (d : Driver α)
    (p : Panel γ) : Prop where
  frame : d.frame = d₀.frame
  forceFull : d.forceFull = d₀.forceFull
  sent : ∀ line, done line → d₀.dirty line = true → d.lastSent line = d₀.frame line ∧
    p.glass line = image (d₀.frame line) ∧ p.torn line = false
  kept : ∀ line, ¬ (done line ∧ d₀.dirty line = true) → d.lastSent line = d₀.lastSent line ∧
    p.glass line = p₀.glass line ∧ p.torn line = p₀.torn line

namespace Underway

variable {done : Nat → Prop}

/-- A flush begins. -/
theorem start (d₀ : Driver α) (p₀ : Panel γ) : Underway image d₀ p₀ (fun _ => False) d₀ p₀ where
  frame := rfl
  forceFull := rfl
  sent _ none' := none'.elim
  kept _ _ := ⟨rfl, rfl, rfl⟩

/-- A line that isn't done is as dirty as it was. -/
theorem dirty_eq (under : Underway image d₀ p₀ done d p) {line : Nat} (todo : ¬ done line) :
    d.dirty line = d₀.dirty line := by
  unfold Driver.dirty
  rw [under.frame, under.forceFull, (under.kept line fun both => todo both.1).1]

/-- Lines that aren't dirty are skipped. -/
theorem skips (under : Underway image d₀ p₀ done d p) (more : Nat → Prop)
    (clean : ∀ line, more line → d₀.dirty line = false) :
    Underway image d₀ p₀ (fun line => done line ∨ more line) d p where
  frame := under.frame
  forceFull := under.forceFull
  sent line isDone dirty := by
    rcases isDone with before | now
    · exact under.sent line before dirty
    · exact absurd dirty (by simp [clean line now])
  kept line other := under.kept line fun both => other ⟨.inl both.1, both.2⟩

/-- Lines that are sent. -/
theorem lands (under : Underway image d₀ p₀ done d p) (sent : Nat → Bool) (more : Nat → Prop)
    (all : ∀ line, more line → (sent line = true ↔ d₀.dirty line = true))
    (only : ∀ line, sent line = true → more line) :
    Underway image d₀ p₀ (fun line => done line ∨ more line) (d.commit sent)
      (p.lands sent fun line => image (d.frame line)) where
  frame := under.frame
  forceFull := under.forceFull
  sent line isDone dirty := by
    unfold Driver.commit Panel.lands
    rw [under.frame]
    by_cases now : sent line = true
    · simp [now]
    · have before : done line := isDone.resolve_right fun isMore => now ((all line isMore).mpr dirty)
      simpa [now] using under.sent line before dirty
  kept line other := by
    have notSent : ¬ sent line = true := fun now =>
      other ⟨.inr (only line now), (all line (only line now)).mp now⟩
    unfold Driver.commit Panel.lands
    simpa [notSent] using under.kept line fun both => other ⟨.inl both.1, both.2⟩

/-- **What the next flush rests on** is kept as far as one gets. -/
theorem coherent (under : Underway image d₀ p₀ done d p) (before : Coherent image lines d₀ p₀) :
    Coherent image lines d p := by
  unfold Coherent at before ⊢
  rw [under.forceFull]
  refine before.imp_right fun shows line within => ?_
  by_cases sent : done line ∧ d₀.dirty line = true
  · obtain ⟨shadow, glass, _⟩ := under.sent line sent.1 sent.2
    exact .inr (by rw [glass, shadow])
  · obtain ⟨shadow, glass, torn⟩ := under.kept line sent
    rw [shadow, glass, torn]
    exact shows line within

/-- **A flush that ends shows the frame**, but on a line that is torn and has been drawn back to its shadow. -/
theorem shows (under : Underway image d₀ p₀ done d p) (before : Coherent image lines d₀ p₀) {line : Nat}
    (within : line < lines) (isDone : done line) (fresh : ¬ Stale d₀ p₀ line) : Shown image d p line := by
  unfold Shown
  rw [under.frame]
  by_cases dirty : d₀.dirty line = true
  · exact (under.sent line isDone dirty).2.1
  · obtain ⟨partly, back⟩ := Driver.clean dirty
    have shadows := before.resolve_left (by simp [partly])
    obtain ⟨_, glass, _⟩ := under.kept line fun both => dirty both.2
    rw [glass, back]
    exact (shadows line within).resolve_left fun torn => fresh ⟨torn, by simpa using dirty⟩

/-- A line that isn't dirty is left as it is. -/
theorem leaves (under : Underway image d₀ p₀ done d p) {line : Nat} (clean : d₀.dirty line = false) :
    p.glass line = p₀.glass line :=
  (under.kept line fun both => by simp [clean] at both).2.1

/-- What the next flush rests on, once one ends. -/
theorem ends (under : Underway image d₀ p₀ done d p) (before : Coherent image lines d₀ p₀)
    (all : ∀ line < lines, done line) : Coherent image lines { d with forceFull := false } p := by
  refine .inr fun line within => ?_
  by_cases dirty : d₀.dirty line = true
  · obtain ⟨shadow, glass, _⟩ := under.sent line (all line within) dirty
    exact .inr (by rw [glass, shadow])
  · have shadows := (under.coherent before).resolve_left (by
      rw [under.forceFull]
      simp [(Driver.clean dirty).1])
    exact shadows line within

end Underway

/-- Whether an answer is that a flush ended. -/
def ended {ε β : Type*} : Except ε β → Bool
  | .ok _ => true
  | .error _ => false

/-- What a flush makes of a driver and its panel, and whether it ended. -/
structure Flushed (image : α → γ) (lines : Nat) (d₀ : Driver α) (p₀ : Panel γ) (ends : Bool) (d : Driver α)
    (p : Panel γ) : Prop where
  frame : d.frame = d₀.frame
  coherent : Coherent image lines d₀ p₀ → Coherent image lines d p
  shows : ends = true → Coherent image lines d₀ p₀ → ∀ line < lines, ¬ Stale d₀ p₀ line → Shown image d p line
  leaves : ends = true → ∀ line, d₀.dirty line = false → p.glass line = p₀.glass line

/-- **A flush that ends**, all lines done. -/
theorem Underway.ended {done : Nat → Prop} (under : Underway image d₀ p₀ done d p) (lines : Nat)
    (all : ∀ line < lines, done line) : Flushed image lines d₀ p₀ true { d with forceFull := false } p where
  frame := under.frame
  coherent before := under.ends before all
  shows _ before _ within := under.shows before within (all _ within)
  leaves _ _ clean := under.leaves clean

/-- **A flush that fails** at a transfer. -/
theorem Underway.failed {done : Nat → Prop} (under : Underway image d₀ p₀ done d p) (sent : Nat → Bool)
    (left : Nat → γ) : Flushed image lines d₀ p₀ false d (p.tears sent left) where
  frame := under.frame
  coherent before := (under.coherent before).tears sent left
  shows ended := by cases ended
  leaves ended := by cases ended

end Shadow
