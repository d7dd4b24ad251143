import AnovaOven.Pico.Sharp

/-!
# Laws of the memory display

**The glass shows what is rendered** (`sharp_shows`): after any calls, whatever transfers failed and whatever these
left, a render whose flush ends has each pixel of the panel as it was drawn, but for the lines that a transfer failed
at and that have been drawn back to what was last sent of them. The driver takes these as sent, and they stay as the
transfer left them.

**VCOM alternates** (`sharp_alternates`): where each transfer of no lines lands, each render whose flush ends has the
panel read one transfer, and no two in a row have the same VCOM.
-/

namespace AnovaOven

open Raster Shadow

namespace Sharp

/-! ## A transfer -/

/-- The lines of a transfer are read as they were packed. -/
theorem readLines_packed (s : Sharp) {lines : List Nat} (within : ∀ line ∈ lines, line < height) {n : Nat}
    (enough : lines.length ≤ n) (glass : Nat → Row) :
    readLines n (lines.flatMap s.packLine ++ [0x00]) glass =
      fun line => if lines.contains line then s.frame line else glass line := by
  induction lines generalizing n glass with
  | nil =>
    cases n with
    | zero => rfl
    | succ n => rfl
  | cons first lines ih =>
    obtain ⟨n, rfl⟩ : ∃ m, n = m + 1 := ⟨n - 1, by simp at enough; omega⟩
    have small : first < 240 := within first List.mem_cons_self
    have number : (BitVec.ofNat 8 (first + 1)).toNat = first + 1 := by
      rw [BitVec.toNat_ofNat]
      omega
    have address : (BitVec.ofNat 8 (first + 1)).reverse ≠ 0 := by
      intro zero
      have zero := congrArg BitVec.toNat (BitVec.reverse_eq_zero_iff.mp zero)
      rw [number] at zero
      exact Nat.succ_ne_zero first zero
    have text : (first :: lines).flatMap s.packLine ++ [0x00] = (BitVec.ofNat 8 (first + 1)).reverse ::
        ((List.ofFn (s.frame first)).map BitVec.reverse ++ 0x00 :: (lines.flatMap s.packLine ++ [0x00])) := by
      simp [packLine]
    have rest : (((List.ofFn (s.frame first)).map BitVec.reverse ++
        0x00 :: (lines.flatMap s.packLine ++ [0x00])).drop (bytesPerLine + 1)) =
        lines.flatMap s.packLine ++ [0x00] := by
      rw [List.drop_append]
      simp
    have bytes : ∀ k : Fin bytesPerLine, (((List.ofFn (s.frame first)).map BitVec.reverse ++
        0x00 :: (lines.flatMap s.packLine ++ [0x00])).getD k 0).reverse = s.frame first k := by
      intro k
      rw [List.getD_eq_getElem?_getD, List.getElem?_append_left (by simp)]
      simp
    rw [text, readLines, if_neg address, rest, ih (fun line item => within line (List.mem_cons_of_mem _ item))
      (Nat.le_of_succ_le_succ enough), BitVec.reverse_reverse_eq, number]
    funext line
    by_cases later : lines.contains line = true
    · rw [if_pos later, if_pos (by simp_all)]
    · by_cases here : line = first
      · subst here
        rw [if_neg later, if_pos rfl, if_pos (by simp)]
        exact funext bytes
      · rw [if_neg later, if_neg (by omega), if_neg (by simp_all)]

theorem length_le_packed (s : Sharp) (lines : List Nat) : lines.length ≤ (lines.flatMap s.packLine).length := by
  induction lines with
  | nil => exact Nat.le_refl 0
  | cons line lines ih =>
    rw [List.flatMap_cons, List.length_append, packLine, List.length_cons, List.length_cons]
    omega

/-- **A transfer that lands** is read as it was packed. -/
theorem receive_packed (s : Sharp) (glass : Nat → Row) : receive glass s.packed =
    (fun line => if s.dirtyLines.contains line then s.frame line else glass line, s.vcom) := by
  have write : (cmdWrite ||| vcomBit s.vcom) &&& cmdWrite ≠ 0 := by cases s.vcom <;> decide
  have bit : decide ((cmdWrite ||| vcomBit s.vcom) &&& cmdVcom ≠ 0) = s.vcom := by cases s.vcom <;> decide
  have within : ∀ line ∈ s.dirtyLines, line < height := fun line item =>
    List.mem_range.mp (List.mem_of_mem_filter item)
  have enough : s.dirtyLines.length ≤ (s.dirtyLines.flatMap s.packLine ++ [0x00]).length := by
    rw [List.length_append]
    exact Nat.le_add_right_of_le (s.length_le_packed s.dirtyLines)
  unfold receive packed
  dsimp only
  rw [BitVec.reverse_reverse_eq, if_pos write, bit, readLines_packed s within enough]

/-- A transfer of no lines has its VCOM. -/
theorem receive_toggle (vcom : Bool) (glass : Nat → Row) :
    receive glass [(vcomBit vcom).reverse, 0x00] = (glass, vcom) := by
  cases vcom <;> rfl

/-! ## A flush -/

theorem mem_dirtyLines (s : Sharp) (line : Nat) :
    s.dirtyLines.contains line = true ↔ line < height ∧ s.dirty line = true := by
  simp [dirtyLines]

/-- No lines to send, where none is dirty. -/
theorem clean_dirtyLines (s : Sharp) (none' : s.dirtyLines.isEmpty = true) :
    ∀ line < height, s.dirty line = false := by
  intro line within
  have out := mt (s.mem_dirtyLines line).mpr
  rw [List.isEmpty_iff.mp none'] at out
  simpa [within] using out

/-- Whether a flush sent any line. -/
def sentAny : Except Unit Bool → Bool
  | .ok any => any
  | .error _ => false

/-- **A flush**, and the VCOM of its transfer where one lands. -/
theorem flush_flushed (outcome : Outcome (Panel Row)) (s : Sharp) (p : Panel Row) :
    ∃ answer after done, s.flush outcome p = (answer, after, done, if sentAny answer then [s.vcom] else []) ∧
      Flushed id height s.toDriver p (ended answer) after.toDriver done ∧
      after.vcom = if sentAny answer then !s.vcom else s.vcom := by
  have begun : Underway id s.toDriver p (fun _ => False) s.toDriver p := Underway.start _ _
  unfold flush
  split
  · rename_i none'
    have clean := s.clean_dirtyLines none'
    have first : ¬ s.dirty 0 = true := by simp [clean 0 (by decide)]
    have partly : s.forceFull = false := (Driver.clean first).1
    have skips := begun.skips (fun line => line < height) clean
    have law := skips.ended height fun line within => .inr within
    have same : ({ s.toDriver with forceFull := false } : Driver Row) = s.toDriver := by rw [← partly]
    rw [same] at law
    exact ⟨_, _, _, rfl, law, rfl⟩
  · cases outcome with
    | landed =>
      have lands := begun.lands (fun line => s.dirtyLines.contains line) (fun line => line < height)
        (fun line within => by rw [s.mem_dirtyLines line]; simp [within])
        (fun line item => ((s.mem_dirtyLines line).mp item).1)
      rw [receive_packed]
      exact ⟨_, _, _, rfl, lands.ended height fun line within => .inr within, rfl⟩
    | failed left => exact ⟨_, _, _, rfl, begun.failed _ _, rfl⟩

/-- A forced flush sends lines. -/
theorem sentAny_forced {outcome : Outcome (Panel Row)} {s : Sharp} {p : Panel Row} {answer : Except Unit Bool}
    {rest : Sharp × Panel Row × List Bool} (forced : s.forceFull = true)
    (flushed : s.flush outcome p = (answer, rest)) : sentAny answer = ended answer := by
  have some' : ¬ s.dirtyLines.isEmpty = true := by
    intro none'
    have clean := s.clean_dirtyLines none' 0 (by decide)
    simp [Driver.dirty, forced] at clean
  unfold flush at flushed
  rw [if_neg some'] at flushed
  cases outcome with
  | landed =>
    cases flushed
    rfl
  | failed left =>
    cases flushed
    rfl

end Sharp

/-- What a call shows once its flush ends: each pixel as it is drawn. A line that a transfer failed at and that isn't
to be sent stays as it is. -/
def SharpShows : SharpScreen × Panel Sharp.Row → SharpInput → Prop
  | (s, p), .configure bus => ∀ any after done bits, s.configure bus p = (.ok any, after, done, bits) →
      ∀ x y, x < Sharp.width → y < Sharp.height → Sharp.layout.get done.glass x y = false
  | (s, p), .render drawn bus => ∀ any after done bits, s.render drawn bus p = (.ok any, after, done, bits) →
      ∀ x y : Nat, x < Sharp.width → y < Sharp.height →
        (¬ Stale ((s.panel.clear false).drawIter drawn).toDriver p y →
          Sharp.layout.get done.glass x y = (Canvas.fill false).draw drawn x y) ∧
        (Stale ((s.panel.clear false).drawIter drawn).toDriver p y → done.glass y = p.glass y)

/-- What the next flush rests on. -/
def SharpCoherent (s : SharpScreen × Panel Sharp.Row) : Prop := Coherent id Sharp.height s.1.panel.toDriver s.2

namespace SharpScreen

variable (s : SharpScreen) (p : Panel Sharp.Row)

/-- A transfer of no lines leaves all but the VCOM. -/
theorem toggle_spec (landed : Bool) (sharp : Sharp) : ∃ after, sharp.toggleVcom landed p =
    (after, p, if landed then [sharp.vcom] else []) ∧ after.toDriver = sharp.toDriver ∧
      after.vcom = !sharp.vcom := by
  unfold Sharp.toggleVcom
  cases landed with
  | true =>
    simp only [if_true, Sharp.receive_toggle]
    exact ⟨_, rfl, rfl, rfl⟩
  | false => exact ⟨_, rfl, rfl, rfl⟩

/-- **A render** is a flush of what is drawn. Where a transfer of no lines lands, the panel reads one transfer. -/
theorem render_flushed (drawn : List Pixel) (bus : SharpBus) :
    ∃ answer after done bits, s.render drawn bus p = (answer, after, done, bits) ∧
      Flushed id Sharp.height ((s.panel.clear false).drawIter drawn).toDriver p (ended answer)
        after.panel.toDriver done ∧
      (bus.toggle = true → bits = (if ended answer then [s.panel.vcom] else []) ∧
        after.panel.vcom = if ended answer then !s.panel.vcom else s.panel.vcom) := by
  obtain ⟨answer, after, done, flushed, law, vcom⟩ :=
    Sharp.flush_flushed bus.lines ((s.panel.clear false).drawIter drawn) p
  unfold render
  rw [flushed]
  match answer with
  | .ok true => exact ⟨_, _, _, _, rfl, law, fun _ => ⟨rfl, vcom⟩⟩
  | .error () => exact ⟨_, _, _, _, rfl, law, fun _ => ⟨rfl, vcom⟩⟩
  | .ok false =>
    obtain ⟨next, toggled, driver, flipped⟩ := toggle_spec done bus.toggle after
    have same : after.vcom = s.panel.vcom := vcom
    simp only [toggled]
    refine ⟨_, _, _, _, rfl, driver ▸ law, fun lands => ⟨?_, ?_⟩⟩
    · rw [lands, same]
      rfl
    · rw [flipped, same]
      rfl

theorem configure_coherent (bus : SharpBus) : SharpCoherent ((s.configure bus p).2.1, (s.configure bus p).2.2.1) := by
  have full : Coherent id Sharp.height s.panel.clearWhite.toDriver p := .inl rfl
  obtain ⟨answer, after, done, flushed, law, _⟩ := Sharp.flush_flushed bus.lines s.panel.clearWhite p
  unfold configure
  rw [flushed]
  exact law.coherent full

theorem render_coherent (drawn : List Pixel) (bus : SharpBus) (before : SharpCoherent (s, p)) :
    SharpCoherent ((s.render drawn bus p).2.1, (s.render drawn bus p).2.2.1) := by
  obtain ⟨answer, after, done, bits, rendered, law, _⟩ := s.render_flushed p drawn bus
  rw [rendered]
  exact law.coherent before

/-- A configuration whose flush ends has the panel white. -/
theorem configure_shows (bus : SharpBus) : SharpShows (s, p) (.configure bus) := by
  intro any after done bits configured x y column row
  have full : Coherent id Sharp.height s.panel.clearWhite.toDriver p := .inl rfl
  have blank : Sharp.layout.Holds s.panel.clearWhite.frame (Canvas.fill false) := Sharp.layout.holds_fill false
  obtain ⟨answer, sharp, d, flushed, law, _⟩ := Sharp.flush_flushed bus.lines s.panel.clearWhite p
  unfold configure at configured
  rw [flushed] at configured
  cases configured
  have shown := law.shows rfl full y row fun stale => by cases stale.2
  exact blank.get_line column row (shown.trans (congrFun law.frame y))

/-- **A render whose flush ends** has each pixel as it is drawn. -/
theorem render_shows (drawn : List Pixel) (bus : SharpBus) (before : SharpCoherent (s, p)) :
    SharpShows (s, p) (.render drawn bus) := by
  intro any after done bits rendered' x y column row
  obtain ⟨answer, o, d, b, rendered, law, _⟩ := s.render_flushed p drawn bus
  rw [rendered] at rendered'
  cases rendered'
  have holds : Sharp.layout.Holds ((s.panel.clear false).drawIter drawn).frame ((Canvas.fill false).draw drawn) :=
    Layout.holds_drawIter (Sharp.layout.holds_fill false) drawn
  refine ⟨fun fresh => ?_, fun stale => law.leaves rfl y stale.2⟩
  have shown := law.shows rfl before y row fresh
  exact holds.get_line column row (shown.trans (congrFun law.frame y))

/-- A configuration's flush sends all lines. -/
theorem configure_vcom (bus : SharpBus) : ∃ answer after done, s.configure bus p =
    (answer, after, done, if ended answer then [s.panel.vcom] else []) ∧
      after.panel.vcom = if ended answer then !s.panel.vcom else s.panel.vcom := by
  obtain ⟨answer, after, done, flushed, _, vcom⟩ := Sharp.flush_flushed bus.lines s.panel.clearWhite p
  have all : Sharp.sentAny answer = ended answer := Sharp.sentAny_forced rfl flushed
  rw [all] at flushed vcom
  unfold configure
  rw [flushed]
  exact ⟨_, _, _, rfl, vcom⟩

end SharpScreen

/-- **The glass shows what is rendered**, after any calls. -/
theorem sharp_shows (boot : Panel Sharp.Row) (inputs : List SharpInput) :
    sharpScreen.Each SharpShows (SharpScreen.new, boot) inputs := by
  have keeps : ∀ s i, SharpCoherent s → True → SharpCoherent (sharpScreen.next s i) := by
    rintro ⟨s, p⟩ i before -
    cases i with
    | configure bus => exact s.configure_coherent p bus
    | render drawn bus => exact s.render_coherent p drawn bus before
  have law : ∀ s i, SharpCoherent s → True → SharpShows s i := by
    rintro ⟨s, p⟩ i before -
    cases i with
    | configure bus => exact s.configure_shows p bus
    | render drawn bus => exact s.render_shows p drawn bus before
  have admitted : sharpScreen.Each (fun _ _ => True) (SharpScreen.new, boot) inputs :=
    Machine.each_iff.mpr fun _ _ _ _ => trivial
  exact Machine.Each.law keeps law (.inl rfl) admitted

/-! ## VCOM -/

/-- What becomes of the transfer of no lines. -/
def SharpInput.toggles : SharpInput → Bool
  | .configure bus | .render _ bus => bus.toggle

/-- The VCOM of a transfer. -/
def SharpEffect.vcom? : SharpEffect → Option Bool
  | .vcom bit => some bit
  | .flushed _ => none

/-- A flush that ends. -/
def SharpEffect.ends : SharpEffect → Bool
  | .flushed answer => ended answer
  | .vcom _ => false

/-- The VCOM of so many transfers. -/
def alternating (n : Nat) : List Bool := (List.range n).map fun k => k % 2 = 1

theorem alternating_succ (n : Nat) : alternating (n + 1) = alternating n ++ [decide (n % 2 = 1)] := by
  unfold alternating
  rw [List.range_succ, List.map_append]
  rfl

/-- What one call says. -/
theorem sharp_step {s : SharpScreen × Panel Sharp.Row} {i : SharpInput} (lands : i.toggles = true) :
    ∃ answer, sharpScreen.effects s i =
        (if ended answer then [s.1.panel.vcom] else []).map .vcom ++ [.flushed answer] ∧
      (sharpScreen.next s i).1.panel.vcom = if ended answer then !s.1.panel.vcom else s.1.panel.vcom := by
  obtain ⟨s, p⟩ := s
  cases i with
  | configure bus =>
    obtain ⟨answer, after, done, configured, vcom⟩ := s.configure_vcom p bus
    refine ⟨answer, ?_⟩
    unfold Machine.effects Machine.next sharpScreen
    simp only [configured]
    exact ⟨trivial, vcom⟩
  | render drawn bus =>
    obtain ⟨answer, after, done, bits, rendered, _, told⟩ := s.render_flushed p drawn bus
    obtain ⟨rfl, vcom⟩ := told lands
    refine ⟨answer, ?_⟩
    unfold Machine.effects Machine.next sharpScreen
    simp only [rendered]
    exact ⟨trivial, vcom⟩

/-- The VCOMs so far, and the next one. -/
def Alternates (s : SharpScreen × Panel Sharp.Row) (said : List SharpEffect) : Prop :=
  said.filterMap SharpEffect.vcom? = alternating (said.countP SharpEffect.ends) ∧
    s.1.panel.vcom = decide (said.countP SharpEffect.ends % 2 = 1)

theorem Alternates.step {s : SharpScreen × Panel Sharp.Row} {said : List SharpEffect} {i : SharpInput}
    (before : Alternates s said) (lands : i.toggles = true) :
    Alternates (sharpScreen.next s i) (said ++ sharpScreen.effects s i) := by
  obtain ⟨answer, effects, vcom⟩ := sharp_step (s := s) lands
  obtain ⟨bits, next⟩ := before
  unfold Alternates
  rw [effects, vcom, List.filterMap_append, List.countP_append, bits]
  cases isEnded : ended answer with
  | true =>
    simp only [if_true, List.map_cons, List.map_nil, List.singleton_append, List.filterMap_cons, SharpEffect.vcom?,
      List.filterMap_nil, List.countP_cons, SharpEffect.ends, isEnded, List.countP_nil]
    refine ⟨?_, ?_⟩
    · rw [next, ← alternating_succ]
      rfl
    · rw [next, ← decide_not]
      exact decide_eq_decide.mpr (by simp; omega)
  | false =>
    simp only [Bool.false_eq_true, if_false, List.map_nil, List.nil_append, List.filterMap_cons, SharpEffect.vcom?,
      List.filterMap_nil, List.append_nil, List.countP_cons, SharpEffect.ends, isEnded, List.countP_nil]
    exact ⟨rfl, next⟩

/-- **VCOM alternates**: the transfers that the panel reads are as many as the flushes that end, and their VCOMs are
off, on, off and so on. -/
theorem sharp_alternates (boot : Panel Sharp.Row) (inputs : List SharpInput)
    (lands : ∀ input ∈ inputs, input.toggles = true) :
    (sharpScreen.trace (SharpScreen.new, boot) inputs).filterMap SharpEffect.vcom? =
      alternating ((sharpScreen.trace (SharpScreen.new, boot) inputs).countP SharpEffect.ends) := by
  have admitted : sharpScreen.Each (fun _ i => i.toggles = true) (SharpScreen.new, boot) inputs := by
    refine Machine.each_iff.mpr fun past i rest split => lands i ?_
    rw [split]
    exact List.mem_append_right past List.mem_cons_self
  have law := Machine.Each.told (I := fun s _ said => Alternates s said) ⟨rfl, rfl⟩
    (fun s past said i before lands => before.step lands) admitted
  exact law.1

namespace Kitchen

/-- All transfers land. -/
def wired : SharpBus := ⟨.landed, true⟩

end Kitchen

/-- A view that is rendered twice. -/
theorem sharp_alternates_still :
    (sharpScreen.trace (SharpScreen.new, ⟨fun _ _ => 0x55, fun _ => false⟩)
        [.configure Kitchen.wired, .render [⟨3, 5, true⟩] Kitchen.wired, .render [⟨3, 5, true⟩] Kitchen.wired]).filterMap
        SharpEffect.vcom? =
      alternating ((sharpScreen.trace (SharpScreen.new, ⟨fun _ _ => 0x55, fun _ => false⟩)
        [.configure Kitchen.wired, .render [⟨3, 5, true⟩] Kitchen.wired, .render [⟨3, 5, true⟩] Kitchen.wired]).countP
        SharpEffect.ends) :=
  sharp_alternates _ _ (by simp [SharpInput.toggles, Kitchen.wired])

end AnovaOven
