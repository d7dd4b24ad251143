import AnovaOven.Pico.Oled

/-!
# Laws of the OLED

**The glass shows what is rendered** (`oled_shows`): after any calls, whatever transfers failed and whatever these
left, a render whose flush ends has each pixel of the panel as it was drawn, but for the pages that a transfer failed
at and that have been drawn back to what was last sent of them. The driver takes these as sent, and they stay as the
transfer left them.
-/

namespace AnovaOven

open Raster Shadow

namespace Oled

/-! ## A page's transfer -/

theorem data_registers (g : Gddram) (bytes : List (BitVec 8)) : (g.data bytes).torn = g.torn ∧
    (g.data bytes).contrast = g.contrast ∧ (g.data bytes).on = g.on := by
  induction bytes generalizing g with
  | nil => exact ⟨rfl, rfl, rfl⟩
  | cons byte bytes ih => exact ih _

/-- Data fills its page from the column on. -/
theorem data_glass (g : Gddram) (bytes : List (BitVec 8)) (page : Nat) (k : Fin pageLen) :
    (g.data bytes).glass page k =
      if page = g.page ∧ g.column ≤ k then (bytes[k - g.column]?).getD (g.glass page k) else g.glass page k := by
  induction bytes generalizing g with
  | nil => simp [Gddram.data]
  | cons byte bytes ih =>
    have next := ih { g with
      glass := fun page k => if page = g.page ∧ k = g.column then byte else g.glass page k
      column := g.column + 1 }
    refine next.trans ?_
    dsimp only
    by_cases here : page = g.page
    · rcases Nat.lt_trichotomy k g.column with before | at' | after
      · rw [if_neg (by omega), if_neg (by omega), if_neg (by omega)]
      · rw [if_neg (by omega), if_pos ⟨here, at'⟩, if_pos (by omega), at', Nat.sub_self]
        rfl
      · have past : (k : Nat) - g.column = (k - (g.column + 1)) + 1 := by omega
        rw [if_pos (by omega), if_neg (by omega), if_pos (by omega), past, List.getElem?_cons_succ]
    · rw [if_neg (by omega), if_neg (by omega), if_neg (by omega)]

theorem command_high (g : Gddram) : g.command 0x10 = { g with column := g.column % 16 } := by
  unfold Gddram.command
  rw [if_neg (by decide), if_pos (by decide)]
  rfl

theorem command_low (g : Gddram) : g.command 0x00 = { g with column := g.column / 16 * 16 } := by
  unfold Gddram.command
  rw [if_neg (by decide), if_neg (by decide), if_pos (by decide)]
  rfl

/-- The commands of a page point to its start. -/
theorem commands_page (g : Gddram) {page : Nat} (within : page < pages) :
    g.commands [cmdSetPageStart ||| BitVec.ofNat 8 page, 0x10, 0x00] = { g with page := page, column := 0 } := by
  have bits : ∀ page < pages, (cmdSetPageStart ||| BitVec.ofNat 8 page) &&& 0xF8 = cmdSetPageStart ∧
      ((cmdSetPageStart ||| BitVec.ofNat 8 page) &&& 0x07).toNat = page ∧
      cmdSetPageStart ||| BitVec.ofNat 8 page ≠ cmdSetContrast := by decide
  obtain ⟨select, number, notContrast⟩ := bits page within
  have first : g.command (cmdSetPageStart ||| BitVec.ofNat 8 page) = { g with page := page } := by
    unfold Gddram.command
    rw [if_pos select, number]
  have low : (0x10 : BitVec 8) ≠ cmdSetContrast := by decide
  rw [Gddram.commands, if_neg notContrast, first, Gddram.commands, if_neg low, command_high, Gddram.commands,
    command_low]
  have start : g.column % 16 / 16 * 16 = 0 := by omega
  simp only [start]

/-- **A page's transfer that lands** has the page's bytes in the memory, and no others. -/
theorem writePage_landed (o : Oled) {page : Nat} (within : page < pages) (g : Gddram) :
    ∃ after, writePage o page .landed g = (.ok (), after) ∧
      after.toPanel = g.toPanel.lands (fun p => p == page) o.frame ∧
      after.contrast = g.contrast ∧ after.on = g.on := by
  obtain ⟨torn, contrast, on⟩ := data_registers { g with page := page, column := 0 } (List.ofFn (o.frame page))
  have glass : (({ g with page := page, column := 0 } : Gddram).data (List.ofFn (o.frame page))).glass =
      fun p => if p == page then o.frame p else g.glass p := by
    funext p k
    rw [data_glass]
    by_cases here : p = page
    · subst here
      simp
    · simp [here]
  refine ⟨_, rfl, ?_, ?_, ?_⟩
  · rw [commands_page g within]
    unfold Panel.lands
    rw [← glass, torn]
  · rw [commands_page g within, contrast]
  · rw [commands_page g within, on]

/-! ## A flush -/

/-- A flush from a page on, of all that are left. -/
theorem flushFrom_flushed (bus : Nat → Outcome Gddram) {o₀ o : Oled} {g₀ g : Gddram} {n page : Nat} (any : Bool)
    (left : page + n = pages) (under : Underway id o₀ g₀.toPanel (fun p => p < page) o g.toPanel) :
    ∃ answer after done, flushFrom bus n page any o g = (answer, after, done) ∧
      Flushed id pages o₀ g₀.toPanel (ended answer) after done.toPanel ∧
      done.contrast = g.contrast ∧ done.on = g.on := by
  induction n generalizing page any o g with
  | zero => exact ⟨_, _, _, rfl, under.ended pages fun p within => by omega, rfl, rfl⟩
  | succ n ih =>
    rw [flushFrom]
    have next : (fun p => p < page ∨ p = page) = fun p => p < page + 1 := by
      funext p
      exact propext (by omega)
    split
    · rename_i dirty
      cases sent : bus page with
      | landed =>
        have within : page < pages := by omega
        obtain ⟨after, written, panel, contrast, on⟩ := writePage_landed o within g
        rw [written]
        have lands := under.lands (fun p => p == page) (fun p => p = page)
          (fun p is => by
            subst is
            rw [← under.dirty_eq (Nat.lt_irrefl p), dirty]
            simp)
          (fun p is => by simpa using is)
        rw [next] at lands
        obtain ⟨answer, o', g', flushed, law, contrast', on'⟩ := ih true (by omega) (panel ▸ lands)
        exact ⟨answer, o', g', flushed, law, contrast'.trans contrast, on'.trans on⟩
      | failed left =>
        exact ⟨_, _, _, rfl, under.failed _ _, rfl, rfl⟩
    · rename_i clean
      have skips := under.skips (fun p => p = page) fun p is => by
        subst is
        rw [← under.dirty_eq (Nat.lt_irrefl p)]
        simpa using clean
      rw [next] at skips
      exact ih any (by omega) skips

/-- **A flush.** -/
theorem flush_flushed (bus : Nat → Outcome Gddram) (o : Oled) (g : Gddram) :
    ∃ answer after done, flush bus o g = (answer, after, done) ∧
      Flushed id pages o g.toPanel (ended answer) after done.toPanel ∧
      done.contrast = g.contrast ∧ done.on = g.on := by
  refine flushFrom_flushed bus false (by omega) ?_
  have none' : (fun _ => False) = fun p => p < 0 := by
    funext p
    exact (eq_false (Nat.not_lt_zero p)).symm
  exact none' ▸ Underway.start o g.toPanel

end Oled

/-! ## The screen -/

/-- Commands leave the memory. -/
theorem Oled.command_panel (g : Oled.Gddram) (c : BitVec 8) : (g.command c).toPanel = g.toPanel := by
  unfold Oled.Gddram.command
  repeat' split
  all_goals rfl

theorem Oled.commands_panel (g : Oled.Gddram) (bytes : List (BitVec 8)) : (g.commands bytes).toPanel = g.toPanel := by
  fun_induction Oled.Gddram.commands g bytes with
  | case1 g => rfl
  | case2 g c => exact Oled.command_panel g c
  | case3 g value rest ih => exact ih
  | case4 g c value rest other ih => exact ih.trans (Oled.command_panel g c)

theorem Oled.sendCommands_panel (bytes : List (BitVec 8)) (outcome : Outcome Oled.Gddram) (g : Oled.Gddram) :
    (Oled.sendCommands bytes outcome g).2.toPanel = g.toPanel := by
  cases outcome with
  | landed => exact Oled.commands_panel g bytes
  | failed left => rfl

/-- What a call to render or to configure shows once its flush ends: each pixel as it is drawn. A page that a
transfer failed at and that isn't to be sent stays as it is. -/
def OledShows (variant : Variant) : OledScreen × Oled.Gddram → OledInput → Prop
  | (s, g), .configure bus => ∀ any after done, s.configure variant bus g = (.ok any, after, done) →
      ∀ x y, x < Oled.width → y < Oled.height → Oled.layout.get done.glass x y = false
  | (s, g), .render now drawn bus => ∀ any after done, s.render now drawn bus g = (.ok any, after, done) →
      ∀ x y : Nat, x < Oled.width → y < Oled.height →
        (¬ Stale ((s.panel.clear false).drawIter drawn) g.toPanel (y / 8) →
          Oled.layout.get done.glass x y = (Canvas.fill false).draw drawn x y) ∧
        (Stale ((s.panel.clear false).drawIter drawn) g.toPanel (y / 8) →
          done.glass (y / 8) = g.glass (y / 8))
  | _, .setBacklight .. => True

/-- What the next flush rests on. -/
def OledCoherent (s : OledScreen × Oled.Gddram) : Prop := Coherent id Oled.pages s.1.panel s.2.toPanel

namespace OledScreen

variable (variant : Variant) (s : OledScreen) (g : Oled.Gddram)

theorem configure_coherent (bus : OledBus) (before : OledCoherent (s, g)) :
    OledCoherent (s.configure variant bus g).2 := by
  have full : Coherent id Oled.pages s.panel.clearFrame g.toPanel := .inl rfl
  unfold configure
  cases bus.first with
  | failed left => exact before
  | landed =>
    obtain ⟨answer, after, done, flushed, law, _, _⟩ := Oled.flush_flushed bus.pages s.panel.clearFrame
      { g with contrast := variant.normalContrast, on := false }
    simp only [flushed]
    have coherent := law.coherent full
    cases answer with
    | error e => exact coherent
    | ok any =>
      show Coherent id Oled.pages after (Oled.sendCommands [Oled.cmdDisplayOn] bus.second done).2.toPanel
      rw [Oled.sendCommands_panel]
      exact coherent

/-- **A render** is a flush of what is drawn. -/
theorem render_flushed (now : Nat) (drawn : List Pixel) (bus : OledBus) :
    ∃ answer after done off, s.render now drawn bus g = (answer, { s with panel := after, panelOff := off }, done) ∧
      Flushed id Oled.pages ((s.panel.clear false).drawIter drawn) g.toPanel (ended answer) after done.toPanel := by
  unfold render
  generalize (!s.panelOff && s.dimSince.any fun since => decide (now - since ≥ offAfterDim)) = dark
  have panel : (if dark = true then (Oled.sendCommands [Oled.cmdDisplayOff] bus.first g).2 else g).toPanel =
      g.toPanel := by
    split
    · exact Oled.sendCommands_panel _ _ _
    · rfl
  obtain ⟨answer, after, done, flushed, law, _⟩ := Oled.flush_flushed bus.pages ((s.panel.clear false).drawIter drawn)
    (if dark = true then (Oled.sendCommands [Oled.cmdDisplayOff] bus.first g).2 else g)
  rw [panel] at law
  exact ⟨answer, after, done, s.panelOff || dark, by simp only [flushed], law⟩

theorem render_coherent (now : Nat) (drawn : List Pixel) (bus : OledBus) (before : OledCoherent (s, g)) :
    OledCoherent (s.render now drawn bus g).2 := by
  obtain ⟨answer, after, done, off, rendered, law⟩ := s.render_flushed g now drawn bus
  rw [rendered]
  exact law.coherent before

theorem setBacklight_coherent (policy : BacklightPolicy) (now : Nat) (bus : OledBus)
    (before : OledCoherent (s, g)) : OledCoherent (s.setBacklight variant policy now bus g) := by
  unfold OledCoherent at *
  have panel : (s.setBacklight variant policy now bus g).2.toPanel = g.toPanel ∧
      (s.setBacklight variant policy now bus g).1.panel = s.panel := by
    unfold setBacklight
    cases policy with
    | dim => exact ⟨Oled.sendCommands_panel _ _ _, rfl⟩
    | full | fullThenDimAfter delay =>
      refine ⟨(Oled.sendCommands_panel _ _ _).trans ?_, rfl⟩
      split
      · exact Oled.sendCommands_panel _ _ _
      · rfl
  rw [panel.1, panel.2]
  exact before

/-- A configuration whose flush ends has the panel dark. -/
theorem configure_shows (bus : OledBus) : OledShows variant (s, g) (.configure bus) := by
  intro any after done configured x y column row
  have full : Coherent id Oled.pages s.panel.clearFrame g.toPanel := .inl rfl
  have blank : Oled.layout.Holds (fun _ _ => 0x00) (Canvas.fill false) := Oled.layout.holds_fill false
  unfold configure at configured
  cases sent : bus.first with
  | failed left =>
    rw [sent] at configured
    cases configured
  | landed =>
    rw [sent] at configured
    obtain ⟨answer, o, d, flushed, law, _, _⟩ := Oled.flush_flushed bus.pages s.panel.clearFrame
      { g with contrast := variant.normalContrast, on := false }
    simp only [flushed] at configured
    cases answer with
    | error e => cases configured
    | ok any' =>
      cases configured
      have within : y / 8 < Oled.pages := by unfold Oled.height at row; unfold Oled.pages Oled.height; omega
      have shown := law.shows rfl full (y / 8) within fun stale => by cases stale.2
      refine blank.get_line column row ?_
      rw [Oled.sendCommands_panel]
      exact shown.trans (congrFun law.frame (y / 8))

/-- **A render whose flush ends** has each pixel as it is drawn. -/
theorem render_shows (now : Nat) (drawn : List Pixel) (bus : OledBus) (before : OledCoherent (s, g)) :
    OledShows variant (s, g) (.render now drawn bus) := by
  intro any after done rendered' x y column row
  obtain ⟨answer, o, d, off, rendered, law⟩ := s.render_flushed g now drawn bus
  rw [rendered] at rendered'
  cases rendered'
  have holds : Oled.layout.Holds ((s.panel.clear false).drawIter drawn).frame ((Canvas.fill false).draw drawn) :=
    Layout.holds_drawIter (Oled.layout.holds_fill false) drawn
  have within : y / 8 < Oled.pages := by unfold Oled.height at row; unfold Oled.pages Oled.height; omega
  refine ⟨fun fresh => ?_, fun stale => law.leaves rfl (y / 8) stale.2⟩
  have shown := law.shows rfl before (y / 8) within fresh
  exact holds.get_line column row (shown.trans (congrFun law.frame (y / 8)))

end OledScreen

/-- **The glass shows what is rendered**, after any calls. -/
theorem oled_shows (variant : Variant) (boot : Oled.Gddram) (inputs : List OledInput) :
    (oledScreen variant).Each (OledShows variant) (OledScreen.new, boot) inputs := by
  have keeps : ∀ s i, OledCoherent s → True → OledCoherent ((oledScreen variant).next s i) := by
    rintro ⟨s, g⟩ i before -
    cases i with
    | configure bus => exact s.configure_coherent variant g bus before
    | render now drawn bus => exact s.render_coherent g now drawn bus before
    | setBacklight policy now bus => exact s.setBacklight_coherent variant g policy now bus before
  have law : ∀ s i, OledCoherent s → True → OledShows variant s i := by
    rintro ⟨s, g⟩ i before -
    cases i with
    | configure bus => exact s.configure_shows variant g bus
    | render now drawn bus => exact s.render_shows variant g now drawn bus before
    | setBacklight policy now bus => trivial
  have admitted : (oledScreen variant).Each (fun _ _ => True) (OledScreen.new, boot) inputs :=
    Machine.each_iff.mpr fun _ _ _ _ => trivial
  exact Machine.Each.law keeps law (.inl rfl) admitted

end AnovaOven
