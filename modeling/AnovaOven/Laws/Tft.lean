import AnovaOven.Pico.Tft

/-!
# Laws of the TFT

**The glass shows what is rendered** (`tft_shows`): after any calls, whatever transfers failed and whatever these
left, a render whose flush ends has each pixel of the panel in the colours of the view's palette, as it was drawn,
but for the rows that a transfer failed at and that have been drawn back, in the same palette, to what was last sent
of them. The driver takes these as sent, and they stay as the transfer left them.
-/

namespace AnovaOven

open Raster Shadow

namespace Tft

/-! ## A run's transfer -/

theorem word_bytes (n : BitVec 16) : word (n.extractLsb' 8 8) (n.setWidth 8) = n := by
  unfold word
  ext i h
  rw [BitVec.getElem_append]
  split
  · rw [BitVec.getElem_setWidth, BitVec.getLsbD_eq_getElem h]
  · rename_i high
    rw [BitVec.getElem_extractLsb', Nat.add_sub_cancel' (by omega), BitVec.getLsbD_eq_getElem h]

theorem length_rowBytes (t : Tft) (y : Nat) : (t.rowBytes y).length = width * 2 := by
  have even : ∀ c ∈ List.ofFn (expand t.palette (t.frame y)), (bytesOf c).length = 2 := fun _ _ => rfl
  rw [rowBytes, length_flatMap_even even, List.length_ofFn]

/-- A pixel's two bytes in its row. -/
theorem rowBytes_pixel (t : Tft) (y : Nat) (x : Fin width) :
    (t.rowBytes y)[(x : Nat) * 2]? = some ((expand t.palette (t.frame y) x).extractLsb' 8 8) ∧
      (t.rowBytes y)[(x : Nat) * 2 + 1]? = some ((expand t.palette (t.frame y) x).setWidth 8) := by
  have even : ∀ c ∈ List.ofFn (expand t.palette (t.frame y)), (bytesOf c).length = 2 := fun _ _ => rfl
  have hi := getElem?_flatMap_even even x (j := 0) (by omega)
  have lo := getElem?_flatMap_even even x (j := 1) (by omega)
  have pixel : (List.ofFn (expand t.palette (t.frame y)))[(x : Nat)]? = some (expand t.palette (t.frame y) x) := by
    simp
  rw [pixel] at hi lo
  exact ⟨hi, lo⟩

/-- A pixel's two bytes in its run of rows. -/
theorem run_pixel (t : Tft) {y0 y1 y : Nat} (from' : y0 ≤ y) (to' : y < y1) (x : Fin width) :
    let data := (List.range' y0 (y1 - y0)).flatMap t.rowBytes
    let k := (y - y0) * width + x
    2 * k + 1 < data.length ∧
      word (data.getD (2 * k) 0) (data.getD (2 * k + 1) 0) = expand t.palette (t.frame y) x := by
  intro data k
  have even : ∀ row ∈ List.range' y0 (y1 - y0), (t.rowBytes row).length = width * 2 :=
    fun row _ => t.length_rowBytes row
  have place : 2 * k = (y - y0) * (width * 2) + x * 2 := by
    show 2 * ((y - y0) * width + x) = _
    rw [Nat.mul_add, ← Nat.mul_assoc, Nat.mul_comm 2, Nat.mul_assoc, Nat.mul_comm 2, Nat.mul_comm 2]
  have row : (List.range' y0 (y1 - y0))[y - y0]? = some y := by
    rw [List.getElem?_range' (by omega), Nat.one_mul, Nat.add_sub_cancel' from']
  have inside := x.isLt
  have hi : data[2 * k]? = some ((expand t.palette (t.frame y) x).extractLsb' 8 8) := by
    rw [place, getElem?_flatMap_even even _ (by omega), row]
    exact (t.rowBytes_pixel y x).1
  have lo : data[2 * k + 1]? = some ((expand t.palette (t.frame y) x).setWidth 8) := by
    rw [place, Nat.add_assoc, getElem?_flatMap_even even _ (by omega), row]
    exact (t.rowBytes_pixel y x).2
  refine ⟨(List.getElem?_eq_some_iff.mp lo).1, ?_⟩
  rw [List.getD_eq_getElem?_getD, List.getD_eq_getElem?_getD, hi, lo]
  exact word_bytes _

/-- The commands of a run set the window to its rows. -/
theorem command_window (g : Gram) {y0 y1 : Nat} (some' : y0 < y1) (within : y1 ≤ height) :
    (g.command cmdCaset (0 :: 0 :: bytesOf (BitVec.ofNat 16 width - 1))).command cmdRaset
      (bytesOf (BitVec.ofNat 16 y0) ++ bytesOf (BitVec.ofNat 16 y1 - 1)) =
      { g with columns := (0, width - 1), rows := (y0, y1 - 1) } := by
  have small : y1 ≤ 240 := within
  have first : (BitVec.ofNat 16 y0).toNat = y0 := by
    rw [BitVec.toNat_ofNat]
    omega
  have last : (BitVec.ofNat 16 y1 - 1).toNat = y1 - 1 := by
    rw [BitVec.toNat_sub, BitVec.toNat_ofNat]
    show (2 ^ 16 - 1 + y1 % 2 ^ 16) % 2 ^ 16 = y1 - 1
    omega
  have other : cmdRaset ≠ cmdCaset := by decide
  have columns : g.command cmdCaset (0 :: 0 :: bytesOf (BitVec.ofNat 16 width - 1)) =
      { g with columns := (0, width - 1) } := rfl
  have rows : Gram.command { g with columns := (0, width - 1) } cmdRaset
      (bytesOf (BitVec.ofNat 16 y0) ++ bytesOf (BitVec.ofNat 16 y1 - 1)) =
      { g with
        columns := (0, width - 1)
        rows := ((word ((BitVec.ofNat 16 y0).extractLsb' 8 8) ((BitVec.ofNat 16 y0).setWidth 8)).toNat,
          (word ((BitVec.ofNat 16 y1 - 1).extractLsb' 8 8) ((BitVec.ofNat 16 y1 - 1).setWidth 8)).toNat) } := rfl
  rw [columns, rows, word_bytes, word_bytes, first, last]

/-- **A run's transfer that lands** has the rows' pixels in the memory, and no others. -/
theorem writeRows_landed (t : Tft) {y0 y1 : Nat} (some' : y0 < y1) (within : y1 ≤ height) (g : Gram) :
    ∃ after, writeRows t y0 y1 .landed g = (.ok (), after) ∧
      after.toPanel = g.toPanel.lands (inRun y0 y1) fun y => expand t.palette (t.frame y) := by
  have glass : (Gram.ramwr { g with columns := (0, width - 1), rows := (y0, y1 - 1) }
      ((List.range' y0 (y1 - y0)).flatMap t.rowBytes)).glass =
      fun y => if inRun y0 y1 y then expand t.palette (t.frame y) else g.glass y := by
    funext y x
    have inside : (x : Nat) < 320 := x.isLt
    by_cases run : y0 ≤ y ∧ y < y1
    · have inRun' : inRun y0 y1 y = true := by simp [inRun, run]
      obtain ⟨long, pixel⟩ := t.run_pixel run.1 run.2 x
      rw [inRun', if_pos rfl, ← pixel]
      exact if_pos ⟨run.1, Nat.le_sub_one_of_lt run.2, Nat.zero_le _, Nat.le_sub_one_of_lt inside, long⟩
    · have outside : inRun y0 y1 y = false := by simpa [inRun] using run
      rw [outside]
      refine if_neg fun window => run ⟨window.1, ?_⟩
      have last : y ≤ y1 - 1 := window.2.1
      omega
  refine ⟨_, rfl, ?_⟩
  rw [command_window g some' within]
  unfold Panel.lands
  rw [← glass]
  rfl

/-! ## A flush -/

theorem runEnd_le (t : Tft) (n y : Nat) : runEnd t n y ≤ y + n := by
  induction n generalizing y with
  | zero => exact Nat.le_refl y
  | succ n ih =>
    rw [runEnd]
    split
    · have := ih (y + 1)
      omega
    · omega

/-- All rows of a run are to be sent. -/
theorem dirty_runEnd {t : Tft} {n y row : Nat} (from' : y ≤ row) (to' : row < runEnd t n y) :
    t.dirty row = true := by
  induction n generalizing y with
  | zero => exact absurd to' (Nat.not_lt.mpr from')
  | succ n ih =>
    rw [runEnd] at to'
    split at to'
    · rename_i dirty
      rcases Nat.eq_or_lt_of_le from' with rfl | later
      · exact dirty
      · exact ih later to'
    · exact absurd to' (Nat.not_lt.mpr from')

/-- A flush from a row on. -/
theorem flushFrom_flushed (bus : Nat → Outcome Gram) {palette : Palette} {d₀ : Driver Row} {p₀ : Panel Pixels}
    {y : Nat} (any : Bool) {t : Tft} {g : Gram} (colours : t.palette = palette)
    (under : Underway (expand palette) d₀ p₀ (fun row => row < y) t.toDriver g.toPanel) :
    ∃ answer after done, flushFrom bus y any t g = (answer, after, done) ∧ after.palette = palette ∧
      Flushed (expand palette) height d₀ p₀ (ended answer) after.toDriver done.toPanel := by
  induction left : height - y using Nat.strong_induction_on generalizing y any t g with
  | _ n ih =>
    rw [flushFrom]
    split
    · rename_i within
      split
      · rename_i dirty
        have forward := lt_runEnd dirty within
        have bound := runEnd_le t (height - y) y
        dsimp only
        cases sent : bus y with
        | landed =>
          obtain ⟨after, written, panel⟩ := writeRows_landed t forward (by omega) g
          rw [written]
          have lands := under.lands (inRun y (runEnd t (height - y) y))
            (fun row => y ≤ row ∧ row < runEnd t (height - y) y)
            (fun row is => by
              rw [← under.dirty_eq (Nat.not_lt.mpr is.1), dirty_runEnd is.1 is.2]
              simp [inRun, is])
            (fun row is => by simpa [inRun] using is)
          have next : (fun row => row < y ∨ y ≤ row ∧ row < runEnd t (height - y) y) =
              fun row => row < runEnd t (height - y) y := by
            funext row
            exact propext (by omega)
          rw [next] at lands
          have image : (fun row => expand palette (t.toDriver.frame row)) =
              fun row => expand t.palette (t.frame row) := by rw [colours]
          rw [image, ← panel] at lands
          exact ih (height - runEnd t (height - y) y) (by omega) true colours lands rfl
        | failed left =>
          exact ⟨_, _, _, rfl, colours, under.failed _ _⟩
      · rename_i clean
        have skips := under.skips (fun row => row = y) fun row is => by
          subst is
          rw [← under.dirty_eq (Nat.lt_irrefl row)]
          simpa using clean
        have next : (fun row => row < y ∨ row = y) = fun row => row < y + 1 := by
          funext row
          exact propext (by omega)
        rw [next] at skips
        exact ih (height - (y + 1)) (by omega) any colours skips rfl
    · exact ⟨_, _, _, rfl, colours, under.ended height fun row within => by omega⟩

/-- **A flush.** -/
theorem flush_flushed (bus : Nat → Outcome Gram) (t : Tft) (g : Gram) :
    ∃ answer after done, flush bus t g = (answer, after, done) ∧ after.palette = t.palette ∧
      Flushed (expand t.palette) height t.toDriver g.toPanel (ended answer) after.toDriver done.toPanel := by
  refine flushFrom_flushed bus false rfl ?_
  have none' : (fun _ => False) = fun row => row < 0 := by
    funext row
    exact (eq_false (Nat.not_lt_zero row)).symm
  exact none' ▸ Underway.start t.toDriver g.toPanel

/-- Another palette has all rows sent. -/
theorem setPalette_coherent {t : Tft} {p : Panel Pixels} (palette : Palette)
    (before : Coherent (expand t.palette) height t.toDriver p) :
    Coherent (expand palette) height (t.setPalette palette).toDriver p ∧ (t.setPalette palette).palette = palette := by
  unfold setPalette
  split
  · exact ⟨.inl rfl, rfl⟩
  · rename_i same
    have same := not_not.mp same
    exact ⟨same ▸ before, same.symm⟩

/-- A row that is shown has its pixels in the palette's colours. -/
theorem expand_get {frame : layout.Frame} {canvas : Canvas} (holds : layout.Holds frame canvas) (palette : Palette)
    {y : Nat} (row : y < height) (x : Fin width) :
    expand palette (frame y) x = if canvas x y then palette.ink else palette.paper := by
  rw [← holds x y x.isLt row]
  have set : layout.get frame x y = layout.isSet frame x y := Bool.decide_coe _
  rw [set]
  exact if_congr decide_eq_true_iff.symm rfl rfl

end Tft

/-- What a call shows once its flush ends: each pixel in the colour it is drawn in. A row that a transfer failed at
and that isn't to be sent stays as it is. -/
def TftShows : TftScreen × Tft.Gram → TftInput → Prop
  | (s, g), .configure bus => ∀ any after done, s.configure bus g = (.ok any, after, done) →
      ∀ y < Tft.height, ∀ x : Fin Tft.width, done.glass y x = s.panel.palette.paper
  | (s, g), .render view drawn bus => ∀ any after done, s.render view drawn bus g = (.ok any, after, done) →
      ∀ y < Tft.height, ∀ x : Fin Tft.width,
        (¬ Stale (((s.panel.setPalette (Tft.paletteFor view)).clear false).drawIter drawn).toDriver g.toPanel y →
          done.glass y x = if (Canvas.fill false).draw drawn x y then (Tft.paletteFor view).ink
            else (Tft.paletteFor view).paper) ∧
        (Stale (((s.panel.setPalette (Tft.paletteFor view)).clear false).drawIter drawn).toDriver g.toPanel y →
          done.glass y = g.glass y)

/-- What the next flush rests on. -/
def TftCoherent (s : TftScreen × Tft.Gram) : Prop :=
  Coherent (Tft.expand s.1.panel.palette) Tft.height s.1.panel.toDriver s.2.toPanel

namespace TftScreen

variable (s : TftScreen) (g : Tft.Gram)

theorem configure_coherent (bus : TftBus) (before : TftCoherent (s, g)) : TftCoherent (s.configure bus g).2 := by
  have full : Coherent (Tft.expand s.panel.palette) Tft.height s.panel.clearFrame.toDriver g.toPanel := .inl rfl
  unfold configure
  cases bus.first with
  | failed left => exact before
  | landed =>
    obtain ⟨answer, after, done, flushed, colours, law⟩ := Tft.flush_flushed bus.rows s.panel.clearFrame g
    simp only [flushed]
    unfold TftCoherent
    rw [colours]
    exact law.coherent full

theorem render_coherent (view : ViewSpec) (drawn : List Pixel) (bus : TftBus) (before : TftCoherent (s, g)) :
    TftCoherent (s.render view drawn bus g).2 := by
  obtain ⟨coherent, palette⟩ := Tft.setPalette_coherent (Tft.paletteFor view) before
  obtain ⟨answer, after, done, flushed, colours, law⟩ := Tft.flush_flushed bus.rows
    (((s.panel.setPalette (Tft.paletteFor view)).clear false).drawIter drawn) g
  have colours : after.palette = Tft.paletteFor view := colours.trans palette
  have same : (((s.panel.setPalette (Tft.paletteFor view)).clear false).drawIter drawn).palette =
      Tft.paletteFor view := palette
  unfold render
  simp only [flushed]
  unfold TftCoherent
  rw [colours]
  rw [same] at law
  exact law.coherent coherent

/-- A configuration whose flush ends has the panel painted. -/
theorem configure_shows (bus : TftBus) : TftShows (s, g) (.configure bus) := by
  intro any after done configured y row x
  have full : Coherent (Tft.expand s.panel.palette) Tft.height s.panel.clearFrame.toDriver g.toPanel := .inl rfl
  have blank : Tft.layout.Holds s.panel.clearFrame.frame (Canvas.fill false) := Tft.layout.holds_fill false
  unfold configure at configured
  cases sent : bus.first with
  | failed left =>
    rw [sent] at configured
    cases configured
  | landed =>
    rw [sent] at configured
    obtain ⟨answer, t, d, flushed, colours, law⟩ := Tft.flush_flushed bus.rows s.panel.clearFrame g
    simp only [flushed] at configured
    cases configured
    have shown : done.glass y = Tft.expand s.panel.palette (t.frame y) :=
      law.shows rfl full y row fun stale => by cases stale.2
    rw [shown, law.frame, Tft.expand_get blank _ row x]
    rfl

/-- **A render whose flush ends** has each pixel in the colour it is drawn in. -/
theorem render_shows (view : ViewSpec) (drawn : List Pixel) (bus : TftBus) (before : TftCoherent (s, g)) :
    TftShows (s, g) (.render view drawn bus) := by
  intro any after done rendered y row x
  obtain ⟨coherent, palette⟩ := Tft.setPalette_coherent (Tft.paletteFor view) before
  obtain ⟨answer, t, d, flushed, _, law⟩ := Tft.flush_flushed bus.rows
    (((s.panel.setPalette (Tft.paletteFor view)).clear false).drawIter drawn) g
  have same : (((s.panel.setPalette (Tft.paletteFor view)).clear false).drawIter drawn).palette =
      Tft.paletteFor view := palette
  rw [same] at law
  have holds : Tft.layout.Holds (((s.panel.setPalette (Tft.paletteFor view)).clear false).drawIter drawn).frame
      ((Canvas.fill false).draw drawn) := Layout.holds_drawIter (Tft.layout.holds_fill false) drawn
  unfold render at rendered
  simp only [flushed] at rendered
  cases rendered
  refine ⟨fun fresh => ?_, fun stale => law.leaves rfl y stale.2⟩
  have shown : done.glass y = Tft.expand (Tft.paletteFor view) (t.frame y) := law.shows rfl coherent y row fresh
  rw [shown, law.frame, Tft.expand_get holds _ row x]

end TftScreen

/-- **The glass shows what is rendered**, after any calls. -/
theorem tft_shows (boot : Tft.Gram) (inputs : List TftInput) :
    tftScreen.Each TftShows (TftScreen.new, boot) inputs := by
  have keeps : ∀ s i, TftCoherent s → True → TftCoherent (tftScreen.next s i) := by
    rintro ⟨s, g⟩ i before -
    cases i with
    | configure bus => exact s.configure_coherent g bus before
    | render view drawn bus => exact s.render_coherent g view drawn bus before
  have law : ∀ s i, TftCoherent s → True → TftShows s i := by
    rintro ⟨s, g⟩ i before -
    cases i with
    | configure bus => exact s.configure_shows g bus
    | render view drawn bus => exact s.render_shows g view drawn bus before
  have admitted : tftScreen.Each (fun _ _ => True) (TftScreen.new, boot) inputs :=
    Machine.each_iff.mpr fun _ _ _ _ => trivial
  exact Machine.Each.law keeps law (.inl rfl) admitted

end AnovaOven
