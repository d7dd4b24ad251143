import AnovaOven.Lib.Machine
import AnovaOven.Lib.Raster
import AnovaOven.Lib.Shadow
import AnovaOven.PicoCore.Views

/-!
# The TFT (`anova-oven-pico/src/tft.rs`, `tft_ui.rs`)

The driver of the 320x240 colour panel: a frame of one bit a pixel, the rows last sent, and a flush that sends each
run of rows that differ as one window, with their pixels in the two colours of the palette. Over it the screen, which
chooses the palette by the view. The controller is here as far as a window reaches: its columns, its rows and its
memory. The bytes of the frame are kept by rows: `frame y k` is byte `y * BYTES_PER_ROW + k`.
-/

namespace AnovaOven

open Raster Shadow

namespace Tft

/-- `WIDTH`. -/
def width : Nat := 320

/-- `HEIGHT`. -/
def height : Nat := 240

/-- `BYTES_PER_ROW`. -/
def bytesPerRow : Nat := width / 8

/-- `CMD_CASET`. -/
def cmdCaset : BitVec 8 := 0x2A

/-- `CMD_RASET`. -/
def cmdRaset : BitVec 8 := 0x2B

/-- A row of the frame. -/
abbrev Row := Line bytesPerRow

/-- A colour: RGB565. -/
abbrev Colour := BitVec 16

/-- A row of pixels. -/
abbrev Pixels := Fin width → Colour

/-- `Palette`. -/
structure Palette where
  ink : Colour
  paper : Colour
  deriving Repr, DecidableEq

/-- `rgb565`. -/
def rgb565 (r g b : BitVec 8) : Colour :=
  ((r.setWidth 16 &&& 0xF8) <<< 8) ||| ((g.setWidth 16 &&& 0xFC) <<< 3) ||| (b.setWidth 16 >>> 3)

theorem columns_apart : ∀ a < 8, ∀ b < 8, a ≠ b → (0x80#8 >>> a) &&& (0x80#8 >>> b) = 0 := by decide

theorem column_ne : ∀ a < 8, 0x80#8 >>> a ≠ 0 := by decide

/-- A column has its byte. -/
theorem byte_lt {x y : Nat} (column : x < width) (_row : y < height) : x / 8 < bytesPerRow := by
  show x / 8 < 40
  have within : x < 320 := column
  omega

/-- A column has its bit. -/
theorem mask_ne (x : Nat) : 0x80#8 >>> (x % 8) ≠ 0 := column_ne (x % 8) (Nat.mod_lt x (by decide))

/-- Pixels that share a byte have bits of their own. -/
theorem masks_apart {x y x' y' : Nat} (line : y = y') (byte : x / 8 = x' / 8) (distinct : (x, y) ≠ (x', y')) :
    (0x80#8 >>> (x % 8)) &&& (0x80#8 >>> (x' % 8)) = 0 := by
  refine columns_apart (x % 8) (Nat.mod_lt x (by decide)) (x' % 8) (Nat.mod_lt x' (by decide)) fun same => ?_
  have column : x = x' := by omega
  exact distinct (by rw [column, line])

/-- The frame: bit 7 of a byte is its leftmost pixel. -/
def layout : Layout where
  width := width
  height := height
  lineLength := bytesPerRow
  line _ y := y
  byte x _ := x / 8
  mask x _ := 0x80#8 >>> (x % 8)
  ink := true
  byte_lt _ _ := byte_lt
  mask_ne x _ := mask_ne x
  apart _ _ _ _ := masks_apart

/-- The pixels of a row. -/
def expand (palette : Palette) (row : Row) : Pixels :=
  fun x => if row.byteAt (x / 8) &&& (0x80#8 >>> (x % 8 : Nat)) ≠ 0 then palette.ink else palette.paper

/-! ## The controller -/

/-- The controller's window and memory. -/
structure Gram extends Panel Pixels where
  columns : Nat × Nat
  rows : Nat × Nat

/-- A number in two bytes. -/
def word (hi lo : BitVec 8) : BitVec 16 := hi ++ lo

/-- What it does on a command that sets its window. -/
def Gram.command (g : Gram) (cmd : BitVec 8) (args : List (BitVec 8)) : Gram :=
  match args with
  | [a, b, c, d] =>
    if cmd = cmdCaset then { g with columns := ((word a b).toNat, (word c d).toNat) }
    else if cmd = cmdRaset then { g with rows := ((word a b).toNat, (word c d).toNat) }
    else g
  | _ => g

/-- What it does on memory's data: two bytes a pixel, along the window. -/
def Gram.ramwr (g : Gram) (data : List (BitVec 8)) : Gram := { g with
  glass := fun y x =>
    let k := (y - g.rows.1) * (g.columns.2 + 1 - g.columns.1) + (x - g.columns.1)
    if g.rows.1 ≤ y ∧ y ≤ g.rows.2 ∧ g.columns.1 ≤ x ∧ x ≤ g.columns.2 ∧ 2 * k + 1 < data.length then
      word (data.getD (2 * k) 0) (data.getD (2 * k + 1) 0)
    else g.glass y x }

end Tft

/-! ## The driver -/

/-- `Tft`. -/
structure Tft extends Driver Tft.Row where
  palette : Tft.Palette

namespace Tft

/-- `Tft::new`. -/
def new (palette : Palette) : Tft := ⟨⟨fun _ _ => 0x00, fun _ _ => 0x00, true⟩, palette⟩

/-- `draw_iter`. -/
def drawIter (t : Tft) (pixels : List Pixel) : Tft := { t with frame := layout.drawIter t.frame pixels }

/-- `clear`. -/
def clear (t : Tft) (on : Bool) : Tft := { t with frame := layout.fill on }

/-- `clear_frame`. -/
def clearFrame (t : Tft) : Tft := { t with frame := fun _ _ => 0x00, forceFull := true }

/-- `set_palette`. -/
def setPalette (t : Tft) (palette : Palette) : Tft :=
  if palette ≠ t.palette then { t with palette := palette, forceFull := true } else t

/-- A number's bytes. -/
def bytesOf (n : BitVec 16) : List (BitVec 8) := [n.extractLsb' 8 8, n.setWidth 8]

/-- A row as `write_rows` expands it. -/
def rowBytes (t : Tft) (y : Nat) : List (BitVec 8) := (List.ofFn (expand t.palette (t.frame y))).flatMap bytesOf

/-- Whether a row is in a run. -/
def inRun (y0 y1 y : Nat) : Bool := y0 ≤ y && y < y1

/-- `write_rows`: the window, then the rows in it. A failed transfer leaves the rows so. -/
def writeRows (t : Tft) (y0 y1 : Nat) (outcome : Outcome Gram) (g : Gram) : Except Unit Unit × Gram :=
  match outcome with
  | .landed =>
    let xEnd := BitVec.ofNat 16 width - 1
    let g := g.command cmdCaset (0 :: 0 :: bytesOf xEnd)
    let g := g.command cmdRaset (bytesOf (BitVec.ofNat 16 y0) ++ bytesOf (BitVec.ofNat 16 y1 - 1))
    let g := g.ramwr ((List.range' y0 (y1 - y0)).flatMap t.rowBytes)
    (.ok (), { g with torn := fun y => !inRun y0 y1 y && g.torn y })
  | .failed left => (.error (), { left with toPanel := g.toPanel.tears (inRun y0 y1) left.glass })

/-- The end of a run of rows to send, from a row on, of so many. -/
def runEnd (t : Tft) : Nat → Nat → Nat
  | 0, y => y
  | n + 1, y => if t.dirty y then runEnd t n (y + 1) else y

theorem le_runEnd (t : Tft) (n y : Nat) : y ≤ runEnd t n y := by
  induction n generalizing y with
  | zero => exact Nat.le_refl y
  | succ n ih =>
    rw [runEnd]
    split
    · exact Nat.le_of_succ_le (ih (y + 1))
    · exact Nat.le_refl y

theorem lt_runEnd {t : Tft} {y : Nat} (dirty : t.dirty y = true) (within : y < height) :
    y < runEnd t (height - y) y := by
  obtain ⟨n, left⟩ : ∃ n, height - y = n + 1 := ⟨height - y - 1, by omega⟩
  rw [left, runEnd, if_pos dirty]
  exact le_runEnd t n (y + 1)

/-- `flush`, from a row on. -/
def flushFrom (bus : Nat → Outcome Gram) (y : Nat) (any : Bool) (t : Tft) (g : Gram) :
    Except Unit Bool × Tft × Gram :=
  if within : y < height then
    if dirty : t.dirty y then
      let stop := runEnd t (height - y) y
      match writeRows t y stop (bus y) g with
      | (.ok (), g) => flushFrom bus stop true { t with toDriver := t.commit (inRun y stop) } g
      | (.error (), g) => (.error (), t, g)
    else flushFrom bus (y + 1) any t g
  else (.ok any, { t with forceFull := false }, g)
termination_by height - y
decreasing_by
  · have := lt_runEnd dirty within
    omega
  · omega

/-- `flush`. -/
def flush (bus : Nat → Outcome Gram) (t : Tft) (g : Gram) : Except Unit Bool × Tft × Gram :=
  flushFrom bus 0 false t g

/-! ## The screen -/

/-- `BLACK`. -/
def black : Colour := rgb565 0 0 0

/-- `WHITE`. -/
def white : Colour := rgb565 0xFF 0xFF 0xFF

/-- `AMBER`. -/
def amber : Colour := rgb565 0xFF 0xB0 0x20

/-- `RED`. -/
def red : Colour := rgb565 0xFF 0x3B 0x30

/-- `palette_for`. -/
def paletteFor : ViewSpec → Palette
  | .recovery .. => ⟨red, black⟩
  | .nextStagePrompt _ | .stopConfirmation .. | .serverOffline | .upstreamStale .. => ⟨amber, black⟩
  | .wifiInit | .dhcpInit | .connecting | .startingCook _ | .recipeBrowser _ | .status .. => ⟨white, black⟩

end Tft

/-- `TftScreen`. -/
structure TftScreen where
  panel : Tft

/-- What becomes of the transfers of a call: of the first ones of a configuration, and of the runs of rows. -/
structure TftBus where
  first : Outcome Tft.Gram
  rows : Nat → Outcome Tft.Gram

namespace TftScreen

/-- `TftScreen::new`. -/
def new : TftScreen := ⟨Tft.new ⟨Tft.white, Tft.black⟩⟩

/-- `configure`: `init`'s commands leave the memory as it is; then it is painted. -/
def configure (bus : TftBus) (s : TftScreen) (g : Tft.Gram) : Except Unit Bool × TftScreen × Tft.Gram :=
  match bus.first with
  | .failed left => (.error (), s, { left with toPanel := g.toPanel })
  | .landed =>
    let (flushed, t, g) := Tft.flush bus.rows s.panel.clearFrame g
    (flushed, ⟨t⟩, g)

/-- `render`, of a view that is drawn so. -/
def render (view : ViewSpec) (drawn : List Pixel) (bus : TftBus) (s : TftScreen) (g : Tft.Gram) :
    Except Unit Bool × TftScreen × Tft.Gram :=
  let t := ((s.panel.setPalette (Tft.paletteFor view)).clear false).drawIter drawn
  let (flushed, t, g) := Tft.flush bus.rows t g
  (flushed, ⟨t⟩, g)

end TftScreen

/-- What the display's task asks of the screen. -/
inductive TftInput where
  | configure (bus : TftBus)
  | render (view : ViewSpec) (drawn : List Pixel) (bus : TftBus)

/-- The screen with its panel, as a machine: its effects are what the flushes answer. -/
def tftScreen : Machine (TftScreen × Tft.Gram) TftInput (Except Unit Bool) where
  step
    | (s, g), .configure bus =>
      let (flushed, s, g) := s.configure bus g
      ((s, g), [flushed])
    | (s, g), .render view drawn bus =>
      let (flushed, s, g) := s.render view drawn bus g
      ((s, g), [flushed])

end AnovaOven
