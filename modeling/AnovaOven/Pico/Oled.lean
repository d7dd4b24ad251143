import AnovaOven.Lib.Machine
import AnovaOven.Lib.Raster
import AnovaOven.Lib.Shadow
import AnovaOven.PicoCore.Views

/-!
# The OLED (`anova-oven-pico/src/oled.rs`, `oled_ui.rs`)

The driver of the 128x64 panel: a frame in pages of eight rows, the pages last sent, and a flush that sends those
that differ, each with the commands that address it. Over it the screen: what is rendered, and how the panel dims
and goes dark. The controller is here as far as the driver's commands reach: its page and column, its memory, its
contrast and whether it lights. The bytes of the frame are kept by pages: `frame page k` is byte
`page * PAGE_LEN + k`. Instants are ticks.
-/

namespace AnovaOven

open Raster Shadow

namespace Oled

/-- `WIDTH`. -/
def width : Nat := 128

/-- `HEIGHT`. -/
def height : Nat := 64

/-- `PAGES`. -/
def pages : Nat := height / 8

/-- `PAGE_LEN`. -/
def pageLen : Nat := width

/-- `CMD_DISPLAY_ON`. -/
def cmdDisplayOn : BitVec 8 := 0xAF

/-- `CMD_DISPLAY_OFF`. -/
def cmdDisplayOff : BitVec 8 := 0xAE

/-- `CMD_SET_CONTRAST`. -/
def cmdSetContrast : BitVec 8 := 0x81

/-- `CMD_SET_PAGE_START`. -/
def cmdSetPageStart : BitVec 8 := 0xB0

/-- A page. -/
abbrev Page := Line pageLen

theorem rows_apart : ∀ a < 8, ∀ b < 8, a ≠ b → (1#8 <<< a) &&& (1#8 <<< b) = 0 := by decide

theorem row_ne : ∀ a < 8, 1#8 <<< a ≠ 0 := by decide

/-- The frame: bit `n` of a byte is the pixel `n` rows down in its page. -/
def layout : Layout where
  width := width
  height := height
  lineLength := pageLen
  line _ y := y / 8
  byte x _ := x
  mask _ y := 1#8 <<< (y % 8)
  ink := true
  byte_lt _ _ column _ := column
  mask_ne _ y := row_ne (y % 8) (Nat.mod_lt y (by decide))
  apart x y x' y' line byte distinct := by
    refine rows_apart (y % 8) (Nat.mod_lt y (by decide)) (y' % 8) (Nat.mod_lt y' (by decide)) fun same => ?_
    have row : y = y' := by omega
    exact distinct (by rw [show x = x' from byte, row])

/-! ## The controller -/

/-- The controller's registers and memory. -/
structure Gddram extends Panel Page where
  page : Nat
  column : Nat
  contrast : BitVec 8
  on : Bool

/-- What it does on a command of one byte. -/
def Gddram.command (g : Gddram) (c : BitVec 8) : Gddram :=
  if c &&& 0xF8 = cmdSetPageStart then { g with page := (c &&& 0x07).toNat }
  else if c &&& 0xF0 = 0x10 then { g with column := g.column % 16 + 16 * (c &&& 0x0F).toNat }
  else if c &&& 0xF0 = 0x00 then { g with column := g.column / 16 * 16 + (c &&& 0x0F).toNat }
  else if c = cmdDisplayOn then { g with on := true }
  else if c = cmdDisplayOff then { g with on := false }
  else g

/-- What it does on commands. The contrast comes with its value. -/
def Gddram.commands (g : Gddram) : List (BitVec 8) → Gddram
  | [] => g
  | [c] => g.command c
  | c :: value :: rest =>
    if c = cmdSetContrast then commands { g with contrast := value } rest
    else commands (g.command c) (value :: rest)

/-- What it does on data: a byte to where the page and the column point, and on to the next column. -/
def Gddram.data (g : Gddram) (bytes : List (BitVec 8)) : Gddram :=
  bytes.foldl (fun g byte => { g with
    glass := fun page k => if page = g.page ∧ k = g.column then byte else g.glass page k
    column := g.column + 1 }) g

/-! ## The driver -/

end Oled

/-- `Oled`. -/
abbrev Oled := Driver Oled.Page

namespace Oled

/-- `Oled::new`. -/
def new : Oled := ⟨fun _ _ => 0x00, fun _ _ => 0x00, true⟩

/-- `draw_iter`. -/
def drawIter (o : Oled) (pixels : List Pixel) : Oled := { o with frame := layout.drawIter o.frame pixels }

/-- `clear`. -/
def clear (o : Oled) (on : Bool) : Oled := { o with frame := layout.fill on }

/-- `clear_frame`. -/
def clearFrame (o : Oled) : Oled := { o with frame := fun _ _ => 0x00, forceFull := true }

/-- `commands`, of other things than a page. A failed transfer leaves the memory as it was. -/
def sendCommands (bytes : List (BitVec 8)) (outcome : Outcome Gddram) (g : Gddram) : Except Unit Unit × Gddram :=
  match outcome with
  | .landed => (.ok (), g.commands bytes)
  | .failed left => (.error (), { left with toPanel := g.toPanel })

/-- `write_page`: the commands that address it, then its bytes. A failed transfer leaves the page so. -/
def writePage (o : Oled) (page : Nat) (outcome : Outcome Gddram) (g : Gddram) : Except Unit Unit × Gddram :=
  match outcome with
  | .landed =>
    let g := g.commands [cmdSetPageStart ||| BitVec.ofNat 8 page, 0x10, 0x00]
    let g := g.data (List.ofFn (o.frame page))
    (.ok (), { g with torn := fun p => !(p == page) && g.torn p })
  | .failed left => (.error (), { left with
      toPanel := g.toPanel.tears (fun p => p == page) left.glass, contrast := g.contrast, on := g.on })

/-- `flush`, from a page on, of so many. -/
def flushFrom (bus : Nat → Outcome Gddram) : Nat → Nat → Bool → Oled → Gddram → Except Unit Bool × Oled × Gddram
  | 0, _, any, o, g => (.ok any, { o with forceFull := false }, g)
  | n + 1, page, any, o, g =>
    if o.dirty page then
      match writePage o page (bus page) g with
      | (.ok (), g) => flushFrom bus n (page + 1) true (o.commit fun p => p == page) g
      | (.error (), g) => (.error (), o, g)
    else flushFrom bus n (page + 1) any o g

/-- `flush`. -/
def flush (bus : Nat → Outcome Gddram) (o : Oled) (g : Gddram) : Except Unit Bool × Oled × Gddram :=
  flushFrom bus pages 0 false o g

end Oled

/-! ## The screen -/

/-- `Variant`. -/
inductive Variant where
  | ssd1305
  | ssd1309
  deriving Repr, DecidableEq

/-- `normal_contrast`. -/
def Variant.normalContrast : Variant → BitVec 8
  | ssd1305 => 0x32
  | ssd1309 => 0x6F

/-- `DIM_CONTRAST`. -/
def dimContrast : BitVec 8 := 0x01

/-- `OFF_AFTER_DIM`. -/
def offAfterDim : Nat := ticksOfSecs 300

/-- `OledScreen`. -/
structure OledScreen where
  panel : Oled
  dimSince : Option Nat
  panelOff : Bool

/-- What becomes of the transfers of a call: of its commands, in order, and of the pages. -/
structure OledBus where
  first : Outcome Oled.Gddram
  second : Outcome Oled.Gddram
  pages : Nat → Outcome Oled.Gddram

namespace OledScreen

/-- `OledScreen::new`. -/
def new : OledScreen := ⟨Oled.new, none, false⟩

/-- `configure`: `init`'s tables reset the registers, the memory is blanked, and the panel lights. -/
def configure (variant : Variant) (bus : OledBus) (s : OledScreen) (g : Oled.Gddram) :
    Except Unit Bool × OledScreen × Oled.Gddram :=
  match bus.first with
  | .failed left => (.error (), s, { left with toPanel := g.toPanel })
  | .landed =>
    let g := { g with contrast := variant.normalContrast, on := false }
    match Oled.flush bus.pages s.panel.clearFrame g with
    | (.error (), o, g) => (.error (), { s with panel := o }, g)
    | (.ok any, o, g) => (.ok any, { s with panel := o }, (Oled.sendCommands [Oled.cmdDisplayOn] bus.second g).2)

/-- `render`, of a view that is drawn so. -/
def render (now : Nat) (drawn : List Pixel) (bus : OledBus) (s : OledScreen) (g : Oled.Gddram) :
    Except Unit Bool × OledScreen × Oled.Gddram :=
  let dark := !s.panelOff && s.dimSince.any fun since => decide (now - since ≥ offAfterDim)
  let g := if dark then (Oled.sendCommands [Oled.cmdDisplayOff] bus.first g).2 else g
  let (flushed, o, g) := Oled.flush bus.pages ((s.panel.clear false).drawIter drawn) g
  (flushed, { s with panel := o, panelOff := s.panelOff || dark }, g)

/-- `set_backlight`. -/
def setBacklight (variant : Variant) (policy : BacklightPolicy) (now : Nat) (bus : OledBus) (s : OledScreen)
    (g : Oled.Gddram) : OledScreen × Oled.Gddram :=
  match policy with
  | .dim => ({ s with dimSince := some (s.dimSince.getD now) },
      (Oled.sendCommands [Oled.cmdSetContrast, dimContrast] bus.first g).2)
  | .full | .fullThenDimAfter _ =>
    let g := if s.panelOff then (Oled.sendCommands [Oled.cmdDisplayOn] bus.first g).2 else g
    ({ s with dimSince := none, panelOff := false },
      (Oled.sendCommands [Oled.cmdSetContrast, variant.normalContrast] bus.second g).2)

end OledScreen

/-- What the display's task asks of the screen. -/
inductive OledInput where
  | configure (bus : OledBus)
  | render (now : Nat) (drawn : List Pixel) (bus : OledBus)
  | setBacklight (policy : BacklightPolicy) (now : Nat) (bus : OledBus)

/-- The screen with its panel, as a machine: its effects are what the flushes answer. -/
def oledScreen (variant : Variant) : Machine (OledScreen × Oled.Gddram) OledInput (Except Unit Bool) where
  step
    | (s, g), .configure bus =>
      let (flushed, s, g) := s.configure variant bus g
      ((s, g), [flushed])
    | (s, g), .render now drawn bus =>
      let (flushed, s, g) := s.render now drawn bus g
      ((s, g), [flushed])
    | (s, g), .setBacklight policy now bus => (s.setBacklight variant policy now bus g, [])

end AnovaOven
