import AnovaOven.Lib.Machine
import AnovaOven.Lib.Raster
import AnovaOven.Lib.Shadow

/-!
# The memory display (`anova-oven-pico/src/sharp.rs`, `sharp_ui.rs`)

The driver of the 400x240 panel: a frame of one bit a pixel, the lines last sent, and a flush that packs all lines
that differ into one transfer, with each bit of a byte reversed. Each transfer has a bit, VCOM, that is to alternate.
Over it the screen, which sends a transfer of no lines where nothing differs. The panel is here as it reads a
transfer. The bytes of the frame are kept by lines: `frame line k` is byte `line * BYTES_PER_LINE + k`.
-/

namespace AnovaOven

open Raster Shadow

namespace Sharp

/-- `WIDTH`. -/
def width : Nat := 400

/-- `HEIGHT`. -/
def height : Nat := 240

/-- `BYTES_PER_LINE`. -/
def bytesPerLine : Nat := width / 8

/-- `CMD_WRITE`. -/
def cmdWrite : BitVec 8 := 0x01

/-- `CMD_VCOM`. -/
def cmdVcom : BitVec 8 := 0x02

/-- A line of the frame. -/
abbrev Row := Line bytesPerLine

theorem columns_apart : ∀ a < 8, ∀ b < 8, a ≠ b → (1#8 <<< a) &&& (1#8 <<< b) = 0 := by decide

theorem column_ne : ∀ a < 8, 1#8 <<< a ≠ 0 := by decide

/-- A column has its byte. -/
theorem byte_lt {x y : Nat} (column : x < width) (_row : y < height) : x / 8 < bytesPerLine := by
  show x / 8 < 50
  have within : x < 400 := column
  omega

/-- A column has its bit. -/
theorem mask_ne (x : Nat) : 1#8 <<< (x % 8) ≠ 0 := column_ne (x % 8) (Nat.mod_lt x (by decide))

/-- Pixels that share a byte have bits of their own. -/
theorem masks_apart {x y x' y' : Nat} (line : y = y') (byte : x / 8 = x' / 8) (distinct : (x, y) ≠ (x', y')) :
    (1#8 <<< (x % 8)) &&& (1#8 <<< (x' % 8)) = 0 := by
  refine columns_apart (x % 8) (Nat.mod_lt x (by decide)) (x' % 8) (Nat.mod_lt x' (by decide)) fun same => ?_
  have column : x = x' := by omega
  exact distinct (by rw [column, line])

/-- The frame: bit 0 of a byte is its leftmost pixel, and a pixel that is on is black. -/
def layout : Layout where
  width := width
  height := height
  lineLength := bytesPerLine
  line _ y := y
  byte x _ := x / 8
  mask x _ := 1#8 <<< (x % 8)
  ink := false
  byte_lt _ _ := byte_lt
  mask_ne x _ := mask_ne x
  apart _ _ _ _ := masks_apart

/-! ## The panel -/

/-- The lines of a transfer, at most so many: each an address, its bytes and a byte that ends it. An address of
zero ends the transfer. The least bit comes first. -/
def readLines : Nat → List (BitVec 8) → (Nat → Row) → Nat → Row
  | n + 1, address :: rest, glass =>
    if address = 0 then glass
    else readLines n (rest.drop (bytesPerLine + 1)) fun line =>
      if line + 1 = address.reverse.toNat then fun k => (rest.getD k 0).reverse else glass line
  | _, _, glass => glass

/-- A transfer, read: its lines, where it is a write, and its VCOM. -/
def receive (glass : Nat → Row) : List (BitVec 8) → (Nat → Row) × Bool
  | [] => (glass, false)
  | mode :: rest =>
    (if mode.reverse &&& cmdWrite ≠ 0 then readLines rest.length rest glass else glass,
      mode.reverse &&& cmdVcom ≠ 0)

end Sharp

/-! ## The driver -/

/-- `Sharp`. -/
structure Sharp extends Driver Sharp.Row where
  vcom : Bool

namespace Sharp

/-- `Sharp::new`. -/
def new : Sharp := ⟨⟨fun _ _ => 0xFF, fun _ _ => 0xFF, true⟩, false⟩

/-- `clear_white`. -/
def clearWhite (s : Sharp) : Sharp := { s with frame := fun _ _ => 0xFF, forceFull := true }

/-- `draw_iter`. -/
def drawIter (s : Sharp) (pixels : List Pixel) : Sharp := { s with frame := layout.drawIter s.frame pixels }

/-- `clear`. -/
def clear (s : Sharp) (on : Bool) : Sharp := { s with frame := layout.fill on }

/-- The VCOM bit of a mode byte. -/
def vcomBit (vcom : Bool) : BitVec 8 := if vcom then cmdVcom else 0

/-- A line as `flush` packs it. -/
def packLine (s : Sharp) (line : Nat) : List (BitVec 8) :=
  (BitVec.ofNat 8 (line + 1)).reverse :: ((List.ofFn (s.frame line)).map BitVec.reverse ++ [0x00])

/-- The lines that `flush` packs. -/
def dirtyLines (s : Sharp) : List Nat := (List.range height).filter fun line => s.dirty line

/-- What `flush` sends. -/
def packed (s : Sharp) : List (BitVec 8) :=
  (cmdWrite ||| vcomBit s.vcom).reverse :: (s.dirtyLines.flatMap s.packLine ++ [0x00])

/-- `flush`: whether any line was sent, and the VCOM of a transfer that landed. -/
def flush (outcome : Outcome (Panel Row)) (s : Sharp) (p : Panel Row) :
    Except Unit Bool × Sharp × Panel Row × List Bool :=
  if s.dirtyLines.isEmpty then (.ok false, s, p, [])
  else
    let sent := fun line => s.dirtyLines.contains line
    match outcome with
    | .landed =>
      let (glass, vcom) := receive p.glass s.packed
      (.ok true, { toDriver := { s.commit sent with forceFull := false }, vcom := !s.vcom },
        { glass := glass, torn := fun line => !sent line && p.torn line }, [vcom])
    | .failed left => (.error (), s, p.tears sent left.glass, [])

/-- `toggle_vcom`. The bit is flipped whatever becomes of the transfer. -/
def toggleVcom (landed : Bool) (s : Sharp) (p : Panel Row) : Sharp × Panel Row × List Bool :=
  let tx := [(vcomBit s.vcom).reverse, 0x00]
  let s := { s with vcom := !s.vcom }
  if landed then
    let (glass, vcom) := receive p.glass tx
    (s, { p with glass := glass }, [vcom])
  else (s, p, [])

end Sharp

/-! ## The screen -/

/-- `SharpScreen`. -/
structure SharpScreen where
  panel : Sharp

/-- What becomes of the transfers of a call: of the lines, and whether that of none lands. -/
structure SharpBus where
  lines : Outcome (Panel Sharp.Row)
  toggle : Bool

/-- What the display's task asks of the screen. -/
inductive SharpInput where
  | configure (bus : SharpBus)
  | render (drawn : List Pixel) (bus : SharpBus)

/-- What comes of it: what the flush answers, and the VCOM of each transfer that lands. -/
inductive SharpEffect where
  | flushed (answer : Except Unit Bool)
  | vcom (bit : Bool)
  deriving Repr

namespace SharpScreen

/-- `SharpScreen::new`. -/
def new : SharpScreen := ⟨Sharp.new⟩

/-- `configure`. -/
def configure (bus : SharpBus) (s : SharpScreen) (p : Panel Sharp.Row) :
    Except Unit Bool × SharpScreen × Panel Sharp.Row × List Bool :=
  let (flushed, sharp, p, bits) := s.panel.clearWhite.flush bus.lines p
  (flushed, ⟨sharp⟩, p, bits)

/-- `render`, of a view that is drawn so. -/
def render (drawn : List Pixel) (bus : SharpBus) (s : SharpScreen) (p : Panel Sharp.Row) :
    Except Unit Bool × SharpScreen × Panel Sharp.Row × List Bool :=
  let (flushed, sharp, p, bits) := ((s.panel.clear false).drawIter drawn).flush bus.lines p
  match flushed with
  | .ok false =>
    let (sharp, p, more) := sharp.toggleVcom bus.toggle p
    (flushed, ⟨sharp⟩, p, bits ++ more)
  | .ok true | .error () => (flushed, ⟨sharp⟩, p, bits)

end SharpScreen

/-- The screen with its panel, as a machine. -/
def sharpScreen : Machine (SharpScreen × Panel Sharp.Row) SharpInput SharpEffect where
  step
    | (s, p), .configure bus =>
      let (flushed, s, p, bits) := s.configure bus p
      ((s, p), bits.map .vcom ++ [.flushed flushed])
    | (s, p), .render drawn bus =>
      let (flushed, s, p, bits) := s.render drawn bus p
      ((s, p), bits.map .vcom ++ [.flushed flushed])

end AnovaOven
