import Mathlib.Data.Fintype.Basic

/-!
# Pictures in bytes

A picture as lines of bytes, in which each pixel has bits of its own. What is drawn of any picture, pixel by pixel,
is what the bytes hold of it (`holds_drawIter`): a pixel outside changes none, and one inside no other. Lines of
one length that are sent one after another are found again by their places (`getElem?_flatMap_even`).
-/

namespace Raster

/-- A line of bytes. -/
abbrev Line (length : Nat) := Fin length → BitVec 8

/-- A byte of a line. There is none past its end. -/
def Line.byteAt {length : Nat} (line : Line length) (k : Nat) : BitVec 8 :=
  if within : k < length then line ⟨k, within⟩ else 0

/-- The size of a picture and where its pixels are: in which line, in which byte of it and at which bits. -/
structure Layout where
  width : Nat
  height : Nat
  lineLength : Nat
  line : Nat → Nat → Nat
  byte : Nat → Nat → Nat
  mask : Nat → Nat → BitVec 8
  /-- What the bits of a pixel that is on are. -/
  ink : Bool
  byte_lt : ∀ x y, x < width → y < height → byte x y < lineLength
  mask_ne : ∀ x y, mask x y ≠ 0
  apart : ∀ x y x' y', line x y = line x' y' → byte x y = byte x' y' → (x, y) ≠ (x', y') →
    mask x y &&& mask x' y' = 0

/-- A pixel to draw. -/
structure Pixel where
  x : Int
  y : Int
  on : Bool
  deriving Repr, DecidableEq

/-- A picture that has no bounds. -/
abbrev Canvas := Int → Int → Bool

/-- A pixel drawn. -/
def Canvas.put (canvas : Canvas) (pixel : Pixel) : Canvas :=
  fun x y => if x = pixel.x ∧ y = pixel.y then pixel.on else canvas x y

/-- Pixels drawn, in order. -/
def Canvas.draw (canvas : Canvas) (pixels : List Pixel) : Canvas := pixels.foldl Canvas.put canvas

/-- A picture that is all on, or all off. -/
def Canvas.fill (on : Bool) : Canvas := fun _ _ => on

namespace Layout

variable (layout : Layout)

/-- The bytes of a picture, by lines. -/
abbrev Frame := Nat → Line layout.lineLength

/-- A pixel's bits set or cleared. -/
def setPixel (frame : layout.Frame) (x y : Nat) (on : Bool) : layout.Frame :=
  if layout.width ≤ x ∨ layout.height ≤ y then frame
  else fun line k => if line = layout.line x y ∧ k = layout.byte x y then
      if on = layout.ink then frame line k ||| layout.mask x y else frame line k &&& ~~~layout.mask x y
    else frame line k

/-- A pixel drawn, where it is inside. -/
def drawPixel (frame : layout.Frame) (pixel : Pixel) : layout.Frame :=
  if 0 ≤ pixel.x ∧ pixel.x < layout.width ∧ 0 ≤ pixel.y ∧ pixel.y < layout.height then
    layout.setPixel frame pixel.x.toNat pixel.y.toNat pixel.on
  else frame

/-- Pixels drawn, in order. -/
def drawIter (frame : layout.Frame) (pixels : List Pixel) : layout.Frame := pixels.foldl layout.drawPixel frame

/-- All pixels on, or off. -/
def fill (on : Bool) : layout.Frame := fun _ _ => if on = layout.ink then 0xFF else 0x00

/-- Whether a pixel's bits are set. -/
def isSet (frame : layout.Frame) (x y : Nat) : Bool :=
  (frame (layout.line x y)).byteAt (layout.byte x y) &&& layout.mask x y ≠ 0

/-- Whether a pixel of a picture in bytes is on. -/
def get (frame : layout.Frame) (x y : Nat) : Bool := layout.isSet frame x y = layout.ink

/-- The bytes are of a picture. -/
def Holds (frame : layout.Frame) (canvas : Canvas) : Prop :=
  ∀ x y : Nat, x < layout.width → y < layout.height → layout.get frame x y = canvas x y

/-! ## What is drawn is held -/

theorem bits_apart {m m' : BitVec 8} (apart : m &&& m' = 0) (i : Nat) (h : i < 8) :
    m[i] = true → m'[i] = true → False := by
  intro set set'
  have bit : (m &&& m')[i] = (0 : BitVec 8)[i] := by rw [apart]
  simp [set, set'] at bit

theorem and_or_self (b m : BitVec 8) : (b ||| m) &&& m = m := by
  ext i h
  cases bit : m[i] <;> simp [bit]

theorem and_clear_self (b m : BitVec 8) : b &&& ~~~m &&& m = 0 := by
  ext i h
  cases bit : m[i] <;> simp [bit]

theorem and_or_apart {m m' : BitVec 8} (b : BitVec 8) (apart : m &&& m' = 0) : (b ||| m) &&& m' = b &&& m' := by
  ext i h
  have never := bits_apart apart i h
  cases bit : m[i] <;> cases bit' : m'[i] <;> simp_all

theorem and_clear_apart {m m' : BitVec 8} (b : BitVec 8) (apart : m &&& m' = 0) :
    b &&& ~~~m &&& m' = b &&& m' := by
  ext i h
  have never := bits_apart apart i h
  cases bit : m[i] <;> cases bit' : m'[i] <;> simp_all

variable {layout}

/-- **A pixel's bits** are its own. -/
theorem isSet_setPixel {frame : layout.Frame} {x y x' y' : Nat} {on : Bool} (column : x < layout.width)
    (row : y < layout.height) : layout.isSet (layout.setPixel frame x y on) x' y' =
      if x' = x ∧ y' = y then decide (on = layout.ink) else layout.isSet frame x' y' := by
  have within : ¬ (layout.width ≤ x ∨ layout.height ≤ y) := by omega
  have place := layout.byte_lt x y column row
  by_cases same : x' = x ∧ y' = y
  · obtain ⟨rfl, rfl⟩ := same
    have nonzero : ¬ layout.mask x' y' = 0#8 := layout.mask_ne x' y'
    by_cases ink : on = layout.ink
    · simp [isSet, setPixel, within, Line.byteAt, place, ink, and_or_self, nonzero]
    · simp [isSet, setPixel, within, Line.byteAt, place, ink, and_clear_self]
  · rw [if_neg same]
    have distinct : (x, y) ≠ (x', y') := by
      intro eq
      cases eq
      exact same ⟨rfl, rfl⟩
    unfold isSet setPixel
    rw [if_neg within]
    by_cases shared : layout.line x' y' = layout.line x y ∧ layout.byte x' y' = layout.byte x y
    · have apart := layout.apart x y x' y' shared.1.symm shared.2.symm distinct
      simp only [Line.byteAt, shared, place, dif_pos, and_self, if_true]
      split
      · rw [and_or_apart _ apart]
      · rw [and_clear_apart _ apart]
    · simp only [Line.byteAt, shared, if_false]
      rfl

theorem get_setPixel {frame : layout.Frame} {x y x' y' : Nat} {on : Bool} (column : x < layout.width)
    (row : y < layout.height) : layout.get (layout.setPixel frame x y on) x' y' =
      if x' = x ∧ y' = y then on else layout.get frame x' y' := by
  unfold get
  rw [isSet_setPixel column row]
  split
  · cases on <;> cases layout.ink <;> rfl
  · rfl

theorem holds_drawPixel {frame : layout.Frame} {canvas : Canvas} (holds : layout.Holds frame canvas)
    (pixel : Pixel) : layout.Holds (layout.drawPixel frame pixel) (canvas.put pixel) := by
  intro x y column row
  unfold drawPixel Canvas.put
  split
  · rw [get_setPixel (by omega) (by omega)]
    by_cases same : x = pixel.x.toNat ∧ y = pixel.y.toNat
    · have at' : (x : Int) = pixel.x ∧ (y : Int) = pixel.y := by omega
      rw [if_pos same, if_pos at']
    · have at' : ¬ ((x : Int) = pixel.x ∧ (y : Int) = pixel.y) := by omega
      rw [if_neg same, if_neg at']
      exact holds x y column row
  · have at' : ¬ ((x : Int) = pixel.x ∧ (y : Int) = pixel.y) := by omega
    rw [if_neg at']
    exact holds x y column row

/-- **What is drawn is held.** -/
theorem holds_drawIter {frame : layout.Frame} {canvas : Canvas} (holds : layout.Holds frame canvas)
    (pixels : List Pixel) : layout.Holds (layout.drawIter frame pixels) (canvas.draw pixels) := by
  induction pixels generalizing frame canvas with
  | nil => exact holds
  | cons pixel pixels ih => exact ih (holds_drawPixel holds pixel)

/-- A picture with the line of a pixel has the pixel. -/
theorem Holds.get_line {frame glass : layout.Frame} {canvas : Canvas} (holds : layout.Holds frame canvas) {x y : Nat}
    (column : x < layout.width) (row : y < layout.height) (same : glass (layout.line x y) = frame (layout.line x y)) :
    layout.get glass x y = canvas x y := by
  rw [← holds x y column row]
  unfold get isSet
  rw [same]

theorem holds_fill (on : Bool) : layout.Holds (layout.fill on) (Canvas.fill on) := by
  intro x y column row
  have place := layout.byte_lt x y column row
  have nonzero : ¬ layout.mask x y = 0#8 := layout.mask_ne x y
  have all : 255#8 &&& layout.mask x y = layout.mask x y := BitVec.allOnes_and
  have set : layout.isSet (layout.fill on) x y = decide (on = layout.ink) := by
    by_cases ink : on = layout.ink
    · simp [isSet, fill, Line.byteAt, place, ink, all, nonzero]
    · simp [isSet, fill, Line.byteAt, place, ink]
  unfold get Canvas.fill
  rw [set]
  cases on <;> cases layout.ink <;> rfl

end Layout

/-! ## Lines sent one after another -/

section Blocks

variable {α β : Type*} {f : α → List β} {size : Nat} {items : List α}

/-- Lists of one length, end to end: what stands at a place of one. -/
theorem getElem?_flatMap_even (even : ∀ a ∈ items, (f a).length = size) (i : Nat) {j : Nat} (within : j < size) :
    (items.flatMap f)[i * size + j]? = items[i]?.bind fun a => (f a)[j]? := by
  induction items generalizing i with
  | nil => rfl
  | cons a items ih =>
    have first := even a List.mem_cons_self
    rw [List.flatMap_cons]
    cases i with
    | zero =>
      rw [List.getElem?_append_left (by omega)]
      simp
    | succ i =>
      have past : (i + 1) * size + j = (f a).length + (i * size + j) := by
        rw [first, Nat.succ_mul]
        omega
      rw [past, List.getElem?_append_right (by omega), Nat.add_sub_cancel_left]
      exact ih (fun b item => even b (List.mem_cons_of_mem a item)) i

theorem length_flatMap_even (even : ∀ a ∈ items, (f a).length = size) :
    (items.flatMap f).length = items.length * size := by
  induction items with
  | nil => exact (Nat.zero_mul size).symm
  | cons a items ih =>
    rw [List.flatMap_cons, List.length_append, even a List.mem_cons_self,
      ih fun b item => even b (List.mem_cons_of_mem a item), List.length_cons, Nat.succ_mul, Nat.add_comm]

end Blocks

end Raster
