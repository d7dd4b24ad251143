import AnovaOven.Lib.Machine

/-!
# The encoder's quadrature decoder (`anova-oven-pico-core/src/encoder.rs`)

Samples of the two pins, each of which may be a step of the shaft one way or the other; four steps one way
make a tick. A pair of pins is the code the decoder's table is indexed by.
-/

namespace AnovaOven

/-- `EncoderTick`. -/
inductive EncoderTick where
  | cw
  | ccw
  deriving Repr, DecidableEq

/-- `QEM`: the direction of each step, by the code before it and the code after. -/
def qem : List Int := [0, -1, 1, 0, 1, 0, 0, -1, -1, 0, 0, 1, 0, 1, -1, 0]

/-- `TRANSITIONS_PER_DETENT`. -/
def transitionsPerDetent : Int := 4

/-- A sample of the pins: whether each reads low. -/
structure PinSample where
  aLow : Bool
  bLow : Bool
  deriving Repr, DecidableEq

/-- `encode`: the two samples as a code of two bits. -/
def PinSample.encode (pins : PinSample) : Fin 4 :=
  match pins.aLow, pins.bLow with
  | false, false => 0
  | false, true => 1
  | true, false => 2
  | true, true => 3

/-- `QuadratureDecoder`. -/
structure QuadratureDecoder where
  prev : Fin 4
  accum : Int
  deriving Repr, DecidableEq

namespace QuadratureDecoder

/-- `QuadratureDecoder::new`. -/
def new (pins : PinSample) : QuadratureDecoder := ⟨pins.encode, 0⟩

/-- The direction that `QEM` gives a step. -/
def direction (prev curr : Fin 4) : Int := qem.getD (4 * prev.val + curr.val) 0

/-- What `QuadratureDecoder::update` does to the accumulator on a step in a direction. -/
def accumulate (accum dir : Int) : Int × Option EncoderTick :=
  let accum := if (accum > 0 ∧ dir < 0) ∨ (accum < 0 ∧ dir > 0) then 0 else accum
  let accum := accum + dir
  if accum ≥ transitionsPerDetent then (0, some .cw)
  else if accum ≤ -transitionsPerDetent then (0, some .ccw)
  else (accum, none)

/-- `QuadratureDecoder::update`. -/
def update (d : QuadratureDecoder) (pins : PinSample) : QuadratureDecoder × Option EncoderTick :=
  let curr := pins.encode
  let dir := direction d.prev curr
  if dir = 0 then ({ d with prev := curr }, none)
  else
    let (accum, tick) := accumulate d.accum dir
    (⟨curr, accum⟩, tick)

end QuadratureDecoder

/-- The decoder as a machine that answers a sample with a tick or nothing. -/
def quadrature : Machine QuadratureDecoder PinSample EncoderTick where
  step d pins := ((d.update pins).1, (d.update pins).2.toList)

end AnovaOven
