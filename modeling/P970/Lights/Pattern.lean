import P970.Lib.CInt
import P970.Lib.Printf

/-!
# The notification light

`set_light_notifications` of liblights, from the state the framework hands it to
what it writes to the LED driver. An `enum` is an `unsigned int`; a wave carries
the bit `INV` beside its number until it is printed. The result of a run is what
is written, file by file, or the first operation that has no defined result.
-/

namespace P970.Lights

open P970.Printf (printInt printNat)

/-- `struct light_state_t`. -/
structure LightState where
  color : BitVec 32
  flashMode : CInt
  flashOnMS : CInt
  flashOffMS : CInt
  deriving DecidableEq

def lightFlashTimed : CInt := ⟨1, by decide⟩
def lightFlashHardware : CInt := ⟨2, by decide⟩

def ledPath : String := "/sys/devices/platform/omap/omap_i2c.2/i2c-2/2-001a/"

abbrev Cycle := BitVec 32

def cycle131Ms : Cycle := 0
def cycle052S : Cycle := 1
def cycle105S : Cycle := 2
def cycle210S : Cycle := 3
def cycle419S : Cycle := 4
def cycle839S : Cycle := 5
def cycle126S : Cycle := 6
def cycle168S : Cycle := 7

abbrev Wave := BitVec 32

def wave17 : Wave := 0
def wave26 : Wave := 1
def wave44 : Wave := 3
def wave62 : Wave := 5
def wave71 : Wave := 6
def wave8 : Wave := 7
def wave224 : Wave := 8
def wave422 : Wave := 9
def wave143 : Wave := 12
def wave242 : Wave := 13
def wave341 : Wave := 14

/-- The states of the eight slots of a cycle under a wave. -/
def waveSlots : List (List Nat) :=
  [[1, 2, 2, 2, 2, 2, 2, 2], [1, 1, 2, 2, 2, 2, 2, 2], [1, 1, 1, 2, 2, 2, 2, 2],
    [1, 1, 1, 1, 2, 2, 2, 2], [1, 1, 1, 1, 1, 2, 2, 2], [1, 1, 1, 1, 1, 1, 2, 2],
    [1, 1, 1, 1, 1, 1, 1, 2], [1, 1, 1, 1, 1, 1, 1, 1], [1, 1, 2, 2, 1, 1, 1, 1],
    [1, 1, 1, 1, 2, 2, 1, 1], [1, 2, 2, 1, 1, 2, 2, 1], [1, 1, 2, 2, 1, 1, 2, 2],
    [1, 2, 2, 2, 2, 1, 1, 1], [1, 1, 2, 2, 2, 2, 1, 1], [1, 1, 1, 2, 2, 2, 2, 1],
    [1, 2, 1, 2, 1, 2, 1, 2]]

abbrev Slope := BitVec 32

def slope4th : Slope := 3

def inv : Wave := 256

/-- The LEDs from left to right: four white ones, two blue ones. -/
def leds : Nat := 6

def isWhite (led : Nat) : Bool := led ≤ 3

/-! ## Colors -/

def rgbCoeffAvg (color : BitVec 32) (r g b : CInt) : Checked CInt := do
  let red ← r.mul (CInt.ofBits (color.sshiftRight 16 &&& 0xff))
  let green ← g.mul (CInt.ofBits (color.sshiftRight 8 &&& 0xff))
  let blue ← b.mul (CInt.ofBits (color &&& 0xff))
  let sum ← (← red.add green).add blue
  sum.div (← (← r.add g).add b)

structure Wb where
  white : CInt
  blue : CInt

def rgbToWb (color : BitVec 32) : Checked Wb := do
  let white ← rgbCoeffAvg color ⟨87, by decide⟩ ⟨169, by decide⟩ ⟨0, by decide⟩
  let blue ← (CInt.ofBits (color &&& 0xff)).sub white
  if blue.1 < 0 then
    let white ← rgbCoeffAvg color ⟨77, by decide⟩ ⟨150, by decide⟩ ⟨29, by decide⟩
    return ⟨white, ⟨0, by decide⟩⟩
  return ⟨white, blue⟩

/-! ## Patterns -/

structure Pattern where
  special : Bool
  cycle : Cycle
  slope : Slope
  waves : List Wave

def b (cycle : Cycle) (wave : Wave) : Pattern := ⟨false, cycle, slope4th, List.replicate leds wave⟩

def cycleFromFlashMS (flashMS : CInt) : Cycle :=
  if flashMS.1 ≤ 1 * 131 then cycle131Ms
  else if flashMS.1 ≤ 4 * 131 then cycle052S
  else if flashMS.1 ≤ 8 * 131 then cycle105S
  else if flashMS.1 ≤ 16 * 131 then cycle210S
  else if flashMS.1 ≤ 32 * 131 then cycle419S
  else if flashMS.1 ≤ 64 * 131 then cycle839S
  else if flashMS.1 ≤ 96 * 131 then cycle126S
  else cycle168S

/-- `ID` of the source. -/
def ledWaves (w0 w1 w2 w3 b0 b1 v : Wave) : List Wave :=
  [w0 ^^^ v, w1 ^^^ v, w2 ^^^ v, w3 ^^^ v, b0, b1]

def idinv (w0 w1 w2 w3 b0 b1 : Wave) : List (List Wave) :=
  [ledWaves w0 w1 w2 w3 b0 b1 0, ledWaves w0 w1 w2 w3 b0 b1 inv]

def both (w0 w1 w2 w3 b01 : Wave) : List (List Wave) :=
  [ledWaves w0 w1 w2 w3 b01 b01 0, ledWaves w3 w2 w1 w0 b01 b01 0]

def all (w0 w1 w2 w3 b01 : Wave) : List (List Wave) :=
  idinv w0 w1 w2 w3 b01 b01 ++ idinv w3 w2 w1 w0 b01 b01

def inout (w03 w12 b01 : Wave) : List (List Wave) :=
  [ledWaves w03 w12 w12 w03 b01 b01 0, ledWaves w12 w03 w03 w12 b01 b01 0]

def specialWaves : List (List Wave) :=
  both wave143 wave242 wave341 wave44 (wave8 ||| inv) ++
  all (wave26 ||| inv) wave224 wave422 wave62 (wave8 ||| inv) ++
  inout wave224 wave422 wave242 ++
  inout (wave17 ||| inv) wave71 wave8 ++
  [[wave44, wave44 ||| inv, wave44 ||| inv, wave44, wave8 ||| inv, wave8 ||| inv]] ++
  [[wave224, wave224, wave224, wave224, wave62, wave62]] ++
  inout (wave17 ||| inv) (wave26 ||| inv) (wave26 ||| inv) ++
  inout wave62 wave71 wave62

/-- The cycle of a special pattern. -/
def specialCycle (flashOnMS : CInt) : Cycle :=
  if flashOnMS.1 = 5000 then cycle419S
  else if flashOnMS.1 = 2500 then cycle210S
  else if flashOnMS.1 = 1000 then cycle105S
  else if flashOnMS.1 = 500 then cycle052S
  else if flashOnMS.1 = 250 then cycle131Ms
  else cycle210S

def patternFromLightState (state : LightState) : Checked Pattern := do
  let flashMS ← state.flashOnMS.add state.flashOffMS
  if state.flashMode = lightFlashHardware then return b cycle210S wave44
  if state.flashMode ≠ lightFlashTimed then return b cycle210S (wave8 ||| inv)
  if state.flashOnMS.1 = 0 then return b cycle210S (wave8 ||| inv)
  if state.flashOffMS.1 = 0 then
    if state.flashOnMS.1 = 1 then return b cycle210S wave8
    return ⟨true, specialCycle state.flashOnMS, 0, List.replicate leds 0⟩
  let product ← CInt.mul ⟨7, by decide⟩ state.flashOffMS
  let wave ← product.div flashMS
  return b (cycleFromFlashMS flashMS) wave.bits

/-! ## Writing it -/

/-- `value[led]` for each LED. -/
def ledValues (white blue : CInt) : List CInt :=
  (List.range leds).map fun led => if isWhite led then white else blue

/-- The values and the pattern of a special one: the higher four bits of each color are the
brightness, the lower four the slope and the row of `special_waves`. -/
def specialPattern (color : BitVec 32) (p : Pattern) : Checked (List CInt × Pattern) := do
  let average ← rgbCoeffAvg (color &&& 0xf0f000) ⟨87, by decide⟩ ⟨169, by decide⟩ ⟨0, by decide⟩
  let white ← (← average.mul ⟨0xff, by decide⟩).div ⟨0xf0, by decide⟩
  let blue := CInt.ofBits ((color &&& 0xf0) * 0xff / 0xf0)
  let rl := color >>> 16 &&& 0xf
  let gl := color >>> 8 &&& 0xf
  let bl := color &&& 0xf
  let waves ← (List.range leds).mapM fun led => do
    CInt.index (← CInt.index specialWaves (gl ^^^ bl).toNat) led
  return (ledValues white blue, { p with slope := rl >>> 2 ^^^ (rl &&& 3), waves := waves })

def plainPattern (color : BitVec 32) (p : Pattern) : Checked (List CInt × Pattern) := do
  let wb ← rgbToWb color
  return (ledValues wb.white wb.blue, p)

/-- `"%d %d %d -"`. -/
def headText (p : Pattern) : List Char :=
  printInt p.cycle.toInt ++ ' ' :: printInt p.slope.toInt ++ ' ' :: printInt p.slope.toInt ++
    [' ', '-']

/-- The two intensities and the wave that are printed of an LED. -/
def ledLevels (wave : Wave) (value : CInt) : Nat × Nat × Nat :=
  let i := wave &&& inv
  let val := value.bits
  let val0 := if i &&& inv ≠ 0 then val else 0
  let val1 := if i = 0 then val else 0
  ((val0 * 100 / 255).toNat, (val1 * 100 / 255).toNat, (wave &&& ~~~inv).toNat)

/-- `" %u %u %u,"`. -/
def ledText (x : Nat × Nat × Nat) : List Char :=
  ' ' :: printNat x.1 ++ ' ' :: printNat x.2.1 ++ ' ' :: printNat x.2.2 ++ [',']

/-- The contents of `buf` up to the offset. -/
def patternText (value : List CInt) (p : Pattern) : List Char :=
  Printf.appendAll 256 [] (headText p :: (p.waves.zipWith ledLevels value).map ledText)

def setLightNotifications (state : LightState) : Checked (List (String × List Char)) := do
  let p ← patternFromLightState state
  let r ← if p.special then specialPattern state.color p else plainPattern state.color p
  return [(ledPath ++ "brightness", printInt 63), (ledPath ++ "pattern", patternText r.1 r.2)]

end P970.Lights
