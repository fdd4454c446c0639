import P970.Lib.Buffer

/-!
# The pages of the framebuffer

`gr_init` maps the framebuffer as two surfaces, `gr_flip` copies the surface in
memory to the one that is not shown and pans to it, and the driver shows the rows
from `yoffset` on, each `line_length` bytes behind the one before. A byte of the
mapping carries who wrote it last.
-/

namespace P970.Recovery

/-- What is read of `struct fb_fix_screeninfo`. -/
structure FixScreenInfo where
  smemLen : Nat
  lineLength : Nat
  deriving DecidableEq, Repr

/-- What is used of `struct fb_var_screeninfo`. -/
structure VarScreenInfo where
  xres : Nat
  yres : Nat
  yresVirtual : Nat
  yoffset : Nat
  bitsPerPixel : Nat
  deriving DecidableEq, Repr

/-- `data` is the place of the first byte in the memory of the surface. -/
structure GGLSurface where
  width : Nat
  height : Nat
  stride : Nat
  data : Nat
  deriving DecidableEq, Repr

/-- The first of the two bytes of a pixel. -/
def GGLSurface.pixel (surface : GGLSurface) (x y : Nat) : Nat :=
  surface.data + 2 * (y * surface.stride + x)

/-- Byte `i` of `gr_mem_surface` at the `k`-th flip, counted from 0. -/
inductive Writer where
  | nobody
  | memset
  | flip (k i : Nat)
  deriving DecidableEq, Repr

structure Cell where
  byte : UInt8
  writer : Writer
  deriving DecidableEq, Repr

/-- `/dev/graphics/fb0`, where a call that fails gives nothing. -/
structure FbDevice where
  fix : Option FixScreenInfo
  var : Option VarScreenInfo
  map : Nat → Option (List UInt8)

/-- The variables of `graphics.c`; `flips` counts the flips. -/
structure Graphics where
  vi : VarScreenInfo
  framebuffer : List GGLSurface
  memSurface : GGLSurface
  memLength : Nat
  activeFb : Nat
  mapping : Buffer Cell
  flips : Nat
  deriving DecidableEq, Repr

/-- The bytes that `memset` and `memcpy` are given for a page. -/
def VarScreenInfo.pageSize (vi : VarScreenInfo) : Nat := Words.mul (Words.mul vi.yres vi.xres) 2

/-- `BOARD_HAS_JANKY_BACKBUFFER` or not. The pages are places in the mapping. -/
def getFramebuffer (janky : Bool) (dev : Option FbDevice) :
    Checked (Option (VarScreenInfo × List GGLSurface × Buffer Cell)) := do
  let some dev := dev | return none
  let some fi := dev.fix | return none
  let some vi := dev.var | return none
  let some bits := dev.map fi.smemLen | return none
  let stride := if janky then fi.lineLength / 2 else vi.xres
  let second := if janky then Words.mul vi.yres fi.lineLength else vi.pageSize
  let blank := List.replicate vi.pageSize ⟨0, .memset⟩
  let mapping ← (Buffer.fresh (bits.map (Cell.mk · .nobody))).storeAll 0 blank
  let mapping ← mapping.storeAll second blank
  return some (vi, [⟨vi.xres, vi.yres, stride, 0⟩, ⟨vi.xres, vi.yres, stride, second⟩], mapping)

/-- The surface and the length of its block. -/
def getMemorySurface (vi : VarScreenInfo) : GGLSurface × Nat :=
  (⟨vi.xres, vi.yres, vi.xres, 0⟩, Words.mul (Words.mul vi.xres vi.yres) 2)

/-- The `ioctl` may fail, which is only reported. -/
def Graphics.setActiveFramebuffer (n : Nat) (s : Graphics) : Graphics :=
  if n > 1 then s
  else
    { s with vi := { s.vi with
        yresVirtual := Words.mul s.vi.yres 2
        yoffset := Words.mul n s.vi.yres
        bitsPerPixel := 16 } }

def grInit (janky : Bool) (dev : Option FbDevice) : Checked (Option Graphics) := do
  let some (vi, framebuffer, mapping) ← getFramebuffer janky dev | return none
  let (memSurface, memLength) := getMemorySurface vi
  let s : Graphics :=
    { vi, framebuffer, memSurface, memLength, activeFb := 0, mapping, flips := 0 }
  return some (s.setActiveFramebuffer 0)

/-- `data` is what the drawing since the last flip has left in `gr_mem_surface`. -/
def Graphics.grFlip (data : Nat → UInt8) (s : Graphics) : Checked Graphics := do
  let active := (s.activeFb + 1) &&& 1
  let fb ← CInt.index s.framebuffer active
  let size := Words.mul (Words.mul s.vi.xres s.vi.yres) 2
  if size > s.memLength then .error .outOfBounds
  else
    let mapping ← s.mapping.storeAll fb.data
      ((List.range size).map fun i => ⟨data i, .flip s.flips i⟩)
    return { s with activeFb := active, mapping, flips := s.flips + 1 }.setActiveFramebuffer active

def Graphics.flipAll (surfaces : List (Nat → UInt8)) (s : Graphics) : Checked Graphics :=
  surfaces.foldlM (fun s data => s.grFlip data) s

/-! ## Geometries -/

/-- A screen with two pages of rows, mapped on a machine of 32 bits. -/
structure Screen where
  fix : FixScreenInfo
  var : VarScreenInfo
  bits : List UInt8
  pitch : 2 * var.xres ≤ fix.lineLength
  pages : 2 * var.yres * fix.lineLength ≤ fix.smemLen
  mapped : bits.length = fix.smemLen
  addressable : fix.smemLen < 2 ^ 32
  word : var.yres < 2 ^ 32

namespace Screen

def device (g : Screen) : FbDevice where
  fix := some g.fix
  var := some g.var
  map := fun _ => some g.bits

/-- Bytes of a page without what a row has behind its pixels. -/
def size (g : Screen) : Nat := 2 * (g.var.yres * g.var.xres)

/-- Where a page begins for the code. -/
def base (g : Screen) (janky : Bool) (n : Nat) : Nat :=
  n * if janky then g.var.yres * g.fix.lineLength else g.size

/-- The two surfaces of `gr_framebuffer`. -/
def surfaces (g : Screen) (janky : Bool) : List GGLSurface :=
  let stride := if janky then g.fix.lineLength / 2 else g.var.xres
  [⟨g.var.xres, g.var.yres, stride, 0⟩, ⟨g.var.xres, g.var.yres, stride, g.base janky 1⟩]

/-- Where the driver finds byte `j` of a pixel. -/
def shown (g : Screen) (yoffset x y j : Nat) : Nat :=
  (yoffset + y) * g.fix.lineLength + 2 * x + j

/-- The rows of a page, as the driver has them. -/
def Page (g : Screen) (n i : Nat) : Prop :=
  n * g.var.yres * g.fix.lineLength ≤ i ∧ i < (n + 1) * g.var.yres * g.fix.lineLength

section
variable (g : Screen) (janky : Bool)

theorem size_le : g.size ≤ g.var.yres * g.fix.lineLength := by
  have := Nat.mul_le_mul_left g.var.yres g.pitch
  rw [size, Nat.mul_left_comm]
  exact this

theorem two_pages : g.var.yres * g.fix.lineLength + g.var.yres * g.fix.lineLength ≤ g.fix.smemLen := by
  have := g.pages
  rw [Nat.mul_assoc] at this
  omega

theorem pageSize_eq : g.var.pageSize = g.size := by
  have hsize : g.size = 2 * (g.var.yres * g.var.xres) := rfl
  have hle := g.size_le
  have hpages := g.two_pages
  have haddr := g.addressable
  have hmul : Words.mul g.var.yres g.var.xres = g.var.yres * g.var.xres :=
    Words.mul_of_lt (by omega)
  rw [VarScreenInfo.pageSize, hmul, Words.mul_of_lt (by omega), hsize, Nat.mul_comm]

/-- `get_memory_surface` and `gr_flip` multiply the other way round. -/
theorem copySize_eq : Words.mul (Words.mul g.var.xres g.var.yres) 2 = g.size := by
  rw [← pageSize_eq, VarScreenInfo.pageSize, Words.mul, Words.mul, Words.mul, Words.mul,
    Nat.mul_comm g.var.xres]

theorem second_eq :
    (if janky then Words.mul g.var.yres g.fix.lineLength else g.size) = g.base janky 1 := by
  have hpages := g.two_pages
  have haddr := g.addressable
  rw [base, Nat.one_mul, Words.mul_of_lt (by omega)]

theorem yoffset_eq {n : Nat} (h : n < 2) : Words.mul n g.var.yres = n * g.var.yres := by
  have hle : n * g.var.yres ≤ 1 * g.var.yres := Nat.mul_le_mul_right _ (by omega)
  have hword := g.word
  exact Words.mul_of_lt (by omega)

theorem base_le {n : Nat} (h : n < 2) : g.base janky n + g.size ≤ g.fix.smemLen := by
  have hle := g.size_le
  have hpages := g.two_pages
  have hn : g.base janky n ≤ g.var.yres * g.fix.lineLength := by
    calc g.base janky n ≤ 1 * _ := Nat.mul_le_mul_right _ (by omega)
      _ ≤ g.var.yres * g.fix.lineLength := by
        rw [Nat.one_mul]
        split
        · exact Nat.le_refl _
        · exact hle
  omega

end

end Screen

end P970.Recovery
