import P970.Lib.CString
import P970.Recovery.Font

/-!
# Drawing

`gr_color`, `gr_fill`, `gr_text` and `gr_blit` as the calls they make to the GL,
whose state (color, texture, texture coordinates) lasts from one to the next. A
rectangle is drawn in the state of its moment (`Drawn`); with a texture that is
taken one texel for a pixel, pixel `(px, py)` gets the texel `(px + s, py + t)`.
`paint` says what a sequence of calls draws without any such state but the color
(`drawn_eq_paint`), and for a text which texel of the font each pixel gets
(`text_shows_font`).
-/

namespace P970.Recovery

/-! ## The GL -/

/-- `surface` is the one that is bound, 0 for the font; the environment replaces or not; `s` and
`t` are generated one to one or not. -/
structure TextureUnit where
  surface : Nat
  replace : Bool
  sOneToOne : Bool
  tOneToOne : Bool
  s : BitVec 32
  t : BitVec 32
  deriving DecidableEq, Repr

abbrev Color := List (BitVec 32)

/-- A rectangle, with the color and the texture it is drawn with. -/
structure Drawn where
  left : BitVec 32
  top : BitVec 32
  right : BitVec 32
  bottom : BitVec 32
  color : Color
  texture : Option TextureUnit
  deriving DecidableEq, Repr

structure GGLContext where
  color : Color
  unit : TextureUnit
  texture2d : Bool
  drawn : List Drawn
  deriving DecidableEq, Repr

namespace GGLContext

variable (gl : GGLContext)

def color4xv (color : Color) : GGLContext := { gl with color := color }

def bindTexture (surface : Nat) : GGLContext :=
  { gl with unit := { gl.unit with surface := surface } }

def texEnvReplace : GGLContext := { gl with unit := { gl.unit with replace := true } }

def texGenS : GGLContext := { gl with unit := { gl.unit with sOneToOne := true } }

def texGenT : GGLContext := { gl with unit := { gl.unit with tOneToOne := true } }

def enableTexture : GGLContext := { gl with texture2d := true }

def disableTexture : GGLContext := { gl with texture2d := false }

def texCoord2i (s t : BitVec 32) : GGLContext := { gl with unit := { gl.unit with s := s, t := t } }

def recti (left top right bottom : BitVec 32) : GGLContext :=
  { gl with drawn := gl.drawn ++
      [⟨left, top, right, bottom, gl.color, if gl.texture2d then some gl.unit else none⟩] }

/-- How `gr_text` and `gr_blit` begin. -/
def useTexture (surface : Nat) : GGLContext :=
  ((((gl.bindTexture surface).texEnvReplace).texGenS).texGenT).enableTexture

end GGLContext

/-! ## The calls of the recovery -/

/-- A C string without its NUL. -/
abbrev Text := { s : List UInt8 // CString.nul ∉ s }

def fontSurface : Nat := 0

/-- `((c << 8) | c) + 1`. -/
def colorOf (c : UInt8) : BitVec 32 :=
  ((BitVec.ofNat 32 c.toNat <<< 8) ||| BitVec.ofNat 32 c.toNat) + 1

def grColor (r g b a : UInt8) (gl : GGLContext) : GGLContext :=
  gl.color4xv [colorOf r, colorOf g, colorOf b, colorOf a]

/-- `off`, an `unsigned`; a `char` of the device is not signed. -/
def charOff (c : UInt8) : BitVec 32 := BitVec.ofNat 32 c.toNat - 32

def grMeasure (font : GRFont) (s : Text) : BitVec 32 := font.cwidth * BitVec.ofNat 32 s.1.length

/-- The loop of `gr_text_impl`, and the `x` it ends with. -/
def textLoop (font : GRFont) (y : BitVec 32) : List UInt8 → BitVec 32 → GGLContext →
    BitVec 32 × GGLContext
  | [], x, gl => (x, gl)
  | c :: s, x, gl =>
    let off := charOff c
    let gl :=
      if off < 96 then
        (gl.texCoord2i (off * font.cwidth - x) (0 - y)).recti x y (x + font.cwidth)
          (y + font.cheight)
      else gl
    textLoop font y s (x + font.cwidth) gl

/-- `gr_text` draws nothing in bold. -/
def grText (font : GRFont) (x y : BitVec 32) (s : Text) (gl : GGLContext) :
    BitVec 32 × GGLContext :=
  textLoop font (y - font.ascent) s.1 x (gl.useTexture fontSurface)

/-- `w` and `h` go to the GL as the right and the bottom. -/
def grFill (x y w h : BitVec 32) (gl : GGLContext) : GGLContext :=
  gl.disableTexture.recti x y w h

def grBlit (source : Nat) (sx sy w h dx dy : BitVec 32) (gl : GGLContext) : GGLContext :=
  ((gl.useTexture source).texCoord2i (sx - dx) (sy - dy)).recti dx dy (dx + w) (dy + h)

inductive Draw where
  | color (r g b a : UInt8)
  | fill (x y w h : BitVec 32)
  | text (x y : BitVec 32) (s : Text)
  | blit (source : Nat) (sx sy w h dx dy : BitVec 32)

def draw (font : GRFont) : Draw → GGLContext → GGLContext
  | .color r g b a, gl => grColor r g b a gl
  | .fill x y w h, gl => grFill x y w h gl
  | .text x y s, gl => (grText font x y s gl).2
  | .blit source sx sy w h dx dy, gl => grBlit source sx sy w h dx dy gl

def drawAll (font : GRFont) (draws : List Draw) (gl : GGLContext) : GGLContext :=
  draws.foldl (fun gl d => draw font d gl) gl

/-! ## What is painted -/

/-- A texel for each pixel: of `surface`, `s` to the right and `t` below the pixel's place. -/
inductive Ink where
  | solid
  | texels (surface : Nat) (s t : BitVec 32)
  deriving DecidableEq, Repr

structure Shape where
  left : BitVec 32
  top : BitVec 32
  right : BitVec 32
  bottom : BitVec 32
  color : Color
  ink : Ink
  deriving DecidableEq, Repr

/-- The shape of a rectangle, where its texture is taken one texel for a pixel. -/
def Drawn.shape (d : Drawn) : Option Shape :=
  match d.texture with
  | none => some ⟨d.left, d.top, d.right, d.bottom, d.color, .solid⟩
  | some u =>
    if u.replace && u.sOneToOne && u.tOneToOne then
      some ⟨d.left, d.top, d.right, d.bottom, d.color, .texels u.surface u.s u.t⟩
    else none

/-- Character `c` in column `k` of a text at `(x, top)`. -/
def glyph (font : GRFont) (color : Color) (x top : BitVec 32) (c : UInt8) (k : Nat) :
    Option Shape :=
  let left := x + BitVec.ofNat 32 k * font.cwidth
  if 32 ≤ c ∧ c < 128 then
    some ⟨left, top, left + font.cwidth, top + font.cheight, color,
      .texels fontSurface (charOff c * font.cwidth - left) (0 - top)⟩
  else none

def textShapes (font : GRFont) (color : Color) (x y : BitVec 32) (s : Text) : List Shape :=
  s.1.zipIdx.filterMap fun p => glyph font color x (y - font.ascent) p.1 p.2

/-- The shapes of a call, and the color after it. -/
def Draw.paint (font : GRFont) (color : Color) : Draw → List Shape × Color
  | .color r g b a => ([], [colorOf r, colorOf g, colorOf b, colorOf a])
  | .fill x y w h => ([⟨x, y, w, h, color, .solid⟩], color)
  | .text x y s => (textShapes font color x y s, color)
  | .blit source sx sy w h dx dy =>
    ([⟨dx, dy, dx + w, dy + h, color, .texels source (sx - dx) (sy - dy)⟩], color)

def paint (font : GRFont) : List Draw → Color → List Shape
  | [], _ => []
  | d :: draws, color => (d.paint font color).1 ++ paint font draws (d.paint font color).2

/-! ## The calls paint what they should -/

/-- `gl'` is `gl` with these shapes drawn, the color being `color`. -/
structure Paints (gl gl' : GGLContext) (shapes : List Shape) (color : Color) : Prop where
  drawn : gl'.drawn.map Drawn.shape = gl.drawn.map Drawn.shape ++ shapes.map some
  color : gl'.color = color

theorem Paints.trans {gl gl' gl'' : GGLContext} {xs ys : List Shape} {c c' : Color}
    (h : Paints gl gl' xs c) (h' : Paints gl' gl'' ys c') : Paints gl gl'' (xs ++ ys) c' where
  drawn := by rw [h'.drawn, h.drawn, List.map_append, List.append_assoc]
  color := h'.color

theorem paints_recti {gl : GGLContext} {shape : Shape} {l t r b : BitVec 32}
    (h : Drawn.shape ⟨l, t, r, b, gl.color, if gl.texture2d then some gl.unit else none⟩ =
      some shape) : Paints gl (gl.recti l t r b) [shape] gl.color where
  drawn := by
    rw [GGLContext.recti, List.map_append, List.map_singleton, h]
    rfl
  color := rfl

/-- The texture is on, and taken one texel for a pixel. -/
structure GGLContext.OneToOne (gl : GGLContext) (surface : Nat) : Prop where
  on : gl.texture2d = true
  surface : gl.unit.surface = surface
  modes : (gl.unit.replace && gl.unit.sOneToOne && gl.unit.tOneToOne) = true

theorem oneToOne_useTexture (gl : GGLContext) (surface : Nat) :
    (gl.useTexture surface).OneToOne surface := ⟨rfl, rfl, rfl⟩

theorem GGLContext.OneToOne.paints {gl : GGLContext} {surface : Nat} (h : gl.OneToOne surface)
    (s t l top r b : BitVec 32) : Paints gl ((gl.texCoord2i s t).recti l top r b)
      [⟨l, top, r, b, gl.color, .texels surface s t⟩] gl.color := by
  have hon : (gl.texCoord2i s t).texture2d = true := h.on
  have hmodes : ((gl.texCoord2i s t).unit.replace && (gl.texCoord2i s t).unit.sOneToOne &&
      (gl.texCoord2i s t).unit.tOneToOne) = true := h.modes
  have hp : Paints (gl.texCoord2i s t) ((gl.texCoord2i s t).recti l top r b)
      [⟨l, top, r, b, gl.color, .texels surface s t⟩] gl.color := by
    refine paints_recti ?_
    simp only [hon, if_true, Drawn.shape]
    rw [if_pos hmodes, ← h.surface]
    rfl
  exact ⟨hp.drawn, hp.color⟩

/-- A character is drawn when its number is one of the 96. -/
theorem charOff_lt (c : UInt8) : charOff c < 96 ↔ 32 ≤ c ∧ c < 128 := by
  have hc := c.toNat_lt
  have h32 : (32 : BitVec 32).toNat = 32 := rfl
  have h96 : (96 : BitVec 32).toNat = 96 := rfl
  rw [UInt8.le_iff_toNat_le, UInt8.lt_iff_toNat_lt, charOff, BitVec.lt_def, BitVec.toNat_sub,
    BitVec.toNat_ofNat, h32, h96]
  simp only [UInt8.toNat_ofNat]
  omega

/-- From column `k` on. -/
theorem paints_textLoop (font : GRFont) (x₀ y : BitVec 32) (s : List UInt8) (k : Nat)
    (gl : GGLContext) (h : gl.OneToOne fontSurface) :
    Paints gl (textLoop font y s (x₀ + BitVec.ofNat 32 k * font.cwidth) gl).2
      ((s.zipIdx k).filterMap fun p => glyph font gl.color x₀ y p.1 p.2) gl.color ∧
    (textLoop font y s (x₀ + BitVec.ofNat 32 k * font.cwidth) gl).1 =
      x₀ + BitVec.ofNat 32 (k + s.length) * font.cwidth := by
  induction s generalizing k gl with
  | nil => exact ⟨⟨(List.append_nil _).symm, rfl⟩, rfl⟩
  | cons c s ih =>
    have hx : x₀ + BitVec.ofNat 32 k * font.cwidth + font.cwidth =
        x₀ + BitVec.ofNat 32 (k + 1) * font.cwidth := by
      rw [BitVec.ofNat_add, BitVec.add_mul, BitVec.add_assoc]
      simp
    rw [textLoop, List.zipIdx_cons, List.filterMap_cons, List.length_cons,
      show k + (s.length + 1) = k + 1 + s.length by omega, hx]
    generalize hl : x₀ + BitVec.ofNat 32 k * font.cwidth = left
    by_cases hc : charOff c < 96
    · have hg : glyph font gl.color x₀ y c k = some ⟨left, y, left + font.cwidth, y + font.cheight,
          gl.color, .texels fontSurface (charOff c * font.cwidth - left) (0 - y)⟩ := by
        rw [← hl]
        exact if_pos ((charOff_lt c).mp hc)
      have hp := h.paints (charOff c * font.cwidth - left) (0 - y) left y (left + font.cwidth)
        (y + font.cheight)
      have hone : ((gl.texCoord2i (charOff c * font.cwidth - left) (0 - y)).recti left y
          (left + font.cwidth) (y + font.cheight)).OneToOne fontSurface :=
        ⟨h.on, h.surface, h.modes⟩
      obtain ⟨hrest, hend⟩ := ih (k + 1) _ hone
      rw [hp.color] at hrest
      rw [hl] at hx
      simp only [hg, if_pos hc, hx]
      rw [hx] at hp hrest hend
      exact ⟨hp.trans hrest, hend⟩
    · have hg : glyph font gl.color x₀ y c k = none := if_neg (mt (charOff_lt c).mpr hc)
      simp only [hg, if_neg hc]
      exact ih (k + 1) gl h

theorem paints_draw (font : GRFont) (d : Draw) (gl : GGLContext) :
    Paints gl (draw font d gl) (d.paint font gl.color).1 (d.paint font gl.color).2 := by
  cases d with
  | color r g b a => exact ⟨(List.append_nil _).symm, rfl⟩
  | fill x y w h =>
    have hp : Paints gl.disableTexture (gl.disableTexture.recti x y w h)
        [⟨x, y, w, h, gl.color, .solid⟩] gl.color := paints_recti rfl
    exact ⟨hp.drawn, hp.color⟩
  | text x y s =>
    have hp := (paints_textLoop font x (y - font.ascent) s.1 0 _
      (oneToOne_useTexture gl fontSurface)).1
    rw [show x + BitVec.ofNat 32 0 * font.cwidth = x by simp] at hp
    exact ⟨hp.drawn, hp.color⟩
  | blit source sx sy w h dx dy =>
    have hp := (oneToOne_useTexture gl source).paints (sx - dx) (sy - dy) dx dy (dx + w) (dy + h)
    exact ⟨hp.drawn, hp.color⟩

/-- Whatever state the GL is in, the calls draw what `paint` says, which looks at the color alone. -/
theorem drawn_eq_paint (font : GRFont) (draws : List Draw) (gl : GGLContext) :
    (drawAll font draws gl).drawn.map Drawn.shape =
      gl.drawn.map Drawn.shape ++ (paint font draws gl.color).map some := by
  induction draws generalizing gl with
  | nil => exact (List.append_nil _).symm
  | cons d draws ih =>
    have hp := paints_draw font d gl
    have hrest := ih (draw font d gl)
    rw [hp.color] at hrest
    rw [paint, List.map_append, ← List.append_assoc, ← hp.drawn]
    exact hrest

/-- `gr_text` ends where `gr_measure` says. -/
theorem grText_fst (font : GRFont) (x y : BitVec 32) (s : Text) (gl : GGLContext) :
    (grText font x y s gl).1 = x + grMeasure font s := by
  have hend := (paints_textLoop font x (y - font.ascent) s.1 0 _
    (oneToOne_useTexture gl fontSurface)).2
  rw [show x + BitVec.ofNat 32 0 * font.cwidth = x by simp, Nat.zero_add] at hend
  rw [grMeasure, BitVec.mul_comm]
  exact hend

/-! ## The pixels of a text -/

/-- The pixels of a rectangle. -/
def Shape.Covers (shape : Shape) (px py : Int) : Prop :=
  shape.left.toInt ≤ px ∧ px < shape.right.toInt ∧
    shape.top.toInt ≤ py ∧ py < shape.bottom.toInt

/-- The texel of the font a pixel gets. -/
def Shape.texel (shape : Shape) (px py : Int) : Option (Nat × Nat) :=
  match shape.ink with
  | .texels surface s t =>
    if surface = fontSurface then
      some ((BitVec.ofInt 32 px + s).toNat, (BitVec.ofInt 32 py + t).toNat)
    else none
  | .solid => none

/-- A texel that was written. -/
def GRFont.alpha (font : GRFont) (u v : Nat) : Option UInt8 :=
  font.bits.cells[v * font.texture.stride + u]?.join

/-- One of the shapes gives the pixel this texel. -/
def Shows (font : GRFont) (shapes : List Shape) (px py : Int) (a : UInt8) : Prop :=
  ∃ shape ∈ shapes, shape.Covers px py ∧
    ∃ u v, shape.texel px py = some (u, v) ∧ font.alpha u v = some a

/-- The text stays inside the range of an `int`, and the characters of the font in an `unsigned`. -/
structure TextFits (font : GRFont) (x y : BitVec 32) (s : Text) : Prop where
  right : x.toInt + (s.1.length * font.cwidth.toNat : Nat) < 2 ^ 31
  top : -2 ^ 31 ≤ y.toInt - font.ascent.toNat
  bottom : y.toInt - font.ascent.toNat + font.cheight.toNat < 2 ^ 31
  glyphs : 96 * font.cwidth.toNat < 2 ^ 32

theorem toInt_sub_toNat {y n : BitVec 32} (h : -2 ^ 31 ≤ y.toInt - n.toNat) :
    (y - n).toInt = y.toInt - n.toNat := by
  have hy := BitVec.toInt_lt (x := y)
  have hn := n.isLt
  rw [BitVec.toInt_sub, BitVec.toInt_eq_toNat_bmod n, Int.sub_bmod_bmod,
    Int.bmod_eq_of_le (by omega) (by omega)]

theorem toInt_add_toNat {x n : BitVec 32} (h : x.toInt + n.toNat < 2 ^ 31) :
    (x + n).toInt = x.toInt + n.toNat := by
  have hx := BitVec.le_toInt x
  rw [BitVec.toInt_add, BitVec.toInt_eq_toNat_bmod n, Int.add_bmod_bmod,
    Int.bmod_eq_of_le (by omega) (by omega)]

/-- The place of a pixel, moved so that `left` comes to `base`. -/
theorem toNat_texel (left base : BitVec 32) {i : Nat} (h : base.toNat + i < 2 ^ 32) :
    (BitVec.ofInt 32 (left.toInt + i) + (base - left)).toNat = base.toNat + i := by
  have he : BitVec.ofInt 32 (left.toInt + i) + (base - left) = base + BitVec.ofNat 32 i := by
    rw [BitVec.ofInt_add, BitVec.ofInt_toInt, BitVec.ofInt_natCast]
    bv_omega
  rw [he, BitVec.toNat_add, BitVec.toNat_ofNat]
  omega

/-- Column `k` of a text at `x` begins at this place. -/
theorem toInt_column {font : GRFont} {x y : BitVec 32} {s : Text} (h : TextFits font x y s)
    {k : Nat} (hk : k < s.1.length) :
    (x + BitVec.ofNat 32 k * font.cwidth).toInt = x.toInt + (k * font.cwidth.toNat : Nat) ∧
    (x + BitVec.ofNat 32 k * font.cwidth + font.cwidth).toInt =
      x.toInt + (k * font.cwidth.toNat : Nat) + font.cwidth.toNat := by
  have hkw : (k + 1) * font.cwidth.toNat ≤ s.1.length * font.cwidth.toNat :=
    Nat.mul_le_mul_right _ hk
  have hright := h.right
  have hx := BitVec.le_toInt x
  rw [Nat.succ_mul] at hkw
  have hcol : (BitVec.ofNat 32 k * font.cwidth).toNat = k * font.cwidth.toNat := by
    rw [BitVec.toNat_mul, BitVec.toNat_ofNat, Nat.mod_mul_mod, Nat.mod_eq_of_lt (by omega)]
  have hleft : (x + BitVec.ofNat 32 k * font.cwidth).toInt =
      x.toInt + (k * font.cwidth.toNat : Nat) := by
    rw [toInt_add_toNat (by rw [hcol]; omega), hcol]
  refine ⟨hleft, ?_⟩
  rw [toInt_add_toNat (by rw [hleft]; omega), hleft]

/-- Character `c` in column `k`. -/
theorem glyph_shows {font : GRFont} {x y : BitVec 32} {s : Text} (h : TextFits font x y s)
    {color : Color} {c : UInt8} {k : Nat} (hk : k < s.1.length) {shape : Shape}
    (hg : glyph font color x (y - font.ascent) c k = some shape) :
    (32 ≤ c ∧ c < 128) ∧ (∀ px py, shape.Covers px py ↔
      ∃ i j : Nat, i < font.cwidth.toNat ∧ j < font.cheight.toNat ∧
        px = x.toInt + (k * font.cwidth.toNat : Nat) + i ∧
        py = y.toInt - font.ascent.toNat + j) ∧
    ∀ i j : Nat, i < font.cwidth.toNat → j < font.cheight.toNat →
      shape.texel (x.toInt + (k * font.cwidth.toNat : Nat) + i)
        (y.toInt - font.ascent.toNat + j) =
          some ((c.toNat - 32) * font.cwidth.toNat + i, j) := by
  unfold glyph at hg
  simp only at hg
  split at hg
  · next hc =>
    obtain rfl := Option.some.inj hg
    obtain ⟨hleft, hright⟩ := toInt_column h hk
    have htop := toInt_sub_toNat h.top
    have hbottom : (y - font.ascent + font.cheight).toInt =
        y.toInt - font.ascent.toNat + font.cheight.toNat := by
      rw [toInt_add_toNat (by rw [htop]; exact h.bottom), htop]
    refine ⟨hc, fun px py => ?_, fun i j hi hj => ?_⟩
    · unfold Shape.Covers
      simp only [hleft, hright, htop, hbottom]
      constructor
      · rintro ⟨h1, h2, h3, h4⟩
        exact ⟨(px - (x.toInt + (k * font.cwidth.toNat : Nat))).toNat,
          (py - (y.toInt - font.ascent.toNat)).toNat, by omega, by omega, by omega, by omega⟩
      · rintro ⟨i, j, hi, hj, rfl, rfl⟩
        omega
    · -- the number of the character, and its place in the row of the font
      have hlow : 32 ≤ c.toNat := by simpa [UInt8.le_iff_toNat_le] using hc.1
      have hhigh : c.toNat < 128 := by simpa [UInt8.lt_iff_toNat_lt] using hc.2
      have hoff : (charOff c).toNat = c.toNat - 32 := by
        rw [charOff, BitVec.toNat_sub, BitVec.toNat_ofNat, show (32 : BitVec 32).toNat = 32 from rfl]
        omega
      have hcell : (c.toNat - 32 + 1) * font.cwidth.toNat ≤ 96 * font.cwidth.toNat :=
        Nat.mul_le_mul_right _ (by omega)
      have hglyphs := h.glyphs
      rw [Nat.succ_mul] at hcell
      have hbase : (charOff c * font.cwidth).toNat = (c.toNat - 32) * font.cwidth.toNat := by
        rw [BitVec.toNat_mul, hoff, Nat.mod_eq_of_lt (by omega)]
      have h0 : (0 : BitVec 32).toNat = 0 := rfl
      have hrow := font.cheight.isLt
      have hu := toNat_texel (x + BitVec.ofNat 32 k * font.cwidth) (charOff c * font.cwidth) (i := i)
        (by rw [hbase]; omega)
      have hv := toNat_texel (y - font.ascent) 0 (i := j) (by rw [h0]; omega)
      rw [hleft, hbase] at hu
      rw [htop, h0, Nat.zero_add] at hv
      simp only [Shape.texel, if_true, hu, hv]
  · cases hg

theorem alpha_unpacked {file : FontFile} {font : GRFont} (hf : grInitFont file = .ok font)
    (u v : Nat) : font.alpha u v = file.image[v * file.width.toNat + u]? := by
  obtain ⟨-, -, -, hstride⟩ := grInitFont_sizes hf
  rw [GRFont.alpha, (grInitFont_ok hf).2.2, hstride]
  generalize v * file.width.toNat + u = n
  by_cases hn : n < file.image.length
  · rw [List.getElem?_append_left (by rwa [List.length_map]), List.getElem?_map,
      List.getElem?_eq_getElem hn]
    rfl
  · rw [List.getElem?_append_right (by rw [List.length_map]; omega), List.getElem?_replicate,
      List.getElem?_eq_none (by omega)]
    split <;> rfl

/-- `gr_text` adds shapes, whatever was drawn before, that give each pixel of the cell of a printable
character the texel of this character's cell in the font's image, and no other pixel one. -/
theorem text_shows_font {file : FontFile} {font : GRFont} (hf : grInitFont file = .ok font)
    {x y : BitVec 32} {s : Text} (h : TextFits font x y s) (gl : GGLContext) :
    ∃ shapes, (grText font x y s gl).2.drawn.map Drawn.shape =
        gl.drawn.map Drawn.shape ++ shapes.map some ∧
      ∀ px py a, Shows font shapes px py a ↔ ∃ (k : Nat) (c : UInt8) (i j : Nat),
        s.1[k]? = some c ∧ (32 ≤ c ∧ c < 128) ∧ i < font.cwidth.toNat ∧ j < font.cheight.toNat ∧
        px = x.toInt + (k * font.cwidth.toNat : Nat) + i ∧
        py = y.toInt - font.ascent.toNat + j ∧
        file.image[j * file.width.toNat + ((c.toNat - 32) * font.cwidth.toNat + i)]? = some a := by
  refine ⟨textShapes font gl.color x y s, ?_, fun px py a => ?_⟩
  · have hp := paints_draw font (.text x y s) gl
    exact hp.drawn
  constructor
  · rintro ⟨shape, hm, hcov, u, v, htex, ha⟩
    obtain ⟨⟨c, k⟩, hck, hg⟩ := List.mem_filterMap.mp hm
    have hsk : s.1[k]? = some c := List.mem_zipIdx_iff_getElem?.mp hck
    obtain ⟨hk, -⟩ := List.getElem?_eq_some_iff.mp hsk
    obtain ⟨hc, hcovers, htexel⟩ := glyph_shows h hk hg
    obtain ⟨i, j, hi, hj, rfl, rfl⟩ := (hcovers px py).mp hcov
    rw [htexel i j hi hj, Option.some.injEq, Prod.mk.injEq] at htex
    obtain ⟨rfl, rfl⟩ := htex
    exact ⟨k, c, i, j, hsk, hc, hi, hj, rfl, rfl, (alpha_unpacked hf _ _).symm.trans ha⟩
  · rintro ⟨k, c, i, j, hsk, hc, hi, hj, rfl, rfl, ha⟩
    obtain ⟨hk, -⟩ := List.getElem?_eq_some_iff.mp hsk
    obtain ⟨shape, hg⟩ : ∃ shape, glyph font gl.color x (y - font.ascent) c k = some shape :=
      ⟨_, if_pos hc⟩
    obtain ⟨-, hcovers, htexel⟩ := glyph_shows h hk hg
    exact ⟨shape, List.mem_filterMap.mpr ⟨(c, k), List.mem_zipIdx_iff_getElem?.mpr hsk, hg⟩,
      (hcovers _ _).mpr ⟨i, j, hi, hj, rfl, rfl⟩, _, _, htexel i j hi hj,
      (alpha_unpacked hf _ _).trans ha⟩

/-- A font of 96 characters, one texel wide, with the first 33 texels set. -/
def barFont : FontFile := ⟨96, 3, 1, 3, [0xa1, 0]⟩

def emptyContext : GGLContext := ⟨[], ⟨fontSurface, false, false, false, 0, 0⟩, false, []⟩

/-- The `@` of such a font is set in its first row. -/
theorem text_shows_font_at : ∃ font shapes,
    (grText font 10 20 ⟨[0x40], by decide⟩ emptyContext).2.drawn.map Drawn.shape =
      shapes.map some ∧ Shows font shapes 10 19 255 := by
  obtain ⟨font, hf⟩ := grInitFont_of_fits barFont (by decide) (by decide)
  obtain ⟨hw, hh, ha, -⟩ := grInitFont_sizes hf
  have h : TextFits font 10 20 ⟨[0x40], by decide⟩ := by
    refine ⟨?_, ?_, ?_, ?_⟩ <;> simp only [hw, hh, ha] <;> decide
  obtain ⟨shapes, hs, hp⟩ := text_shows_font hf h emptyContext
  refine ⟨font, shapes, hs,
    (hp 10 19 255).mpr ⟨0, 0x40, 0, 0, rfl, by decide, ?_, ?_, ?_, ?_, ?_⟩⟩
  all_goals simp only [hw, hh, ha]; decide

end P970.Recovery
