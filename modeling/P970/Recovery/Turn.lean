import P970.Lib.Mirror
import P970.Recovery.Flip

/-!
# Screens that are built in upside down

With `BOARD_HAS_FLIPPED_SCREEN`, `gr_flip` turns the surface in memory round before
it copies it. The loop swaps bytes, byte `i` with byte `2 n - i` of a surface of
`n` pixels of two bytes: the upper bytes are those of the picture turned round,
the lower bytes are one pixel off. The surface stays turned, so a second flip
turns it back.
-/

namespace P970.Recovery

/-- The loop of `gr_flip` over `gr_mem_surface.data`. -/
def flipScreen (vi : VarScreenInfo) (mem : Buffer UInt8) : Checked (Buffer UInt8) :=
  mem.mirror (Words.mul (Words.mul vi.xres vi.yres) 2) 1 (Words.mul vi.xres vi.yres - 1)

/-- `gr_flip` on such a device. -/
def grFlipTurned (mem : Buffer UInt8) (s : Graphics) : Checked (Buffer UInt8 × Graphics) := do
  let mem ← flipScreen s.vi mem
  let s ← s.grFlip fun i => (mem.cells[i]?).getD 0
  return (mem, s)

/-- Flips with nothing drawn in between. -/
def turnedFlips : Nat → Buffer UInt8 → Graphics → Checked (Buffer UInt8 × Graphics)
  | 0, mem, s => .ok (mem, s)
  | k + 1, mem, s => do
    let (mem, s) ← turnedFlips k mem s
    grFlipTurned mem s

/-! ## The bytes of the surface -/

/-- The bytes after the loop, `n` being the number of pixels. -/
def turned (n : Nat) (xs : List UInt8) : List UInt8 := mirror (2 * n) 1 (n - 1) xs

/-- Byte `j` of pixel `p` is that of the picture turned round. -/
def TurnedRound (n : Nat) (xs ys : List UInt8) : Prop :=
  ∀ p < n, ∀ j < 2, ys[2 * p + j]? = xs[2 * (n - 1 - p) + j]?

section
variable {n : Nat} {xs : List UInt8}

theorem getElem?_turned (hlen : xs.length = 2 * n) {k : Nat} (hk : k < 2 * n) :
    (turned n xs)[k]? = xs[if k = 0 then 0 else 2 * n - k]? := by
  rw [turned, getElem?_mirror (by omega) (by omega)]
  congr 1
  unfold reflect
  split_ifs <;> omega

theorem turned_turned (hlen : xs.length = 2 * n) (hn : 0 < n) : turned n (turned n xs) = xs :=
  mirror_mirror (by omega) (by omega)

/-- The lower bytes are one pixel off, so the picture is turned round when they are all the same. -/
theorem turnedRound_iff (hlen : xs.length = 2 * n) :
    TurnedRound n xs (turned n xs) ↔ ∀ p < n, xs[2 * p]? = xs[0]? := by
  have hlow : ∀ p < n, (turned n xs)[2 * p + 0]? = xs[if p = 0 then 0 else 2 * (n - p)]? := by
    intro p hp
    rw [getElem?_turned hlen (by omega)]
    congr 1
    split_ifs <;> omega
  constructor
  · intro h p hp
    -- the lower byte of a pixel is that of the one before it
    induction p with
    | zero => rfl
    | succ p ih =>
      have hq := h (n - (p + 1)) (by omega) 0 Nat.zero_lt_two
      rw [hlow _ (by omega), if_neg (by omega), show n - (n - (p + 1)) = p + 1 by omega,
        show n - 1 - (n - (p + 1)) = p by omega] at hq
      exact hq.trans (ih (by omega))
  · intro h p hp j hj
    rcases (by omega : j = 0 ∨ j = 1) with rfl | rfl
    · rw [hlow p hp, Nat.add_zero, h (n - 1 - p) (by omega)]
      split_ifs with hz
      · rfl
      · exact h (n - p) (by omega)
    · rw [getElem?_turned hlen (by omega), if_neg (by omega)]
      congr 1
      omega

end

/-! ## Flips -/

namespace Screen

variable (g : Screen) (janky : Bool)

/-- The pixels of the screen. -/
def pixels (g : Screen) : Nat := g.var.yres * g.var.xres

theorem size_eq_pixels : g.size = 2 * g.pixels := rfl

theorem mul_pixels : Words.mul g.var.xres g.var.yres = g.pixels := by
  have hsize : g.size = 2 * g.pixels := rfl
  have hpixels : g.var.xres * g.var.yres = g.pixels := Nat.mul_comm ..
  have hle := g.size_le
  have hpages := g.two_pages
  have haddr := g.addressable
  rw [Words.mul_of_lt (by omega), hpixels]

section
variable {g janky} {mem : Buffer UInt8} {s : Graphics}

/-- One flip: the surface is turned, inside its block, and then shown. -/
theorem Ready.grFlipTurned (h : g.Ready janky s) (hlen : mem.cells.length = g.size)
    (hn : 0 < g.pixels) : ∃ mem' s', grFlipTurned mem s = .ok (mem', s') ∧
      Buffer.Becomes (fun k => 1 ≤ k ∧ k < g.size) mem (turned g.pixels mem.cells) mem' ∧
      g.Flipped janky (fun i => (mem'.cells[i]?).getD 0) s s' := by
  have hsize := g.size_eq_pixels
  have hflip : flipScreen s.vi mem = mem.mirror g.size 1 (g.pixels - 1) := by
    rw [flipScreen, h.resolution.1, h.resolution.2, g.copySize_eq, g.mul_pixels]
  obtain ⟨mem', hmem, hbec⟩ := Buffer.mirror_becomes (b := mem) (i := 1) (m := g.pixels - 1)
    (s := g.size) (by omega) (by omega)
  obtain ⟨s', hs, hf⟩ := h.grFlip fun i => (mem'.cells[i]?).getD 0
  refine ⟨mem', s', ?_, hbec.mono fun k hk => by omega, hf⟩
  rw [Recovery.grFlipTurned, hflip, hmem]
  simp only [Outcome.ok_bind, hs]
  rfl

/-- Every second flip turns the surface back. -/
theorem Ready.turnedFlips (h : g.Ready janky s) (hlen : mem.cells.length = g.size)
    (hn : 0 < g.pixels) (k : Nat) : ∃ mem' s', turnedFlips k mem s = .ok (mem', s') ∧
      g.Ready janky s' ∧ Buffer.Becomes (fun k => 1 ≤ k ∧ k < g.size) mem
        (if k % 2 = 0 then mem.cells else turned g.pixels mem.cells) mem' := by
  induction k with
  | zero => exact ⟨mem, s, rfl, h, .refl _ mem⟩
  | succ k ih =>
    obtain ⟨mem₁, s₁, hrun, h₁, hb₁⟩ := ih
    have hlen₁ : mem₁.cells.length = g.size := by
      rw [hb₁.cells]
      split
      · exact hlen
      · rw [turned, length_mirror, hlen]
    obtain ⟨mem₂, s₂, hflip, hb₂, hf⟩ := h₁.grFlipTurned hlen₁ hn
    refine ⟨mem₂, s₂, ?_, hf.ready, ?_⟩
    · rw [Recovery.turnedFlips, hrun]
      exact hflip
    · have hcells : turned g.pixels mem₁.cells =
          if (k + 1) % 2 = 0 then mem.cells else turned g.pixels mem.cells := by
        rw [hb₁.cells]
        by_cases hk : k % 2 = 0
        · rw [if_pos hk, if_neg (by omega)]
        · rw [if_neg hk, if_pos (by omega), turned_turned (by rw [hlen, g.size_eq_pixels]) hn]
      rw [← hcells]
      exact hb₁.trans hb₂

/-- A byte of a pixel of the page that is shown. -/
def shownByte (g : Screen) (s : Graphics) (x y j : Nat) : Option UInt8 :=
  (s.mapping.cells[g.shown s.vi.yoffset x y j]?).map Cell.byte

/-- The pixel at the other end. -/
theorem pixel_reverse {x y : Nat} (hx : x < g.var.xres) (hy : y < g.var.yres) :
    (g.var.yres - 1 - y) * g.var.xres + (g.var.xres - 1 - x) =
      g.pixels - 1 - (y * g.var.xres + x) := by
  obtain ⟨a, ha⟩ : ∃ a, g.var.yres = y + 1 + a := ⟨g.var.yres - (y + 1), by omega⟩
  have hn : g.pixels = y * g.var.xres + g.var.xres + a * g.var.xres := by
    rw [pixels, ha, Nat.add_mul, Nat.succ_mul]
  rw [hn, show g.var.yres - 1 - y = a by omega]
  omega

theorem pixel_lt_pixels {x y : Nat} (hx : x < g.var.xres) (hy : y < g.var.yres) :
    y * g.var.xres + x < g.pixels := by
  have hlt := g.pixel_lt (j := 0) hx hy Nat.zero_lt_two
  have hsize := g.size_eq_pixels
  omega

/-- Every pixel is one of a row and a column. -/
theorem exists_pixel {p : Nat} (hp : p < g.pixels) :
    ∃ x y, x < g.var.xres ∧ y < g.var.yres ∧ p = y * g.var.xres + x := by
  have hx : 0 < g.var.xres := by
    rcases Nat.eq_zero_or_pos g.var.xres with h | h
    · rw [pixels, h, Nat.mul_zero] at hp
      omega
    · exact h
  refine ⟨p % g.var.xres, p / g.var.xres, Nat.mod_lt _ hx, ?_, ?_⟩
  · exact (Nat.div_lt_iff_lt_mul hx).mpr hp
  · rw [Nat.mul_comm]
    exact (Nat.div_add_mod p _).symm

/-- What is shown after a flip is the surface as it is then. -/
theorem Flipped.shownByte {data : Nat → UInt8} {s s' : Graphics} (hf : g.Flipped janky data s s')
    (hs : g.Ready janky s) (h : g.Agrees janky) {x y j : Nat} (hx : x < g.var.xres)
    (hy : y < g.var.yres) (hj : j < 2) :
    g.shownByte s' x y j = some (data (2 * (y * g.var.xres + x) + j)) := by
  rw [Screen.shownByte, hf.shown hs h x hx y hy j hj, hf.ready.pixel]
  rfl

end

/-- On a screen whose pitches agree, any number of flips with nothing drawn in between keep to the
bytes of the surface. After an even number the surface itself is shown; after an odd number the
picture is shown turned round exactly when all its pixels have the same lower byte. -/
theorem turned_shown (h : g.Agrees janky) (hn : 0 < g.pixels) (mem : Buffer UInt8)
    (hlen : mem.cells.length = g.size) (k : Nat) :
    ∃ s₀ mem' s', grInit janky (some g.device) = .ok (some s₀) ∧
      turnedFlips (k + 1) mem s₀ = .ok (mem', s') ∧
      (∃ used, mem'.touched = used ++ mem.touched ∧ ∀ i ∈ used, 1 ≤ i ∧ i < g.size) ∧
      ((k + 1) % 2 = 0 → ∀ x < g.var.xres, ∀ y < g.var.yres, ∀ j < 2,
        g.shownByte s' x y j = mem.cells[2 * (y * g.var.xres + x) + j]?) ∧
      ((k + 1) % 2 = 1 → ((∀ x < g.var.xres, ∀ y < g.var.yres, ∀ j < 2,
          g.shownByte s' x y j = mem.cells[2 * ((g.var.yres - 1 - y) * g.var.xres +
            (g.var.xres - 1 - x)) + j]?) ↔ ∀ p < g.pixels, mem.cells[2 * p]? = mem.cells[0]?)) := by
  obtain ⟨s₀, hinit, h₀, -, -⟩ := g.grInit_ready janky
  obtain ⟨mem₁, s₁, hrun, h₁, hb₁⟩ := h₀.turnedFlips hlen hn k
  have hlen₁ : mem₁.cells.length = g.size := by
    rw [hb₁.cells]
    split
    · exact hlen
    · rw [turned, length_mirror, hlen]
  obtain ⟨mem', s', hflip, hb', hf⟩ := h₁.grFlipTurned hlen₁ hn
  have hrun' : turnedFlips (k + 1) mem s₀ = .ok (mem', s') := by
    rw [turnedFlips, hrun]
    exact hflip
  obtain ⟨mem₂, s₂, hrun₂, -, hb₂⟩ := h₀.turnedFlips hlen hn (k + 1)
  obtain ⟨rfl, rfl⟩ := Prod.mk.inj (Except.ok.inj (hrun'.symm.trans hrun₂))
  have hlen' : mem'.cells.length = g.size := by
    rw [hb'.cells, turned, length_mirror, hlen₁]
  -- what is shown are the bytes of the surface as it is now
  have hshown : ∀ {x y j}, x < g.var.xres → y < g.var.yres → j < 2 →
      g.shownByte s' x y j = mem'.cells[2 * (y * g.var.xres + x) + j]? := by
    intro x y j hx hy hj
    have hlt := g.pixel_lt hx hy hj
    rw [hf.shownByte h₁ h hx hy hj, List.getElem?_eq_getElem (by omega), Option.getD_some]
  refine ⟨s₀, mem', s', hinit, hrun', hb₂.touched, fun hk x hx y hy j hj => ?_, fun hk => ?_⟩
  · rw [hshown hx hy hj, hb₂.cells, if_pos hk]
  · have hcells : mem'.cells = turned g.pixels mem.cells := by
      rw [hb₂.cells, if_neg (by omega)]
    rw [← turnedRound_iff (by rw [hlen, g.size_eq_pixels]), ← hcells]
    constructor
    · intro hall p hp j hj
      obtain ⟨x, y, hx, hy, rfl⟩ := exists_pixel hp
      rw [← hshown hx hy hj, hall x hx y hy j hj, pixel_reverse hx hy]
    · intro hround x hx y hy j hj
      rw [hshown hx hy hj, hround _ (pixel_lt_pixels hx hy) j hj, pixel_reverse hx hy]

/-- Two pixels with no padding, and room for three pages. -/
def twoPixels : Screen where
  fix := ⟨12, 4⟩
  var := ⟨2, 1, 2, 0, 16⟩
  bits := List.replicate 12 0
  pitch := by decide
  pages := by decide
  mapped := by decide
  addressable := by decide
  word := by decide

/-- A red pixel and a blue one, whose lower bytes differ. -/
theorem turned_shown_twoPixels : ∃ s₀ mem' s',
    grInit false (some twoPixels.device) = .ok (some s₀) ∧
    turnedFlips 1 (.fresh [0x00, 0xf8, 0x1f, 0x00]) s₀ = .ok (mem', s') ∧
    ¬ ∀ x < 2, ∀ y < 1, ∀ j < 2, twoPixels.shownByte s' x y j =
      [0x00, 0xf8, 0x1f, 0x00][2 * ((1 - 1 - y) * 2 + (2 - 1 - x)) + j]? := by
  obtain ⟨s₀, mem', s', hinit, hrun, -, -, hodd⟩ := twoPixels.turned_shown false (.inl rfl) (by decide)
    (.fresh [0x00, 0xf8, 0x1f, 0x00]) rfl 0
  exact ⟨s₀, mem', s', hinit, hrun, fun hall =>
    absurd ((hodd rfl).mp hall) (by decide)⟩

end Screen

end P970.Recovery
