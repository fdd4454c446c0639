import P970.Recovery.Graphics

/-!
# Flips

What one flip does to the mapping (`Flipped`), and from it what any run of flips
shows (`flips_show_surface`): the surface is copied without a gap, so the page is
the surface only where the rows of the screen have none either.
-/

namespace P970.Recovery.Screen

section
variable (g : Screen) (janky : Bool)

/-- The variables after `gr_init` and any flips. -/
structure Ready (s : Graphics) : Prop where
  resolution : s.vi.xres = g.var.xres ∧ s.vi.yres = g.var.yres
  framebuffer : s.framebuffer.map GGLSurface.data = [g.base janky 0, g.base janky 1]
  memSurface : s.memSurface = ⟨g.var.xres, g.var.yres, g.var.xres, 0⟩
  memLength : s.memLength = g.size
  active : s.activeFb < 2
  mapping : s.mapping.cells.length = g.fix.smemLen

/-- What a flip has done. -/
structure Flipped (data : Nat → UInt8) (s s' : Graphics) : Prop where
  ready : g.Ready janky s'
  active : s'.activeFb = 1 - s.activeFb
  yoffset : s'.vi.yoffset = s'.activeFb * g.var.yres
  flips : s'.flips = s.flips + 1
  mapping : Buffer.Becomes
    (fun i => g.base janky s'.activeFb ≤ i ∧ i < g.base janky s'.activeFb + g.size) s.mapping
    (s.mapping.cells.take (g.base janky s'.activeFb) ++
      ((List.range g.size).map fun i => ⟨data i, .flip s.flips i⟩) ++
      s.mapping.cells.drop (g.base janky s'.activeFb + g.size)) s'.mapping

section
variable {g janky} {s s' : Graphics} {data : Nat → UInt8}

theorem Ready.index (h : g.Ready janky s) {n : Nat} (hn : n < 2) :
    ∃ fb, CInt.index s.framebuffer n = .ok fb ∧ fb.data = g.base janky n := by
  have hget : s.framebuffer[n]?.map GGLSurface.data = some (g.base janky n) := by
    rw [← List.getElem?_map, h.framebuffer]
    rcases (by omega : n = 0 ∨ n = 1) with rfl | rfl <;> rfl
  obtain ⟨fb, hfb, hdata⟩ := Option.map_eq_some_iff.mp hget
  exact ⟨fb, CInt.index_eq_ok.mpr hfb, hdata⟩

theorem Ready.pixel (h : g.Ready janky s) (x y : Nat) :
    s.memSurface.pixel x y = 2 * (y * g.var.xres + x) := by
  rw [h.memSurface, GGLSurface.pixel, Nat.zero_add]

theorem Ready.grFlip (h : g.Ready janky s) (data : Nat → UInt8) :
    ∃ s', s.grFlip data = .ok s' ∧ g.Flipped janky data s s' := by
  have hactive : (s.activeFb + 1) &&& 1 = 1 - s.activeFb := by
    have := h.active
    rw [Nat.and_one_is_mod]
    omega
  have hlt : 1 - s.activeFb < 2 := by omega
  obtain ⟨fb, hfb, hdata⟩ := h.index hlt
  have hsize : Words.mul (Words.mul s.vi.xres s.vi.yres) 2 = g.size := by
    rw [h.resolution.1, h.resolution.2, g.copySize_eq]
  have hroom := g.base_le janky hlt
  have hlen : ((List.range g.size).map fun i => (⟨data i, .flip s.flips i⟩ : Cell)).length =
      g.size := by
    rw [List.length_map, List.length_range]
  have hfit : g.base janky (1 - s.activeFb) +
      ((List.range g.size).map fun i => (⟨data i, .flip s.flips i⟩ : Cell)).length ≤
        s.mapping.cells.length := by
    rw [hlen, h.mapping]
    exact hroom
  obtain ⟨mapping, hstore, hbecomes⟩ := Buffer.storeAll_becomes hfit
  have hmapping : mapping.cells.length = g.fix.smemLen := by
    rw [hbecomes.cells, Buffer.length_splice hfit, h.mapping]
  rw [hlen] at hbecomes
  refine ⟨Graphics.setActiveFramebuffer (1 - s.activeFb)
    { s with activeFb := 1 - s.activeFb, mapping := mapping, flips := s.flips + 1 }, ?_, ?_⟩
  · rw [Graphics.grFlip, hactive, hfb]
    simp only [Outcome.ok_bind]
    rw [hsize, h.memLength, if_neg (Nat.lt_irrefl _), hdata, hstore]
    rfl
  · rw [Graphics.setActiveFramebuffer, if_neg (by omega)]
    exact {
      ready := {
        resolution := h.resolution
        framebuffer := h.framebuffer
        memSurface := h.memSurface
        memLength := h.memLength
        active := hlt
        mapping := hmapping }
      active := rfl
      yoffset := by
        show Words.mul (1 - s.activeFb) s.vi.yres = _
        rw [h.resolution.2, g.yoffset_eq hlt]
      flips := rfl
      mapping := hbecomes }

/-- The page that is written begins inside the mapping. -/
theorem Flipped.length_front (h : g.Flipped janky data s s') (hs : g.Ready janky s) :
    (s.mapping.cells.take (g.base janky s'.activeFb)).length = g.base janky s'.activeFb := by
  have hroom := g.base_le janky h.ready.active
  exact List.length_take_of_le (by rw [hs.mapping]; omega)

/-- The bytes of the surface stand one after the other from the base of the page on. -/
theorem Flipped.cell (h : g.Flipped janky data s s') (hs : g.Ready janky s) {i : Nat}
    (hi : i < g.size) :
    s'.mapping.cells[g.base janky s'.activeFb + i]? = some ⟨data i, .flip s.flips i⟩ := by
  have hfront := h.length_front hs
  rw [h.mapping.cells, List.append_assoc, List.getElem?_append_right (by omega), hfront,
    Nat.add_sub_cancel_left, List.getElem?_append_left (by rwa [List.length_map, List.length_range]),
    List.getElem?_map, List.getElem?_range hi]
  rfl

/-- Nothing of the mapping was written by a flip. -/
def Blank (cells : List Cell) : Prop := ∀ c ∈ cells, ∀ k i, c.writer ≠ .flip k i

theorem Blank.splice {xs ys : List Cell} (hx : Blank xs) (hy : Blank ys) {i j : Nat} :
    Blank (xs.take i ++ ys ++ xs.drop j) := by
  intro c hc
  rcases List.mem_append.mp hc with hc | hc
  · exact (List.mem_append.mp hc).elim (fun h => hx c (List.mem_of_mem_take h)) (hy c)
  · exact hx c (List.mem_of_mem_drop hc)

/-- After the first flip each byte of the surface is where `memcpy` has put it, and nowhere else. -/
theorem Flipped.place (h : g.Flipped janky data s s') (hs : g.Ready janky s)
    (hblank : Blank s.mapping.cells) {a k i : Nat} {c : Cell} (ha : s'.mapping.cells[a]? = some c)
    (hc : c.writer = .flip k i) : a = g.base janky s'.activeFb + i := by
  have hfront := h.length_front hs
  rw [h.mapping.cells, List.append_assoc] at ha
  rcases Nat.lt_or_ge a (g.base janky s'.activeFb) with hlt | hge
  · rw [List.getElem?_append_left (by omega)] at ha
    exact absurd hc (hblank c (List.mem_of_mem_take (List.mem_of_getElem? ha)) k i)
  · rw [List.getElem?_append_right (by omega), hfront] at ha
    rcases Nat.lt_or_ge (a - g.base janky s'.activeFb) g.size with hlt | hle
    · rw [List.getElem?_append_left (by rwa [List.length_map, List.length_range]),
        List.getElem?_map, List.getElem?_range hlt] at ha
      cases ha
      cases hc
      omega
    · rw [List.getElem?_append_right (by rwa [List.length_map, List.length_range])] at ha
      exact absurd hc (hblank c (List.mem_of_mem_drop (List.mem_of_getElem? ha)) k i)

theorem Ready.flipAll (h : g.Ready janky s) (surfaces : List (Nat → UInt8)) :
    ∃ s', s.flipAll surfaces = .ok s' ∧ g.Ready janky s' := by
  induction surfaces generalizing s with
  | nil => exact ⟨s, rfl, h⟩
  | cons data surfaces ih =>
    obtain ⟨s₁, hflip, h₁⟩ := h.grFlip data
    obtain ⟨s', hrest, h'⟩ := ih h₁.ready
    refine ⟨s', ?_, h'⟩
    rw [Graphics.flipAll, List.foldlM_cons, hflip]
    exact hrest

variable (g janky) in
/-- Both pages lie in the mapping, and are cleared. -/
theorem getFramebuffer_device :
    ∃ b, getFramebuffer janky (some g.device) = .ok (some (g.var, g.surfaces janky, b)) ∧
      b.cells.length = g.fix.smemLen ∧ Blank b.cells := by
  have hlen : (List.replicate g.size (⟨0, .memset⟩ : Cell)).length = g.size := List.length_replicate
  have hroom₀ := g.base_le janky (n := 0) (by omega)
  have hroom₁ := g.base_le janky (n := 1) (by omega)
  have hbits : (g.bits.map (Cell.mk · .nobody)).length = g.fix.smemLen := by
    rw [List.length_map, g.mapped]
  have hfit₀ : 0 + (List.replicate g.size (⟨0, .memset⟩ : Cell)).length ≤
      (Buffer.fresh (g.bits.map (Cell.mk · .nobody))).cells.length := by
    rw [hlen, Buffer.fresh, hbits]
    omega
  obtain ⟨b₁, hb₁, h₁⟩ := Buffer.storeAll_becomes hfit₀
  have hlen₁ : b₁.cells.length = g.fix.smemLen := by
    rw [h₁.cells, Buffer.length_splice hfit₀]
    exact hbits
  have hfit₁ : g.base janky 1 + (List.replicate g.size (⟨0, .memset⟩ : Cell)).length ≤
      b₁.cells.length := by
    rw [hlen, hlen₁]
    exact hroom₁
  obtain ⟨b₂, hb₂, h₂⟩ := Buffer.storeAll_becomes hfit₁
  refine ⟨b₂, ?_, ?_, ?_⟩
  · unfold getFramebuffer
    simp only [device, g.pageSize_eq, g.second_eq, hb₁, Outcome.ok_bind]
    rw [hb₂]
    rfl
  · rw [h₂.cells, Buffer.length_splice hfit₁, hlen₁]
  · have hset : Blank (List.replicate g.size ⟨0, .memset⟩) := by
      intro c hc k i
      rw [List.eq_of_mem_replicate hc]
      exact Writer.noConfusion
    have hmap : Blank (g.bits.map (Cell.mk · .nobody)) := by
      intro c hc k i
      obtain ⟨b, -, rfl⟩ := List.mem_map.mp hc
      exact Writer.noConfusion
    rw [h₂.cells, h₁.cells]
    exact (hmap.splice hset).splice hset

variable (g janky) in
theorem grInit_ready :
    ∃ s, grInit janky (some g.device) = .ok (some s) ∧ g.Ready janky s ∧ s.activeFb = 0 ∧
      Blank s.mapping.cells := by
  obtain ⟨b, hget, hlen, hblank⟩ := g.getFramebuffer_device janky
  refine ⟨Graphics.setActiveFramebuffer 0
    { vi := g.var
      framebuffer := g.surfaces janky
      memSurface := ⟨g.var.xres, g.var.yres, g.var.xres, 0⟩
      memLength := g.size
      activeFb := 0
      mapping := b
      flips := 0 }, ?_, ?_, rfl, hblank⟩
  · rw [grInit, hget]
    simp only [Outcome.ok_bind, getMemorySurface, g.copySize_eq]
    rfl
  · exact {
      resolution := ⟨rfl, rfl⟩
      framebuffer := by
        rw [base, Nat.zero_mul]
        rfl
      memSurface := rfl
      memLength := rfl
      active := Nat.zero_lt_two
      mapping := hlen }

/-! ## What is shown -/

/-- The page that is shown is the surface: each byte of each pixel of it was written last by this flip. -/
def Shown (g : Screen) (data : Nat → UInt8) (s s' : Graphics) : Prop :=
  ∀ x < g.var.xres, ∀ y < g.var.yres, ∀ j < 2,
    s'.mapping.cells[g.shown s'.vi.yoffset x y j]? =
      some ⟨data (s'.memSurface.pixel x y + j), .flip s.flips (s'.memSurface.pixel x y + j)⟩

/-- The flip has touched the page it shows, and nothing else. -/
def Inside (g : Screen) (s s' : Graphics) : Prop :=
  ∃ used, s'.mapping.touched = used ++ s.mapping.touched ∧ ∀ i ∈ used, g.Page s'.activeFb i

/-- The pitch of the code is that of the screen, or makes no difference. -/
def Agrees (g : Screen) (janky : Bool) : Prop :=
  g.fix.lineLength = 2 * g.var.xres ∨ g.var.xres = 0 ∨ g.var.yres = 0 ∨
    (janky = true ∧ g.var.yres = 1)

theorem pixel_lt {x y j : Nat} (hx : x < g.var.xres) (hy : y < g.var.yres) (hj : j < 2) :
    2 * (y * g.var.xres + x) + j < g.size := by
  have hrow : (y + 1) * g.var.xres ≤ g.var.yres * g.var.xres := Nat.mul_le_mul_right _ hy
  rw [Nat.succ_mul] at hrow
  rw [size]
  omega

theorem base_eq (h : janky = true ∨ g.fix.lineLength = 2 * g.var.xres) (n : Nat) :
    g.base janky n = n * g.var.yres * g.fix.lineLength := by
  rcases h with rfl | h
  · rw [base, if_pos rfl, Nat.mul_assoc]
  · rw [base, size, h, Nat.mul_assoc, Nat.mul_left_comm g.var.yres]
    split <;> rfl

/-- Where `memcpy` puts a byte of the surface, the driver looks for it. -/
theorem shown_eq (h : g.Agrees janky) {n x y j : Nat} (hx : x < g.var.xres) (hy : y < g.var.yres) :
    g.shown (n * g.var.yres) x y j = g.base janky n + (2 * (y * g.var.xres + x) + j) := by
  rcases h with h | h | h | ⟨hj, h⟩
  · rw [base_eq (.inr h), shown, h, Nat.add_mul, Nat.mul_left_comm y]
    omega
  · omega
  · omega
  · obtain rfl : y = 0 := by omega
    rw [base_eq (.inl hj), shown, Nat.add_zero]
    omega

theorem Flipped.shown (hf : g.Flipped janky data s s') (hs : g.Ready janky s)
    (h : g.Agrees janky) : g.Shown data s s' := by
  intro x hx y hy j hj
  rw [hf.yoffset, hf.ready.pixel, shown_eq h hx hy]
  exact hf.cell hs (pixel_lt hx hy hj)

theorem Flipped.inside (hf : g.Flipped janky data s s') (h : g.Agrees janky) : g.Inside s s' := by
  obtain ⟨used, htouched, hused⟩ := hf.mapping.touched
  refine ⟨used, htouched, fun i hi => ?_⟩
  obtain ⟨hlo, hhi⟩ := hused i hi
  have hsize := g.size_le
  have hpos : g.size ≠ 0 := by omega
  have hres : g.var.yres ≠ 0 ∧ g.var.xres ≠ 0 := by
    rw [size] at hpos
    exact ⟨fun h0 => hpos (by rw [h0]; omega), fun h0 => hpos (by rw [h0]; omega)⟩
  have hbase : g.base janky s'.activeFb = s'.activeFb * g.var.yres * g.fix.lineLength :=
    base_eq (by rcases h with h | h | h | h <;> simp_all) _
  rw [Page, Nat.succ_mul, Nat.add_mul, ← hbase]
  omega

/-- The first flip alone tells the pitches apart. -/
theorem Flipped.agrees (hf : g.Flipped janky data s s') (hs : g.Ready janky s)
    (hactive : s.activeFb = 0) (hblank : Blank s.mapping.cells) (h : g.Shown data s s') :
    g.Agrees janky := by
  have hone : s'.activeFb = 1 := by rw [hf.active, hactive]
  have hplace : ∀ x < g.var.xres, ∀ y < g.var.yres,
      (g.var.yres + y) * g.fix.lineLength + 2 * x =
        g.base janky 1 + 2 * (y * g.var.xres + x) := by
    intro x hx y hy
    have hcell := h x hx y hy 0 Nat.zero_lt_two
    have hat := hf.place hs hblank hcell rfl
    rw [hf.yoffset, hone, Nat.one_mul, hf.ready.pixel] at hat
    exact hat
  by_contra hno
  simp only [Agrees, not_or, not_and] at hno
  obtain ⟨hpitch, hx, hy, hjanky⟩ := hno
  cases janky with
  | false =>
    have hfirst := hplace 0 (by omega) 0 (by omega)
    rw [base, if_neg Bool.false_ne_true, size] at hfirst
    simp only [Nat.add_zero, Nat.zero_mul, Nat.mul_zero, Nat.one_mul] at hfirst
    have hrow : g.var.yres * g.fix.lineLength = g.var.yres * (2 * g.var.xres) := by
      rw [hfirst, Nat.mul_left_comm]
    exact hpitch (Nat.eq_of_mul_eq_mul_left (by omega) hrow)
  | true =>
    have hsecond := hplace 0 (by omega) 1 (by have := hjanky rfl; omega)
    rw [base, if_pos rfl, Nat.add_mul] at hsecond
    omega

end

/-- After every flip the page shown is the surface, and the flip has kept to that page, exactly
when the pitches agree. -/
theorem flips_show_surface :
    (∀ (before : List (Nat → UInt8)) (data : Nat → UInt8), ∃ s₀ s s',
        grInit janky (some g.device) = .ok (some s₀) ∧ s₀.flipAll before = .ok s ∧
          s.grFlip data = .ok s' ∧ g.Shown data s s' ∧ g.Inside s s') ↔
      g.Agrees janky := by
  obtain ⟨s₀, hinit, h₀, hactive, hblank⟩ := g.grInit_ready janky
  constructor
  · intro h
    obtain ⟨s, _, s', hs, hnil, hflip, hshown, -⟩ := h [] fun _ => 0
    obtain rfl : s₀ = s := Option.some.inj (Except.ok.inj (hinit.symm.trans hs))
    cases hnil
    obtain ⟨t, ht, hf⟩ := h₀.grFlip fun _ => 0
    obtain rfl : t = s' := Except.ok.inj (ht.symm.trans hflip)
    exact hf.agrees h₀ hactive hblank hshown
  · intro h before data
    obtain ⟨s, hrun, hs⟩ := h₀.flipAll before
    obtain ⟨s', hflip, hf⟩ := hs.grFlip data
    exact ⟨s₀, s, s', hinit, hrun, hflip, hf.shown hs h, hf.inside h⟩

/-- Rows of one pixel that end with two bytes of padding. -/
def padded : Screen where
  fix := ⟨8, 4⟩
  var := ⟨1, 1, 2, 0, 16⟩
  bits := List.replicate 8 0
  pitch := by decide
  pages := by decide
  mapped := by decide
  addressable := by decide
  word := by decide

/-- The first flip writes its pixel to the padding of the first page, and the second is shown. -/
theorem padded_not_shown :
    ¬ ∀ (before : List (Nat → UInt8)) (data : Nat → UInt8), ∃ s₀ s s',
      grInit false (some padded.device) = .ok (some s₀) ∧ s₀.flipAll before = .ok s ∧
        s.grFlip data = .ok s' ∧ padded.Shown data s s' ∧ padded.Inside s s' := by
  intro h
  obtain ⟨s₀, s, s', hinit, hnil, hflip, hshown, -⟩ := h [] fun _ => 7
  cases hinit
  cases hnil
  cases hflip
  exact absurd (hshown 0 (by decide) 0 (by decide) 0 (by decide)) (by decide)

end

end P970.Recovery.Screen
