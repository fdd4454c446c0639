import P970.Lib.RunLength
import P970.Recovery.Graphics

/-!
# The font

`gr_init_font` unpacks the font into the texture `gr_text` takes the characters
from. A byte of `rundata` is a run of up to 127 texels, all 255 or all 0, and the
byte 0 is the end. The texture has the image the runs expand to, texels behind it
are what `malloc` left, and every image of the two values has runs.
-/

namespace P970.Recovery

open RunLength (expand)

/-- The `font` the recovery is built with. -/
structure FontFile where
  width : BitVec 32
  height : BitVec 32
  cwidth : BitVec 32
  cheight : BitVec 32
  rundata : List UInt8
  deriving DecidableEq, Repr

/-- `bits` are the texels, those that were written. -/
structure GRFont where
  texture : GGLSurface
  cwidth : BitVec 32
  cheight : BitVec 32
  ascent : BitVec 32
  bits : Buffer (Option UInt8)
  deriving DecidableEq, Repr

/-- The count and the texel of a run. -/
def runOf (data : UInt8) : Nat × UInt8 :=
  ((data &&& 0x7f).toNat, if data &&& 0x80 ≠ 0 then 255 else 0)

/-- `while ((data = *in++))`, with `bits` the place of the next texel. -/
def unpackRuns : List UInt8 → Nat → Buffer (Option UInt8) → Checked (Buffer (Option UInt8))
  | [], _, _ => .error .outOfBounds
  | data :: inp, bits, b =>
    if data = 0 then .ok b
    else do
      let b ← b.storeAll bits (List.replicate (runOf data).1 (some (runOf data).2))
      unpackRuns inp (bits + (runOf data).1) b

/-- What `malloc` is asked for. -/
def FontFile.size (font : FontFile) : Nat := (font.width * font.height).toNat

def grInitFont (font : FontFile) : Checked GRFont := do
  let bits ← unpackRuns font.rundata 0 (.fresh (List.replicate font.size none))
  return {
    texture := ⟨font.width.toNat, font.height.toNat, font.width.toNat, 0⟩
    cwidth := font.cwidth
    cheight := font.cheight
    ascent := font.cheight - 2
    bits }

/-! ## The image -/

/-- The texels the runs before the first 0 stand for. -/
def FontFile.image (font : FontFile) : List UInt8 :=
  expand ((font.rundata.takeWhile (· ≠ 0)).map runOf)

/-- The loop is one `memset` after the other, from the beginning on. -/
theorem unpackRuns_eq {inp : List UInt8} (h : 0 ∈ inp) (bits : Nat) (b : Buffer (Option UInt8)) :
    unpackRuns inp bits b =
      b.storeAll bits ((expand ((inp.takeWhile (· ≠ 0)).map runOf)).map some) := by
  induction inp generalizing bits b with
  | nil => cases h
  | cons data inp ih =>
    unfold unpackRuns
    by_cases hd : data = 0
    · rw [if_pos hd, List.takeWhile_cons_of_neg (by simp [hd])]
      rfl
    · have hin : 0 ∈ inp := (List.mem_cons.mp h).resolve_left (Ne.symm hd)
      rw [if_neg hd, List.takeWhile_cons_of_pos (by simp [hd]), List.map_cons,
        RunLength.expand_cons, List.map_append, List.map_replicate, Buffer.storeAll_append,
        List.length_replicate]
      exact congrArg _ (funext fun b => ih hin _ b)

/-- Without a 0 it runs out of the array. -/
theorem unpackRuns_endless {inp : List UInt8} (h : 0 ∉ inp) (bits : Nat)
    (b b' : Buffer (Option UInt8)) : unpackRuns inp bits b ≠ .ok b' := by
  induction inp generalizing bits b with
  | nil => exact nofun
  | cons data inp ih =>
    intro he
    have hd : data ≠ 0 := fun hd => h (hd ▸ List.mem_cons_self)
    unfold unpackRuns at he
    rw [if_neg hd] at he
    obtain ⟨b₁, -, he⟩ := Outcome.bind_eq_ok.mp he
    exact ih (fun hm => h (List.mem_cons_of_mem _ hm)) _ b₁ he

theorem grInitFont_ok {font : FontFile} {f : GRFont} (h : grInitFont font = .ok f) :
    0 ∈ font.rundata ∧ font.image.length ≤ font.size ∧
    f.bits.cells = font.image.map some ++ List.replicate (font.size - font.image.length) none := by
  obtain ⟨b, hb, he⟩ := Outcome.bind_eq_ok.mp h
  obtain rfl := Except.ok.inj he
  have hin : 0 ∈ font.rundata := by
    by_contra hn
    exact unpackRuns_endless hn _ _ b hb
  rw [unpackRuns_eq hin] at hb
  have hfit := Buffer.storeAll_fits hb (Nat.zero_le _)
  have hlen : font.image.length ≤ font.size := by
    rw [List.length_map, Nat.zero_add, Buffer.fresh, List.length_replicate] at hfit
    exact hfit
  obtain ⟨b', hb', hbec⟩ := Buffer.storeAll_becomes hfit
  obtain rfl := Except.ok.inj (hb.symm.trans hb')
  refine ⟨hin, hlen, hbec.cells.trans ?_⟩
  rw [List.length_map, Nat.zero_add, List.take_zero, List.nil_append, Buffer.fresh,
    List.drop_replicate]
  rfl

/-- The sizes are those of the file. -/
theorem grInitFont_sizes {font : FontFile} {f : GRFont} (h : grInitFont font = .ok f) :
    f.cwidth = font.cwidth ∧ f.cheight = font.cheight ∧ f.ascent = font.cheight - 2 ∧
    f.texture.stride = font.width.toNat := by
  obtain ⟨b, -, he⟩ := Outcome.bind_eq_ok.mp h
  obtain rfl := Except.ok.inj he
  exact ⟨rfl, rfl, rfl, rfl⟩

theorem grInitFont_of_fits (font : FontFile) (h : 0 ∈ font.rundata)
    (hlen : font.image.length ≤ font.size) : ∃ f, grInitFont font = .ok f := by
  have hfit : 0 + (font.image.map some).length ≤
      (Buffer.fresh (List.replicate font.size (none : Option UInt8))).cells.length := by
    rw [List.length_map, Nat.zero_add, Buffer.fresh, List.length_replicate]
    exact hlen
  obtain ⟨b, hb, -⟩ := Buffer.storeAll_becomes hfit
  exact ⟨_, Outcome.bind_eq_ok.mpr ⟨b, (unpackRuns_eq h _ _).trans hb, rfl⟩⟩

/-! ## Runs of an image -/

/-- The byte of a run. -/
def runByte (r : Nat × UInt8) : UInt8 := UInt8.ofNat (if r.2 = 0 then r.1 else 128 + r.1)

theorem runOf_runByte {r : Nat × UInt8} (h0 : 0 < r.1) (h127 : r.1 ≤ 127)
    (hx : r.2 = 0 ∨ r.2 = 255) : runOf (runByte r) = r ∧ runByte r ≠ 0 := by
  have hall : ∀ n : Fin 128, 0 < n.1 →
      (runOf (UInt8.ofNat n.1) = (n.1, 0) ∧ UInt8.ofNat n.1 ≠ 0) ∧
      runOf (UInt8.ofNat (128 + n.1)) = (n.1, 255) ∧ UInt8.ofNat (128 + n.1) ≠ 0 := by decide
  obtain ⟨n, x⟩ := r
  obtain ⟨hclear, hset⟩ := hall ⟨n, by simp only at h127; omega⟩ h0
  rcases hx with rfl | rfl
  · exact hclear
  · exact hset

/-- Runs of the image, and the end. -/
def packImage (image : List UInt8) : List UInt8 := (RunLength.pack 127 image).map runByte ++ [0]

theorem image_packImage (font : FontFile) {image : List UInt8}
    (hi : ∀ x ∈ image, x = 0 ∨ x = 255) :
    ({ font with rundata := packImage image } : FontFile).image = image := by
  have hruns : ∀ r ∈ RunLength.pack 127 image, runOf (runByte r) = r ∧ runByte r ≠ 0 := by
    intro r hr
    obtain ⟨h0, h127⟩ := RunLength.count_pack 127 (by decide) image r hr
    refine runOf_runByte h0 h127 (hi _ ?_)
    rw [← RunLength.expand_pack 127 image]
    exact List.mem_flatMap.mpr ⟨r, hr, List.mem_replicate.mpr ⟨by omega, rfl⟩⟩
  have htake : (packImage image).takeWhile (· ≠ 0) = (RunLength.pack 127 image).map runByte := by
    rw [packImage, List.takeWhile_append_of_pos, List.takeWhile_cons_of_neg (by simp),
      List.append_nil]
    intro d hd
    obtain ⟨r, hr, rfl⟩ := List.mem_map.mp hd
    exact decide_eq_true (hruns r hr).2
  have hmap : ((RunLength.pack 127 image).map runByte).map runOf = RunLength.pack 127 image := by
    rw [List.map_map]
    exact (List.map_congr_left fun r hr => (hruns r hr).1).trans (List.map_id _)
  rw [FontFile.image, htake, hmap, RunLength.expand_pack]

/-- The font is unpacked exactly when its runs have an end and no more texels than the texture;
the texture then has their image and nothing behind it, and every image of the two values has
runs. -/
theorem font_unpacked (font : FontFile) :
    ((∃ f, grInitFont font = .ok f) ↔ 0 ∈ font.rundata ∧ font.image.length ≤ font.size) ∧
    (∀ f, grInitFont font = .ok f → f.bits.cells =
      font.image.map some ++ List.replicate (font.size - font.image.length) none) ∧
    ∀ image : List UInt8, (∀ x ∈ image, x = 0 ∨ x = 255) → image.length = font.size →
      ∃ rundata f, grInitFont { font with rundata := rundata } = .ok f ∧
        f.bits.cells = image.map some := by
  refine ⟨⟨fun ⟨f, hf⟩ => ⟨(grInitFont_ok hf).1, (grInitFont_ok hf).2.1⟩,
    fun ⟨h, hlen⟩ => grInitFont_of_fits font h hlen⟩, fun f hf => (grInitFont_ok hf).2.2,
    fun image hi hlen => ?_⟩
  have himage := image_packImage font hi
  obtain ⟨f, hf⟩ := grInitFont_of_fits { font with rundata := packImage image }
    (List.mem_append_right _ List.mem_cons_self) (by rw [himage]; exact Nat.le_of_eq hlen)
  refine ⟨_, f, hf, ?_⟩
  have hsize : ({ font with rundata := packImage image } : FontFile).size = image.length :=
    hlen.symm
  rw [(grInitFont_ok hf).2.2, himage, hsize, Nat.sub_self, List.replicate_zero, List.append_nil]

end P970.Recovery
