import P970.Lib.Buffer
import P970.Audio.Periods

/-!
# Channels removed in place

`remove_channels_from_buf` byte by byte, on a buffer that knows its own length and
with the products of `size_t`. The bytes that are kept move towards the front of
the same buffer, so each must be read before another one is written over it
(`removeChannelsFromBuf_in_place`).
-/

namespace P970.Audio

namespace BufferRemix

section
variable {β : Type}

/-- `remove_channels_from_buf`, with an index for `d` and one for `s`. The last `N--` wraps, and
`N` is not read again. -/
def removeChannelsFromBuf (data : BufferRemix) (buf : Buffer β) (frames : Nat) : Checked (Buffer β) :=
  if frames = 0 then .ok buf
  else
    let inFrame := Words.mul data.inChans data.sampleSize
    let outFrame := Words.mul data.outChans data.sampleSize
    if outFrame ≥ inFrame then .ok buf
    else buf.compact outFrame inFrame outFrame inFrame (sizeSub frames 1)

/-- The bytes of channel `c` of frame `k`. -/
def sample (data : BufferRemix) (buf : List β) (k c : Nat) : List β :=
  (buf.drop (k * (data.inChans * data.sampleSize) + c * data.sampleSize)).take data.sampleSize

/-- What a copy into another buffer has: of each frame the first `out_chans` samples. -/
def kept (data : BufferRemix) (buf : List β) (frames : Nat) : List β :=
  (List.range frames).flatMap fun k => (List.range data.outChans).flatMap (data.sample buf k)

theorem kept_eq_strided (data : BufferRemix) (buf : List β) (frames : Nat) :
    data.kept buf frames =
      strided (data.outChans * data.sampleSize) (data.inChans * data.sampleSize) frames buf := by
  unfold kept strided
  congr 1
  funext k
  rw [← strided_self, strided]
  congr 1
  funext c
  rw [sample, List.drop_drop]

end

end BufferRemix

/-- A call with the memory that `struct buffer_remix` asks for, on a machine of 32 bits. -/
structure RemixCall (β : Type) where
  data : BufferRemix
  buf : List β
  frames : Nat
  room : frames * data.sampleSize * max data.inChans data.outChans ≤ buf.length
  addressable : buf.length < 2 ^ 32

namespace RemixCall

section
variable {β : Type}

def run (c : RemixCall β) : Checked (Buffer β) := c.data.removeChannelsFromBuf (.fresh c.buf) c.frames

variable (c : RemixCall β)

theorem room_in : c.frames * (c.data.inChans * c.data.sampleSize) ≤ c.buf.length :=
  calc c.frames * (c.data.inChans * c.data.sampleSize)
      = c.frames * c.data.sampleSize * c.data.inChans := by
        rw [Nat.mul_comm c.data.inChans, Nat.mul_assoc]
    _ ≤ c.frames * c.data.sampleSize * max c.data.inChans c.data.outChans :=
        Nat.mul_le_mul_left _ (Nat.le_max_left ..)
    _ ≤ c.buf.length := c.room

theorem room_out : c.frames * (c.data.outChans * c.data.sampleSize) ≤ c.buf.length :=
  calc c.frames * (c.data.outChans * c.data.sampleSize)
      = c.frames * c.data.sampleSize * c.data.outChans := by
        rw [Nat.mul_comm c.data.outChans, Nat.mul_assoc]
    _ ≤ c.frames * c.data.sampleSize * max c.data.inChans c.data.outChans :=
        Nat.mul_le_mul_left _ (Nat.le_max_right ..)
    _ ≤ c.buf.length := c.room

/-- With a frame in the buffer neither product wraps. -/
theorem products (h : c.frames ≠ 0) :
    Words.mul c.data.inChans c.data.sampleSize = c.data.inChans * c.data.sampleSize ∧
      Words.mul c.data.outChans c.data.sampleSize = c.data.outChans * c.data.sampleSize := by
  have hpos : 0 < c.frames := Nat.pos_of_ne_zero h
  have hin := Nat.le_mul_of_pos_left (c.data.inChans * c.data.sampleSize) hpos
  have hout := Nat.le_mul_of_pos_left (c.data.outChans * c.data.sampleSize) hpos
  have h1 := c.room_in
  have h2 := c.room_out
  have h3 := c.addressable
  exact ⟨Words.mul_of_lt (by omega), Words.mul_of_lt (by omega)⟩

/-- Every index stays inside the frames, and the contents are those of the loop without checks. -/
theorem run_becomes :
    ∃ b, c.run = .ok b ∧
      Buffer.Becomes (· < c.frames * (c.data.inChans * c.data.sampleSize)) (.fresh c.buf)
        (removeChannelsFromBuf c.data c.buf c.frames) b := by
  unfold run BufferRemix.removeChannelsFromBuf Audio.removeChannelsFromBuf
  split
  · exact ⟨_, rfl, .refl _ _⟩
  · next h0 =>
    obtain ⟨hin, hout⟩ := c.products h0
    rw [hin, hout]
    simp only
    split
    · exact ⟨_, rfl, .refl _ _⟩
    · next hlt =>
      obtain ⟨n, hn⟩ : ∃ n, c.frames = n + 1 := ⟨c.frames - 1, by omega⟩
      have hroom := c.room_in
      rw [hn, Nat.succ_mul] at hroom
      rw [hn, sizeSub_of_le (Nat.le_add_left ..), Nat.add_sub_cancel, Nat.succ_mul]
      obtain ⟨b, hb, hbecomes⟩ := Buffer.compact_becomes
        (b := Buffer.fresh c.buf) (n := n) (not_le.mp hlt).le (not_le.mp hlt).le (by
          show _ ≤ c.buf.length
          omega)
      exact ⟨b, hb, hbecomes.mono fun i hi => by omega⟩

/-- The bytes that are kept are in front, and behind them nothing changes. -/
theorem removeChannels_kept (h : c.data.outChans < c.data.inChans) :
    removeChannelsFromBuf c.data c.buf c.frames =
      c.data.kept c.buf c.frames ++
        c.buf.drop (c.frames * (c.data.outChans * c.data.sampleSize)) := by
  rw [BufferRemix.kept_eq_strided]
  rcases Nat.eq_zero_or_pos c.data.sampleSize with hs | hs
  · have hz : removeChannelsFromBuf c.data c.buf c.frames = c.buf := by
      unfold removeChannelsFromBuf
      split
      · rfl
      · exact if_pos (by simp [hs])
    rw [hz, hs]
    simp [strided]
  · exact PeriodBuffer.removeChannels_eq (Nat.mul_lt_mul_of_pos_right h hs) c.room_in

theorem removeChannels_unchanged (h : c.data.inChans ≤ c.data.outChans ∨ c.frames = 0) :
    removeChannelsFromBuf c.data c.buf c.frames = c.buf := by
  unfold removeChannelsFromBuf
  split
  · rfl
  · next h0 => exact if_pos (Nat.mul_le_mul_right _ (h.resolve_right h0))

theorem removeChannelsFromBuf_in_place :
    ∃ b, c.run = .ok b ∧
      (∀ i ∈ b.touched, i < c.frames * (c.data.inChans * c.data.sampleSize)) ∧
      (0 < c.data.outChans → c.data.outChans < c.data.inChans →
        b.cells = c.data.kept c.buf c.frames ++
            c.buf.drop (c.frames * (c.data.outChans * c.data.sampleSize)) ∧
          (c.data.kept c.buf c.frames).length =
            c.frames * (c.data.outChans * c.data.sampleSize)) ∧
      (c.data.inChans ≤ c.data.outChans ∨ c.frames = 0 → b.cells = c.buf) := by
  obtain ⟨b, hrun, hb⟩ := c.run_becomes
  refine ⟨b, hrun, hb.of_fresh, fun _ hlt => ⟨?_, ?_⟩, fun h => ?_⟩
  · exact hb.cells.trans (c.removeChannels_kept hlt)
  · rw [BufferRemix.kept_eq_strided]
    exact length_strided (Nat.mul_le_mul_right _ hlt.le) c.room_in
  · exact hb.cells.trans (c.removeChannels_unchanged h)

end

/-- Three frames of three samples of two bytes, to be cut to two channels. -/
def threeToTwo : RemixCall Nat where
  data := ⟨2, 3, 2⟩
  buf := [1, 2, 3, 4, 5, 6, 7, 8, 9, 10, 11, 12, 13, 14, 15, 16, 17, 18]
  frames := 3
  room := by decide
  addressable := by decide

theorem removeChannelsFromBuf_in_place_threeToTwo : ∃ b, threeToTwo.run = .ok b ∧
    (∀ i ∈ b.touched, i < 18) ∧
    b.cells = [1, 2, 3, 4, 7, 8, 9, 10, 13, 14, 15, 16, 13, 14, 15, 16, 17, 18] := by
  obtain ⟨b, hrun, htouched, hkept, -⟩ := removeChannelsFromBuf_in_place threeToTwo
  obtain ⟨hcells, -⟩ := hkept (by decide) (by decide)
  exact ⟨b, hrun, htouched, hcells.trans (by decide)⟩

end RemixCall

end P970.Audio
