import P970.Lib.Queue
import P970.Lib.Strides
import P970.Audio.Session

/-!
# Periods of the driver

The bottom of the read side in bytes, without a resampler: `pcm_read` fills
`in->buffer` with a period of hardware frames, `remix_func` drops channels in
place, and `read_frames` copies from an offset it computes back from `frames_in`
(`PeriodBuffer`). Over any calls this is a queue of whole remixed periods, each
read when the one before is used up; with errors as without, `frames_in` stays
within a period and every call returns (`read_frames_fifo`).
-/

namespace P970.Audio

/-- Subtraction of `size_t`: below zero it wraps, at 32 bits. -/
def sizeSub (a b : Nat) : Nat := if b ≤ a then a - b else a + 2 ^ 32 - b

theorem sizeSub_of_le {a b : Nat} (h : b ≤ a) : sizeSub a b = a - b := if_pos h

/-- `audio_stream_frame_size`: the channels `in_get_channels` reports, 16 bits each. -/
def audioStreamFrameSize (channels : Nat) : Nat := (if channels = 1 then 1 else 2) * 2

/-- A `pcm_read`: its status, and the bytes it leaves in a buffer of the length asked for. -/
structure PcmRead (β : Type) where
  status : Status
  fill : Nat → List β
  length_fill : ∀ n, (fill n).length = n

/-- What the read side uses of `struct omap_stream_in`, in bytes. -/
structure PeriodBuffer (β : Type) where
  pcm : Option Nat
  remixAtDriver : Option BufferRemix
  channels : Nat
  periodSize : Nat
  buffer : List β
  framesIn : Nat
  readStatus : Int

/-- The bytes of each frame that are kept move to the front. -/
def removeChannelsFromBuf {β : Type} (data : BufferRemix) (buf : List β) (frames : Nat) : List β :=
  if frames = 0 then buf
  else
    let inFrame := data.inChans * data.sampleSize
    let outFrame := data.outChans * data.sampleSize
    if outFrame ≥ inFrame then buf
    else compact outFrame inFrame outFrame inFrame (frames - 1) buf

namespace PeriodBuffer

variable {β : Type}

/-- Bytes of a frame of the driver. -/
def hwFrameSize (b : PeriodBuffer β) : Nat :=
  match b.remixAtDriver with
  | some data => data.inChans * data.sampleSize
  | none => audioStreamFrameSize b.channels

/-- Bytes of a frame of the client. -/
def frameSize (b : PeriodBuffer β) : Nat :=
  match b.remixAtDriver with
  | some data => data.outChans * data.sampleSize
  | none => audioStreamFrameSize b.channels

/-- The tail of `get_next_buffer`: `raw` as a byte offset into `in->buffer`, and `frame_count`. -/
def provide (frameCount : Nat) (b : PeriodBuffer β) : Option Nat × Nat × PeriodBuffer β :=
  (some (sizeSub b.periodSize b.framesIn * b.channels * 2),
    if frameCount > b.framesIn then b.framesIn else frameCount, b)

/-- `in->read_status = pcm_read(…)`, of a period into `in->buffer`. -/
def pcmRead (read : PcmRead β) (b : PeriodBuffer β) : PeriodBuffer β :=
  { b with
    buffer := writeAt b.buffer 0 (read.fill (b.periodSize * b.hwFrameSize))
    readStatus := read.status.1 }

/-- `remix->remix_func(remix, in->buffer, in->frames_in)`. -/
def remix (b : PeriodBuffer β) : PeriodBuffer β :=
  match b.remixAtDriver with
  | some data => { b with buffer := removeChannelsFromBuf data b.buffer b.framesIn }
  | none => b

def getNextBuffer (read : PcmRead β) (frameCount : Nat) (b : PeriodBuffer β) :
    Option Nat × Nat × PeriodBuffer β :=
  match b.pcm with
  | none => (none, 0, { b with readStatus := -enodev })
  | some _ =>
    if b.framesIn = 0 then
      let b := b.pcmRead read
      if b.readStatus ≠ 0 then (none, 0, b)
      else provide frameCount (remix { b with framesIn := b.periodSize })
    else provide frameCount b

def releaseBuffer (frameCount : Nat) (b : PeriodBuffer β) : PeriodBuffer β :=
  { b with framesIn := sizeSub b.framesIn frameCount }

/-- The stream of `adev_open_input_stream`; `malloc` gives a block of any bytes. -/
def opened (channels periodSize : Nat) (block : Nat → List β) : PeriodBuffer β where
  pcm := none
  remixAtDriver := none
  channels := channels
  periodSize := periodSize
  buffer := block (2 * periodSize * audioStreamFrameSize channels)
  framesIn := 0
  readStatus := 0

def setupStereoToMonoInputRemix (block : Nat → List β) (b : PeriodBuffer β) : PeriodBuffer β :=
  let sampleSize := audioStreamFrameSize b.channels / b.channels
  { b with
    remixAtDriver := some ⟨sampleSize, 2, 1⟩
    buffer := block (b.periodSize * sampleSize * 2) }

/-- `start_input_stream` with a `pcm_open` that is ready, the channels being set to `in_chans` for
it and to `out_chans` after it. -/
def started (requiresStereo : Bool) (handle : Nat) (block : Nat → List β) (b : PeriodBuffer β) :
    PeriodBuffer β :=
  let b := if requiresStereo && b.channels = 1 then setupStereoToMonoInputRemix block b else b
  { b with
    pcm := some handle
    channels := match b.remixAtDriver with
      | some data => data.outChans
      | none => b.channels }

/-- The bytes of `in->buffer` still to be handed out. -/
def pending (b : PeriodBuffer β) : List β :=
  (b.buffer.drop ((b.periodSize - b.framesIn) * b.frameSize)).take (b.framesIn * b.frameSize)

/-- A channel for a channel, or two of the driver to one of the client. -/
inductive Layout : Option BufferRemix → Nat → Prop where
  | plain (channels : Nat) (h : channels = 1 ∨ channels = 2) : Layout none channels
  | remix : Layout (some ⟨2, 2, 1⟩) 1

structure Valid (b : PeriodBuffer β) : Prop where
  layout : Layout b.remixAtDriver b.channels
  period : 0 < b.periodSize
  room : b.periodSize * b.hwFrameSize ≤ b.buffer.length
  framesIn : b.framesIn ≤ b.periodSize

theorem valid_opened {channels periodSize : Nat} {block : Nat → List β}
    (hc : channels = 1 ∨ channels = 2) (hp : 0 < periodSize) (hb : ∀ n, (block n).length = n) :
    (opened channels periodSize block).Valid := by
  refine ⟨.plain channels hc, hp, ?_, Nat.zero_le _⟩
  show periodSize * audioStreamFrameSize channels ≤ (block _).length
  rw [hb]
  exact Nat.mul_le_mul_right _ (by omega)

theorem Valid.started {b : PeriodBuffer β} (h : b.Valid) {block : Nat → List β}
    (hb : ∀ n, (block n).length = n) (requiresStereo : Bool) (handle : Nat) :
    (b.started requiresStereo handle block).Valid := by
  unfold PeriodBuffer.started
  by_cases hr : (requiresStereo && b.channels = 1) = true
  · obtain ⟨-, h1⟩ := Bool.and_eq_true_iff.mp hr
    have h1 : b.channels = 1 := of_decide_eq_true h1
    have hs : audioStreamFrameSize b.channels / b.channels = 2 := by rw [h1]; rfl
    simp only [if_pos hr, setupStereoToMonoInputRemix, hs]
    refine ⟨.remix, h.period, ?_, h.framesIn⟩
    show b.periodSize * 4 ≤ (block (b.periodSize * 2 * 2)).length
    rw [hb]
    omega
  · simp only [if_neg hr]
    have hl := h.layout
    have hroom := h.room
    unfold hwFrameSize at hroom
    generalize hn : b.channels = n at hl hroom ⊢
    generalize hm : b.remixAtDriver = r at hl hroom ⊢
    cases hl with
    | plain _ hc => exact ⟨.plain n hc, h.period, hroom, h.framesIn⟩
    | remix => exact ⟨.remix, h.period, hroom, h.framesIn⟩

/-- What no read changes. -/
def setting (b : PeriodBuffer β) : Option Nat × Option BufferRemix × Nat × Nat :=
  (b.pcm, b.remixAtDriver, b.channels, b.periodSize)

end PeriodBuffer

/-- One pass of the loop of `read_frames`. -/
structure BufferPass (β : Type) where
  before : PeriodBuffer β
  framesRd : Nat
  read : PcmRead β

namespace BufferPass

variable {β : Type} (p : BufferPass β)

/-- `buf` after `get_next_buffer`, and the stream. -/
def got : Option Nat × Nat × PeriodBuffer β := p.before.getNextBuffer p.read p.framesRd

/-- The bytes the pass copies. -/
def out : List β :=
  match p.got.1 with
  | some raw => (p.got.2.2.buffer.drop raw).take (p.got.2.1 * p.before.frameSize)
  | none => []

/-- `frames_rd` at the end of the pass. -/
def count : Nat :=
  match p.got.1 with
  | some _ => p.got.2.1
  | none => p.framesRd

def after : PeriodBuffer β := p.got.2.2.releaseBuffer p.got.2.1

/-- The period that `pcm_read` reads, each frame cut to the channels of the client. -/
def period : List β :=
  strided p.before.frameSize p.before.hwFrameSize p.before.periodSize
    (p.read.fill (p.before.periodSize * p.before.hwFrameSize))

/-- The period the pass reads, should it read one. -/
def fetched : List (List β) :=
  if p.before.pcm.isSome ∧ p.before.framesIn = 0 ∧ p.read.status.1 = 0 then [p.period] else []

end BufferPass

/-! ## One pass -/

namespace PeriodBuffer

variable {β : Type} {b b' : PeriodBuffer β}

theorem Valid.sizes (h : b.Valid) :
    b.frameSize = b.channels * 2 ∧ b.frameSize ≤ b.hwFrameSize ∧ 0 < b.frameSize := by
  have hl := h.layout
  unfold frameSize hwFrameSize audioStreamFrameSize
  generalize b.remixAtDriver = r at hl ⊢
  generalize b.channels = n at hl ⊢
  cases hl with
  | plain _ hn => rcases hn with rfl | rfl <;> decide
  | remix => decide

theorem sizes_congr (h : b'.setting = b.setting) :
    b'.frameSize = b.frameSize ∧ b'.hwFrameSize = b.hwFrameSize ∧ b'.periodSize = b.periodSize ∧
      b'.pcm = b.pcm := by
  simp only [setting, Prod.mk.injEq] at h
  obtain ⟨h1, h2, h3, h4⟩ := h
  simp only [frameSize, hwFrameSize, h2, h3]
  exact ⟨trivial, trivial, h4, h1⟩

theorem length_pending (h : b.Valid) : b.pending.length = b.framesIn * b.frameSize := by
  obtain ⟨-, hle, -⟩ := h.sizes
  have hf := h.framesIn
  have hroom := h.room
  have hsplit : (b.periodSize - b.framesIn) * b.frameSize + b.framesIn * b.frameSize =
      b.periodSize * b.frameSize := by
    rw [← Nat.add_mul, Nat.sub_add_cancel hf]
  have hmul : b.periodSize * b.frameSize ≤ b.periodSize * b.hwFrameSize := Nat.mul_le_mul_left _ hle
  rw [pending, List.length_take, List.length_drop]
  omega

theorem pending_of_zero (h : b.framesIn = 0) : b.pending = [] := by
  rw [pending, h, Nat.zero_mul, List.take_zero]

/-- Handing out the first `n` frames that are pending. -/
theorem release_spec (h : b.Valid) {n : Nat} (hn : n ≤ b.framesIn) :
    (b.releaseBuffer n).framesIn = b.framesIn - n ∧ (b.releaseBuffer n).Valid ∧
      (b.buffer.drop (sizeSub b.periodSize b.framesIn * b.channels * 2)).take (n * b.frameSize) =
        b.pending.take (n * b.frameSize) ∧
      (b.releaseBuffer n).pending = b.pending.drop (n * b.frameSize) := by
  obtain ⟨hfs, -, -⟩ := h.sizes
  have hf := h.framesIn
  have hin : (b.releaseBuffer n).framesIn = b.framesIn - n := sizeSub_of_le hn
  refine ⟨hin, ⟨h.layout, h.period, h.room, ?_⟩, ?_, ?_⟩
  · rw [hin]
    exact (Nat.sub_le ..).trans hf
  · have hoff : sizeSub b.periodSize b.framesIn * b.channels * 2 =
        (b.periodSize - b.framesIn) * b.frameSize := by
      rw [sizeSub_of_le hf, hfs, Nat.mul_assoc]
    rw [hoff, pending, List.take_take, Nat.min_eq_left (Nat.mul_le_mul_right _ hn)]
  · have hoff : (b.periodSize - b.framesIn) * b.frameSize + n * b.frameSize =
        (b.periodSize - (b.framesIn - n)) * b.frameSize := by
      rw [← Nat.add_mul]
      congr 1
      omega
    have hlen : b.framesIn * b.frameSize - n * b.frameSize = (b.framesIn - n) * b.frameSize :=
      (Nat.sub_mul ..).symm
    show (b.buffer.drop ((b.periodSize - (b.releaseBuffer n).framesIn) * b.frameSize)).take
      ((b.releaseBuffer n).framesIn * b.frameSize) = _
    rw [hin, pending, List.drop_take, List.drop_drop, hoff, hlen]

/-- The remix of a period in place. -/
theorem removeChannels_eq {data : BufferRemix}
    (hlt : data.outChans * data.sampleSize < data.inChans * data.sampleSize) {buf : List β}
    {frames : Nat} (h : frames * (data.inChans * data.sampleSize) ≤ buf.length) :
    removeChannelsFromBuf data buf frames =
      strided (data.outChans * data.sampleSize) (data.inChans * data.sampleSize) frames buf ++
        buf.drop (frames * (data.outChans * data.sampleSize)) := by
  unfold removeChannelsFromBuf
  split
  · next h0 => simp [h0, strided]
  · next h0 =>
    obtain ⟨n, rfl⟩ : ∃ n, frames = n + 1 := ⟨frames - 1, by omega⟩
    rw [Nat.succ_mul] at h ⊢
    rw [if_neg (not_le.mpr hlt), Nat.add_sub_cancel, compact_eq hlt.le hlt.le (by omega),
      strided_succ, Nat.add_comm (n * _)]

theorem take_removeChannels {data : BufferRemix}
    (hlt : data.outChans * data.sampleSize < data.inChans * data.sampleSize) {buf : List β}
    {frames : Nat} (h : frames * (data.inChans * data.sampleSize) ≤ buf.length) :
    (removeChannelsFromBuf data buf frames).take (frames * (data.outChans * data.sampleSize)) =
        strided (data.outChans * data.sampleSize) (data.inChans * data.sampleSize) frames buf ∧
      (removeChannelsFromBuf data buf frames).length = buf.length := by
  have hlen := length_strided hlt.le h
  have hle := Nat.mul_le_mul_left frames hlt.le
  rw [removeChannels_eq hlt h]
  constructor
  · rw [List.take_append_of_le_length (Nat.le_of_eq hlen.symm),
      List.take_of_length_le (Nat.le_of_eq hlen)]
  · rw [List.length_append, hlen, List.length_drop]
    omega

section
variable (read : PcmRead β) (n : Nat)

theorem getNextBuffer_closed (hp : b.pcm = none) :
    b.getNextBuffer read n = (none, 0, { b with readStatus := -enodev }) := by
  unfold getNextBuffer
  split
  · rfl
  · next h => cases hp.symm.trans h

theorem getNextBuffer_kept {h : Nat} (hp : b.pcm = some h) (hf : b.framesIn ≠ 0) :
    b.getNextBuffer read n = b.provide n := by
  unfold getNextBuffer
  split
  · next h => cases hp.symm.trans h
  · exact if_neg hf

theorem getNextBuffer_failed {h : Nat} (hp : b.pcm = some h) (hf : b.framesIn = 0)
    (hst : read.status.1 ≠ 0) : b.getNextBuffer read n = (none, 0, b.pcmRead read) := by
  unfold getNextBuffer
  split
  · next h => cases hp.symm.trans h
  · rw [if_pos hf]
    exact if_pos hst

theorem getNextBuffer_filled {h : Nat} (hp : b.pcm = some h) (hf : b.framesIn = 0)
    (hst : read.status.1 = 0) : b.getNextBuffer read n =
      (remix { b.pcmRead read with framesIn := b.periodSize }).provide n := by
  unfold getNextBuffer
  split
  · next h => cases hp.symm.trans h
  · rw [if_pos hf]
    exact if_neg (not_not.mpr hst)

/-- The period `pcm_read` leaves at the front of `in->buffer`, cut to the channels of the client. -/
theorem strided_pcmRead (h : b.Valid) :
    strided b.frameSize b.hwFrameSize b.periodSize (b.pcmRead read).buffer =
      strided b.frameSize b.hwFrameSize b.periodSize
        (read.fill (b.periodSize * b.hwFrameSize)) := by
  show strided _ _ _ (List.take 0 b.buffer ++ read.fill (b.periodSize * b.hwFrameSize) ++
    b.buffer.drop _) = _
  rw [List.take_zero, List.nil_append]
  exact strided_append h.sizes.2.1 _ (read.length_fill _).ge

theorem valid_pcmRead (h : b.Valid) {k : Nat} (hk : k ≤ b.periodSize) :
    Valid { b.pcmRead read with framesIn := k } := by
  refine ⟨h.layout, h.period, ?_, hk⟩
  have hfill := read.length_fill (b.periodSize * b.hwFrameSize)
  have hroom := h.room
  show b.periodSize * b.hwFrameSize ≤ (writeAt b.buffer 0 _).length
  simp only [writeAt, List.length_append, List.length_take, List.length_drop]
  omega

end

theorem pending_full (h : b.framesIn = b.periodSize) :
    b.pending = b.buffer.take (b.periodSize * b.frameSize) := by
  rw [pending, h, Nat.sub_self, Nat.zero_mul, List.drop_zero]

theorem remix_spec (h : b.Valid) (hin : b.framesIn = b.periodSize) :
    b.remix.setting = b.setting ∧ b.remix.framesIn = b.framesIn ∧
      b.remix.readStatus = b.readStatus ∧ b.remix.Valid ∧
      b.remix.pending = strided b.frameSize b.hwFrameSize b.periodSize b.buffer := by
  have hl := h.layout
  cases hr : b.remixAtDriver with
  | none =>
    have hb : b.remix = b := by simp only [remix, hr]
    have hs : b.hwFrameSize = b.frameSize := by simp only [hwFrameSize, frameSize, hr]
    rw [hb, hs, strided_self]
    exact ⟨rfl, rfl, rfl, h, pending_full hin⟩
  | some data =>
    have hb : b.remix = { b with buffer := removeChannelsFromBuf data b.buffer b.periodSize } := by
      simp only [remix, hr, hin]
    have hout : b.frameSize = data.outChans * data.sampleSize := by simp only [frameSize, hr]
    have hhw : b.hwFrameSize = data.inChans * data.sampleSize := by simp only [hwFrameSize, hr]
    have hlt : data.outChans * data.sampleSize < data.inChans * data.sampleSize := by
      rw [hr] at hl
      generalize b.channels = n at hl
      cases hl
      decide
    have hroom := h.room
    rw [hhw] at hroom
    obtain ⟨ht, hlen⟩ := take_removeChannels hlt hroom
    rw [hb]
    refine ⟨rfl, rfl, rfl, ⟨h.layout, h.period, ?_, h.framesIn⟩, ?_⟩
    · exact h.room.trans hlen.ge
    · rw [hout, hhw, ← ht, ← hout]
      exact pending_full hin

end PeriodBuffer

namespace BufferPass

open PeriodBuffer

variable {β : Type} {p : BufferPass β}

/-- What `get_next_buffer` does: it offers nothing and sets an error, or it offers the frames that
are pending, after reading a period if there were none. -/
theorem got_cases (h : p.before.Valid) :
    (∃ g : PeriodBuffer β, p.got = (none, 0, g) ∧ g.Valid ∧ g.setting = p.before.setting ∧
        g.pending = p.before.pending ∧ p.fetched = [] ∧ g.readStatus ≠ 0 ∧
        ¬ (p.before.pcm.isSome = true ∧ p.read.status = .ok)) ∨
      ∃ g : PeriodBuffer β, p.got = g.provide p.framesRd ∧ g.Valid ∧ g.setting = p.before.setting ∧
        0 < g.framesIn ∧ g.pending = p.before.pending ++ p.fetched.flatten ∧
        (g.readStatus = 0 ∨ g.readStatus = p.before.readStatus) := by
  cases hp : p.before.pcm with
  | none =>
    have hst : (-enodev : Int) ≠ 0 := by decide
    exact .inl ⟨_, getNextBuffer_closed _ _ hp, ⟨h.layout, h.period, h.room, h.framesIn⟩, rfl, rfl,
      if_neg fun hc => (by rw [hp] at hc; cases hc.1), hst, fun hc => (by cases hc.1)⟩
  | some n =>
    by_cases hf : p.before.framesIn = 0
    · by_cases hst : p.read.status.1 = 0
      · obtain ⟨h1, h2, h3, h4, h5⟩ :=
          remix_spec (valid_pcmRead p.read h (Nat.le_refl p.before.periodSize)) rfl
        refine .inr ⟨_, getNextBuffer_filled _ _ hp hf hst, h4, h1, h2 ▸ h.period, ?_,
          .inl (h3.trans hst)⟩
        have hfet : p.fetched = [p.period] := if_pos ⟨by rw [hp]; rfl, hf, hst⟩
        rw [hfet, pending_of_zero hf, List.nil_append, List.flatten_singleton, h5]
        exact strided_pcmRead p.read h
      · refine .inl ⟨_, getNextBuffer_failed _ _ hp hf hst, ?_, rfl, ?_,
          if_neg fun hc => hst hc.2.2, hst, fun hc => hst (congrArg Subtype.val hc.2)⟩
        · have hv := valid_pcmRead p.read h (Nat.zero_le _)
          rw [← hf] at hv
          exact hv
        · rw [pending_of_zero hf]
          exact pending_of_zero hf
    · refine .inr ⟨p.before, getNextBuffer_kept _ _ hp hf, h, rfl, Nat.pos_of_ne_zero hf, ?_, .inr rfl⟩
      have hfet : p.fetched = [] := if_neg fun hc => hf hc.2.1
      rw [hfet, List.flatten_nil, List.append_nil]

/-- What one pass does to the queue of bytes that are pending, and that `frames_in` does not wrap. -/
theorem pass_spec (h : p.before.Valid) :
    p.after.Valid ∧ p.after.setting = p.before.setting ∧
      p.got.2.2.framesIn ≤ p.before.periodSize ∧ p.got.2.1 ≤ p.got.2.2.framesIn ∧
      p.after.framesIn = p.got.2.2.framesIn - p.got.2.1 ∧
      Moves p.before.pending p.fetched.flatten p.out p.after.pending := by
  rcases got_cases h with ⟨g, hg, hv, hset, hq, hfet, -, -⟩ | ⟨g, hg, hv, hset, -, hq, -⟩
  · obtain ⟨hin, hrv, -, hpend⟩ := release_spec hv (Nat.zero_le g.framesIn)
    have hout : p.out = [] := by simp only [out, hg]
    have hafter : p.after = g.releaseBuffer 0 := by simp only [after, hg]
    obtain ⟨-, -, hps, -⟩ := sizes_congr hset
    rw [hout, hafter, hfet, hg]
    refine ⟨hrv, hset, hps ▸ hv.framesIn, Nat.zero_le _, hin, ?_⟩
    rw [hpend, Nat.zero_mul, List.drop_zero, hq]
    exact .refl _
  · obtain ⟨n, hn⟩ : ∃ n, n = if p.framesRd > g.framesIn then g.framesIn else p.framesRd := ⟨_, rfl⟩
    have hle : n ≤ g.framesIn := by
      rw [hn]
      split <;> omega
    have hgot : p.got = (some (sizeSub g.periodSize g.framesIn * g.channels * 2), n, g) := by
      rw [hg, hn]
      rfl
    obtain ⟨hfs, -, hps, -⟩ := sizes_congr hset
    obtain ⟨hin, hrv, htake, hpend⟩ := release_spec hv hle
    have hout : p.out = g.pending.take (n * g.frameSize) := by
      rw [← htake, hfs]
      simp only [out, hgot]
    have hafter : p.after = g.releaseBuffer n := by simp only [after, hgot]
    rw [hout, hafter, hgot]
    refine ⟨hrv, hset, hps ▸ hv.framesIn, hle, hin, ?_⟩
    have hput : Moves p.before.pending p.fetched.flatten [] g.pending := hq ▸ .put _ _
    rw [hpend]
    simpa using hput.trans (.take _ (n * g.frameSize))

/-- A pass without an error copies a frame at least, and at most the frames asked for. -/
theorem count_spec (h : p.before.Valid) (hst : p.after.readStatus = 0) (hrd : 0 < p.framesRd) :
    0 < p.count ∧ p.count ≤ p.framesRd ∧ p.out.length = p.count * p.before.frameSize := by
  rcases got_cases h with ⟨g, hg, -, -, -, -, hne, -⟩ | ⟨g, hg, hv, hset, hpos, -, -⟩
  · refine absurd ?_ hne
    rw [← hst]
    simp only [after, hg]
    rfl
  · obtain ⟨n, hn⟩ : ∃ n, n = if p.framesRd > g.framesIn then g.framesIn else p.framesRd := ⟨_, rfl⟩
    have hgot : p.got = (some (sizeSub g.periodSize g.framesIn * g.channels * 2), n, g) := by
      rw [hg, hn]
      rfl
    have hcount : p.count = n := by simp only [count, hgot]
    have hle : n ≤ g.framesIn := by
      rw [hn]
      split <;> omega
    obtain ⟨hfs, -, -, -⟩ := sizes_congr hset
    obtain ⟨-, -, htake, -⟩ := release_spec hv hle
    have hout : p.out = g.pending.take (n * g.frameSize) := by
      rw [← htake, hfs]
      simp only [out, hgot]
    rw [hcount]
    refine ⟨?_, ?_, ?_⟩
    · rw [hn]
      split <;> omega
    · rw [hn]
      split <;> omega
    · rw [hout, List.length_take, length_pending hv, hfs]
      exact Nat.min_eq_left (Nat.mul_le_mul_right _ hle)

theorem readStatus_after (h : p.before.Valid) (h0 : p.before.readStatus = 0)
    (hp : p.before.pcm.isSome = true) (hr : p.read.status = .ok) : p.after.readStatus = 0 := by
  rcases got_cases h with ⟨_, _, _, _, _, _, _, hno⟩ | ⟨g, hg, -, -, -, -, hst⟩
  · exact absurd ⟨hp, hr⟩ hno
  · have hafter : p.after.readStatus = g.readStatus := by
      simp only [after, hg]
      rfl
    rw [hafter]
    exact hst.elim id fun he => he.trans h0

end BufferPass

/-! ## Calls in turn -/

/-- A call of `read_frames`, with a `pcm_read` for every pass it can make. -/
structure ReadCall (β : Type) where
  frames : Nat
  dst : List β
  reads : List (PcmRead β)
  enough : frames ≤ reads.length

/-- What `read_frames` returned, the client's buffer and the stream. -/
structure ReadResult (β : Type) where
  ret : Option Int
  dst : List β
  buffer : PeriodBuffer β

section
variable {β : Type}

/-- `read_frames`, from `frames_wr` on. -/
def PeriodBuffer.readFrames (frames : Nat) :
    List (PcmRead β) → Nat → List β → PeriodBuffer β → ReadResult β
  | [], framesWr, dst, b => ⟨if frames ≤ framesWr then some framesWr else none, dst, b⟩
  | read :: reads, framesWr, dst, b =>
    if frames ≤ framesWr then ⟨some framesWr, dst, b⟩
    else
      let p : BufferPass β := ⟨b, frames - framesWr, read⟩
      let dst := writeAt dst (framesWr * b.frameSize) p.out
      if p.after.readStatus ≠ 0 then ⟨some p.after.readStatus, dst, p.after⟩
      else readFrames frames reads (framesWr + p.count) dst p.after

/-- Its passes. -/
def PeriodBuffer.readPasses (frames : Nat) :
    List (PcmRead β) → Nat → PeriodBuffer β → List (BufferPass β)
  | [], _, _ => []
  | read :: reads, framesWr, b =>
    if frames ≤ framesWr then []
    else
      let p : BufferPass β := ⟨b, frames - framesWr, read⟩
      p :: if p.after.readStatus ≠ 0 then [] else
        readPasses frames reads (framesWr + p.count) p.after

def ReadCall.run (call : ReadCall β) (b : PeriodBuffer β) : ReadResult β :=
  b.readFrames call.frames call.reads 0 call.dst

def ReadCall.passes (call : ReadCall β) (b : PeriodBuffer β) : List (BufferPass β) :=
  b.readPasses call.frames call.reads 0

/-- The calls, each with the stream it finds. -/
def readSession : List (ReadCall β) → PeriodBuffer β → List (ReadCall β × PeriodBuffer β)
  | [], _ => []
  | call :: calls, b => (call, b) :: readSession calls (call.run b).buffer

/-- The stream after the calls. -/
def readSessionEnd : List (ReadCall β) → PeriodBuffer β → PeriodBuffer β
  | [], b => b
  | call :: calls, b => readSessionEnd calls (call.run b).buffer

/-- The part of the client's buffer that a call is to fill. -/
def ReadCall.filled (call : ReadCall β) (b : PeriodBuffer β) : List β :=
  (call.run b).dst.take (call.frames * b.frameSize)

/-- The periods that the calls read. -/
def periodsRead (calls : List (ReadCall β)) (b : PeriodBuffer β) : List (List β) :=
  (readSession calls b).flatMap fun x => (x.1.passes x.2).flatMap BufferPass.fetched

end

/-! ## One call -/

section
variable {β : Type} {frames : Nat} {b : PeriodBuffer β}

open PeriodBuffer

theorem BufferPass.fetched_spec (p : BufferPass β) (h : p.fetched ≠ []) :
    p.before.pending = [] ∧ p.fetched = [p.period] := by
  unfold BufferPass.fetched at h ⊢
  split at h
  · next hc => exact ⟨pending_of_zero hc.2.1, if_pos hc⟩
  · exact absurd rfl h

/-- What is left after a pass is the end of the last period read. -/
theorem BufferPass.after_suffix {p : BufferPass β} (h : p.before.Valid) :
    p.after.pending <:+ p.fetched.getLastD p.before.pending := by
  obtain ⟨-, -, -, -, -, hm⟩ := pass_spec h
  have hs : p.after.pending <:+ p.before.pending ++ p.fetched.flatten := ⟨p.out, hm.symm⟩
  by_cases hf : p.fetched = []
  · rw [hf] at hs ⊢
    simpa using hs
  · obtain ⟨hq, hp⟩ := p.fetched_spec hf
    rw [hp, hq] at hs
    rw [hp]
    simpa using hs

theorem getLastD_append {γ : Type*} (xs ys : List γ) (x : γ) :
    (xs ++ ys).getLastD x = ys.getLastD (xs.getLastD x) := by
  cases ys with
  | nil => simp
  | cons y ys => simp [List.getLastD_eq_getLast?, List.getLast?_append]

theorem getLastD_suffix {x y : List β} (h : x <:+ y) (xs : List (List β)) :
    xs.getLastD x <:+ xs.getLastD y := by
  cases xs with
  | nil => exact h
  | cons z xs => exact List.suffix_refl _

variable (frames) in
/-- What the passes of a call do to the bytes that are pending, errors included. -/
theorem PeriodBuffer.readFrames_spec (h : b.Valid) (reads : List (PcmRead β)) (framesWr : Nat)
    (dst : List β) :
    (b.readFrames frames reads framesWr dst).buffer.Valid ∧
      (b.readFrames frames reads framesWr dst).buffer.setting = b.setting ∧
      (∀ p ∈ b.readPasses frames reads framesWr, p.before.Valid ∧ p.before.setting = b.setting) ∧
      Moves b.pending ((b.readPasses frames reads framesWr).flatMap BufferPass.fetched).flatten
        ((b.readPasses frames reads framesWr).flatMap BufferPass.out)
        (b.readFrames frames reads framesWr dst).buffer.pending ∧
      (b.readFrames frames reads framesWr dst).buffer.pending <:+
        ((b.readPasses frames reads framesWr).flatMap BufferPass.fetched).getLastD b.pending := by
  induction reads generalizing framesWr dst b with
  | nil => exact ⟨h, rfl, fun p hp => (by cases hp), .refl _, List.suffix_refl _⟩
  | cons read reads ih =>
    rw [PeriodBuffer.readFrames, readPasses]
    split
    · exact ⟨h, rfl, fun p hp => (by cases hp), .refl _, List.suffix_refl _⟩
    · obtain ⟨p, hp⟩ : ∃ p : BufferPass β, p = ⟨b, frames - framesWr, read⟩ := ⟨_, rfl⟩
      have hb : p.before = b := by rw [hp]
      have hv : p.before.Valid := hb ▸ h
      obtain ⟨hav, has, -, -, -, hm⟩ := BufferPass.pass_spec hv
      have hsuf := BufferPass.after_suffix hv
      simp only [← hp]
      rw [hb] at has hm hsuf
      split
      · next hst =>
        refine ⟨hav, has, fun q hq => ?_, ?_, ?_⟩
        · obtain rfl := List.mem_singleton.mp hq
          exact ⟨hv, congrArg setting hb⟩
        · simpa using hm
        · simpa using hsuf
      · obtain ⟨h1, h2, h3, h4, h5⟩ := ih hav (framesWr + p.count)
          (writeAt dst (framesWr * b.frameSize) p.out)
        refine ⟨h1, h2.trans has, fun q hq => ?_, ?_, ?_⟩
        · rcases List.mem_cons.mp hq with rfl | hq
          · exact ⟨hv, congrArg setting hb⟩
          · exact ⟨(h3 q hq).1, (h3 q hq).2.trans has⟩
        · rw [List.flatMap_cons, List.flatMap_cons, List.flatten_append]
          exact hm.trans h4
        · rw [List.flatMap_cons, getLastD_append]
          exact h5.trans (getLastD_suffix hsuf _)

/-- A pass that is not the last one copies a frame, so no call makes more passes than it is asked
for frames. -/
theorem PeriodBuffer.readFrames_returns (h : b.Valid) (reads : List (PcmRead β)) (framesWr : Nat)
    (dst : List β) (hle : frames ≤ framesWr + reads.length) :
    (b.readFrames frames reads framesWr dst).ret.isSome = true := by
  induction reads generalizing framesWr dst b with
  | nil =>
    have hle : frames ≤ framesWr := hle
    rw [PeriodBuffer.readFrames, if_pos hle]
    rfl
  | cons read reads ih =>
    rw [PeriodBuffer.readFrames]
    split
    · rfl
    · next hlt =>
      obtain ⟨p, hp⟩ : ∃ p : BufferPass β, p = ⟨b, frames - framesWr, read⟩ := ⟨_, rfl⟩
      have hb : p.before = b := by rw [hp]
      have hrd : p.framesRd = frames - framesWr := by rw [hp]
      have hv : p.before.Valid := hb ▸ h
      simp only [← hp]
      split
      · rfl
      · next hst =>
        have hpos := (BufferPass.count_spec hv (not_not.mp hst) (by omega)).1
        refine ih (BufferPass.pass_spec hv).1 _ _ ?_
        rw [List.length_cons] at hle
        omega

/-- Without errors a call returns the frames it is asked for, and the client's buffer holds what
its passes copied. -/
theorem PeriodBuffer.readFrames_delivers (h : b.Valid) (hpcm : b.pcm.isSome = true)
    (h0 : b.readStatus = 0) (reads : List (PcmRead β)) (hok : ∀ r ∈ reads, r.status = .ok) (framesWr : Nat) (dst : List β)
    (hle : framesWr ≤ frames) (hen : frames ≤ framesWr + reads.length)
    (hdst : framesWr * b.frameSize ≤ dst.length) :
    (b.readFrames frames reads framesWr dst).ret = some (frames : Int) ∧
      (b.readFrames frames reads framesWr dst).buffer.readStatus = 0 ∧
      frames * b.frameSize ≤ (b.readFrames frames reads framesWr dst).dst.length ∧
      (b.readFrames frames reads framesWr dst).dst.take (frames * b.frameSize) =
        dst.take (framesWr * b.frameSize) ++
          (b.readPasses frames reads framesWr).flatMap BufferPass.out := by
  induction reads generalizing framesWr dst b with
  | nil =>
    obtain rfl : framesWr = frames := Nat.le_antisymm hle hen
    rw [PeriodBuffer.readFrames, readPasses, if_pos (Nat.le_refl _)]
    exact ⟨rfl, h0, hdst, by simp⟩
  | cons read reads ih =>
    rw [PeriodBuffer.readFrames, readPasses]
    split
    · next hge =>
      obtain rfl : framesWr = frames := Nat.le_antisymm hle hge
      exact ⟨rfl, h0, hdst, by simp⟩
    · next hlt =>
      obtain ⟨p, hp⟩ : ∃ p : BufferPass β, p = ⟨b, frames - framesWr, read⟩ := ⟨_, rfl⟩
      have hb : p.before = b := by rw [hp]
      have hread : p.read = read := by rw [hp]
      have hrd : p.framesRd = frames - framesWr := by rw [hp]
      have hv : p.before.Valid := hb ▸ h
      obtain ⟨hav, has, -, -, -, -⟩ := BufferPass.pass_spec hv
      have hst : p.after.readStatus = 0 := BufferPass.readStatus_after hv (hb ▸ h0) (hb ▸ hpcm)
        (hread ▸ hok read List.mem_cons_self)
      obtain ⟨hpos, hcl, hol⟩ := BufferPass.count_spec hv hst (by omega)
      rw [hb] at has hol
      obtain ⟨hfs, -, -, hap⟩ := sizes_congr has
      have hoff : framesWr * b.frameSize + p.out.length = (framesWr + p.count) * b.frameSize := by
        rw [hol, Nat.add_mul]
      have hroom := length_writeAt p.out hdst
      rw [hoff] at hroom
      obtain ⟨h1, h2, h3, h4⟩ := ih hav (hap ▸ hpcm) hst
        (fun r hr => hok r (List.mem_cons_of_mem _ hr)) (framesWr + p.count)
        (writeAt dst (framesWr * b.frameSize) p.out) (by omega)
        (by rw [List.length_cons] at hen; omega) (hfs ▸ hroom)
      simp only [← hp, hst, ne_eq, not_true_eq_false, if_false]
      rw [hfs] at h3 h4
      refine ⟨h1, h2, h3, h4.trans ?_⟩
      rw [List.flatMap_cons, ← List.append_assoc, ← hoff, take_writeAt p.out hdst]

end

/-! ## Over the calls -/

section
variable {β : Type} {b : PeriodBuffer β}

open PeriodBuffer

theorem readSession_spec (h : b.Valid) (calls : List (ReadCall β)) :
    (readSessionEnd calls b).Valid ∧ (readSessionEnd calls b).setting = b.setting ∧
      (∀ x ∈ readSession calls b, x.1 ∈ calls ∧ x.2.Valid ∧ x.2.setting = b.setting) ∧
      Moves b.pending (periodsRead calls b).flatten
        ((readSession calls b).flatMap fun x => (x.1.passes x.2).flatMap BufferPass.out)
        (readSessionEnd calls b).pending ∧
      (readSessionEnd calls b).pending <:+ (periodsRead calls b).getLastD b.pending := by
  induction calls generalizing b with
  | nil => exact ⟨h, rfl, fun x hx => (by cases hx), .refl _, List.suffix_refl _⟩
  | cons call calls ih =>
    obtain ⟨hv, hs, -, hm, hsuf⟩ :=
      PeriodBuffer.readFrames_spec call.frames h call.reads 0 call.dst
    obtain ⟨h1, h2, h3, h4, h5⟩ := ih hv
    have hper : periodsRead (call :: calls) b =
        (call.passes b).flatMap BufferPass.fetched ++ periodsRead calls (call.run b).buffer := rfl
    refine ⟨h1, h2.trans hs, fun x hx => ?_, ?_, ?_⟩
    · rcases List.mem_cons.mp hx with rfl | hx
      · exact ⟨List.mem_cons_self, h, rfl⟩
      · obtain ⟨hx1, hx2, hx3⟩ := h3 x hx
        exact ⟨List.mem_cons_of_mem _ hx1, hx2, hx3.trans hs⟩
    · rw [hper, List.flatten_append]
      exact hm.trans h4
    · rw [hper, getLastD_append]
      exact h5.trans (getLastD_suffix hsuf _)

theorem readStatus_readSession (h : b.Valid) (hpcm : b.pcm.isSome = true) (h0 : b.readStatus = 0)
    {calls : List (ReadCall β)} (hok : ∀ call ∈ calls, ∀ r ∈ call.reads, r.status = .ok) :
    ∀ x ∈ readSession calls b, x.2.readStatus = 0 := by
  induction calls generalizing b with
  | nil =>
    intro x hx
    cases hx
  | cons call calls ih =>
    intro x hx
    rcases List.mem_cons.mp hx with rfl | hx
    · exact h0
    · obtain ⟨hv, hs, -, -, -⟩ := PeriodBuffer.readFrames_spec call.frames h call.reads 0 call.dst
      obtain ⟨-, -, -, hap⟩ := sizes_congr hs
      obtain ⟨-, hst, -, -⟩ := PeriodBuffer.readFrames_delivers h hpcm h0 call.reads
        (hok call List.mem_cons_self) 0 call.dst (Nat.zero_le _)
        (call.enough.trans (Nat.le_add_left ..)) (by rw [Nat.zero_mul]; exact Nat.zero_le _)
      exact ih hv (hap ▸ hpcm) hst (fun c hc => hok c (List.mem_cons_of_mem _ hc)) x hx

/-- In a session without errors each call returns what it is asked for, and fills the client's
buffer with what its passes copied. -/
theorem readSession_delivers (h : b.Valid) (hpcm : b.pcm.isSome = true) (h0 : b.readStatus = 0)
    {calls : List (ReadCall β)} (hok : ∀ call ∈ calls, ∀ r ∈ call.reads, r.status = .ok) :
    ∀ x ∈ readSession calls b, (x.1.run x.2).ret = some (x.1.frames : Int) ∧
      (x.1.filled x.2).length = x.1.frames * b.frameSize ∧
      x.1.filled x.2 = (x.1.passes x.2).flatMap BufferPass.out := by
  intro x hx
  obtain ⟨-, -, hmem, -, -⟩ := readSession_spec h calls
  obtain ⟨hc, hv, hs⟩ := hmem x hx
  obtain ⟨hfs, -, -, hap⟩ := sizes_congr hs
  obtain ⟨h1, -, h3, h4⟩ := PeriodBuffer.readFrames_delivers hv (hap ▸ hpcm)
    (readStatus_readSession h hpcm h0 hok x hx) x.1.reads (hok x.1 hc) 0 x.1.dst (Nat.zero_le _)
    (x.1.enough.trans (Nat.le_add_left ..)) (by rw [Nat.zero_mul]; exact Nat.zero_le _)
  refine ⟨h1, ?_, ?_⟩
  · rw [← hfs]
    exact List.length_take_of_le h3
  · rw [Nat.zero_mul, List.take_zero, List.nil_append] at h4
    exact h4

theorem read_frames_fifo (h : b.Valid) (calls : List (ReadCall β)) :
    (∀ x ∈ readSession calls b, (x.1.run x.2).ret.isSome = true ∧
      ∀ p ∈ x.1.passes x.2, p.before.framesIn ≤ b.periodSize ∧
        p.got.2.2.framesIn ≤ b.periodSize ∧ p.after.framesIn ≤ b.periodSize ∧
        p.got.2.1 ≤ p.got.2.2.framesIn ∧ p.after.framesIn = p.got.2.2.framesIn - p.got.2.1 ∧
        (p.fetched ≠ [] → p.before.pending = [])) ∧
    (b.pcm.isSome = true → b.readStatus = 0 →
      (∀ call ∈ calls, ∀ r ∈ call.reads, r.status = .ok) →
      (∀ x ∈ readSession calls b, (x.1.run x.2).ret = some (x.1.frames : Int) ∧
        (x.1.filled x.2).length = x.1.frames * b.frameSize) ∧
      b.pending ++ (periodsRead calls b).flatten =
        ((readSession calls b).flatMap fun x => x.1.filled x.2) ++
          (readSessionEnd calls b).pending ∧
      (readSessionEnd calls b).pending.length = (readSessionEnd calls b).framesIn * b.frameSize ∧
      (readSessionEnd calls b).pending <:+ (periodsRead calls b).getLastD b.pending ∧
      (b.framesIn = 0 → ((readSession calls b).flatMap fun x => x.1.filled x.2) <+:
        (periodsRead calls b).flatten)) := by
  obtain ⟨hv, hs, hmem, hm, hsuf⟩ := readSession_spec h calls
  refine ⟨fun x hx => ?_, fun hpcm h0 hok => ?_⟩
  · obtain ⟨-, hxv, hxs⟩ := hmem x hx
    refine ⟨PeriodBuffer.readFrames_returns hxv x.1.reads 0 x.1.dst
      (x.1.enough.trans (Nat.le_add_left ..)), fun p hp => ?_⟩
    obtain ⟨-, -, hpv, -, -⟩ := PeriodBuffer.readFrames_spec x.1.frames hxv x.1.reads 0 x.1.dst
    obtain ⟨hpv, hps⟩ := hpv p hp
    obtain ⟨hav, has, hgot, hle, hin, -⟩ := BufferPass.pass_spec hpv
    obtain ⟨-, -, hbp, -⟩ := sizes_congr (hps.trans hxs)
    obtain ⟨-, -, hap, -⟩ := sizes_congr has
    exact ⟨hbp ▸ hpv.framesIn, hbp ▸ hgot, hbp ▸ hap ▸ hav.framesIn, hle, hin,
      fun hf => (p.fetched_spec hf).1⟩
  · have hd := readSession_delivers h hpcm h0 hok
    have hfill : ((readSession calls b).flatMap fun x => x.1.filled x.2) =
        (readSession calls b).flatMap fun x => (x.1.passes x.2).flatMap BufferPass.out :=
      List.flatMap_congr fun x hx => (hd x hx).2.2
    obtain ⟨hfs, -, -, -⟩ := sizes_congr hs
    rw [hfill]
    refine ⟨fun x hx => ⟨(hd x hx).1, (hd x hx).2.1⟩, hm, ?_, hsuf, fun hf => ?_⟩
    · rw [← hfs]
      exact length_pending hv
    · rw [pending_of_zero hf] at hm
      exact hm.prefix_of_nil

/-- A `pcm_read` of the bytes from `k` on. -/
def readFrom (k : Nat) : PcmRead Nat := ⟨.ok, fun n => List.range' k n, fun _ => List.length_range'⟩

/-- A mono stream of a stereo driver, two frames a period. -/
def monoOfStereo : PeriodBuffer Nat :=
  (opened 1 2 fun n => List.replicate n 0).started true 0 fun n => List.replicate n 0

/-- Three frames, then two. -/
def threeThenTwo : List (ReadCall Nat) :=
  [⟨3, [], [readFrom 0, readFrom 10, readFrom 20], by decide⟩,
   ⟨2, [], [readFrom 30, readFrom 40], by decide⟩]

theorem read_frames_fifo_threeThenTwo :
    ((readSession threeThenTwo monoOfStereo).map fun x => x.1.filled x.2) =
        [[0, 1, 4, 5, 10, 11], [14, 15, 40, 41]] ∧
      periodsRead threeThenTwo monoOfStereo = [[0, 1, 4, 5], [10, 11, 14, 15], [40, 41, 44, 45]] ∧
      ((readSession threeThenTwo monoOfStereo).flatMap fun x => x.1.filled x.2) <+:
        (periodsRead threeThenTwo monoOfStereo).flatten := by
  have hb : ∀ n, (List.replicate n 0).length = n := fun n => List.length_replicate
  have hv : monoOfStereo.Valid := (valid_opened (.inl rfl) (by decide) hb).started hb true 0
  refine ⟨by decide, by decide, ?_⟩
  exact ((read_frames_fifo hv threeThenTwo).2 rfl rfl (by decide)).2.2.2.2 rfl

end

end P970.Audio
