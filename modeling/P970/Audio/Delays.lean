import P970.Audio.Sizes

/-!
# The delays of the echo canceller

What `get_capture_delay` and `get_playback_delay` report to the echo reference,
against the time the queued frames last. The 32-bit build's `long` is cut to 32
bits and its sums wrap around; the products of a `size_t` and 10^9 fit in the
`int64_t` they are formed in.
-/

namespace P970.Audio

open P970.Words (Fits)

/-! ## The functions -/

structure Timespec where
  tvSec : BitVec 32
  tvNsec : BitVec 32
  deriving DecidableEq, Repr

/-- What `pcm_get_htimestamp` returns, and what it stores when it does not fail. -/
structure HTimestamp where
  status : Int
  avail : BitVec 32
  timeStamp : Timespec
  deriving DecidableEq, Repr

/-- The fields of `struct echo_reference_buffer` the two functions store. -/
structure EchoTiming where
  timeStamp : Timespec
  delayNs : BitVec 32
  deriving DecidableEq, Repr

def EchoTiming.zero : EchoTiming := ⟨⟨0, 0⟩, 0⟩

/-- `(long)((int64_t)frames * 1000000000 / rate)`. -/
def framesDelay (frames : BitVec 32) (rate : Nat) : BitVec 32 :=
  BitVec.ofInt 32 (((frames.toNat : Int) * 1000000000).tdiv rate)

section
variable {α : Type}

/-- `rsmp` is what `delay_ns` of the resampler returns. -/
def rsmpDelay (inp : OmapStreamIn α) (rsmp : BitVec 32) : BitVec 32 :=
  if inp.resampler then rsmp else 0

theorem rsmpDelay_zero (inp : OmapStreamIn α) : rsmpDelay inp 0 = 0 := ite_self 0

def getCaptureDelay (inp : OmapStreamIn α) (ts : HTimestamp) (rsmp : BitVec 32) : EchoTiming :=
  if ts.status < 0 then .zero
  else
    let bufDelay := framesDelay
      (BitVec.ofNat 32 inp.capture.framesIn + BitVec.ofNat 32 inp.capture.procFramesIn) inp.rate
    let kernelDelay := framesDelay ts.avail inp.rate
    ⟨ts.timeStamp, kernelDelay + bufDelay + rsmpDelay inp rsmp⟩

end

def getPlaybackDelay (bufferSize frames : BitVec 32) (ts : HTimestamp) : Int × EchoTiming :=
  if ts.status < 0 then (ts.status, .zero)
  else
    let kernelFrames := bufferSize - ts.avail
    (0, ⟨ts.timeStamp, framesDelay (kernelFrames + frames) mmFullPowerSamplingRate⟩)

/-- `kernel_frames` of `out_write`, an `int`. -/
def throttleFrames (bufferSize avail : BitVec 32) : Int := (bufferSize - avail).toInt

/-- The frames of a write. -/
def outWriteFrames (bytes : BitVec 32) : BitVec 32 := bytes / outFrameSize

theorem framesDelay_eq (frames : BitVec 32) (rate : Nat) :
    framesDelay frames rate = BitVec.ofInt 32 (frames.toNat * 1000000000 / rate : Nat) := by
  rw [framesDelay, Int.tdiv_eq_ediv_of_nonneg (by omega)]
  rfl

/-! ## Capture -/

/-- The rates that have a frame last longer than the hardware's. -/
theorem le_44100_of_supported {rate : Nat} (h : rate ∈ supportedRates)
    (hne : rate ≠ mmFullPowerSamplingRate) : rate ≤ 44100 := by
  simp only [supportedRates, List.mem_cons, List.not_mem_nil, or_false] at h
  rw [show mmFullPowerSamplingRate = 48000 from rfl] at hne
  omega

section
variable {α : Type} [Zero α] {name : String} {alloc : Bool} {mixer : Option Mixer} {s₀ s : Hal α}
  {i : InId} {inp : OmapStreamIn α}

omit [Zero α] in
/-- How long the frames in front of a capture last, in nanoseconds: those in the kernel and in
`in->buffer` are at the rate of the hardware, those in `proc_buf` at the rate asked for. -/
def captureDelay (inp : OmapStreamIn α) (kernelFrames rsmp : BitVec 32) : ℚ :=
  ((kernelFrames.toNat : ℚ) / inp.rate + inp.capture.framesIn / inp.rate +
    inp.capture.procFramesIn / inp.requestedRate) * 1000000000 + (rsmpDelay inp rsmp).toInt

theorem toInt_captureDelay {k f d : BitVec 32}
    (h : (k.toNat * 1000000000 / 48000 + f.toNat * 1000000000 / 48000 : Nat) + d.toInt < 2 ^ 31) :
    (framesDelay k 48000 + framesDelay f 48000 + d).toInt =
      (k.toNat * 1000000000 / 48000 + f.toNat * 1000000000 / 48000 : Nat) + d.toInt := by
  obtain ⟨hd, -⟩ := Words.fits_toInt d
  rw [framesDelay_eq, framesDelay_eq, ← BitVec.ofInt_add, ← Int.natCast_add,
    Words.toInt_ofInt_add ⟨by omega, h⟩]

omit [Zero α] in
/-- The report, where the counters do not wrap around, is the two whole quotients and the
resampler's delay. -/
theorem toInt_getCaptureDelay (inp : OmapStreamIn α) (hr : inp.rate = 48000) {ts : HTimestamp} (hts : 0 ≤ ts.status)
    {rsmp : BitVec 32} {n : Nat}
    (hf : inp.capture.framesIn + inp.capture.procFramesIn < 2 ^ 32)
    (hn : ts.avail.toNat * 1000000000 / 48000 +
      (inp.capture.framesIn + inp.capture.procFramesIn) * 1000000000 / 48000 = n)
    (h : (n : Int) + (rsmpDelay inp rsmp).toInt < 2 ^ 31) :
    (getCaptureDelay inp ts rsmp).delayNs.toInt = n + (rsmpDelay inp rsmp).toInt := by
  have hsum : (BitVec.ofNat 32 inp.capture.framesIn + BitVec.ofNat 32 inp.capture.procFramesIn).toNat =
      inp.capture.framesIn + inp.capture.procFramesIn := by
    rw [← BitVec.ofNat_add, BitVec.toNat_ofNat, Nat.mod_eq_of_lt hf]
  rw [getCaptureDelay, if_neg (by omega), hr]
  simp only
  rw [toInt_captureDelay (by rw [hsum, hn]; exact h), hsum, hn]

/-- The report is the time the queued frames last, up to rounding, exactly when none of them are in
`proc_buf` or the rate asked for is the hardware's; else every frame there is converted short. -/
theorem capture_delay_iff (h0 : adevOpen name alloc mixer = .ok s₀) (h : Reach step s₀ s)
    (hi : s.ins i = some inp) (c : Capture α) (ts : HTimestamp) (hts : 0 ≤ ts.status)
    (rsmp : BitVec 32) (hfit : captureDelay { inp with capture := c } ts.avail rsmp < 2 ^ 31) :
    |((getCaptureDelay { inp with capture := c } ts rsmp).delayNs.toInt : ℚ) -
        captureDelay { inp with capture := c } ts.avail rsmp| ≤ 3 ↔
      c.procFramesIn = 0 ∨ inp.requestedRate = mmFullPowerSamplingRate := by
  obtain ⟨-, hr, hq, -⟩ := formed_run h0 h i inp hi
  have hrate : inp.rate = 48000 := hr
  obtain ⟨hd, -⟩ := Words.fits_toInt (rsmpDelay inp rsmp)
  have hd' : (-2 ^ 31 : ℚ) ≤ (rsmpDelay inp rsmp).toInt := by exact_mod_cast hd
  have hdelay : captureDelay { inp with capture := c } ts.avail rsmp =
      ((ts.avail.toNat : ℚ) / 48000 + c.framesIn / 48000 + c.procFramesIn / inp.requestedRate) *
        1000000000 + (rsmpDelay inp rsmp).toInt := by
    simp only [captureDelay, hrate]
    rfl
  rw [hdelay] at hfit ⊢
  have hp0 : (0 : ℚ) ≤ c.procFramesIn := Nat.cast_nonneg _
  have hf0 : (0 : ℚ) ≤ c.framesIn := Nat.cast_nonneg _
  have hk0 : (0 : ℚ) ≤ ts.avail.toNat := Nat.cast_nonneg _
  have hle : ∀ m : Nat, inp.requestedRate ≤ m →
      (c.procFramesIn : ℚ) / m ≤ c.procFramesIn / inp.requestedRate := by
    intro m hm
    have hpos := (le_of_supported hq).1
    apply div_le_div_of_nonneg_left hp0
    · exact_mod_cast (by omega : 0 < inp.requestedRate)
    · exact_mod_cast hm
  have h48 := hle 48000 (le_of_supported hq).2
  push_cast at h48
  -- The total fits, so the counters do and the quotients of the report do.
  obtain ⟨hA, hA'⟩ := Words.cast_div_bounds (ts.avail.toNat * 1000000000) 48000
  obtain ⟨hB, hB'⟩ := Words.cast_div_bounds ((c.framesIn + c.procFramesIn) * 1000000000) 48000
  have hsum : c.framesIn + c.procFramesIn < 2 ^ 32 := by
    have h : ((c.framesIn : ℚ) + c.procFramesIn) < 2 ^ 32 := by linarith
    exact_mod_cast h
  obtain ⟨A, hAe⟩ : ∃ A, ts.avail.toNat * 1000000000 / 48000 = A := ⟨_, rfl⟩
  obtain ⟨B, hBe⟩ : ∃ B, (c.framesIn + c.procFramesIn) * 1000000000 / 48000 = B := ⟨_, rfl⟩
  rw [hAe] at hA hA'
  rw [hBe] at hB hB'
  push_cast at hA hA' hB hB'
  have hn : ((A + B : Nat) : Int) + (rsmpDelay inp rsmp).toInt < 2 ^ 31 := by
    have h : ((A : ℚ) + B) + (rsmpDelay inp rsmp).toInt < 2 ^ 31 := by linarith
    exact_mod_cast h
  have hrep : (getCaptureDelay { inp with capture := c } ts rsmp).delayNs.toInt =
      (A + B : Nat) + (rsmpDelay inp rsmp).toInt :=
    toInt_getCaptureDelay { inp with capture := c } hrate hts hsum (congrArg₂ _ hAe hBe) hn
  rw [hrep, abs_le]
  push_cast
  constructor
  · rintro ⟨h3, -⟩
    by_contra hne
    obtain ⟨hp, hr⟩ := not_or.mp hne
    have h44 := hle 44100 (le_44100_of_supported hq hr)
    have hp1 : (1 : ℚ) ≤ c.procFramesIn := by exact_mod_cast Nat.one_le_iff_ne_zero.mpr hp
    push_cast at h44
    linarith
  · rintro (h | h)
    · have hp : (c.procFramesIn : ℚ) = 0 := by exact_mod_cast h
      rw [hp, zero_div]
      constructor <;> linarith
    · have hr : (inp.requestedRate : ℚ) = 48000 := by exact_mod_cast h
      rw [hr]
      constructor <;> linarith

/-- The capture of a stream with 160 frames in `proc_buf` and none before them. -/
def processed (inp : OmapStreamIn α) : Capture α :=
  { inp.capture with framesIn := 0, procFramesIn := 160 }

def telephoneCapture : List (Event Nat) :=
  [.openInputStream 0 audioDeviceInBuiltinMic ⟨8000, 1, 1⟩ ⟨true, true, true, id⟩]

theorem telephoneCapture_some : ∃ s : Hal Nat,
    exec step telephoneCapture (openDevice fun _ => none) = some s ∧
    ∃ inp, s.ins 0 = some inp ∧ inp.rate = 48000 ∧ inp.requestedRate = 8000 :=
  ⟨_, rfl, _, rfl, rfl, rfl⟩

omit [Zero α] in
theorem captureDelay_processed {inp : OmapStreamIn α} (hr : inp.rate = 48000)
    (hq : inp.requestedRate = 8000) :
    captureDelay { inp with capture := processed inp } 0 0 = 20000000 := by
  rw [captureDelay, rsmpDelay_zero, show (0 : BitVec 32).toNat = 0 from rfl,
    show (0 : BitVec 32).toInt = 0 from rfl]
  simp only [hr, hq, processed]
  norm_num

theorem capture_delay_iff_telephone : ∃ (s : Hal Nat) (inp : OmapStreamIn Nat),
    exec step telephoneCapture (openDevice fun _ => none) = some s ∧ s.ins 0 = some inp ∧
    (|((getCaptureDelay { inp with capture := processed inp } ⟨0, 0, 0, 0⟩ 0).delayNs.toInt : ℚ) -
        captureDelay { inp with capture := processed inp } 0 0| ≤ 3 ↔
      (processed inp).procFramesIn = 0 ∨ inp.requestedRate = mmFullPowerSamplingRate) := by
  obtain ⟨s, hs, inp, hi, hr, hq⟩ := telephoneCapture_some
  refine ⟨s, inp, hs, hi, capture_delay_iff (adevOpen_some _) (Reach.of_exec hs) hi (processed inp)
    ⟨0, 0, 0, 0⟩ (by decide) 0 ?_⟩
  rw [captureDelay_processed hr hq]
  norm_num

/-- 160 frames at 8000 Hz are 20 ms and are reported as 3.3 ms. -/
theorem capture_delay_short : ∃ (s : Hal Nat) (inp : OmapStreamIn Nat),
    exec step telephoneCapture (openDevice fun _ => none) = some s ∧ s.ins 0 = some inp ∧
    inp.requestedRate = 8000 ∧
    (getCaptureDelay { inp with capture := processed inp } ⟨0, 0, 0, 0⟩ 0).delayNs.toInt = 3333333 ∧
    captureDelay { inp with capture := processed inp } 0 0 = 20000000 := by
  obtain ⟨s, hs, inp, hi, hr, hq⟩ := telephoneCapture_some
  refine ⟨s, inp, hs, hi, hq, ?_, captureDelay_processed hr hq⟩
  simp only [getCaptureDelay, rsmpDelay_zero, hr, processed]
  decide

end

/-! ## Playback -/

/-- The frames that are queued and those being written, as a signed count. -/
def queuedFrames (bufferSize avail frames : BitVec 32) : Int :=
  bufferSize.toNat - avail.toNat + frames.toNat

/-- Their duration in nanoseconds, truncated toward zero. -/
def playbackDelay (bufferSize avail frames : BitVec 32) : Int :=
  (queuedFrames bufferSize avail frames * 1000000000).tdiv mmFullPowerSamplingRate

theorem toNat_playbackFrames (bufferSize avail frames : BitVec 32) :
    ((bufferSize - avail + frames).toNat : Int) = queuedFrames bufferSize avail frames % 2 ^ 32 := by
  have h1 := BitVec.isLt (x := bufferSize)
  have h2 := BitVec.isLt (x := avail)
  have h3 := BitVec.isLt (x := frames)
  rw [BitVec.toNat_add, BitVec.toNat_sub, queuedFrames]
  omega

/-- Truncation toward zero, below zero. -/
theorem tdiv_of_neg {v : Int} (h : v < 0) :
    (v * 1000000000).tdiv 48000 = -((-v * 1000000000) / 48000) := by
  rw [← Int.tdiv_eq_ediv_of_nonneg (by omega), ← Int.neg_tdiv]
  congr 1
  ring

/-- A duration that fits is one of few frames. -/
theorem lt_of_fits {v : Int} (h : Fits ((v * 1000000000).tdiv 48000)) : -103081 < v ∧ v < 103081 := by
  obtain ⟨h1, h2⟩ := h
  by_cases hv : v < 0
  · rw [tdiv_of_neg hv] at h1
    omega
  · rw [Int.tdiv_eq_ediv_of_nonneg (by omega)] at h2
    omega

/-- A count that is negative is taken for one above it by `2 ^ 32`, and its duration differs, also
modulo `2 ^ 32`. -/
theorem delay_eq_iff {v : Int} (hfit : Fits ((v * 1000000000).tdiv 48000)) :
    (BitVec.ofInt 32 ((v % 2 ^ 32 * 1000000000).tdiv 48000)).toInt = (v * 1000000000).tdiv 48000 ↔
      0 ≤ v := by
  obtain ⟨hlow, hhigh⟩ := lt_of_fits hfit
  constructor
  · intro h
    by_contra hneg
    have hv : v % 2 ^ 32 = v + 2 ^ 32 := by omega
    rw [hv, tdiv_of_neg (v := v) (by omega), Int.tdiv_eq_ediv_of_nonneg (by omega), BitVec.toInt_ofInt] at h
    have hmod := congrArg (· % (2 ^ 32 : Int)) h
    rw [show ((2 : Int) ^ 32) = ((2 ^ 32 : Nat) : Int) from rfl, Int.bmod_emod] at hmod
    have h1 : 3 * ((v + (2 ^ 32 : Nat)) * 1000000000 / 48000) ≤ 62500 * v + 2 ^ 32 * 62500 ∧
        62500 * v + 2 ^ 32 * 62500 - 2 ≤ 3 * ((v + (2 ^ 32 : Nat)) * 1000000000 / 48000) := by omega
    have h2 : 3 * -(-v * 1000000000 / 48000) ≤ 62500 * v + 2 ∧
        62500 * v ≤ 3 * -(-v * 1000000000 / 48000) := by omega
    generalize (v + (2 ^ 32 : Nat)) * 1000000000 / 48000 = q' at hmod h1
    generalize -(-v * 1000000000 / 48000) = q at hmod h2
    obtain ⟨m, rfl⟩ : ∃ m, q' = q + 2 ^ 32 * m := ⟨q' / 2 ^ 32 - q / 2 ^ 32, by omega⟩
    -- They would differ by a third of `2 ^ 32 * 62500`, which is no multiple of `2 ^ 32`.
    have h3 : 2 ^ 32 * 62500 - 4 ≤ 3 * (2 ^ 32 * m) := by linarith [h1.2, h2.1]
    have h4 : 3 * (2 ^ 32 * m) ≤ 2 ^ 32 * 62500 := by linarith [h1.1, h2.2]
    clear h1 h2 hmod
    omega
  · intro hpos
    rw [Int.emod_eq_of_lt hpos (by omega), Words.toInt_ofInt hfit]

section
variable (bufferSize frames : BitVec 32) {ts : HTimestamp}

theorem queuedFrames_nonneg (avail : BitVec 32) :
    0 ≤ queuedFrames bufferSize avail frames ↔ avail.toNat ≤ bufferSize.toNat + frames.toNat := by
  unfold queuedFrames
  omega

theorem getPlaybackDelay_eq_iff (hts : 0 ≤ ts.status)
    (h : Fits (playbackDelay bufferSize ts.avail frames)) :
    (getPlaybackDelay bufferSize frames ts).2.delayNs.toInt = playbackDelay bufferSize ts.avail frames ↔
      ts.avail.toNat ≤ bufferSize.toNat + frames.toNat := by
  rw [getPlaybackDelay, if_neg (by omega), ← queuedFrames_nonneg, ← delay_eq_iff h]
  simp only [framesDelay, toNat_playbackFrames]
  rfl

/-- The two counts agree, for a write whose delay fits. -/
theorem throttleFrames_iff {avail : BitVec 32} (hf : frames.toNat ≤ 2 ^ 30)
    (h : Fits (playbackDelay bufferSize avail frames)) :
    ((bufferSize - avail + frames).toNat : Int) = throttleFrames bufferSize avail + frames.toNat ↔
      avail.toNat ≤ bufferSize.toNat + frames.toNat := by
  obtain ⟨hlow, hhigh⟩ := lt_of_fits h
  have hv : throttleFrames bufferSize avail + frames.toNat = queuedFrames bufferSize avail frames := by
    have h1 := BitVec.isLt (x := bufferSize)
    have h2 := BitVec.isLt (x := avail)
    rw [throttleFrames, BitVec.toInt_eq_toNat_cond, BitVec.toNat_sub]
    unfold queuedFrames at hlow hhigh ⊢
    split <;> omega
  rw [toNat_playbackFrames, hv, ← queuedFrames_nonneg]
  constructor
  · intro he
    have := Int.emod_nonneg (queuedFrames bufferSize avail frames) (show (2 ^ 32 : Int) ≠ 0 by decide)
    omega
  · intro hpos
    exact Int.emod_eq_of_lt hpos (by omega)

end

theorem toNat_outWriteFrames (bytes : BitVec 32) : (outWriteFrames bytes).toNat = bytes.toNat / 4 := by
  rw [outWriteFrames, BitVec.toNat_udiv]
  rfl

/-- A delay that fits is stored exactly when no more frames are free than the buffer holds and the
write brings, and for a write the count is then the one the throttle goes by. -/
theorem playback_delay_iff (bufferSize : BitVec 32) :
    (∀ (frames : BitVec 32) (ts : HTimestamp), 0 ≤ ts.status →
      Fits (playbackDelay bufferSize ts.avail frames) →
      ((getPlaybackDelay bufferSize frames ts).2.delayNs.toInt =
          playbackDelay bufferSize ts.avail frames ↔
        ts.avail.toNat ≤ bufferSize.toNat + frames.toNat)) ∧
    ∀ bytes avail : BitVec 32,
      Fits (playbackDelay bufferSize avail (outWriteFrames bytes)) →
      (((bufferSize - avail + outWriteFrames bytes).toNat : Int) =
          throttleFrames bufferSize avail + (outWriteFrames bytes).toNat ↔
        avail.toNat ≤ bufferSize.toNat + (outWriteFrames bytes).toNat) := by
  refine ⟨fun frames ts hts h => getPlaybackDelay_eq_iff bufferSize frames hts h,
    fun bytes avail h => throttleFrames_iff bufferSize _ ?_ h⟩
  have := BitVec.isLt (x := bytes)
  rw [toNat_outWriteFrames]
  omega

theorem playback_delay_iff_free :
    ((getPlaybackDelay 7680 960 ⟨0, 8000, 0, 0⟩).2.delayNs.toInt = playbackDelay 7680 8000 960 ↔
      (8000 : BitVec 32).toNat ≤ (7680 : BitVec 32).toNat + (960 : BitVec 32).toNat) ∧
    (((7680 - 8000 + outWriteFrames 3840).toNat : Int) =
        throttleFrames 7680 8000 + (outWriteFrames 3840).toNat ↔
      (8000 : BitVec 32).toNat ≤ (7680 : BitVec 32).toNat + (outWriteFrames 3840).toNat) :=
  ⟨(playback_delay_iff 7680).1 960 ⟨0, 8000, 0, 0⟩ (by decide) (by decide),
    (playback_delay_iff 7680).2 3840 8000 (by decide)⟩

/-- After an underrun 9000 frames are free in a buffer of 7680: 360 frames are missing, 7.5 ms, and
a delay of 1.4 s is stored. -/
theorem playback_delay_wraps :
    playbackDelay 7680 9000 960 = -7500000 ∧
    (getPlaybackDelay 7680 960 ⟨0, 9000, 0, 0⟩).2.delayNs.toInt = 1424155765 ∧
    throttleFrames 7680 9000 = -1320 := by decide

end P970.Audio
