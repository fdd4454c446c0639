import P970.Lib.Words
import P970.Audio.Periods
import P970.Audio.Resamplers

/-!
# Sizes and sleeps

The buffer sizes the HAL advertises and the sleep of `out_write` and `in_read` on
an error, in the 32-bit unsigned arithmetic of `size_t`. An open input stream
keeps the rate and the channels it was opened with (`formats_step`).
-/

namespace P970.Audio

open P970.Words (roundUp)

/-! ## The functions -/

def sizeofShort : Nat := 2

def audioChannelOutStereo : BitVec 32 := 0x3

/-- The rates `check_input_parameters` lets pass. -/
def supportedRates : List Nat := [8000, 11025, 16000, 22050, 24000, 32000, 44100, 48000]

/-- It does not look at the format. -/
def getInputBufferSize (sampleRate _format : BitVec 32) (channelCount : Nat) : BitVec 32 :=
  let size := BitVec.ofNat 32 shortPeriodSize * sampleRate / BitVec.ofNat 32 mmFullPowerSamplingRate
  let size := (size + 15) / 16 * 16
  size * BitVec.ofNat 32 channelCount * BitVec.ofNat 32 sizeofShort

def adevGetInputBufferSize (config : AudioConfig) : BitVec 32 :=
  getInputBufferSize config.sampleRate config.format (popcount config.channelMask)

/-- The sleep on an error, in microseconds. -/
def errorSleep (bytes frameSize rate : BitVec 32) : BitVec 32 := bytes * 1000000 / frameSize / rate

def outGetChannels : BitVec 32 := audioChannelOutStereo

def outFrameSize : BitVec 32 := BitVec.ofNat 32 (audioStreamFrameSize (popcount outGetChannels))

def outGetSampleRate : BitVec 32 := BitVec.ofNat 32 defaultOutSamplingRate

def outGetBufferSize (out : OmapStreamOut) : BitVec 32 :=
  let size := BitVec.ofNat 32 (shortPeriodSize * defaultOutSamplingRate) / BitVec.ofNat 32 out.rate
  let size := (size + 15) / 16 * 16
  size * outFrameSize

def outWriteSleep (bytes : BitVec 32) : BitVec 32 :=
  errorSleep bytes outFrameSize outGetSampleRate

section
variable {α : Type}

def inGetSampleRate (inp : OmapStreamIn α) : BitVec 32 := BitVec.ofNat 32 inp.requestedRate

def inGetBufferSize (inp : OmapStreamIn α) : BitVec 32 :=
  getInputBufferSize (BitVec.ofNat 32 inp.requestedRate) (BitVec.ofNat 32 audioFormatPcm16Bit)
    inp.channels

def inFrameSize (inp : OmapStreamIn α) : BitVec 32 :=
  BitVec.ofNat 32 (audioStreamFrameSize inp.channels)

def inReadSleep (inp : OmapStreamIn α) (bytes : BitVec 32) : BitVec 32 :=
  errorSleep bytes (inFrameSize inp) (inGetSampleRate inp)

end

/-! ## The sleep -/

theorem toNat_errorSleep (bytes frameSize rate : BitVec 32) : (errorSleep bytes frameSize rate).toNat =
    bytes.toNat * 1000000 % 2 ^ 32 / frameSize.toNat / rate.toNat := by
  rw [errorSleep, BitVec.toNat_udiv, BitVec.toNat_udiv, BitVec.toNat_mul]
  rfl

/-- The sleep is the duration of `bytes` bytes. -/
def SleepExact (sleep bytes frameSize rate : BitVec 32) : Prop :=
  sleep.toNat = bytes.toNat * 1000000 / frameSize.toNat / rate.toNat

theorem sleepExact_iff {bytes frameSize rate : BitVec 32} (hf : 0 < frameSize.toNat)
    (hr : 0 < rate.toNat) (h : frameSize.toNat * rate.toNat ≤ 2 ^ 32) :
    SleepExact (errorSleep bytes frameSize rate) bytes frameSize rate ↔ bytes.toNat ≤ 4294 := by
  rw [SleepExact, toNat_errorSleep, Nat.div_div_eq_div_mul, Nat.div_div_eq_div_mul,
    Words.wrap_div_iff (Nat.mul_pos hf hr) h]
  omega

theorem toNat_inFrameSize {α : Type} (inp : OmapStreamIn α) :
    (inFrameSize inp).toNat = 2 ∨
      (inFrameSize inp).toNat = 4 := by
  unfold inFrameSize audioStreamFrameSize
  split
  · exact .inl rfl
  · exact .inr rfl

theorem le_of_supported {rate : Nat} (h : rate ∈ supportedRates) : 8000 ≤ rate ∧ rate ≤ 48000 := by
  simp only [supportedRates, List.mem_cons, List.not_mem_nil, or_false] at h
  omega

/-- The sleep of a frame size and rate is exact, with nothing wrapped around, up to 4294 bytes; at
the frame sizes and rates of the streams it is another value from there on. -/
theorem error_sleep_iff (bytes : BitVec 32) :
    (∀ frameSize rate : BitVec 32,
      (SleepExact (errorSleep bytes frameSize rate) bytes frameSize rate ∧
        bytes.toNat * 1000000 < 2 ^ 32) ↔ bytes.toNat ≤ 4294) ∧
    (SleepExact (outWriteSleep bytes) bytes outFrameSize
      outGetSampleRate ↔ bytes.toNat ≤ 4294) ∧
    ∀ (α : Type) (inp : OmapStreamIn α), inp.requestedRate ∈ supportedRates →
      (SleepExact (inReadSleep inp bytes) bytes (inFrameSize inp)
        (inGetSampleRate inp) ↔ bytes.toNat ≤ 4294) := by
  refine ⟨fun frameSize rate => ?_, ?_, fun α inp h => ?_⟩
  · constructor
    · rintro ⟨-, hw⟩
      omega
    · intro hb
      have hw : bytes.toNat * 1000000 < 2 ^ 32 := by omega
      exact ⟨by rw [SleepExact, toNat_errorSleep, Nat.mod_eq_of_lt hw], hw⟩
  · exact sleepExact_iff (by decide) (by decide) (by decide)
  · have hr := le_of_supported h
    have hrate : (inGetSampleRate inp).toNat = inp.requestedRate := by
      rw [inGetSampleRate, BitVec.toNat_ofNat, Nat.mod_eq_of_lt (by omega)]
    refine sleepExact_iff ?_ (by omega) ?_
    · rcases toNat_inFrameSize inp with h | h <;> omega
    · rw [hrate]
      rcases toNat_inFrameSize inp with h | h <;> rw [h] <;> omega

/-- 4294 bytes of a mono stream at 8000 Hz are 268.375 ms. -/
theorem error_sleep_iff_mono :
    (SleepExact (inReadSleep (newInput 0 ⟨8000, 1, 0x10⟩ fun _ => (0 : Nat)) 4294) 4294
      (inFrameSize (newInput 0 ⟨8000, 1, 0x10⟩ fun _ => (0 : Nat)))
      (inGetSampleRate (newInput 0 ⟨8000, 1, 0x10⟩ fun _ => (0 : Nat))) ↔
        (4294 : BitVec 32).toNat ≤ 4294) ∧
      inReadSleep (newInput 0 ⟨8000, 1, 0x10⟩ fun _ => (0 : Nat)) 4294 = 268375 :=
  ⟨(error_sleep_iff 4294).2.2 Nat _ (by decide), by decide⟩

/-- The output advertises 7680 bytes, 40 ms of audio; the sleep for them is 17.63 ms. -/
theorem error_sleep_wraps :
    outGetBufferSize ⟨48000, none, false, false, true, none, 0⟩ = 7680 ∧
    outWriteSleep 7680 = 17630 ∧ 7680 * 1000000 / 4 / 48000 = 40000 ∧
    (outFrameSize, outGetSampleRate) = (4, 48000) := by decide

/-! ## An open stream keeps its format -/

section
variable {α : Type}

/-- What the sizes of an input stream depend on. -/
def OmapStreamIn.format (inp : OmapStreamIn α) : Nat × Nat × Nat × Option BufferRemix :=
  (inp.channels, inp.rate, inp.requestedRate, inp.remixAtDriver)

def Hal.formats (s : Hal α) : InId → Option (Nat × Nat × Nat × Option BufferRemix) :=
  fun i => (s.ins i).map (·.format)

theorem frame_formats :
    Frame (fun inp inp' => inp'.format = inp.format) (fun s t : Hal α => t.formats = s.formats) :=
  frame_part (·.format) (fun _ => rfl) fun _ _ => rfl

theorem formats_modIn (s : Hal α) (i : InId) {f : OmapStreamIn α → OmapStreamIn α}
    (hf : ∀ inp, s.ins i = some inp → (f inp).format = inp.format) :
    (s.modIn i f).formats = s.formats := frame_formats.inp s i hf

variable (s : Hal α)

/-- A start keeps the channels, since nothing is remixed. -/
theorem formats_startInputStream (hs : s.inputRequiresStereo = false) {i : InId}
    (hr : ∀ inp, s.ins i = some inp → inp.remixAtDriver = none) (ready created : Bool) :
    (startInputStream i ready created s).2.formats = s.formats := by
  unfold startInputStream
  split
  · rfl
  · next inp hi =>
    have hc : (claimInput i inp.device s).holdings = s.holdings := holdings_claimInput s i inp.device
    have hst : (claimInput i inp.device s).inputRequiresStereo = false :=
      (congrArg Prod.fst hc).trans hs
    have hcf : (claimInput i inp.device s).formats = s.formats := by
      have hin : (claimInput i inp.device s).ins = s.ins := congrArg (fun x => x.2.2.1) hc
      funext j
      rw [Hal.formats, hin, Hal.formats]
    have hu : (referenceInput i created inp (remixInput i inp (claimInput i inp.device s))).formats =
        s.formats := by
      rw [remixInput, hst, Bool.false_and, if_neg Bool.false_ne_true]
      exact (frame_formats.referenceInput _ i created inp).trans hcf
    generalize referenceInput i created inp _ = u at hu ⊢
    have hru : ∀ inp, u.ins i = some inp → inp.remixAtDriver = none := by
      intro x hx
      have h1 := congrFun hu i
      rw [Hal.formats, Hal.formats, hx, hi, Option.map_some, Option.map_some, Option.some.injEq] at h1
      have h2 : x.remixAtDriver = inp.remixAtDriver := congrArg (fun y => y.2.2.2) h1
      exact h2.trans (hr inp hi)
    obtain ⟨channels, hchannels, heq⟩ := openInputPcm_eq i ready u
    rw [heq]
    have hopen : ∀ h, (u.pcmOpen.modIn i fun inp =>
        { inp with pcm := h, channels := channels inp }).formats = s.formats := by
      intro h
      refine (formats_modIn u.pcmOpen i fun x hx => ?_).trans hu
      simp only [OmapStreamIn.format, hchannels x (hru x hx)]
    cases ready with
    | true =>
      refine (formats_modIn _ i ?_).trans (hopen _)
      exact fun _ _ => rfl
    | false => exact (frame_formats.other (stock_pcmClose _ _)).trans (hopen _)

theorem formats_inRead (hs : s.inputRequiresStereo = false) {i : InId}
    (hr : ∀ inp, s.ins i = some inp → inp.remixAtDriver = none) (ready created : Bool) :
    (inRead i ready created s).2.formats = s.formats := by
  have hb : (beginRead i ready created (s.lockBoth (.inp i))).2.formats = s.formats := by
    have hst := formats_startInputStream (s.lockBoth (.inp i)) hs hr ready created
    unfold beginRead
    split
    · rfl
    · split
      · simp only
        split
        · refine (formats_modIn _ i ?_).trans hst
          exact fun _ _ => rfl
        · exact hst
      · rfl
  unfold inRead
  simp only
  split <;> exact hb

/-- A stream as its opening leaves it: nothing remixed, at a supported rate, of one or two
channels. -/
structure OmapStreamIn.Formed (inp : OmapStreamIn α) : Prop where
  channels : inp.channels = 1 ∨ inp.channels = 2
  rate : inp.rate = mmFullPowerSamplingRate
  requested : inp.requestedRate ∈ supportedRates
  remix : inp.remixAtDriver = none

end

section
variable {α : Type} [Zero α] {s t : Hal α}

omit [Zero α] in
theorem OmapStreamIn.Formed.of_eq {inp inp' : OmapStreamIn α} (h : inp.Formed)
    (he : inp'.format = inp.format) : inp'.Formed := by
  simp only [OmapStreamIn.format, Prod.mk.injEq] at he
  obtain ⟨h1, h2, h3, h4⟩ := he
  exact ⟨h1 ▸ h.channels, h2.trans h.rate, h3 ▸ h.requested, h4.trans h.remix⟩

/-- What an event does to the formats: it opens or closes a stream, or leaves them alone. -/
inductive FormatsChanged (s : Hal α) (e : Event α)
    (v : InId → Option (Nat × Nat × Nat × Option BufferRemix)) : Prop where
  | same (h : v = s.formats)
  | closed (i : InId) (he : e = .closeInputStream i) (h : v = Function.update s.formats i none)
  | opened (i : InId) (devices : Devices) (config : AudioConfig) (env : OpenEnv α)
      (he : e = .openInputStream i devices config env)
      (hc : checkInputParameters config.sampleRate config.format (popcount config.channelMask) = 0)
      (h : v = Function.update s.formats i (some (newInput devices config env.mic).format))

omit [Zero α] in
theorem formats_freeInput (s : Hal α) (i : InId) :
    (freeInput i s).formats = Function.update s.formats i none :=
  Hal.map_update _ s.ins i none

theorem formats_act (s : Hal α) (e : Event α) (hs : s.inputRequiresStereo = false)
    (hF : ∀ i inp, s.ins i = some inp → inp.Formed) : FormatsChanged s e (act e s).formats := by
  cases e with
  | openOutputStream o d a r =>
    exact .same (adevOpenOutputStream_frame Hal.formats (fun _ _ => rfl) o d a r s)
  | closeOutputStream o => exact .same (frame_formats.outStandby s o)
  | openInputStream i d c env =>
    simp only [act, adevOpenInputStream]
    by_cases hc : checkInputParameters c.sampleRate c.format (popcount c.channelMask) = 0
    · rw [if_neg (not_not.mpr hc)]
      split
      · exact .same rfl
      · split
        · exact .same rfl
        · split
          · exact .same rfl
          · refine .opened i d c env rfl hc ?_
            exact Hal.map_update _ s.ins i _
    · rw [if_pos hc]
      exact .same rfl
  | closeInputStream i =>
    refine .closed i rfl ?_
    exact (formats_freeInput _ i).trans
      (congrArg (fun f => Function.update f i none) (frame_formats.inStandby s i))
  | outWriteData o force ok => exact .same (frame_formats.outWriteData s (fun _ _ _ => rfl) o ok)
  | inRead i n ready created =>
    refine .same (Eq.trans ?_ (formats_inRead s hs (fun inp hi => (hF i inp hi).remix) ready created))
    simp only [act]
    split <;> rfl
  | inReadData i n dst script =>
    exact .same (frame_formats.inReadData s (fun _ _ => rfl) i n dst script)
  | inSetParameters i kv =>
    refine .same (frame_formats.both (frame_formats.setInputParameters _ i kv fun inp => ?_))
    exact inputParameters_frame (·.format) (fun _ _ => rfl) (fun _ _ => rfl) kv inp
  | inAddAudioEffect i e d =>
    exact .same (frame_formats.both (frame_formats.addEffect _ (fun _ _ _ _ => rfl) i e d))
  | inRemoveAudioEffect i e d =>
    exact .same (frame_formats.both (frame_formats.dropEffect _ (fun _ _ _ _ => rfl) i e d))
  | _ => exact .same (frame_formats.act s rfl rfl)

omit [Zero α] in
theorem checkInputParameters_eq_zero {rate format : BitVec 32} {channels : Nat} :
    checkInputParameters rate format channels = 0 ↔ format.toNat = audioFormatPcm16Bit ∧
      (1 ≤ channels ∧ channels ≤ 2) ∧ rate.toNat ∈ supportedRates := by
  unfold checkInputParameters
  have hne : ¬ (-einval : Int) = 0 := einval_ne_zero
  split
  · next h => exact iff_of_false hne fun hc => h hc.1
  · next h =>
    split
    · next hc => exact iff_of_false hne fun h' => by omega
    · next hc =>
      split
      · next hr => exact iff_of_true rfl ⟨not_not.mp h, by omega, hr⟩
      · next hr => exact iff_of_false hne fun h' => hr h'.2.2

omit [Zero α] in
theorem formed_newInput {config : AudioConfig}
    (h : checkInputParameters config.sampleRate config.format (popcount config.channelMask) = 0)
    (devices : Devices) (mic : Nat → α) : (newInput devices config mic).Formed := by
  obtain ⟨-, hc, hr⟩ := checkInputParameters_eq_zero.mp h
  refine ⟨?_, rfl, hr, rfl⟩
  show popcount config.channelMask = 1 ∨ popcount config.channelMask = 2
  omega

/-- A stream of `t` has the format of one of `s`, or was opened. -/
theorem formats_step {e : Event α} (hs : s.inputRequiresStereo = false)
    (hF : ∀ i inp, s.ins i = some inp → inp.Formed) (h : step s e = some t) :
    FormatsChanged s e t.formats := by
  obtain ⟨-, -, rfl⟩ := step_some h
  have h : FormatsChanged s.clearTrace e (act e s.clearTrace).formats := formats_act _ e hs hF
  cases h with
  | same h => exact .same h
  | closed i he h => exact .closed i he h
  | opened i d c env he hc h => exact .opened i d c env he hc h

/-- Every open input stream of every state a run reaches. -/
theorem formed_run {ok : Hal α → Event α → Prop} {name : String} {alloc : Bool}
    {mixer : Option Mixer} {s₀ : Hal α} (h0 : adevOpen name alloc mixer = .ok s₀)
    (h : Run step ok s₀ s) : ∀ i inp, s.ins i = some inp → inp.Formed := by
  refine h.invariant_of (I := fun s => ∀ i inp, s.ins i = some inp → inp.Formed)
    (J := fun s => s.readers.stereo = false) (fun u hu => stereo_run h0 hu) ?_ ?_
  · intro i inp hi
    obtain ⟨m, -, rfl⟩ := adevOpen_ok h0
    have hn : (openDevice m : Hal α).formats = fun _ => none :=
      frame_formats.other (stock_selectOutputDevice _)
    have h1 := congrFun hn i
    rw [Hal.formats, hi] at h1
    cases h1
  · intro u e t hst hF _ hu i inp hi
    have hi' : t.formats i = some inp.format := by rw [Hal.formats, hi, Option.map_some]
    have hold : ∀ x, u.formats i = some x → x = inp.format → inp.Formed := by
      rintro x hx rfl
      obtain ⟨inp', hinp', he⟩ := Option.map_eq_some_iff.mp hx
      exact (hF i inp' hinp').of_eq he.symm
    rcases formats_step hst hF hu with h | ⟨j, -, h⟩ | ⟨j, d, c, env, -, hc, h⟩
    · exact hold _ (h ▸ hi') rfl
    · rw [h] at hi'
      by_cases hij : i = j
      · subst hij
        rw [Function.update_self] at hi'
        cases hi'
      · rw [Function.update_of_ne hij] at hi'
        exact hold _ hi' rfl
    · rw [h] at hi'
      by_cases hij : i = j
      · subst hij
        rw [Function.update_self, Option.some.injEq] at hi'
        exact (formed_newInput hc d env.mic).of_eq hi'.symm
      · rw [Function.update_of_ne hij] at hi'
        exact hold _ hi' rfl

/-- While it is not closed, an open stream keeps its format. -/
theorem format_kept {ok : Hal α → Event α → Prop} {name : String} {alloc : Bool}
    {mixer : Option Mixer} {s₀ : Hal α} (h0 : adevOpen name alloc mixer = .ok s₀)
    (h : Run step ok s₀ s) {i : InId} {x : Nat × Nat × Nat × Option BufferRemix}
    (hi : s.formats i = some x)
    (ht : Run step (fun _ e => e ≠ .closeInputStream i) s t) : t.formats i = some x := by
  have hrun : ∀ u, Run step (fun _ e => e ≠ .closeInputStream i) s u → Reach step s₀ u :=
    fun u hu => h.reach.trans hu.reach
  refine ht.invariant_of (I := fun u => u.formats i = some x) (J := fun u => Reach step s₀ u) hrun hi ?_
  intro u e v hu hI hne hv
  rcases formats_step (stereo_run h0 hu) (formed_run h0 hu) hv with h | ⟨j, he, h⟩ | ⟨j, d, c, env, he, -, h⟩
  · rw [h, hI]
  · rw [h, Function.update_of_ne fun hij => hne (by rw [he, hij]), hI]
  · rw [h, Function.update_of_ne ?_, hI]
    rintro rfl
    obtain ⟨hg, -, -⟩ := step_some hv
    rw [he] at hg
    have hn := Option.isNone_iff_eq_none.mp hg
    rw [Hal.formats, hn] at hI
    cases hI

end

/-! ## The size of an input buffer -/

theorem popcount_le (x : BitVec 32) : popcount x ≤ 32 := by
  have h := List.countP_le_length (p := fun j => x.getLsbD j) (l := List.range 32)
  rwa [List.length_range] at h

/-- Only the first product can wrap around. -/
theorem toNat_getInputBufferSize (rate format : BitVec 32) {channels : Nat} (hc : channels ≤ 32) :
    (getInputBufferSize rate format channels).toNat =
      roundUp 16 (shortPeriodSize * rate.toNat % 2 ^ 32 / 48000) * channels * 2 := by
  have hq : (BitVec.ofNat 32 shortPeriodSize * rate / BitVec.ofNat 32 mmFullPowerSamplingRate).toNat =
      shortPeriodSize * rate.toNat % 2 ^ 32 / 48000 := by
    rw [BitVec.toNat_udiv, BitVec.toNat_mul]
    rfl
  have hlt : shortPeriodSize * rate.toNat % 2 ^ 32 / 48000 < 89479 := by
    have := Nat.mod_lt (shortPeriodSize * rate.toNat) (Nat.two_pow_pos 32)
    omega
  unfold getInputBufferSize
  simp only
  generalize BitVec.ofNat 32 shortPeriodSize * rate / _ = q at hq ⊢
  rw [← hq]
  rw [← hq] at hlt
  have hadd : (q + 15).toNat = q.toNat + 15 := by
    rw [BitVec.toNat_add]
    exact Nat.mod_eq_of_lt (by have : (15 : BitVec 32).toNat = 15 := rfl; omega)
  have hround : ((q + 15) / 16 * 16).toNat = roundUp 16 q.toNat := by
    rw [BitVec.toNat_mul, BitVec.toNat_udiv, hadd, roundUp]
    exact Nat.mod_eq_of_lt (by
      have h16 : (16 : BitVec 32).toNat = 16 := rfl
      rw [h16]
      omega)
  have hle : roundUp 16 q.toNat ≤ 89494 := by
    rw [roundUp]
    omega
  have hprod : roundUp 16 q.toNat * channels ≤ 89494 * 32 := Nat.mul_le_mul hle hc
  have hch : (BitVec.ofNat 32 channels).toNat = channels := by
    rw [BitVec.toNat_ofNat, Nat.mod_eq_of_lt (by omega)]
  have hmod : roundUp 16 q.toNat * channels % 2 ^ 32 = roundUp 16 q.toNat * channels :=
    Nat.mod_eq_of_lt (by omega)
  rw [BitVec.toNat_mul, BitVec.toNat_mul, hround, hch, hmod,
    show (BitVec.ofNat 32 sizeofShort).toNat = 2 from rfl, Nat.mod_eq_of_lt (by omega)]

/-- The number of frames a supported rate makes of a period is a whole one. -/
theorem period_of_supported {rate : Nat} (h : rate ∈ supportedRates) :
    shortPeriodSize * rate % 2 ^ 32 / 48000 * 48000 = shortPeriodSize * rate := by
  simp only [supportedRates, List.mem_cons, List.not_mem_nil, or_false] at h
  rcases h with rfl | rfl | rfl | rfl | rfl | rfl | rfl | rfl <;> rfl

/-- The frames of a period of the hardware at another rate. -/
def periodFrames (rate : BitVec 32) : ℚ := shortPeriodSize * rate.toNat / mmFullPowerSamplingRate

section
variable (α : Type) [Zero α] (config : AudioConfig)

/-- The size the device reports for a configuration: 0 exactly when opening a stream with it is
refused, and else the bytes of the least multiple of 16 frames that is a period or more, with no
product wrapped around, which is also what the stream reports as long as it is open. -/
structure SizeRight : Prop where
  zero : adevGetInputBufferSize config = 0 ↔
    checkInputParameters config.sampleRate config.format (popcount config.channelMask) ≠ 0
  refused : checkInputParameters config.sampleRate config.format (popcount config.channelMask) ≠ 0 ↔
    ∀ i devices (env : OpenEnv α) s, (adevOpenInputStream i devices config env s).1 ≠ 0
  least : checkInputParameters config.sampleRate config.format (popcount config.channelMask) = 0 →
    ∃ frames : Nat, (adevGetInputBufferSize config).toNat = frames * popcount config.channelMask * 2 ∧
      16 ∣ frames ∧ periodFrames config.sampleRate ≤ frames ∧
      (∀ m : Nat, 16 ∣ m → periodFrames config.sampleRate ≤ m → frames ≤ m) ∧
      shortPeriodSize * config.sampleRate.toNat < 2 ^ 32 ∧
      frames * popcount config.channelMask * 2 < 2 ^ 32
  kept : ∀ {name alloc mixer} {s₀ s t u : Hal α} {i devices env}, adevOpen name alloc mixer = .ok s₀ →
    Reach step s₀ s → step s (.openInputStream i devices config env) = some t → (t.ins i).isSome →
    Run step (fun _ e => e ≠ .closeInputStream i) t u →
    ∃ inp, u.ins i = some inp ∧ inGetBufferSize inp = adevGetInputBufferSize config

variable {α config}

omit [Zero α] in
theorem inGetBufferSize_of_format {inp : OmapStreamIn α} {devices : Devices} {mic : Nat → α}
    (h : inp.format = (newInput devices config mic).format) :
    inGetBufferSize inp = adevGetInputBufferSize config := by
  simp only [OmapStreamIn.format, newInput, Prod.mk.injEq] at h
  obtain ⟨hc, -, hr, -⟩ := h
  rw [inGetBufferSize, hr, hc, BitVec.ofNat_toNat, BitVec.setWidth_eq]
  rfl

theorem refused_iff :
    checkInputParameters config.sampleRate config.format (popcount config.channelMask) ≠ 0 ↔
      ∀ i devices (env : OpenEnv α) s, (adevOpenInputStream i devices config env s).1 ≠ 0 := by
  constructor
  · intro hc i devices env s
    rw [adevOpenInputStream, if_pos hc]
    exact einval_ne_zero
  · intro h hc
    refine h 0 0 ⟨true, true, true, fun _ => 0⟩ (callocDevice fun _ => none) ?_
    simp [adevOpenInputStream, hc]

theorem size_kept {name alloc mixer} {s₀ s t u : Hal α} {i devices env}
    (h0 : adevOpen name alloc mixer = .ok s₀) (h : Reach step s₀ s)
    (hs : step s (.openInputStream i devices config env) = some t) (hi : (t.ins i).isSome)
    (hu : Run step (fun _ e => e ≠ .closeInputStream i) t u) :
    ∃ inp, u.ins i = some inp ∧ inGetBufferSize inp = adevGetInputBufferSize config := by
  have ht : t.formats i = some (newInput devices config env.mic).format := by
    obtain ⟨inp, hinp⟩ := Option.isSome_iff_exists.mp hi
    obtain ⟨hg, -, -⟩ := step_some hs
    have hn := Option.isNone_iff_eq_none.mp hg
    have hsome : t.formats i = some inp.format := by rw [Hal.formats, hinp, Option.map_some]
    rcases formats_step (stereo_run h0 h) (formed_run h0 h) hs with h' | ⟨j, he, -⟩ |
      ⟨j, d, c, env', he, -, h'⟩
    · rw [h', Hal.formats, hn] at hsome
      cases hsome
    · cases he
    · cases he
      rw [h', Function.update_self]
  have hku := format_kept h0 (.snoc h trivial hs) ht hu
  obtain ⟨inp, hinp, he⟩ := Option.map_eq_some_iff.mp hku
  exact ⟨inp, hinp, inGetBufferSize_of_format he⟩

omit [Zero α] in
theorem least_of_supported
    (h : checkInputParameters config.sampleRate config.format (popcount config.channelMask) = 0) :
    ∃ frames : Nat, (adevGetInputBufferSize config).toNat = frames * popcount config.channelMask * 2 ∧
      16 ∣ frames ∧ periodFrames config.sampleRate ≤ frames ∧
      (∀ m : Nat, 16 ∣ m → periodFrames config.sampleRate ≤ m → frames ≤ m) ∧
      shortPeriodSize * config.sampleRate.toNat < 2 ^ 32 ∧
      frames * popcount config.channelMask * 2 < 2 ^ 32 ∧ 0 < frames := by
  obtain ⟨-, hc, hr⟩ := checkInputParameters_eq_zero.mp h
  have hp := period_of_supported hr
  have hb := le_of_supported hr
  have hs : shortPeriodSize = 1920 := rfl
  generalize hn : shortPeriodSize * config.sampleRate.toNat % 2 ^ 32 / 48000 = n at hp
  have hperiod : periodFrames config.sampleRate = n := by
    rw [periodFrames, show (mmFullPowerSamplingRate : ℚ) = 48000 by norm_num [mmFullPowerSamplingRate],
      div_eq_iff (by norm_num)]
    exact_mod_cast hp.symm
  have hsize := toNat_getInputBufferSize config.sampleRate config.format
    (popcount_le config.channelMask)
  rw [hn] at hsize
  have hle : roundUp 16 n ≤ n + 15 := by
    rw [roundUp]
    omega
  have hmul : roundUp 16 n * popcount config.channelMask ≤ (n + 15) * 2 := Nat.mul_le_mul hle hc.2
  have hpos : n ≤ roundUp 16 n := Words.le_roundUp n (by omega)
  have hn1 : 1 ≤ n := by
    rw [hs] at hp
    omega
  refine ⟨roundUp 16 n, hsize, Words.dvd_roundUp n, ?_, ?_, by omega, by omega, by omega⟩
  · rw [hperiod]
    exact_mod_cast hpos
  · intro m hm hle
    rw [hperiod] at hle
    exact Words.roundUp_le n (by omega) hm (by exact_mod_cast hle)

omit [Zero α] in
theorem adevGetInputBufferSize_eq_zero : adevGetInputBufferSize config = 0 ↔
    popcount config.channelMask = 0 ∨
      shortPeriodSize * config.sampleRate.toNat % 2 ^ 32 < mmFullPowerSamplingRate := by
  have hsize := toNat_getInputBufferSize config.sampleRate config.format
    (popcount_le config.channelMask)
  rw [← BitVec.toNat_inj, adevGetInputBufferSize, hsize, show (0 : BitVec 32).toNat = 0 from rfl,
    Nat.mul_eq_zero, Nat.mul_eq_zero, Words.roundUp_eq_zero _ (by omega), Nat.div_eq_zero_iff]
  have h48 : mmFullPowerSamplingRate = 48000 := rfl
  omega

variable (α config) in
/-- The size is right exactly for the configurations that are let pass, and for those refused that
happen to give no bytes. -/
theorem input_buffer_size_iff : SizeRight α config ↔
    checkInputParameters config.sampleRate config.format (popcount config.channelMask) = 0 ∨
      popcount config.channelMask = 0 ∨
      shortPeriodSize * config.sampleRate.toNat % 2 ^ 32 < mmFullPowerSamplingRate := by
  rw [← adevGetInputBufferSize_eq_zero]
  constructor
  · intro h
    by_cases hc : checkInputParameters config.sampleRate config.format
        (popcount config.channelMask) = 0
    · exact .inl hc
    · exact .inr (h.zero.mpr hc)
  · intro h
    refine ⟨?_, refused_iff, fun hc => ?_, fun h0 hr hs hi hu => size_kept h0 hr hs hi hu⟩
    · by_cases hc : checkInputParameters config.sampleRate config.format
          (popcount config.channelMask) = 0
      · obtain ⟨frames, hsize, -, -, -, -, -, hpos⟩ := least_of_supported hc
        obtain ⟨-, hch, -⟩ := checkInputParameters_eq_zero.mp hc
        refine iff_of_false (fun h0 => ?_) (not_not.mpr hc)
        rw [h0, show (0 : BitVec 32).toNat = 0 from rfl] at hsize
        have := Nat.mul_pos (Nat.mul_pos hpos (show 0 < popcount config.channelMask by omega))
          (show 0 < 2 by omega)
        omega
      · exact iff_of_true (h.resolve_left hc) hc
    · obtain ⟨frames, h1, h2, h3, h4, h5, h6, -⟩ := least_of_supported hc
      exact ⟨frames, h1, h2, h3, h4, h5, h6⟩

/-- A rate of 12345 Hz is refused, and has a size. -/
theorem input_buffer_size_unchecked :
    checkInputParameters 12345 1 (popcount 0x10) = -einval ∧
      adevGetInputBufferSize ⟨12345, 1, 0x10⟩ = 992 := by decide

end

end P970.Audio
