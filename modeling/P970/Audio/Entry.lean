import P970.Audio.Device

/-!
# The entry points

Each entry point holds the device lock over its work, so it is one event, except
`out_write` and `in_read`: they release the device lock once their stream runs
and go on with the stream lock only (`outWriteData`, `inReadData`), and
`out_write` may take the device lock once more (`outWriteForce`). An event can
happen (`step`) when every lock it takes is free: a stream is not touched while
a call is reading or writing it. A client uses a stream id from its open to its
close, and closes it when none of its own calls on it is left.
-/

namespace P970.Audio

open P970.LockOrder (Op)

/-! ## Parameters -/

/-- The pairs of a `key=value;…` string; a later pair replaces an earlier one of its key. -/
abbrev KvPairs := List (String × String)

/-- The length of the value of a key, which `str_parms_get_str` returns, and the value cut to the
31 characters that fit `char value[32]`. -/
def strParmsGetStr (parms : KvPairs) (key : String) : Option (Nat × String) :=
  (parms.reverse.lookup key).map fun v => (v.length, String.ofList (v.toList.take 31))

def digitsFrom : List Char → Nat → Nat
  | [], n => n
  | c :: cs, n => if c.isDigit then digitsFrom cs (10 * n + (c.toNat - '0'.toNat)) else n

def atoi (s : String) : BitVec 32 :=
  match s.toList.dropWhile Char.isWhitespace with
  | '-' :: cs => -BitVec.ofNat 32 (digitsFrom cs 0)
  | '+' :: cs => BitVec.ofNat 32 (digitsFrom cs 0)
  | cs => BitVec.ofNat 32 (digitsFrom cs 0)

def audioParameterStreamRouting : String := "routing"
def audioParameterStreamInputSource : String := "input_source"
def audioParameterKeyTtyMode : String := "tty_mode"
def audioParameterKeyBtNrec : String := "bt_headset_nrec"

/-- The TTY mode a value names. -/
def ttyModeOf (value : String) : Option TtyMode :=
  if value = "tty_off" then some .off
  else if value = "tty_vco" then some .vco
  else if value = "tty_hco" then some .hco
  else if value = "tty_full" then some .full
  else none

/-- `struct audio_config`. -/
structure AudioConfig where
  sampleRate : BitVec 32
  format : BitVec 32
  channelMask : BitVec 32
  deriving DecidableEq, Repr

def popcount (x : BitVec 32) : Nat := (List.range 32).countP fun j => x.getLsbD j

def checkInputParameters (sampleRate format : BitVec 32) (channelCount : Nat) : Int :=
  if format.toNat ≠ audioFormatPcm16Bit then -einval
  else if channelCount < 1 ∨ 2 < channelCount then -einval
  else if sampleRate.toNat ∈ [8000, 11025, 16000, 22050, 24000, 32000, 44100, 48000] then 0
  else -einval

section
variable {α : Type}

/-! ## Output streams -/

def adevOpenOutputStream (o : OutId) (devices : Devices) (alloc resamplerOk : Bool) (s : Hal α) :
    Int × Hal α :=
  if alloc = false then (-enomem, s)
  else if anyOf devices audioDeviceOutAllSco && !resamplerOk then (-einval, s)
  else
    let sco := anyOf devices audioDeviceOutAllSco
    (0, { s with outs := Function.update s.outs o (some
            { rate := defaultOutSamplingRate, pcm := none, resampler := sco, buffer := sco,
              standby := true, echoReference := none, writeThreshold := 0 }) })

theorem enomem_ne_zero : ¬ (-enomem : Int) = 0 := by decide

theorem einval_ne_zero : ¬ (-einval : Int) = 0 := by decide

/-- It fails and leaves the state as it was, or the stream is there. -/
theorem adevOpenOutputStream_cases (o : OutId) (devices : Devices) (alloc resamplerOk : Bool)
    (s : Hal α) : (adevOpenOutputStream o devices alloc resamplerOk s).1 ≠ 0 ∧
      (adevOpenOutputStream o devices alloc resamplerOk s).2 = s ∨
    adevOpenOutputStream o devices alloc resamplerOk s =
      (0, { s with outs := Function.update s.outs o (some
              { rate := defaultOutSamplingRate, pcm := none
                resampler := anyOf devices audioDeviceOutAllSco
                buffer := anyOf devices audioDeviceOutAllSco
                standby := true, echoReference := none, writeThreshold := 0 }) }) := by
  unfold adevOpenOutputStream
  split
  · exact .inl ⟨enomem_ne_zero, rfl⟩
  · split
    · exact .inl ⟨einval_ne_zero, rfl⟩
    · exact .inr rfl

/-- It leaves alone what does not depend on the output streams. -/
theorem adevOpenOutputStream_frame {β : Type} (p : Hal α → β)
    (hp : ∀ s outs, p { s with outs := outs } = p s) (o : OutId) (devices : Devices)
    (alloc resamplerOk : Bool) (s : Hal α) :
    p (adevOpenOutputStream o devices alloc resamplerOk s).2 = p s := by
  rcases adevOpenOutputStream_cases o devices alloc resamplerOk s with ⟨-, h⟩ | h
  · rw [h]
  · rw [h]
    exact hp s _

def outStandby (o : OutId) (s : Hal α) : Hal α :=
  (doOutputStandby o (s.lockBoth (.out o))).unlockBoth (.out o)

/-- `free(stream)`. -/
def freeOutput (o : OutId) (s : Hal α) : Hal α := { s with outs := Function.update s.outs o none }

def adevCloseOutputStream (o : OutId) (s : Hal α) : Hal α := freeOutput o (outStandby o s)

/-- `adev->active_input` runs on the voice communication source. -/
def Hal.voiceInputActive (s : Hal α) : Bool :=
  match s.activeInput with
  | some i => (s.ins i).any fun inp => inp.source = audioSourceVoiceCommunication
  | none => false

/-- `out_set_parameters` to another device: whether it has to force the input, and the state. -/
def rerouteOutput (o : OutId) (val : Devices) (s : Hal α) : Bool × Hal α :=
  if s.activeOutput = some o then
    let s := doOutputStandby o s
    (s.voiceInputActive, selectOutputDevice (s.setOutDevice val))
  else (false, selectOutputDevice (s.setOutDevice val))

/-- The part of `out_set_parameters` under both locks. -/
def setOutputRouting (o : OutId) (val : Devices) (s : Hal α) : Bool × Hal α :=
  if s.outDevice ≠ val ∧ val ≠ 0 then rerouteOutput o val s else (false, s)

def outSetParameters (o : OutId) (kvpairs : KvPairs) (s : Hal α) : Int × Hal α :=
  match strParmsGetStr kvpairs audioParameterStreamRouting with
  | none => (-enoent, s)
  | some (ret, value) =>
    let r := setOutputRouting o (atoi value) (s.lockBoth (.out o))
    let s := r.2.pthreadMutexUnlock (.out o)
    (ret, (if r.1 then forceInput s else s).pthreadMutexUnlock .device)

/-- The part of `out_write` under both locks: what `start_output_stream` returns (0 without a
start), `force_input_standby` and the state. -/
def beginWrite (o : OutId) (ready : Bool) (s : Hal α) : Int × Bool × Hal α :=
  match s.outs o with
  | none => (0, false, s.fault (.freedOut o))
  | some out =>
    if out.standby then
      let r := startOutputStream o ready s
      if r.1 ≠ 0 then (r.1, false, r.2)
      else
        let s := r.2.modOut o fun out => { out with standby := false }
        (0, s.voiceInputActive, s)
    else (0, false, s)

/-- `out_write` up to where it releases the device lock; it goes on with `some
force_input_standby`. -/
def outWrite (o : OutId) (ready : Bool) (s : Hal α) : Option Bool × Hal α :=
  let r := beginWrite o ready (s.lockBoth (.out o))
  let s := r.2.2.pthreadMutexUnlock .device
  if r.1 ≠ 0 then (none, s.pthreadMutexUnlock (.out o)) else (some r.2.1, s)

/-- What `out_write` uses of a stream that runs. -/
def useOutput (out : OmapStreamOut) (s : Hal α) : Hal α :=
  let s := match out.echoReference with
    -- get_playback_delay asks the pcm for its time stamp
    | some e => (s.pcmUse out.pcm).echoUse e
    | none => s
  -- the throttle loop and pcm_mmap_write
  s.pcmUse out.pcm

/-- The part of `out_write` under the stream lock alone. -/
def writeData (o : OutId) (resamplerOk : Bool) (s : Hal α) : Hal α :=
  match s.outs o with
  | none => s.fault (.freedOut o)
  | some out =>
    if out.rate ≠ defaultOutSamplingRate ∧ out.resampler = false then
      if resamplerOk then
        useOutput out (s.modOut o fun out => { out with resampler := true, buffer := true })
      else s
    else useOutput out s

/-- `out_write` from there until it releases the stream lock. -/
def outWriteData (o : OutId) (resamplerOk : Bool) (s : Hal α) : Hal α :=
  (writeData o resamplerOk s).pthreadMutexUnlock (.out o)

/-- The rest of an `out_write` with `force_input_standby`. -/
def outWriteForce (s : Hal α) : Hal α :=
  (forceInput (s.pthreadMutexLock .device)).pthreadMutexUnlock .device

/-! ## Input streams -/

/-- What the allocations of `adev_open_input_stream` return, and the stream of frames its
driver will deliver. -/
structure OpenEnv (α : Type) where
  alloc : Bool
  bufferAlloc : Bool
  resamplerOk : Bool
  mic : Nat → α

/-- A stream as `calloc` and `adev_open_input_stream` leave it. -/
def newInput (devices : Devices) (config : AudioConfig) (mic : Nat → α) : OmapStreamIn α where
  channels := popcount config.channelMask
  rate := mmFullPowerSamplingRate
  pcm := none
  device := devices &&& ~~~audioDeviceBitIn
  resampler := config.sampleRate.toNat ≠ mmFullPowerSamplingRate
  requestedRate := config.sampleRate.toNat
  standby := true
  source := 0
  echoReference := none
  needEchoReference := false
  preprocessors := List.replicate maxPreprocessors none
  numPreprocessors := 0
  remixAtDriver := none
  capture :=
    { periodSize := shortPeriodSize, buffer := [], framesIn := 0, readStatus := 0
      procBuf := [], procBufSize := 0, procFramesIn := 0
      refBuf := [], refBufSize := 0, refFramesIn := 0
      mic := mic, captured := 0
      track := ⟨[], 0, true, 0, 0, 0⟩ }

def adevOpenInputStream (i : InId) (devices : Devices) (config : AudioConfig) (env : OpenEnv α)
    (s : Hal α) : Int × Hal α :=
  if checkInputParameters config.sampleRate config.format (popcount config.channelMask) ≠ 0 then
    (-einval, s)
  else if env.alloc = false then (-enomem, s)
  else if env.bufferAlloc = false then (-enomem, s)
  else if config.sampleRate.toNat ≠ mmFullPowerSamplingRate ∧ env.resamplerOk = false then
    (-einval, s)
  else (0, { s with ins := Function.update s.ins i (some (newInput devices config env.mic)) })

/-- It fails and leaves the state as it was, or the stream is there. -/
theorem adevOpenInputStream_cases (i : InId) (devices : Devices) (config : AudioConfig)
    (env : OpenEnv α) (s : Hal α) : (adevOpenInputStream i devices config env s).1 ≠ 0 ∧
      (adevOpenInputStream i devices config env s).2 = s ∨
    adevOpenInputStream i devices config env s =
      (0, { s with ins := Function.update s.ins i (some (newInput devices config env.mic)) }) := by
  unfold adevOpenInputStream
  split
  · exact .inl ⟨einval_ne_zero, rfl⟩
  · split
    · exact .inl ⟨enomem_ne_zero, rfl⟩
    · split
      · exact .inl ⟨enomem_ne_zero, rfl⟩
      · split
        · exact .inl ⟨einval_ne_zero, rfl⟩
        · exact .inr rfl

def inStandby (i : InId) (s : Hal α) : Hal α :=
  (doInputStandby i (s.lockBoth (.inp i))).unlockBoth (.inp i)

/-- `free(stream)`. -/
def freeInput (i : InId) (s : Hal α) : Hal α := { s with ins := Function.update s.ins i none }

def adevCloseInputStream (i : InId) (s : Hal α) : Hal α := freeInput i (inStandby i s)

/-- The source a stream has after `in_set_parameters`, and whether it changed. -/
def inputSource (kvpairs : KvPairs) (inp : OmapStreamIn α) : OmapStreamIn α × Bool :=
  match strParmsGetStr kvpairs audioParameterStreamInputSource with
  | some (_, value) =>
    let val := atoi value
    if inp.source ≠ val ∧ val ≠ 0 then ({ inp with source := val }, true) else (inp, false)
  | none => (inp, false)

/-- The device it has then, and whether the source or the device changed. -/
def inputDevice (kvpairs : KvPairs) (r : OmapStreamIn α × Bool) : OmapStreamIn α × Bool :=
  match strParmsGetStr kvpairs audioParameterStreamRouting with
  | some (_, value) =>
    let val := atoi value &&& ~~~audioDeviceBitIn
    if r.1.device ≠ val ∧ val ≠ 0 then ({ r.1 with device := val }, true) else r
  | none => r

def inputParameters (kvpairs : KvPairs) (inp : OmapStreamIn α) : OmapStreamIn α × Bool :=
  inputDevice kvpairs (inputSource kvpairs inp)

/-- `in_set_parameters` changes no other field. -/
theorem inputParameters_frame {β : Type} (f : OmapStreamIn α → β)
    (hs : ∀ inp v, f { inp with source := v } = f inp)
    (hd : ∀ inp v, f { inp with device := v } = f inp) (kvpairs : KvPairs) (inp : OmapStreamIn α) :
    f (inputParameters kvpairs inp).1 = f inp := by
  have h : f (inputSource kvpairs inp).1 = f inp := by
    unfold inputSource
    split
    · simp only
      split
      · exact hs _ _
      · rfl
    · rfl
  unfold inputParameters inputDevice
  split
  · simp only
    split
    · exact (hd _ _).trans h
    · exact h
  · exact h

/-- The source is the same when nothing changed. -/
theorem source_inputParameters {kv : KvPairs} {inp : OmapStreamIn α}
    (h : (inputParameters kv inp).2 = false) : (inputParameters kv inp).1.source = inp.source := by
  have hs : (inputSource kv inp).2 = false → (inputSource kv inp).1.source = inp.source := by
    unfold inputSource
    split
    · simp only
      split
      · exact fun h => Bool.noConfusion h
      · exact fun _ => rfl
    · exact fun _ => rfl
  unfold inputParameters inputDevice at h ⊢
  split at h
  · simp only at h ⊢
    split at h
    · cases h
    · next hd =>
      rw [if_neg hd]
      exact hs h
  · exact hs h

/-- The part of `in_set_parameters` under both locks. -/
def setInputParameters (i : InId) (kvpairs : KvPairs) (s : Hal α) : Hal α :=
  match s.ins i with
  | none => s.fault (.freedIn i)
  | some inp =>
    let r := inputParameters kvpairs inp
    let s := s.modIn i fun _ => r.1
    if r.2 then doInputStandby i s else s

def inSetParameters (i : InId) (kvpairs : KvPairs) (s : Hal α) : Int × Hal α :=
  (match strParmsGetStr kvpairs audioParameterStreamRouting with
   | some (ret, _) => ret
   | none => -enoent,
   (setInputParameters i kvpairs (s.lockBoth (.inp i))).unlockBoth (.inp i))

/-- The part of `in_read` under both locks: what `start_input_stream` returns (0 without a
start) and the state. -/
def beginRead (i : InId) (ready created : Bool) (s : Hal α) : Int × Hal α :=
  match s.ins i with
  | none => (0, s.fault (.freedIn i))
  | some inp =>
    if inp.standby then
      let r := startInputStream i ready created s
      (r.1, if r.1 = 0 then r.2.modIn i fun inp => { inp with standby := false } else r.2)
    else (0, s)

/-- `in_read` up to where it releases the device lock, and whether it goes on. -/
def inRead (i : InId) (ready created : Bool) (s : Hal α) : Bool × Hal α :=
  let r := beginRead i ready created (s.lockBoth (.inp i))
  let s := r.2.pthreadMutexUnlock .device
  if r.1 < 0 then (false, s.pthreadMutexUnlock (.inp i)) else (true, s)

/-- The outside's part in the read loops of one `in_read`. -/
structure ReadScript (α : Type) where
  process : List (ProcessPass α)
  read : List (ReadPass α)
  direct : Status

/-- Frames copied to the client leave the HAL's hands. -/
def Capture.hand (frames : List α) (c : Capture α) : Capture α :=
  { c with
    track := { c.track with
      handed := c.track.handed ++ frames.map fun x => (c.track.session, x) } }

section
variable [Zero α]

/-- The three read paths of `in_read` and its mute: what it returns, the client's buffer and the
read side. -/
def readPaths (inp : OmapStreamIn α) (micMute : Bool) (frames : Nat) (script : ReadScript α)
    (dst : List α) : Result α :=
  let r : Result α :=
    if inp.numPreprocessors ≠ 0 then
      let r := processFrames inp.pcm inp.resampler inp.echoReference.isSome inp.numPreprocessors
        frames script.process 0 dst inp.capture
      { r with
        capture := { r.capture with
          track := { r.capture.track with
            resumed := inp.capture.track.resumed && decide (frames = 0) } } }
    else if inp.resampler || inp.remixAtDriver.isSome then
      let r := readFrames inp.pcm inp.resampler frames script.read 0 [] inp.capture
      ⟨r.ret, writeAt dst 0 r.out, r.capture.hand r.out⟩
    else
      let r := pcmRead frames script.direct inp.capture
      ⟨some script.direct.1, writeAt dst 0 r.1,
        { r.2.hand r.1 with
          track := { (r.2.hand r.1).track with
            resumed := r.2.track.resumed || decide (script.direct.1 = 0 ∧ frames ≠ 0) } }⟩
  let ret := r.ret.map fun n => if 0 < n then 0 else n
  ⟨ret, if ret = some 0 ∧ micMute then List.replicate r.out.length 0 else r.out, r.capture⟩

/-- What the read paths used of the stream, `before` and `after` being their bookkeeping. -/
def useInput (i : InId) (inp : OmapStreamIn α) (before after : Track α) (s : Hal α) : Hal α :=
  let s := if after.pcmUses ≠ before.pcmUses then s.pcmUse inp.pcm else s
  let s := if after.echoUses ≠ before.echoUses then s.echoUse? inp.echoReference else s
  if after.noDev ≠ before.noDev then s.fault (.noDev i) else s

/-- `in_read` from where it releases the device lock: what it returns (`none` while it is inside
a read loop), the client's buffer and the state. -/
def inReadData (i : InId) (frames : Nat) (dst : List α) (script : ReadScript α) (s : Hal α) :
    Option Int × List α × Hal α :=
  match s.ins i with
  | none => (none, dst, s.fault (.freedIn i))
  | some inp =>
    let r := readPaths inp s.micMute frames script dst
    let s := (useInput i inp inp.capture.track r.capture.track s).modIn i fun inp =>
      { inp with capture := r.capture }
    (r.ret, r.out, if r.ret.isSome then s.pthreadMutexUnlock (.inp i) else s)

end

/-- `in->preprocessors[in->num_preprocessors++] = effect`. -/
def appendEffect (i : InId) (effect : Effect) (s : Hal α) : Hal α :=
  s.modIn i fun inp =>
    { inp with
      preprocessors := inp.preprocessors.set inp.numPreprocessors (some effect)
      numPreprocessors := inp.numPreprocessors + 1 }

/-- When the effect added or removed cancels echo, the stream is put into standby. -/
def effectChanged (i : InId) (effect : Effect) (need : Bool) (s : Hal α) : Hal α :=
  if effect.aec then
    doInputStandby i (s.modIn i fun inp => { inp with needEchoReference := need })
  else s

/-- The part of `in_add_audio_effect` under both locks; `desc` is the status of
`get_descriptor`. -/
def addEffect (i : InId) (effect : Effect) (desc : Int) (s : Hal α) : Int × Hal α :=
  match s.ins i with
  | none => (-enosys, s.fault (.freedIn i))
  | some inp =>
    if maxPreprocessors ≤ inp.numPreprocessors then (-enosys, s)
    else if desc ≠ 0 then (desc, s)
    else (0, effectChanged i effect true (appendEffect i effect s))

def inAddAudioEffect (i : InId) (effect : Effect) (desc : Int) (s : Hal α) : Int × Hal α :=
  let r := addEffect i effect desc (s.lockBoth (.inp i))
  (r.1, r.2.unlockBoth (.inp i))

/-- The loop of `in_remove_audio_effect` over slots `i, i + 1, …` (`n` of them): the first slot
with the effect is cleared, the slots after it move down by one. -/
def removeEffect (effect : Effect) : Nat → Nat → Bool → List (Option Effect) →
    Bool × List (Option Effect)
  | _, 0, found, slots => (found, slots)
  | i, n + 1, found, slots =>
    if found then removeEffect effect (i + 1) n true (slots.set (i - 1) (slots.getD i none))
    else if slots.getD i none = some effect then
      removeEffect effect (i + 1) n true (slots.set i none)
    else removeEffect effect (i + 1) n false slots

/-- The slots after the loop, and one preprocessor less. -/
def storeEffects (i : InId) (slots : List (Option Effect)) (s : Hal α) : Hal α :=
  s.modIn i fun inp =>
    { inp with preprocessors := slots, numPreprocessors := inp.numPreprocessors - 1 }

/-- The part of `in_remove_audio_effect` under both locks. -/
def dropEffect (i : InId) (effect : Effect) (desc : Int) (s : Hal α) : Int × Hal α :=
  match s.ins i with
  | none => (-enosys, s.fault (.freedIn i))
  | some inp =>
    if inp.numPreprocessors = 0 then (-enosys, s)
    else
      let r := removeEffect effect 0 inp.numPreprocessors false inp.preprocessors
      if r.1 = false then (-einval, s)
      else if desc ≠ 0 then (desc, storeEffects i r.2 s)
      else (0, effectChanged i effect false (storeEffects i r.2 s))

def inRemoveAudioEffect (i : InId) (effect : Effect) (desc : Int) (s : Hal α) : Int × Hal α :=
  let r := dropEffect i effect desc (s.lockBoth (.inp i))
  (r.1, r.2.unlockBoth (.inp i))

/-! ## The device -/

/-- The part of `adev_set_parameters` under the device lock. -/
def changeTtyMode (ttyMode : TtyMode) (s : Hal α) : Hal α :=
  if ttyMode ≠ s.ttyMode then
    if s.mode = audioModeInCall then selectOutputDevice (s.setTtyMode ttyMode)
    else s.setTtyMode ttyMode
  else s

/-- The TTY mode named by the parameters, if any, is set; `none` when they name an unknown one. -/
def setTtyParameter (kvpairs : KvPairs) (s : Hal α) : Option (Hal α) :=
  match strParmsGetStr kvpairs audioParameterKeyTtyMode with
  | none => some s
  | some (_, value) =>
    (ttyModeOf value).map fun ttyMode =>
      (changeTtyMode ttyMode (s.pthreadMutexLock .device)).pthreadMutexUnlock .device

def adevSetParameters (kvpairs : KvPairs) (s : Hal α) : Int × Hal α :=
  match setTtyParameter kvpairs s with
  | none => (-einval, s)
  | some s =>
    match strParmsGetStr kvpairs audioParameterKeyBtNrec with
    | some (ret, value) => (ret, { s with bluetoothNrec := value = "on" })
    | none => (-enoent, s)

/-- The part of `adev_set_mode` under the device lock. -/
def changeMode (mode : Int) (s : Hal α) : Hal α :=
  if s.mode ≠ mode then selectMode (s.setMode mode) else s

def adevSetMode (mode : Int) (s : Hal α) : Hal α :=
  (changeMode mode (s.pthreadMutexLock .device)).pthreadMutexUnlock .device

def adevSetMicMute (state : Bool) (s : Hal α) : Hal α := { s with micMute := state }

def audioHardwareInterface : String := "audio_hw_if"

/-- The device as `calloc` leaves it, over a mixer. -/
def callocDevice (mixer : Mixer) : Hal α where
  mixer := mixer
  mode := 0
  outDevice := 0
  inDevice := 0
  inCall := false
  voiceVolume := ⟨0, Volume.zero_mem⟩
  activeInput := none
  activeOutput := none
  micMute := false
  ttyMode := .off
  echoReference := none
  inputRequiresStereo := false
  bluetoothNrec := false
  outs := fun _ => none
  ins := fun _ => none
  pcms := Ledger.empty
  echos := Ledger.empty
  trace := []
  calls := []
  faults := []

/-- The device `adev_open` returns, over an open mixer. -/
def openDevice (mixer : Mixer) : Hal α :=
  let s : Hal α := (callocDevice mixer).setRoute routeSpeaker
  let s := selectOutputDevice
    { s with
      mode := audioModeNormal
      outDevice := audioDeviceOutSpeaker
      inDevice := audioDeviceInBuiltinMic &&& ~~~audioDeviceBitIn }
  { s with
    voiceVolume := Volume.max
    ttyMode := .off
    inputRequiresStereo := false
    bluetoothNrec := true }

def adevOpen (name : String) (alloc : Bool) (mixer : Option Mixer) : Except Int (Hal α) :=
  if name ≠ audioHardwareInterface then .error (-einval)
  else if alloc = false then .error (-enomem)
  else
    match mixer with
    | none => .error (-einval)
    | some mixer => .ok (openDevice mixer)

theorem adevOpen_ok {name : String} {alloc : Bool} {mixer : Option Mixer} {s : Hal α}
    (h : adevOpen name alloc mixer = .ok s) : ∃ m, mixer = some m ∧ s = openDevice m := by
  unfold adevOpen at h
  split at h
  · cases h
  · split at h
    · cases h
    · split at h
      · cases h
      · exact ⟨_, rfl, (Except.ok.inj h).symm⟩

theorem adevOpen_some (mixer : Mixer) :
    adevOpen (α := α) audioHardwareInterface true (some mixer) = .ok (openDevice mixer) := by
  simp [adevOpen]

end

/-! ## Events -/

inductive Event (α : Type) where
  | openOutputStream (o : OutId) (devices : Devices) (alloc resamplerOk : Bool)
  | closeOutputStream (o : OutId)
  | openInputStream (i : InId) (devices : Devices) (config : AudioConfig) (env : OpenEnv α)
  | closeInputStream (i : InId)
  | outWrite (o : OutId) (ready : Bool)
  | outWriteData (o : OutId) (forceInputStandby resamplerOk : Bool)
  | outWriteForce
  | outStandby (o : OutId)
  | outSetParameters (o : OutId) (kvpairs : KvPairs)
  | inRead (i : InId) (frames : Nat) (ready created : Bool)
  | inReadData (i : InId) (frames : Nat) (dst : List α) (script : ReadScript α)
  | inStandby (i : InId)
  | inSetParameters (i : InId) (kvpairs : KvPairs)
  | inAddAudioEffect (i : InId) (effect : Effect) (desc : Int)
  | inRemoveAudioEffect (i : InId) (effect : Effect) (desc : Int)
  | setParameters (kvpairs : KvPairs)
  | setMode (mode : Int)
  | setVoiceVolume (volume : Volume)
  | setMicMute (state : Bool)

section
variable {α : Type} [Zero α]

/-- What an event does to the state. -/
def act : Event α → Hal α → Hal α
  | .openOutputStream o devices alloc ok, s => (adevOpenOutputStream o devices alloc ok s).2
  | .closeOutputStream o, s => adevCloseOutputStream o s
  | .openInputStream i devices config env, s => (adevOpenInputStream i devices config env s).2
  | .closeInputStream i, s => adevCloseInputStream i s
  | .outWrite o ready, s =>
    let r := outWrite o ready s
    match r.1 with
    | some force => { r.2 with calls := .outWrite o force :: r.2.calls }
    | none => r.2
  | .outWriteData o force ok, s =>
    let s := outWriteData o ok s
    let calls := s.calls.erase (.outWrite o force)
    { s with calls := if force then .outForce :: calls else calls }
  | .outWriteForce, s =>
    let s := outWriteForce s
    { s with calls := s.calls.erase .outForce }
  | .outStandby o, s => outStandby o s
  | .outSetParameters o kvpairs, s => (outSetParameters o kvpairs s).2
  | .inRead i frames ready created, s =>
    let r := inRead i ready created s
    if r.1 then { r.2 with calls := .inRead i frames :: r.2.calls } else r.2
  | .inReadData i frames dst script, s =>
    let r := inReadData i frames dst script s
    let calls := r.2.2.calls.erase (.inRead i frames)
    { r.2.2 with calls := if r.1.isSome then calls else .inLoop i :: calls }
  | .inStandby i, s => inStandby i s
  | .inSetParameters i kvpairs, s => (inSetParameters i kvpairs s).2
  | .inAddAudioEffect i effect desc, s => (inAddAudioEffect i effect desc s).2
  | .inRemoveAudioEffect i effect desc, s => (inRemoveAudioEffect i effect desc s).2
  | .setParameters kvpairs, s => (adevSetParameters kvpairs s).2
  | .setMode mode, s => adevSetMode mode s
  | .setVoiceVolume volume, s => adevSetVoiceVolume volume s
  | .setMicMute state, s => adevSetMicMute state s

omit [Zero α] in
/-- Streams are opened under a free id, used while they are open, and a call goes on when it has
got that far. -/
def guard (s : Hal α) : Event α → Bool
  | .openOutputStream o .. => (s.outs o).isNone
  | .closeOutputStream o | .outWrite o _ | .outStandby o | .outSetParameters o _ => (s.outs o).isSome
  | .openInputStream i .. => (s.ins i).isNone
  | .closeInputStream i | .inRead i .. | .inStandby i | .inSetParameters i _
  | .inAddAudioEffect i .. | .inRemoveAudioEffect i .. => (s.ins i).isSome
  | .outWriteData o force _ => s.calls.contains (.outWrite o force)
  | .outWriteForce => s.calls.contains .outForce
  | .inReadData i frames .. => s.calls.contains (.inRead i frames)
  | .setParameters _ | .setMode _ | .setVoiceVolume _ | .setMicMute _ => true

omit [Zero α] in
def Hal.clearTrace (s : Hal α) : Hal α := { s with trace := [] }

omit [Zero α] in
/-- No call in progress holds the mutex. -/
def Hal.isFree (s : Hal α) (m : Mutex) : Bool := s.calls.all fun c => c.lock ≠ some m

omit [Zero α] in
/-- Every lock the trace of `s'` takes is free in `s`. -/
def Hal.locksFree (s s' : Hal α) : Bool :=
  s'.trace.all fun op =>
    match op with
    | .lock m => s.isFree m
    | .unlock _ => true

def step (s : Hal α) (e : Event α) : Option (Hal α) :=
  if guard s e && s.locksFree (act e s.clearTrace) then some (act e s.clearTrace).clearTrace
  else none

end

end P970.Audio
