import P970.Audio.State

/-!
# Routing, echo references, starting and stopping streams

The functions below the entry points, in the order of the source. Each is a
function of the state, reading and writing it in the order the code does; the
outcome of `pcm_open` (`ready`) and of `create_echo_reference` (`created`) is an
argument. Reading a stream that is not open is a fault.
-/

namespace P970.Audio

section
variable {α : Type}

/-! ## Routing -/

/-- The array `set_incall_device` selects. -/
def incallRoute (outDevice : Devices) : Option Route :=
  if anyOf outDevice audioDeviceOutEarpiece then some routeVoicecallEarpiece
  else if anyOf outDevice audioDeviceOutWiredHeadset then some routeVoicecallHeadset
  else if anyOf outDevice audioDeviceOutWiredHeadphone then some routeVoicecallHeadset
  else if anyOf outDevice audioDeviceOutSpeaker then some routeVoicecallSpeaker
  else none

/-- The flags of `select_output_device` that choose its array: headset, headphone, speaker. -/
def outputFlags (mode : Int) (outDevice : Devices) (ttyMode : TtyMode) : Bool × Bool × Bool :=
  let headsetOn := anyOf outDevice audioDeviceOutWiredHeadset
  let headphoneOn := anyOf outDevice audioDeviceOutWiredHeadphone
  let speakerOn := anyOf outDevice audioDeviceOutSpeaker
  let btOn := anyOf outDevice audioDeviceOutAllSco
  if mode = audioModeInCall ∧ btOn = false then
    match ttyMode with
    | .full | .vco => (false, true, false)
    | .hco => (false, false, true)
    | .off => (headsetOn, headphoneOn, speakerOn)
  else (headsetOn, headphoneOn, speakerOn)

/-- The array `select_output_device` selects. -/
def outputRoute (mode : Int) (outDevice : Devices) (ttyMode : TtyMode) : Option Route :=
  let (headsetOn, headphoneOn, speakerOn) := outputFlags mode outDevice ttyMode
  if speakerOn && headsetOn then some routeSpeakerHeadset
  else if speakerOn then some routeSpeaker
  else if headsetOn || headphoneOn then some routeHeadset
  else none

/-- The array `select_input_device` selects. -/
def inputRoute (inDevice : Devices) : Option Route :=
  let inputDevice := audioDeviceBitIn ||| inDevice
  if inputDevice = audioDeviceInBuiltinMic ∨ inputDevice = audioDeviceInBackMic then
    some routeMainMic
  else if inputDevice = audioDeviceInBluetoothScoHeadset then none
  else if inputDevice = audioDeviceInWiredHeadset then some routeHeadsetMic
  else none

/-- Sets a selected array; selecting none leaves the mixer alone. -/
def Hal.setRoute? (r : Option Route) (s : Hal α) : Hal α :=
  match r with
  | some r => s.setRoute r
  | none => s

def setIncallDevice (s : Hal α) : Hal α := s.setRoute? (incallRoute s.outDevice)

def selectOutputDevice (s : Hal α) : Hal α :=
  let t := s.setRoute? (outputRoute s.mode s.outDevice s.ttyMode)
  if s.mode = audioModeInCall then setIncallDevice t else t

def selectInputDevice (s : Hal α) : Hal α := s.setRoute? (inputRoute s.inDevice)

/-- `MIN_VOICE_VOLUME + volume * (MAX_VOICE_VOLUME - MIN_VOICE_VOLUME)`, made an `int`. -/
def voiceLevel (volume : Volume) : Int :=
  ⌊(minVoiceVolume : ℚ) + volume.1 * ((maxVoiceVolume : ℚ) - minVoiceVolume)⌋

def adevSetVoiceVolume (volume : Volume) (s : Hal α) : Hal α :=
  match mixerGetCtlByName s.mixer .dacVoiceDigitalDownlinkVolume with
  | some ctl =>
    { s with
      voiceVolume := volume
      mixer := Function.update s.mixer .dacVoiceDigitalDownlinkVolume
        (some (setValues ctl (voiceLevel volume))) }
  | none => { s with voiceVolume := volume }

/-! ## Echo references -/

/-- `out->echo_reference = reference`. -/
def attachEchoReference (o : OutId) (reference : Option Nat) (s : Hal α) : Hal α :=
  match s.outs o with
  | some _ => s.modOut o fun out => { out with echoReference := reference }
  | none => s.fault (.freedOut o)

def addEchoReference (o : OutId) (reference : Option Nat) (s : Hal α) : Hal α :=
  (attachEchoReference o reference (s.pthreadMutexLock (.out o))).pthreadMutexUnlock (.out o)

/-- The body of `remove_echo_reference`. -/
def detachEchoReference (o : OutId) (reference : Nat) (s : Hal α) : Hal α :=
  match s.outs o with
  | some out =>
    if out.echoReference = some reference then
      (s.echoUse reference).modOut o fun out => { out with echoReference := none }
    else s
  | none => s.fault (.freedOut o)

def removeEchoReference (o : OutId) (reference : Nat) (s : Hal α) : Hal α :=
  (detachEchoReference o reference (s.pthreadMutexLock (.out o))).pthreadMutexUnlock (.out o)

/-- `remove_echo_reference` from `adev->active_output`. -/
def removeFromActive (reference : Nat) (s : Hal α) : Hal α :=
  match s.activeOutput with
  | some o => removeEchoReference o reference s
  | none => s

def putEchoReference (reference : Option Nat) (s : Hal α) : Hal α :=
  match s.echoReference with
  | some e =>
    if reference = some e then
      ((removeFromActive e s).releaseEchoReference e).setEchoReference none
    else s
  | none => s

/-- `create_echo_reference` into `adev->echo_reference`, when it succeeds. -/
def Hal.createEchoReference (s : Hal α) : Hal α :=
  { s with echoReference := some s.echos.next, echos := s.echos.alloc }

/-- The part of `get_echo_reference` after `put_echo_reference`. -/
def newEchoReference (created : Bool) (s : Hal α) : Hal α :=
  match s.activeOutput with
  | some o =>
    if created then addEchoReference o (some s.echos.next) s.createEchoReference else s
  | none => s

/-- The reference it returns is `adev->echo_reference`. -/
def getEchoReference (created : Bool) (s : Hal α) : Hal α :=
  newEchoReference created (putEchoReference s.echoReference s)

/-! ## Standby -/

/-- The route of `do_output_standby`. -/
def routeOutputStandby (s : Hal α) : Hal α :=
  if s.mode ≠ audioModeInCall ∧ s.activeInput = none then s.setRoute routeStandby else s

/-- Called with the locks of the device and of the stream. -/
def doOutputStandby (o : OutId) (s : Hal α) : Hal α :=
  match s.outs o with
  | none => s.fault (.freedOut o)
  | some out =>
    if out.standby then s
    else
      let s := (routeOutputStandby (s.pcmClose out.pcm)).setActiveOutput none
      (s.echoUse? out.echoReference).modOut o fun out =>
        { out with pcm := none, echoReference := none, standby := true }

/-- The route of `do_input_standby`, outside a call. -/
def unrouteInput (s : Hal α) : Hal α :=
  (selectInputDevice (s.setInDevice audioDeviceNone)).setRoute routeInputStandby

/-- What `do_input_standby` does with the stream's reference. -/
def dropEchoReference (reference : Option Nat) (s : Hal α) : Hal α :=
  match reference with
  | some e => putEchoReference (some e) (s.echoUse e)
  | none => s

/-- Called with the locks of the device and of the stream. -/
def doInputStandby (i : InId) (s : Hal α) : Hal α :=
  match s.ins i with
  | none => s.fault (.freedIn i)
  | some inp =>
    if inp.standby then s
    else
      let s := ((s.pcmClose inp.pcm).setActiveInput none).outsideCall unrouteInput
      (dropEchoReference inp.echoReference s).modIn i fun inp =>
        { inp with pcm := none, echoReference := none, standby := true }

/-- Forces the active output stream, if there is one, into standby, taking its lock. -/
def forceOutput (s : Hal α) : Hal α :=
  match s.activeOutput with
  | some o => (doOutputStandby o (s.pthreadMutexLock (.out o))).pthreadMutexUnlock (.out o)
  | none => s

/-- Forces the active input stream, if there is one, into standby, taking its lock. -/
def forceInput (s : Hal α) : Hal α :=
  match s.activeInput with
  | some i => (doInputStandby i (s.pthreadMutexLock (.inp i))).pthreadMutexUnlock (.inp i)
  | none => s

def forceAllStandby (s : Hal α) : Hal α := forceInput (forceOutput s)

/-- The devices `select_mode` takes a call to. -/
def callDevices (s : Hal α) : Hal α :=
  if s.outDevice = audioDeviceOutSpeaker then
    (s.setOutDevice audioDeviceOutEarpiece).setInDevice
      (audioDeviceInBuiltinMic &&& ~~~audioDeviceBitIn)
  else s.setOutDevice (s.outDevice &&& ~~~audioDeviceOutSpeaker)

/-- `adev_set_voice_volume` with the volume the device has. -/
def applyVoiceVolume (s : Hal α) : Hal α := adevSetVoiceVolume s.voiceVolume s

def selectMode (s : Hal α) : Hal α :=
  if s.mode = audioModeInCall then
    if s.inCall then s
    else (applyVoiceVolume (selectOutputDevice (callDevices (forceAllStandby s)))).setInCall true
  else if s.inCall then
    selectInputDevice (selectOutputDevice (forceAllStandby (s.setInCall false)))
  else s

/-! ## Starting -/

/-- The stream becomes the active one, has its rate set, and is routed. -/
def claimOutput (o : OutId) (s : Hal α) : Hal α :=
  Hal.outsideCall
    ((s.setActiveOutput (some o)).modOut o fun out =>
      { out with rate := if anyOf s.outDevice audioDeviceOutAllSco then mmFullPowerSamplingRate
          else defaultOutSamplingRate })
    selectOutputDevice

/-- `out->echo_reference = adev->echo_reference`, when there is one. -/
def shareEchoReference (o : OutId) (s : Hal α) : Hal α :=
  match s.echoReference with
  | some e => s.modOut o fun out => { out with echoReference := some e }
  | none => s

/-- `pcm_open` for an output stream, and what follows it. -/
def openOutputPcm (o : OutId) (ready : Bool) (s : Hal α) : Int × Hal α :=
  let t := s.pcmOpen.modOut o fun out =>
    { out with writeThreshold := playbackPeriodCount * longPeriodSize, pcm := some s.newPcm }
  if ready then (0, shareEchoReference o t)
  else (-enomem, (t.pcmClose (some s.newPcm)).setActiveOutput none)

/-- Called with the locks of the device and of the stream. The card and port only go to
`pcm_open`. -/
def startOutputStream (o : OutId) (ready : Bool) (s : Hal α) : Int × Hal α :=
  openOutputPcm o ready (claimOutput o s)

/-- The stream becomes the active one and its device is routed. -/
def claimInput (i : InId) (device : Devices) (s : Hal α) : Hal α :=
  (s.setActiveInput (some i)).outsideCall fun s => selectInputDevice (s.setInDevice device)

/-- `in->buffer` is replaced, its frames lost. -/
def setupStereoToMonoInputRemix (i : InId) (s : Hal α) : Hal α :=
  s.modIn i fun inp =>
    { inp with
      remixAtDriver := some ⟨inp.channels * 2 / inp.channels, 2, 1⟩
      capture := { inp.capture with buffer := [] } }

/-- `in->echo_reference = get_echo_reference(…)`. -/
def takeEchoReference (i : InId) (created : Bool) (s : Hal α) : Hal α :=
  let s := getEchoReference created s
  s.modIn i fun inp => { inp with echoReference := s.echoReference }

/-- What a successful start does to the read side: the resampler, if any, is reset. -/
def Capture.restart (resampler : Bool) (c : Capture α) : Capture α :=
  { c with
    framesIn := if resampler then 0 else c.framesIn
    track := { c.track with session := c.captured, resumed := true } }

/-- `pcm_open` for an input stream, and what follows it: `config.channels` is `in_chans` of a
remix during it, and `out_chans` after it. -/
def openInputPcm (i : InId) (ready : Bool) (s : Hal α) : Int × Hal α :=
  let t := s.pcmOpen.modIn i fun inp =>
    { inp with
      pcm := some s.newPcm
      channels := match inp.remixAtDriver with
        | some r => r.outChans
        | none => inp.channels }
  if ready then (0, t.modIn i fun inp => { inp with capture := inp.capture.restart inp.resampler })
  else (-enomem, (t.pcmClose (some s.newPcm)).setActiveInput none)

/-- The channels are those of the stream where there is no remix. -/
theorem openInputPcm_eq (i : InId) (ready : Bool) (s : Hal α) :
    ∃ channels : OmapStreamIn α → Nat,
      (∀ inp, inp.remixAtDriver = none → channels inp = inp.channels) ∧
      openInputPcm i ready s =
        let t := s.pcmOpen.modIn i fun inp =>
          { inp with pcm := some s.newPcm, channels := channels inp }
        if ready then
          (0, t.modIn i fun inp => { inp with capture := inp.capture.restart inp.resampler })
        else (-enomem, (t.pcmClose (some s.newPcm)).setActiveInput none) :=
  ⟨fun inp => match inp.remixAtDriver with
      | some r => r.outChans
      | none => inp.channels,
    fun inp h => by simp only [h], rfl⟩

/-- The remix of `start_input_stream`, for a stream with the fields of `inp`. -/
def remixInput (i : InId) (inp : OmapStreamIn α) (s : Hal α) : Hal α :=
  if s.inputRequiresStereo && inp.channels = 1 then setupStereoToMonoInputRemix i s else s

/-- The echo reference of `start_input_stream`, for a stream with the fields of `inp`. -/
def referenceInput (i : InId) (created : Bool) (inp : OmapStreamIn α) (s : Hal α) : Hal α :=
  if inp.needEchoReference && inp.echoReference = none then takeEchoReference i created s else s

/-- Called with the locks of the device and of the stream. -/
def startInputStream (i : InId) (ready created : Bool) (s : Hal α) : Int × Hal α :=
  match s.ins i with
  | none => (-enodev, s.fault (.freedIn i))
  | some inp =>
    openInputPcm i ready
      (referenceInput i created inp (remixInput i inp (claimInput i inp.device s)))

end

end P970.Audio
