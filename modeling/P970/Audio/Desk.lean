import P970.Audio.Locks

/-!
# The routing desk

What the routing of the HAL reads and writes (`Desk`): the mixer, the mode, the
devices, the TTY mode, the voice volume, and which of the open streams run. `Hal.desk` is the desk of a state, and every
function of the HAL is an operation on it or leaves it alone (`desk_act`), so the
properties of routing are proved about `Desk`.
-/

namespace P970.Audio

structure Desk where
  mixer : Mixer
  mode : Int
  outDevice : Devices
  inDevice : Devices
  inCall : Bool
  voiceVolume : Volume
  ttyMode : TtyMode
  /-- The open output streams, and whether they play. -/
  output : OutId → Option Bool
  /-- The open input streams, whether they capture, and from which device. -/
  input : InId → Option (Bool × Devices)

namespace Desk

variable (d : Desk)

def setRoute (r : Option Route) : Desk :=
  match r with
  | some r => { d with mixer := (setRouteByArray r d.mixer).2 }
  | none => d

def outsideCall (f : Desk → Desk) : Desk := if d.mode ≠ audioModeInCall then f d else d

def selectOutput : Desk :=
  let d' := d.setRoute (outputRoute d.mode d.outDevice d.ttyMode)
  if d.mode = audioModeInCall then d'.setRoute (incallRoute d.outDevice) else d'

def selectInput : Desk := d.setRoute (inputRoute d.inDevice)

def setVolume (volume : Volume) : Desk :=
  match d.mixer .dacVoiceDigitalDownlinkVolume with
  | some ctl =>
    { d with
      voiceVolume := volume
      mixer := Function.update d.mixer .dacVoiceDigitalDownlinkVolume
        (some (setValues ctl (voiceLevel volume))) }
  | none => { d with voiceVolume := volume }

/-- Output `o` stops playing; the standby route is set outside a call when `inputIdle`. -/
def stopOutput (o : OutId) (inputIdle : Bool) : Desk :=
  if d.output o = some true then
    { if d.mode ≠ audioModeInCall ∧ inputIdle then d.setRoute (some routeStandby) else d with
      output := Function.update d.output o (some false) }
  else d

def unrouteInput : Desk :=
  ({ d with inDevice := audioDeviceNone } : Desk).setRoute (some routeInputStandby)

/-- Input `i` stops capturing, and outside a call the microphones are switched off. -/
def stopInput (i : InId) : Desk :=
  match d.input i with
  | some (true, device) =>
    { d.outsideCall unrouteInput with input := Function.update d.input i (some (false, device)) }
  | _ => d

def startOutput (o : OutId) (ready : Bool) : Desk :=
  if d.output o = some false then
    { d.outsideCall selectOutput with output := Function.update d.output o (some ready) }
  else d

def routeInput (device : Devices) : Desk := ({ d with inDevice := device } : Desk).selectInput

def startInput (i : InId) (ready : Bool) : Desk :=
  match d.input i with
  | some (false, device) =>
    { d.outsideCall (routeInput · device) with
      input := Function.update d.input i (some (ready, device)) }
  | _ => d

def setOutDevice (devices : Devices) : Desk := ({ d with outDevice := devices } : Desk).selectOutput

def setTtyMode (ttyMode : TtyMode) : Desk :=
  if d.mode = audioModeInCall then ({ d with ttyMode := ttyMode } : Desk).selectOutput
  else { d with ttyMode := ttyMode }

def forceOutput (output : Option OutId) (inputIdle : Bool) : Desk :=
  match output with
  | some o => d.stopOutput o inputIdle
  | none => d

def forceInput (input : Option InId) : Desk :=
  match input with
  | some i => d.stopInput i
  | none => d

def stopActive (output : Option OutId) (input : Option InId) : Desk :=
  (d.forceOutput output input.isNone).forceInput input

def callDevices : Desk :=
  if d.outDevice = audioDeviceOutSpeaker then
    { d with
      outDevice := audioDeviceOutEarpiece
      inDevice := audioDeviceInBuiltinMic &&& ~~~audioDeviceBitIn }
  else { d with outDevice := d.outDevice &&& ~~~audioDeviceOutSpeaker }

/-- The mode has become `AUDIO_MODE_IN_CALL`, with these streams active. -/
def enterCall (output : Option OutId) (input : Option InId) : Desk :=
  let d := (d.stopActive output input).callDevices.selectOutput
  { d.setVolume d.voiceVolume with inCall := true }

/-- The mode is no longer `AUDIO_MODE_IN_CALL`, with these streams active. -/
def leaveCall (output : Option OutId) (input : Option InId) : Desk :=
  (({ d with inCall := false } : Desk).stopActive output input).selectOutput.selectInput

def selectMode (output : Option OutId) (input : Option InId) : Desk :=
  if d.mode = audioModeInCall then if d.inCall then d else d.enterCall output input
  else if d.inCall then d.leaveCall output input
  else d

def changeMode (mode : Int) (output : Option OutId) (input : Option InId) : Desk :=
  if d.mode = mode then d else ({ d with mode := mode } : Desk).selectMode output input

end Desk

section
variable {α : Type}

def OmapStreamOut.playing (out : OmapStreamOut) : Bool := !out.standby

def OmapStreamIn.capturing (inp : OmapStreamIn α) : Bool × Devices := (!inp.standby, inp.device)

def Hal.desk (s : Hal α) : Desk where
  mixer := s.mixer
  mode := s.mode
  outDevice := s.outDevice
  inDevice := s.inDevice
  inCall := s.inCall
  voiceVolume := s.voiceVolume
  ttyMode := s.ttyMode
  output o := (s.outs o).map (·.playing)
  input i := (s.ins i).map (·.capturing)

variable (s : Hal α)

/-! ## Functions that leave the desk alone -/

@[simp] theorem desk_lock (m : Mutex) : (s.pthreadMutexLock m).desk = s.desk := rfl

@[simp] theorem desk_unlock (m : Mutex) : (s.pthreadMutexUnlock m).desk = s.desk := rfl

@[simp] theorem desk_fault (f : Fault) : (s.fault f).desk = s.desk := rfl

@[simp] theorem desk_setActiveOutput (o : Option OutId) : (s.setActiveOutput o).desk = s.desk := rfl

@[simp] theorem desk_setActiveInput (i : Option InId) : (s.setActiveInput i).desk = s.desk := rfl

@[simp] theorem desk_setEchoReference (e : Option Nat) : (s.setEchoReference e).desk = s.desk := rfl

@[simp] theorem desk_createEchoReference : s.createEchoReference.desk = s.desk := rfl

@[simp] theorem desk_pcmClose (h : Option Nat) : (s.pcmClose h).desk = s.desk := by
  unfold Hal.pcmClose
  split
  · split <;> rfl
  · rfl

@[simp] theorem desk_pcmUse (h : Option Nat) : (s.pcmUse h).desk = s.desk := by
  unfold Hal.pcmUse
  split
  · split <;> rfl
  · rfl

@[simp] theorem desk_releaseEchoReference (e : Nat) : (s.releaseEchoReference e).desk = s.desk := by
  unfold Hal.releaseEchoReference
  split <;> rfl

@[simp] theorem desk_echoUse (e : Nat) : (s.echoUse e).desk = s.desk := by
  unfold Hal.echoUse
  split <;> rfl

@[simp] theorem desk_echoUse? (e : Option Nat) : (s.echoUse? e).desk = s.desk := by
  cases e
  · rfl
  · exact desk_echoUse _ _

theorem desk_modOut (o : OutId) (f : OmapStreamOut → OmapStreamOut) : (s.modOut o f).desk =
    { s.desk with
      output := Function.update s.desk.output o ((s.outs o).map fun out => (f out).playing) } :=
  congrArg (fun x => { s.desk with output := x }) (s.map_modOut (·.playing) o f)

theorem desk_modIn (i : InId) (f : OmapStreamIn α → OmapStreamIn α) : (s.modIn i f).desk =
    { s.desk with
      input := Function.update s.desk.input i ((s.ins i).map fun inp => (f inp).capturing) } :=
  congrArg (fun x => { s.desk with input := x }) (s.map_modIn (·.capturing) i f)

/-- Changing other fields of an output stream. -/
theorem desk_modOut_same (o : OutId) {f : OmapStreamOut → OmapStreamOut}
    (hf : ∀ out, (f out).playing = out.playing) : (s.modOut o f).desk = s.desk := by
  rw [desk_modOut]
  simp only [hf]
  rw [show (s.outs o).map (fun out => out.playing) = s.desk.output o from rfl,
    Function.update_eq_self]

theorem desk_modIn_same (i : InId) {f : OmapStreamIn α → OmapStreamIn α}
    (hf : ∀ inp, (f inp).capturing = inp.capturing) : (s.modIn i f).desk = s.desk := by
  rw [desk_modIn]
  simp only [hf]
  rw [show (s.ins i).map (fun inp => inp.capturing) = s.desk.input i from rfl,
    Function.update_eq_self]

/-- Setting the standby flag of an open output stream. -/
theorem desk_modOut_playing {o : OutId} {f : OmapStreamOut → OmapStreamOut} {b : Bool}
    (hf : ∀ out, (f out).playing = b) (ho : (s.desk.output o).isSome) :
    (s.modOut o f).desk = { s.desk with output := Function.update s.desk.output o (some b) } := by
  obtain ⟨out, hout⟩ := Option.isSome_iff_exists.mp (Option.isSome_map ▸ ho)
  rw [desk_modOut, hout, Option.map_some, hf]

/-- Setting the standby flag of an open input stream. -/
theorem desk_modIn_capturing {i : InId} {f : OmapStreamIn α → OmapStreamIn α} {b b' : Bool}
    {device : Devices} (hf : ∀ inp, (f inp).capturing = (b, inp.device))
    (hi : s.desk.input i = some (b', device)) : (s.modIn i f).desk =
      { s.desk with input := Function.update s.desk.input i (some (b, device)) } := by
  obtain ⟨inp, hinp, hd⟩ := Option.map_eq_some_iff.mp hi
  have hd : inp.device = device := congrArg Prod.snd hd
  rw [desk_modIn, hinp, Option.map_some, hf, hd]

theorem desk_attachEchoReference (o : OutId) (e : Option Nat) :
    (attachEchoReference o e s).desk = s.desk := by
  unfold attachEchoReference
  split
  · exact desk_modOut_same s o fun _ => rfl
  · rfl

@[simp] theorem desk_addEchoReference (o : OutId) (e : Option Nat) :
    (addEchoReference o e s).desk = s.desk := by
  rw [addEchoReference, desk_unlock, desk_attachEchoReference, desk_lock]

theorem desk_detachEchoReference (o : OutId) (e : Nat) :
    (detachEchoReference o e s).desk = s.desk := by
  unfold detachEchoReference
  split
  · split
    · refine (desk_modOut_same _ o ?_).trans (desk_echoUse s e)
      exact fun _ => rfl
    · rfl
  · rfl

@[simp] theorem desk_removeFromActive (e : Nat) : (removeFromActive e s).desk = s.desk := by
  unfold removeFromActive
  split
  · rw [removeEchoReference, desk_unlock, desk_detachEchoReference, desk_lock]
  · rfl

@[simp] theorem desk_putEchoReference (e : Option Nat) : (putEchoReference e s).desk = s.desk := by
  unfold putEchoReference
  split
  · split <;> simp
  · rfl

@[simp] theorem desk_getEchoReference (created : Bool) :
    (getEchoReference created s).desk = s.desk := by
  rw [getEchoReference, newEchoReference]
  split
  · split <;> simp
  · simp

@[simp] theorem desk_dropEchoReference (e : Option Nat) : (dropEchoReference e s).desk = s.desk := by
  cases e with
  | none => rfl
  | some e => rw [dropEchoReference, desk_putEchoReference, desk_echoUse]

@[simp] theorem desk_shareEchoReference (o : OutId) : (shareEchoReference o s).desk = s.desk := by
  unfold shareEchoReference
  split
  · exact desk_modOut_same s o fun _ => rfl
  · rfl

@[simp] theorem desk_remixInput (i : InId) (inp : OmapStreamIn α) :
    (remixInput i inp s).desk = s.desk := by
  unfold remixInput setupStereoToMonoInputRemix
  split
  · exact desk_modIn_same s i fun _ => rfl
  · rfl

@[simp] theorem desk_referenceInput (i : InId) (created : Bool) (inp : OmapStreamIn α) :
    (referenceInput i created inp s).desk = s.desk := by
  unfold referenceInput
  split
  · refine (desk_modIn_same _ i ?_).trans (desk_getEchoReference s created)
    exact fun _ => rfl
  · rfl

/-! ## Functions that work on the desk -/

theorem desk_setRoute? (r : Option Route) : (s.setRoute? r).desk = s.desk.setRoute r := by
  cases r <;> rfl

theorem desk_outsideCall {f : Hal α → Hal α} {g : Desk → Desk} (h : (f s).desk = g s.desk) :
    (s.outsideCall f).desk = s.desk.outsideCall g := by
  unfold Hal.outsideCall Desk.outsideCall
  split
  · next hm => rw [h, if_pos (by exact hm)]
  · next hm => rw [if_neg (by exact hm)]

theorem desk_selectOutputDevice : (selectOutputDevice s).desk = s.desk.selectOutput := by
  have h1 := desk_setRoute? s (outputRoute s.mode s.outDevice s.ttyMode)
  have ho : (s.setRoute? (outputRoute s.mode s.outDevice s.ttyMode)).outDevice = s.outDevice := by
    cases outputRoute s.mode s.outDevice s.ttyMode <;> rfl
  simp only [selectOutputDevice, setIncallDevice, Desk.selectOutput]
  split
  · next hm => rw [desk_setRoute?, h1, ho, if_pos (by exact hm)]; rfl
  · next hm => rw [h1, if_neg (by exact hm)]; rfl

theorem desk_selectInputDevice : (selectInputDevice s).desk = s.desk.selectInput :=
  desk_setRoute? s _

theorem desk_setInCall (b : Bool) : (s.setInCall b).desk = { s.desk with inCall := b } := rfl

theorem desk_adevSetVoiceVolume (v : Volume) :
    (adevSetVoiceVolume v s).desk = s.desk.setVolume v := by
  unfold adevSetVoiceVolume Desk.setVolume mixerGetCtlByName
  split
  · next hc =>
    simp only [Hal.desk, hc]
  · next hc =>
    simp only [Hal.desk, hc]

theorem desk_callDevices : (callDevices s).desk = s.desk.callDevices := by
  unfold callDevices Desk.callDevices
  split
  · next h => rw [if_pos (by exact h)]; rfl
  · next h => rw [if_neg (by exact h)]; rfl

theorem desk_routeOutputStandby : (routeOutputStandby s).desk =
    if s.desk.mode ≠ audioModeInCall ∧ s.activeInput.isNone then
      s.desk.setRoute (some routeStandby) else s.desk := by
  unfold routeOutputStandby
  split
  · next h => rw [if_pos (by simpa [Hal.desk] using h)]; rfl
  · next h => rw [if_neg (by simpa [Hal.desk] using h)]

@[simp] theorem Desk.output_setRoute (d : Desk) (r : Option Route) :
    (d.setRoute r).output = d.output := by
  cases r <;> rfl

@[simp] theorem Desk.input_setRoute (d : Desk) (r : Option Route) :
    (d.setRoute r).input = d.input := by
  cases r <;> rfl

theorem Desk.output_outsideCall (d : Desk) {f : Desk → Desk} (hf : (f d).output = d.output) :
    (d.outsideCall f).output = d.output := by
  unfold Desk.outsideCall
  split
  · exact hf
  · rfl

theorem Desk.input_outsideCall (d : Desk) {f : Desk → Desk} (hf : (f d).input = d.input) :
    (d.outsideCall f).input = d.input := by
  unfold Desk.outsideCall
  split
  · exact hf
  · rfl

theorem Desk.output_selectOutput (d : Desk) : d.selectOutput.output = d.output := by
  unfold Desk.selectOutput
  split <;> simp

theorem Desk.input_selectOutput (d : Desk) : d.selectOutput.input = d.input := by
  unfold Desk.selectOutput
  split <;> simp

theorem activeInput_pcmClose (h : Option Nat) : (s.pcmClose h).activeInput = s.activeInput := by
  unfold Hal.pcmClose
  split
  · split <;> rfl
  · rfl

theorem activeInput_echoUse? (e : Option Nat) : (s.echoUse? e).activeInput = s.activeInput := by
  unfold Hal.echoUse? Hal.echoUse
  split
  · split <;> rfl
  · rfl

theorem activeInput_doOutputStandby (o : OutId) :
    (doOutputStandby o s).activeInput = s.activeInput := by
  unfold doOutputStandby
  split
  · rfl
  · next out _ =>
    split
    · rfl
    · refine (activeInput_echoUse? _ _).trans ?_
      unfold routeOutputStandby
      split
      · exact activeInput_pcmClose s out.pcm
      · exact activeInput_pcmClose s out.pcm

theorem desk_doOutputStandby (o : OutId) :
    (doOutputStandby o s).desk = s.desk.stopOutput o s.activeInput.isNone := by
  have hp : s.desk.output o = (s.outs o).map (·.playing) := rfl
  unfold doOutputStandby Desk.stopOutput
  split
  · next ho => rw [if_neg (by rw [hp, ho]; simp), desk_fault]
  · next out ho =>
    split
    · next hs => rw [if_neg (by rw [hp, ho]; simp [OmapStreamOut.playing, hs])]
    · next hs =>
      have hT : (((routeOutputStandby (s.pcmClose out.pcm)).setActiveOutput none).echoUse?
          out.echoReference).desk =
            if s.desk.mode ≠ audioModeInCall ∧ s.activeInput.isNone then
              s.desk.setRoute (some routeStandby) else s.desk := by
        rw [desk_echoUse?, desk_setActiveOutput, desk_routeOutputStandby, desk_pcmClose,
          activeInput_pcmClose]
      have ho' : (if s.desk.mode ≠ audioModeInCall ∧ s.activeInput.isNone then
          s.desk.setRoute (some routeStandby) else s.desk).output = s.desk.output := by
        split
        · exact Desk.output_setRoute _ _
        · rfl
      rw [if_pos (by rw [hp, ho]; simp [OmapStreamOut.playing, hs])]
      refine (desk_modOut_playing _ (b := false) (fun _ => rfl) ?_).trans ?_
      · rw [hT, ho', hp, ho]
        rfl
      · rw [hT, ho']

theorem inputRoute_none : inputRoute audioDeviceNone = none := by decide

theorem desk_unrouteInput : (unrouteInput s).desk = s.desk.unrouteInput := by
  have h : selectInputDevice (s.setInDevice audioDeviceNone) = s.setInDevice audioDeviceNone := by
    rw [selectInputDevice, show (s.setInDevice audioDeviceNone).inDevice = audioDeviceNone from rfl,
      inputRoute_none]
    rfl
  rw [unrouteInput, h]
  rfl

theorem desk_doInputStandby (i : InId) : (doInputStandby i s).desk = s.desk.stopInput i := by
  have hp : s.desk.input i = (s.ins i).map (·.capturing) := rfl
  unfold doInputStandby Desk.stopInput
  cases hi : s.ins i with
  | none => simp only [hp, hi, Option.map_none, desk_fault]
  | some inp =>
    have hp : s.desk.input i = some (!inp.standby, inp.device) := by rw [hp, hi]; rfl
    cases hs : inp.standby with
    | true => simp only [hp, hs, if_true, Bool.not_true]
    | false =>
      have hT := desk_outsideCall ((s.pcmClose inp.pcm).setActiveInput none)
        (desk_unrouteInput _)
      rw [desk_setActiveInput, desk_pcmClose] at hT
      have hin : (s.desk.outsideCall .unrouteInput).input = s.desk.input :=
        s.desk.input_outsideCall rfl
      simp only [hp, hs, Bool.false_eq_true, if_false, Bool.not_false]
      have hd : (dropEchoReference inp.echoReference
          (((s.pcmClose inp.pcm).setActiveInput none).outsideCall unrouteInput)).desk.input i =
            some (true, inp.device) := by
        rw [desk_dropEchoReference, hT, hin, hp, hs]
        rfl
      refine (desk_modIn_capturing _ (b := false) (fun _ => rfl) hd).trans ?_
      rw [desk_dropEchoReference, hT, hin]

theorem desk_forceOutput :
    (forceOutput s).desk = s.desk.forceOutput s.activeOutput s.activeInput.isNone := by
  unfold forceOutput
  cases s.activeOutput with
  | none => rfl
  | some o => exact desk_doOutputStandby (s.pthreadMutexLock (.out o)) o

theorem desk_forceInput : (forceInput s).desk = s.desk.forceInput s.activeInput := by
  unfold forceInput
  cases s.activeInput with
  | none => rfl
  | some i => exact desk_doInputStandby (s.pthreadMutexLock (.inp i)) i

theorem desk_forceAllStandby :
    (forceAllStandby s).desk = s.desk.stopActive s.activeOutput s.activeInput := by
  have ho : (forceOutput s).activeInput = s.activeInput := by
    unfold forceOutput
    split
    · exact activeInput_doOutputStandby _ _
    · rfl
  rw [forceAllStandby, desk_forceInput, ho, desk_forceOutput, Desk.stopActive]

theorem desk_enterCall : ((applyVoiceVolume (selectOutputDevice (callDevices
    (forceAllStandby s)))).setInCall true).desk = s.desk.enterCall s.activeOutput s.activeInput := by
  have hd : (selectOutputDevice (callDevices (forceAllStandby s))).desk =
      (s.desk.stopActive s.activeOutput s.activeInput).callDevices.selectOutput := by
    rw [desk_selectOutputDevice, desk_callDevices, desk_forceAllStandby]
  generalize selectOutputDevice (callDevices (forceAllStandby s)) = t at hd ⊢
  have ha : (applyVoiceVolume t).desk = t.desk.setVolume t.desk.voiceVolume :=
    desk_adevSetVoiceVolume t t.voiceVolume
  rw [desk_setInCall, ha, hd, Desk.enterCall]

theorem desk_selectMode :
    (selectMode s).desk = s.desk.selectMode s.activeOutput s.activeInput := by
  have hm : s.desk.mode = s.mode := rfl
  have hi : s.desk.inCall = s.inCall := rfl
  unfold selectMode Desk.selectMode
  rw [hm, hi]
  split
  · split
    · rfl
    · exact desk_enterCall s
  · split
    · rw [desk_selectInputDevice, desk_selectOutputDevice, desk_forceAllStandby]
      rfl
    · rfl

theorem desk_changeMode (mode : Int) :
    (changeMode mode s).desk = s.desk.changeMode mode s.activeOutput s.activeInput := by
  have hm : s.desk.mode = s.mode := rfl
  unfold changeMode Desk.changeMode
  rw [hm, ite_not]
  split
  · rfl
  · exact desk_selectMode (s.setMode mode)

theorem desk_claimOutput (o : OutId) : (claimOutput o s).desk = s.desk.outsideCall .selectOutput := by
  refine (desk_outsideCall _ (desk_selectOutputDevice _)).trans ?_
  rw [desk_modOut_same _ o (by exact fun _ => rfl), desk_setActiveOutput]

theorem desk_claimInput (i : InId) (device : Devices) :
    (claimInput i device s).desk = s.desk.outsideCall (·.routeInput device) :=
  desk_outsideCall (s.setActiveInput (some i)) (desk_selectInputDevice _)

theorem desk_openOutputPcm (o : OutId) (ready : Bool) : (openOutputPcm o ready s).2.desk = s.desk := by
  have ht : ∀ f : OmapStreamOut → OmapStreamOut, (∀ out, (f out).playing = out.playing) →
      (s.pcmOpen.modOut o f).desk = s.desk := fun f hf => desk_modOut_same s.pcmOpen o hf
  cases ready with
  | true =>
    refine (desk_shareEchoReference _ o).trans (ht _ fun _ => rfl)
  | false =>
    refine (desk_setActiveOutput _ none).trans ((desk_pcmClose _ _).trans (ht _ fun _ => rfl))

theorem desk_openInputPcm (i : InId) (ready : Bool) : (openInputPcm i ready s).2.desk = s.desk := by
  have ht : ∀ f : OmapStreamIn α → OmapStreamIn α, (∀ inp, (f inp).capturing = inp.capturing) →
      (s.pcmOpen.modIn i f).desk = s.desk := fun f hf => desk_modIn_same s.pcmOpen i hf
  cases ready with
  | true =>
    refine (desk_modIn_same _ i ?_).trans (ht _ fun _ => rfl)
    exact fun _ => rfl
  | false =>
    refine (desk_setActiveInput _ none).trans ((desk_pcmClose _ _).trans (ht _ fun _ => rfl))

/-- `start_output_stream` and, when it succeeds, `out->standby = 0`. -/
theorem desk_startOutputStream {o : OutId} (ready : Bool) (ho : s.desk.output o = some false) :
    (if ready then (startOutputStream o ready s).2.modOut o fun out => { out with standby := false }
      else (startOutputStream o ready s).2).desk = s.desk.startOutput o ready := by
  have hd := (desk_openOutputPcm (claimOutput o s) o ready).trans (desk_claimOutput s o)
  have hout : (s.desk.outsideCall .selectOutput).output = s.desk.output :=
    s.desk.output_outsideCall s.desk.output_selectOutput
  rw [Desk.startOutput, if_pos ho, startOutputStream]
  cases ready with
  | true =>
    refine (desk_modOut_playing _ (b := true) (fun _ => rfl) ?_).trans ?_
    · rw [hd, hout, ho]
      rfl
    · rw [hd, hout]
  | false =>
    refine hd.trans ?_
    rw [← ho, Function.update_eq_self, ← hout]

theorem desk_startInputStream {i : InId} {device : Devices} (ready created : Bool)
    (hi : s.desk.input i = some (false, device)) :
    (if ready then
        (startInputStream i ready created s).2.modIn i fun inp => { inp with standby := false }
      else (startInputStream i ready created s).2).desk = s.desk.startInput i ready := by
  obtain ⟨inp, hinp, hdev⟩ := Option.map_eq_some_iff.mp hi
  have hdev : inp.device = device := congrArg Prod.snd hdev
  have hd : (startInputStream i ready created s).2.desk =
      s.desk.outsideCall (·.routeInput device) := by
    rw [startInputStream, hinp]
    simp only [desk_openInputPcm, desk_referenceInput, desk_remixInput, desk_claimInput, hdev]
  have hin : (s.desk.outsideCall (·.routeInput device)).input = s.desk.input :=
    s.desk.input_outsideCall (Desk.input_setRoute _ _)
  simp only [Desk.startInput, hi]
  cases ready with
  | true =>
    have hi' : (startInputStream i true created s).2.desk.input i = some (false, device) := by
      rw [hd, hin, hi]
    refine (desk_modIn_capturing _ (b := true) (fun _ => rfl) hi').trans ?_
    rw [hd, hin]
  | false =>
    refine hd.trans ?_
    rw [← hi, Function.update_eq_self, ← hin]

end

end P970.Audio
