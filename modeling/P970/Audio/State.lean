import Mathlib.Data.Rat.Floor
import P970.Lib.Lease
import P970.Lib.LockOrder
import P970.Audio.Capture

/-!
# The state of the HAL

`Hal` is `struct omap_audio_device` together with what it points at: the open
streams (by id; an id may be used again once its stream is closed), and what the
HAL obtained from outside, the pcm handles and the echo references, each with a
ledger of what is live. `trace` collects the lock steps of the code now running,
`calls` the calls that have released the device lock and go on, and `faults`
every use the code makes of something it may no longer touch. Constants carry
the names and values of the Android headers.
-/

namespace P970.Audio

open P970.LockOrder (Op)

/-! ## Constants -/

abbrev Devices := BitVec 32

def audioDeviceNone : Devices := 0x0
def audioDeviceOutEarpiece : Devices := 0x1
def audioDeviceOutSpeaker : Devices := 0x2
def audioDeviceOutWiredHeadset : Devices := 0x4
def audioDeviceOutWiredHeadphone : Devices := 0x8
def audioDeviceOutAllSco : Devices := 0x70
def audioDeviceBitIn : Devices := 0x80000000
def audioDeviceInBuiltinMic : Devices := 0x80000004
def audioDeviceInBluetoothScoHeadset : Devices := 0x80000008
def audioDeviceInWiredHeadset : Devices := 0x80000010
def audioDeviceInBackMic : Devices := 0x80000080

def audioModeNormal : Int := 0
def audioModeInCall : Int := 2

def audioSourceVoiceCommunication : BitVec 32 := 7

def audioFormatPcm16Bit : Nat := 1

def defaultOutSamplingRate : Nat := 48000
def mmFullPowerSamplingRate : Nat := 48000
def shortPeriodSize : Nat := 24 * 80
def longPeriodSize : Nat := shortPeriodSize * 1
def playbackPeriodCount : Nat := 4
def maxVoiceVolume : Nat := 40
def minVoiceVolume : Nat := 10
def maxPreprocessors : Nat := 3

/-- `d & mask` is not zero. -/
def anyOf (d mask : Devices) : Bool := d &&& mask ≠ 0

inductive TtyMode where
  | off
  | vco
  | hco
  | full
  deriving DecidableEq, Repr

/-- A voice volume, an exact rational between 0 and 1. -/
abbrev Volume := { v : ℚ // 0 ≤ v ∧ v ≤ 1 }

theorem Volume.zero_mem : (0 : ℚ) ≤ 0 ∧ (0 : ℚ) ≤ 1 := by norm_num

def Volume.max : Volume := ⟨1, by norm_num⟩

/-! ## Streams -/

abbrev OutId := Nat
abbrev InId := Nat

/-- The mutexes: of the device and of each stream. -/
inductive Mutex where
  | device
  | inp (i : InId)
  | out (o : OutId)
  deriving DecidableEq, Repr

/-- An effect handle, with whether its descriptor type is `FX_IID_AEC`. -/
structure Effect where
  id : Nat
  aec : Bool
  deriving DecidableEq, Repr

structure BufferRemix where
  sampleSize : Nat
  inChans : Nat
  outChans : Nat
  deriving DecidableEq, Repr

structure OmapStreamOut where
  rate : Nat
  pcm : Option Nat
  resampler : Bool
  buffer : Bool
  standby : Bool
  echoReference : Option Nat
  writeThreshold : Nat
  deriving DecidableEq, Repr

structure OmapStreamIn (α : Type) where
  channels : Nat
  rate : Nat
  pcm : Option Nat
  device : Devices
  resampler : Bool
  requestedRate : Nat
  standby : Bool
  source : BitVec 32
  echoReference : Option Nat
  needEchoReference : Bool
  preprocessors : List (Option Effect)
  numPreprocessors : Nat
  remixAtDriver : Option BufferRemix
  capture : Capture α

/-! ## The device -/

/-- A call that has released the device lock and has not returned. -/
inductive Call where
  /-- `out_write` on stream `o`, whose lock it holds, before its pcm is written. -/
  | outWrite (o : OutId) (forceInputStandby : Bool)
  /-- `out_write` that still has to force the active input into standby. -/
  | outForce
  /-- `in_read` on stream `i`, whose lock it holds, for this many frames. -/
  | inRead (i : InId) (frames : Nat)
  /-- `in_read` that is still inside one of the read loops. -/
  | inLoop (i : InId)
  deriving DecidableEq, Repr

/-- The stream lock the call holds. -/
def Call.lock : Call → Option Mutex
  | .outWrite o _ => some (.out o)
  | .outForce => none
  | .inRead i _ => some (.inp i)
  | .inLoop i => some (.inp i)

/-- A use of something closed, released or freed. -/
inductive Fault where
  | pcmClose (h : Option Nat)
  | pcmUse (h : Option Nat)
  | noDev (i : InId)
  | echoRelease (e : Nat)
  | echoUse (e : Nat)
  | freedOut (o : OutId)
  | freedIn (i : InId)
  deriving DecidableEq, Repr

structure Hal (α : Type) where
  mixer : Mixer
  mode : Int
  outDevice : Devices
  inDevice : Devices
  inCall : Bool
  voiceVolume : Volume
  activeInput : Option InId
  activeOutput : Option OutId
  micMute : Bool
  ttyMode : TtyMode
  echoReference : Option Nat
  inputRequiresStereo : Bool
  bluetoothNrec : Bool
  outs : OutId → Option OmapStreamOut
  ins : InId → Option (OmapStreamIn α)
  pcms : Ledger
  echos : Ledger
  trace : List (Op Mutex)
  calls : List Call
  faults : List Fault

namespace Hal

variable {α : Type} (s : Hal α)

def pthreadMutexLock (m : Mutex) : Hal α := { s with trace := s.trace ++ [.lock m] }

def pthreadMutexUnlock (m : Mutex) : Hal α := { s with trace := s.trace ++ [.unlock m] }

/-- The device lock, then a stream lock, as every entry point takes them. -/
def lockBoth (m : Mutex) : Hal α := (s.pthreadMutexLock .device).pthreadMutexLock m

def unlockBoth (m : Mutex) : Hal α := (s.pthreadMutexUnlock m).pthreadMutexUnlock .device

def fault (f : Fault) : Hal α := { s with faults := f :: s.faults }

/-- Changes the fields of output stream `o`. -/
def modOut (o : OutId) (f : OmapStreamOut → OmapStreamOut) : Hal α :=
  { s with outs := Function.update s.outs o ((s.outs o).map f) }

/-- Changes the fields of input stream `i`. -/
def modIn (i : InId) (f : OmapStreamIn α → OmapStreamIn α) : Hal α :=
  { s with ins := Function.update s.ins i ((s.ins i).map f) }

/-- A part of the elements of a table, after one of them is set. -/
theorem map_update {ι β γ : Type} [DecidableEq ι] (p : β → γ) (m : ι → Option β) (i : ι)
    (x : Option β) : (fun j => (Function.update m i x j).map p) =
      Function.update (fun j => (m j).map p) i (x.map p) :=
  Function.comp_update (Option.map p) m i x

theorem map_modOut {β : Type} (p : OmapStreamOut → β) (o : OutId)
    (f : OmapStreamOut → OmapStreamOut) : (fun j => ((s.modOut o f).outs j).map p) =
      Function.update (fun j => (s.outs j).map p) o ((s.outs o).map fun out => p (f out)) :=
  (map_update p s.outs o _).trans (by rw [Option.map_map]; rfl)

theorem map_modIn {β : Type} (p : OmapStreamIn α → β) (i : InId)
    (f : OmapStreamIn α → OmapStreamIn α) : (fun j => ((s.modIn i f).ins j).map p) =
      Function.update (fun j => (s.ins j).map p) i ((s.ins i).map fun inp => p (f inp)) :=
  (map_update p s.ins i _).trans (by rw [Option.map_map]; rfl)

def setRoute (r : Route) : Hal α := { s with mixer := (setRouteByArray r s.mixer).2 }

def setActiveOutput (o : Option OutId) : Hal α := { s with activeOutput := o }

def setActiveInput (i : Option InId) : Hal α := { s with activeInput := i }

def setEchoReference (e : Option Nat) : Hal α := { s with echoReference := e }

def setOutDevice (devices : Devices) : Hal α := { s with outDevice := devices }

def setInDevice (devices : Devices) : Hal α := { s with inDevice := devices }

def setInCall (inCall : Bool) : Hal α := { s with inCall := inCall }

def setMode (mode : Int) : Hal α := { s with mode := mode }

def setTtyMode (ttyMode : TtyMode) : Hal α := { s with ttyMode := ttyMode }

/-- `f`, when the mode is not `AUDIO_MODE_IN_CALL`. -/
def outsideCall (f : Hal α → Hal α) : Hal α := if s.mode ≠ audioModeInCall then f s else s

/-! ### What the HAL obtains from outside -/

/-- `pcm_open` hands out a handle whether or not it is ready; this is the one it hands out. -/
def newPcm : Nat := s.pcms.next

def pcmOpen : Hal α := { s with pcms := s.pcms.alloc }

def pcmClose (h : Option Nat) : Hal α :=
  match h with
  | some n => if s.pcms.live n then { s with pcms := s.pcms.free n } else s.fault (.pcmClose h)
  | none => s.fault (.pcmClose h)

/-- Any other call on a pcm handle. -/
def pcmUse (h : Option Nat) : Hal α :=
  match h with
  | some n => if s.pcms.live n then s else s.fault (.pcmUse h)
  | none => s.fault (.pcmUse h)

def releaseEchoReference (e : Nat) : Hal α :=
  if s.echos.live e then { s with echos := s.echos.free e } else s.fault (.echoRelease e)

/-- A `read` or `write` on an echo reference. -/
def echoUse (e : Nat) : Hal α := if s.echos.live e then s else s.fault (.echoUse e)

/-- The use of a stream's echo reference, when it has one. -/
def echoUse? (e : Option Nat) : Hal α :=
  match e with
  | some e => s.echoUse e
  | none => s

end Hal

end P970.Audio
