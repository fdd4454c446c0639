import P970.Lib.Writes

/-!
# The mixer and the route arrays

Mixer controls as tinyalsa shows them: a type and a list of values. A route
array sets controls in order (`setRouteByArray`, `set_route_by_array`); an entry
with a string sets an enumerated control by item name and is refused by any other
control, an entry without one sets every value of its control. A control that is
missing ends the array with `-EINVAL`.

`Ctl.Shows` says that a control holds what an array writes to it: performing the
array again would not change it.
-/

namespace P970.Audio

def einval : Int := 22
def enomem : Int := 12
def enodev : Int := 19
def enosys : Int := 38
def enoent : Int := 2

/-- The mixer controls the HAL names. -/
inductive CtlName where
  /-- "DAC2 Digital Fine Playback Volume" -/
  | dac2DigitalFinePlaybackVolume
  /-- "DAC Voice Digital Downlink Volume" -/
  | dacVoiceDigitalDownlinkVolume
  /-- "PreDriv Playback Volume" -/
  | preDrivPlaybackVolume
  /-- "Headset Playback Volume" -/
  | headsetPlaybackVolume
  /-- "Carkit Playback Volume" -/
  | carkitPlaybackVolume
  /-- "Earpiece Playback Volume" -/
  | earpiecePlaybackVolume
  /-- "DAC2 AnalogL Playback Volume" -/
  | dac2AnalogLPlaybackVolume
  /-- "DAC2 AnalogR Playback Volume" -/
  | dac2AnalogRPlaybackVolume
  /-- "PredriveL Mixer AudioL2" -/
  | predriveLMixerAudioL2
  /-- "PredriveR Mixer AudioR2" -/
  | predriveRMixerAudioR2
  /-- "Earpiece Mixer AudioL2" -/
  | earpieceMixerAudioL2
  /-- "HeadsetL Mixer AudioL2" -/
  | headsetLMixerAudioL2
  /-- "HeadsetR Mixer AudioR2" -/
  | headsetRMixerAudioR2
  /-- "Voice" -/
  | voice
  /-- "ExtAmp" -/
  | extAmp
  /-- "Analog Left Main Mic Capture Switch" -/
  | analogLeftMainMicCaptureSwitch
  /-- "Analog Right Sub Mic Capture Switch" -/
  | analogRightSubMicCaptureSwitch
  /-- "Analog Left Headset Mic Capture Switch" -/
  | analogLeftHeadsetMicCaptureSwitch
  /-- "Analog Capture Volume" -/
  | analogCaptureVolume
  /-- "TX1 Digital Capture Volume" -/
  | tx1DigitalCaptureVolume
  deriving DecidableEq, Repr

/-! ## Controls -/

inductive CtlType where
  | boolean
  | integer
  | enumerated (items : List String)
  deriving DecidableEq, Repr

structure Ctl where
  type : CtlType
  values : List Int
  deriving DecidableEq, Repr

def mixerCtlGetNumValues (ctl : Ctl) : Nat := ctl.values.length

/-- What a control of this type stores for the integer `v`. -/
def CtlType.stored : CtlType → Int → Int
  | .boolean, v => if v = 0 then 0 else 1
  | _, v => v

def mixerCtlSetValue (ctl : Ctl) (id : Nat) (v : Int) : Ctl :=
  { ctl with values := ctl.values.set id (ctl.type.stored v) }

/-- The value written is zero but for the item number in its first place. -/
def mixerCtlSetEnumByString (ctl : Ctl) (s : String) : Ctl :=
  match ctl.type with
  | .enumerated items =>
    match items.idxOf? s with
    | some i => { ctl with values := ctl.values.mapIdx fun j _ => if j = 0 then (i : Int) else 0 }
    | none => ctl
  | _ => ctl

/-- The item an enumerated control is at. -/
def Ctl.item (ctl : Ctl) : Option String :=
  match ctl.type with
  | .enumerated items => ctl.values.head?.bind fun i => items[i.toNat]?
  | _ => none

abbrev Mixer := CtlName → Option Ctl

def mixerGetCtlByName (mixer : Mixer) (name : CtlName) : Option Ctl := mixer name

/-- Every value of the control, set jointly. -/
def setValues (ctl : Ctl) (v : Int) : Ctl :=
  (List.range (mixerCtlGetNumValues ctl)).foldl (fun c j => mixerCtlSetValue c j v) ctl

/-! ## Routes -/

structure RouteSetting where
  ctlName : CtlName
  intval : Int := 0
  strval : Option String := none

abbrev Route := List RouteSetting

def RouteSetting.set (r : RouteSetting) (ctl : Ctl) : Ctl :=
  match r.strval with
  | some s => mixerCtlSetEnumByString ctl s
  | none => setValues ctl r.intval

def setRouteByArray : Route → Mixer → Int × Mixer
  | [], mixer => (0, mixer)
  | r :: route, mixer =>
    match mixerGetCtlByName mixer r.ctlName with
    | none => (-einval, mixer)
    | some ctl => setRouteByArray route (Function.update mixer r.ctlName (some (r.set ctl)))

def routeStandby : Route := [
  { ctlName := .dac2DigitalFinePlaybackVolume, intval := 63 },
  { ctlName := .dacVoiceDigitalDownlinkVolume, intval := 0 },
  { ctlName := .preDrivPlaybackVolume, intval := 0 },
  { ctlName := .headsetPlaybackVolume, intval := 0 },
  { ctlName := .carkitPlaybackVolume, intval := 0 },
  { ctlName := .earpiecePlaybackVolume, intval := 0 },
  { ctlName := .dac2AnalogLPlaybackVolume, intval := 5 },
  { ctlName := .dac2AnalogRPlaybackVolume, intval := 5 },
  { ctlName := .predriveLMixerAudioL2, intval := 0 },
  { ctlName := .predriveRMixerAudioR2, intval := 0 },
  { ctlName := .earpieceMixerAudioL2, intval := 0 },
  { ctlName := .headsetLMixerAudioL2, intval := 0 },
  { ctlName := .headsetRMixerAudioR2, intval := 0 },
  { ctlName := .voice, strval := some "OFF" },
  { ctlName := .extAmp, strval := some "OFF" }]

def routeSpeaker : Route := [
  { ctlName := .dac2DigitalFinePlaybackVolume, intval := 63 },
  { ctlName := .dacVoiceDigitalDownlinkVolume, intval := 0 },
  { ctlName := .preDrivPlaybackVolume, intval := 2 },
  { ctlName := .headsetPlaybackVolume, intval := 0 },
  { ctlName := .carkitPlaybackVolume, intval := 0 },
  { ctlName := .earpiecePlaybackVolume, intval := 0 },
  { ctlName := .dac2AnalogLPlaybackVolume, intval := 5 },
  { ctlName := .dac2AnalogRPlaybackVolume, intval := 5 },
  { ctlName := .predriveLMixerAudioL2, intval := 1 },
  { ctlName := .predriveRMixerAudioR2, intval := 1 },
  { ctlName := .earpieceMixerAudioL2, intval := 0 },
  { ctlName := .headsetLMixerAudioL2, intval := 0 },
  { ctlName := .headsetRMixerAudioR2, intval := 0 },
  { ctlName := .voice, strval := some "OFF" },
  { ctlName := .extAmp, strval := some "Speaker" }]

def routeSpeakerHeadset : Route := [
  { ctlName := .dac2DigitalFinePlaybackVolume, intval := 63 },
  { ctlName := .dacVoiceDigitalDownlinkVolume, intval := 0 },
  { ctlName := .preDrivPlaybackVolume, intval := 2 },
  { ctlName := .headsetPlaybackVolume, intval := 2 },
  { ctlName := .carkitPlaybackVolume, intval := 0 },
  { ctlName := .earpiecePlaybackVolume, intval := 0 },
  { ctlName := .dac2AnalogLPlaybackVolume, intval := 5 },
  { ctlName := .dac2AnalogRPlaybackVolume, intval := 5 },
  { ctlName := .predriveLMixerAudioL2, intval := 1 },
  { ctlName := .predriveRMixerAudioR2, intval := 1 },
  { ctlName := .earpieceMixerAudioL2, intval := 0 },
  { ctlName := .headsetLMixerAudioL2, intval := 1 },
  { ctlName := .headsetRMixerAudioR2, intval := 1 },
  { ctlName := .voice, strval := some "OFF" },
  { ctlName := .extAmp, strval := some "Dual" }]

def routeHeadset : Route := [
  { ctlName := .dac2DigitalFinePlaybackVolume, intval := 63 },
  { ctlName := .dacVoiceDigitalDownlinkVolume, intval := 0 },
  { ctlName := .preDrivPlaybackVolume, intval := 0 },
  { ctlName := .headsetPlaybackVolume, intval := 2 },
  { ctlName := .carkitPlaybackVolume, intval := 0 },
  { ctlName := .earpiecePlaybackVolume, intval := 0 },
  { ctlName := .dac2AnalogLPlaybackVolume, intval := 6 },
  { ctlName := .dac2AnalogRPlaybackVolume, intval := 6 },
  { ctlName := .predriveLMixerAudioL2, intval := 0 },
  { ctlName := .predriveRMixerAudioR2, intval := 0 },
  { ctlName := .earpieceMixerAudioL2, intval := 0 },
  { ctlName := .headsetLMixerAudioL2, intval := 1 },
  { ctlName := .headsetRMixerAudioR2, intval := 1 },
  { ctlName := .voice, strval := some "OFF" },
  { ctlName := .extAmp, strval := some "Headset" }]

def routeMainMic : Route := [
  { ctlName := .analogLeftMainMicCaptureSwitch, intval := 1 },
  { ctlName := .analogRightSubMicCaptureSwitch, intval := 1 },
  { ctlName := .analogLeftHeadsetMicCaptureSwitch, intval := 1 },
  { ctlName := .analogRightSubMicCaptureSwitch, strval := some "Off" },
  { ctlName := .analogLeftMainMicCaptureSwitch, strval := some "Main Mic" },
  { ctlName := .analogCaptureVolume, intval := 5 }]

def routeHeadsetMic : Route := [
  { ctlName := .analogLeftMainMicCaptureSwitch, intval := 1 },
  { ctlName := .analogRightSubMicCaptureSwitch, intval := 1 },
  { ctlName := .analogLeftHeadsetMicCaptureSwitch, intval := 1 },
  { ctlName := .analogRightSubMicCaptureSwitch, strval := some "Off" },
  { ctlName := .analogLeftMainMicCaptureSwitch, strval := some "Headset Mic" },
  { ctlName := .analogCaptureVolume, intval := 5 },
  { ctlName := .tx1DigitalCaptureVolume, intval := 8 }]

def routeInputStandby : Route := [
  { ctlName := .analogLeftMainMicCaptureSwitch, intval := 0 },
  { ctlName := .analogRightSubMicCaptureSwitch, intval := 0 },
  { ctlName := .analogLeftHeadsetMicCaptureSwitch, intval := 0 },
  { ctlName := .analogRightSubMicCaptureSwitch, strval := some "Off" },
  { ctlName := .analogLeftMainMicCaptureSwitch, strval := some "Off" },
  { ctlName := .analogCaptureVolume, intval := 0 },
  { ctlName := .tx1DigitalCaptureVolume, intval := 0 }]

def routeVoicecallHeadset : Route := [
  { ctlName := .voice, strval := some "Headset" },
  { ctlName := .extAmp, strval := some "Headsetcall" },
  { ctlName := .analogLeftMainMicCaptureSwitch, intval := 1 },
  { ctlName := .analogRightSubMicCaptureSwitch, intval := 1 },
  { ctlName := .analogLeftHeadsetMicCaptureSwitch, intval := 1 }]

def routeVoicecallSpeaker : Route := [
  { ctlName := .voice, strval := some "Speaker" },
  { ctlName := .extAmp, strval := some "Spkcall" },
  { ctlName := .analogLeftMainMicCaptureSwitch, intval := 1 },
  { ctlName := .analogRightSubMicCaptureSwitch, intval := 1 },
  { ctlName := .analogLeftHeadsetMicCaptureSwitch, intval := 1 }]

def routeVoicecallEarpiece : Route := [
  { ctlName := .voice, strval := some "Receiver" },
  { ctlName := .extAmp, strval := some "OFF" },
  { ctlName := .analogLeftMainMicCaptureSwitch, intval := 1 },
  { ctlName := .analogRightSubMicCaptureSwitch, intval := 1 },
  { ctlName := .analogLeftHeadsetMicCaptureSwitch, intval := 1 }]

/-! ## What an array does to one control -/

/-- The controls an array names. -/
def Route.names (r : Route) : List CtlName := r.map (·.ctlName)

def Route.writes (r : Route) : List (CtlName × (Ctl → Ctl)) := r.map fun e => (e.ctlName, e.set)

/-- What the array does to the control of that name. -/
def Route.sets (r : Route) (name : CtlName) : Ctl → Ctl := effect name r.writes

/-- The control of that name holds the array's values. -/
def Ctl.Shows (r : Route) (name : CtlName) (ctl : Ctl) : Prop := Holds name r.writes ctl

instance (r : Route) (name : CtlName) (ctl : Ctl) : Decidable (ctl.Shows r name) :=
  inferInstanceAs (Decidable (effect name r.writes ctl = ctl))

/-- Every control the HAL names is there. -/
def Mixer.Present (m : Mixer) : Prop := ∀ name, m name ≠ none

/-- The type of a control and its number of values, which no write changes. -/
def Ctl.shape (ctl : Ctl) : CtlType × Nat := (ctl.type, ctl.values.length)

theorem Route.writes_names (r : Route) : r.writes.map Prod.fst = r.names := by
  simp [Route.writes, Route.names, Function.comp_def]

theorem setRouteByArray_writeAll (r : Route) (m : Mixer) :
    (setRouteByArray r m).2 = writeAll r.writes m := by
  induction r generalizing m with
  | nil => rfl
  | cons e r ih =>
    simp only [setRouteByArray, Route.writes, List.map_cons, writeAll, mixerGetCtlByName]
    cases hc : m e.ctlName with
    | none => rfl
    | some ctl => exact ih _

theorem setRouteByArray_apply {m : Mixer} (hm : m.Present) (r : Route) (name : CtlName) :
    (setRouteByArray r m).2 name = (m name).map (r.sets name) := by
  rw [setRouteByArray_writeAll, writeAll_apply fun k _ => hm k]
  rfl

theorem Route.sets_of_not_mem {r : Route} {name : CtlName} (h : name ∉ r.names) (ctl : Ctl) :
    r.sets name ctl = ctl :=
  effect_of_not_mem (by rwa [r.writes_names]) ctl

/-- A control the array does not name keeps its state. -/
theorem setRouteByArray_frame {m : Mixer} (hm : m.Present) {r : Route} {name : CtlName}
    (h : name ∉ r.names) : (setRouteByArray r m).2 name = m name := by
  rw [setRouteByArray_apply hm, funext (Route.sets_of_not_mem h), Option.map_id']

/-- The values `setValues` leaves, whatever was there. -/
theorem setValues_eq (ctl : Ctl) (v : Int) :
    setValues ctl v = ⟨ctl.type, List.replicate ctl.values.length (ctl.type.stored v)⟩ := by
  suffices ∀ n, n ≤ ctl.values.length →
      (List.range n).foldl (fun c j => mixerCtlSetValue c j v) ctl =
        ⟨ctl.type, List.replicate n (ctl.type.stored v) ++ ctl.values.drop n⟩ by
    have h := this _ (Nat.le_refl _)
    rwa [List.drop_length, List.append_nil] at h
  intro n hn
  induction n with
  | zero => rfl
  | succ n ih =>
    rw [List.range_succ, List.foldl_append, ih (by omega)]
    simp only [List.foldl_cons, List.foldl_nil, mixerCtlSetValue, Ctl.mk.injEq, true_and]
    rw [List.set_append_right _ _ (by simp), List.length_replicate, Nat.sub_self,
      List.drop_eq_getElem_cons (by omega), List.set_cons_zero, List.replicate_succ',
      List.append_assoc, List.singleton_append]

theorem RouteSetting.set_shape (e : RouteSetting) (ctl : Ctl) : (e.set ctl).shape = ctl.shape := by
  unfold RouteSetting.set
  split
  · unfold mixerCtlSetEnumByString
    split
    · split <;> simp [Ctl.shape]
    · rfl
  · simp [setValues_eq, Ctl.shape]

theorem Route.keeps (r : Route) : ∀ x ∈ r.writes, Keeps Ctl.shape x.2 := by
  intro x hx
  obtain ⟨e, -, rfl⟩ := List.mem_map.mp hx
  exact e.set_shape

theorem Route.sets_shape (r : Route) (name : CtlName) (ctl : Ctl) :
    (r.sets name ctl).shape = ctl.shape := effect_keeps r.keeps ctl

/-- The shapes of the controls there are. -/
def Mixer.shapes (m : Mixer) (name : CtlName) : Option (CtlType × Nat) := (m name).map Ctl.shape

theorem Mixer.Present.of_shapes {m m' : Mixer} (hm : m.Present) (h : m'.shapes = m.shapes) :
    m'.Present := by
  intro name hn
  have hs := congrFun h name
  simp only [Mixer.shapes, hn, Option.map_none] at hs
  exact hm name (Option.map_eq_none_iff.mp hs.symm)

theorem shapes_update {m : Mixer} {name : CtlName} {ctl ctl' : Ctl} (hc : m name = some ctl)
    (hs : ctl'.shape = ctl.shape) :
    Mixer.shapes (Function.update m name (some ctl')) = m.shapes := by
  funext j
  by_cases hj : j = name
  · subst hj
    simp only [Mixer.shapes, Function.update_self, hc, Option.map_some, hs]
  · simp only [Mixer.shapes, Function.update_of_ne hj]

theorem shapes_setRouteByArray (r : Route) (m : Mixer) :
    Mixer.shapes (setRouteByArray r m).2 = m.shapes := by
  induction r generalizing m with
  | nil => rfl
  | cons e r ih =>
    simp only [setRouteByArray, mixerGetCtlByName]
    split
    · rfl
    · next ctl hc => rw [ih, shapes_update hc (e.set_shape ctl)]

theorem setValues_shape (ctl : Ctl) (v : Int) : (setValues ctl v).shape = ctl.shape := by
  simp [setValues_eq, Ctl.shape]

/-- An entry without a string overwrites its control. -/
theorem RouteSetting.fixes_int {e : RouteSetting} (he : e.strval = none) (σ : CtlType × Nat) :
    FixesAt Ctl.shape σ e.set := by
  intro c c' hc hc'
  simp only [Ctl.shape] at hc hc'
  subst hc
  simp only [Prod.mk.injEq] at hc'
  simp only [RouteSetting.set, he, setValues_eq, hc'.1, hc'.2]

/-- An entry with a string overwrites an enumerated control that has the item. -/
theorem RouteSetting.fixes_str {e : RouteSetting} {s : String} (he : e.strval = some s)
    {items : List String} (hs : s ∈ items) (n : Nat) :
    FixesAt Ctl.shape (.enumerated items, n) e.set := by
  intro c c' hc hc'
  obtain ⟨i, hi⟩ : ∃ i, items.idxOf? s = some i := by
    rw [← Option.isSome_iff_exists, List.isSome_idxOf?]
    exact hs
  simp only [Ctl.shape, Prod.mk.injEq] at hc hc'
  simp only [RouteSetting.set, he, mixerCtlSetEnumByString, hc.1, hc'.1, hi, Ctl.mk.injEq, true_and]
  apply List.ext_getElem
  · simp [hc.2, hc'.2]
  · intro j h1 h2
    simp

/-- One overwriting entry makes the whole array overwrite its control. -/
theorem Route.fixes {r : Route} {e : RouteSetting} {σ : CtlType × Nat} (he : e ∈ r)
    (hf : FixesAt Ctl.shape σ e.set) : FixesAt Ctl.shape σ (r.sets e.ctlName) :=
  effect_fixes r.keeps (x := (e.ctlName, e.set)) (List.mem_map.mpr ⟨e, he, rfl⟩) rfl hf

theorem Route.shows {r : Route} {name : CtlName} {ctl : Ctl}
    (hf : FixesAt Ctl.shape ctl.shape (r.sets name)) : (r.sets name ctl).Shows r name :=
  holds_effect r.keeps hf rfl

end P970.Audio
