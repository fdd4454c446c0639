import P970.Lib.Run
import P970.Audio.Keeping

/-!
# What happens to the output streams and the echo references

`Touches may s t`: `t` is made of `s` by the changes the HAL makes to its output
streams and to the echo references it creates and releases, in some order; the
streams it starts are among those that `may` be. Every event is made of them
(`Touches.act`), and only a write starts a stream, so what each of them keeps
holds along every run: every output stream plays at the rate of its client, with
the threshold its pcm was opened with, and the device owns the one echo
reference there is.
-/

namespace P970.Audio

section
variable {α : Type}

/-- The echo reference that was released when it was not live. -/
def Fault.release? : Fault → Option Nat
  | .echoRelease e => some e
  | _ => none

/-- The output streams, the device's echo reference, and what was released twice. -/
def Hal.sounding (s : Hal α) :
    (OutId → Option OmapStreamOut) × Option Nat × Ledger × List Nat :=
  (s.outs, s.echoReference, s.echos, s.faults.filterMap Fault.release?)

def fullThreshold : Nat := playbackPeriodCount * longPeriodSize

/-- The changes, each as the function that makes it writes it; a stream is started when it `may`
be. -/
inductive Touches (may : OutId → Prop) : Hal α → Hal α → Prop where
  | other {s t} : t.sounding = s.sounding → Touches may s t
  | trans {s t u} : Touches may s t → Touches may t u → Touches may s u
  | stop (s o) : Touches may s
      (s.modOut o fun out => { out with pcm := none, echoReference := none, standby := true })
  | refer (s o e) : Touches may s (s.modOut o fun out => { out with echoReference := e })
  | claim (s o) : Touches may s (s.modOut o fun out => { out with rate := defaultOutSamplingRate })
  | prepare (s) {o} (h) : may o → Touches may s
      (s.modOut o fun out => { out with writeThreshold := fullThreshold, pcm := h })
  | run {s o} : may o → (∀ out, s.outs o = some out → out.writeThreshold = fullThreshold) →
      Touches may s (s.modOut o fun out => { out with standby := false })
  | resample (s o) : Touches may s
      (s.modOut o fun out => { out with resampler := true, buffer := true })
  | release {s e} : s.echoReference = some e →
      Touches may s ((s.releaseEchoReference e).setEchoReference none)
  | create {s} : s.echoReference = none → Touches may s s.createEchoReference
  | add (s o) {out : OmapStreamOut} : out.rate = defaultOutSamplingRate → out.standby = true →
      Touches may s { s with outs := Function.update s.outs o (some out) }
  | free (s o) : Touches may s (freeOutput o s)

/-- The stream a write starts. -/
def Event.Starts : Event α → OutId → Prop
  | .outWrite o _ => (· = o)
  | _ => fun _ => False

/-! ## Changes of other fields -/

section
variable (s : Hal α)

theorem sounding_setRoute? (r : Option Route) : (s.setRoute? r).sounding = s.sounding := by
  cases r <;> rfl

theorem sounding_pcmClose (h : Option Nat) : (s.pcmClose h).sounding = s.sounding := by
  unfold Hal.pcmClose
  split
  · split <;> rfl
  · rfl

theorem sounding_pcmUse (h : Option Nat) : (s.pcmUse h).sounding = s.sounding := by
  unfold Hal.pcmUse
  split
  · split <;> rfl
  · rfl

theorem sounding_echoUse (e : Nat) : (s.echoUse e).sounding = s.sounding := by
  unfold Hal.echoUse
  split <;> rfl

theorem sounding_echoUse? (e : Option Nat) : (s.echoUse? e).sounding = s.sounding := by
  cases e with
  | none => rfl
  | some e => exact sounding_echoUse s e

theorem sounding_outsideCall {f : Hal α → Hal α} (hf : (f s).sounding = s.sounding) :
    (s.outsideCall f).sounding = s.sounding := by
  unfold Hal.outsideCall
  split
  · exact hf
  · rfl

theorem sounding_selectInputDevice : (selectInputDevice s).sounding = s.sounding :=
  sounding_setRoute? s _

theorem sounding_selectOutputDevice : (selectOutputDevice s).sounding = s.sounding := by
  simp only [selectOutputDevice, setIncallDevice]
  split
  · exact (sounding_setRoute? _ _).trans (sounding_setRoute? s _)
  · exact sounding_setRoute? s _

theorem sounding_adevSetVoiceVolume (v : Volume) :
    (adevSetVoiceVolume v s).sounding = s.sounding := by
  unfold adevSetVoiceVolume
  split <;> rfl

theorem sounding_callDevices : (callDevices s).sounding = s.sounding := by
  unfold callDevices
  split <;> rfl

theorem sounding_routeOutputStandby : (routeOutputStandby s).sounding = s.sounding := by
  unfold routeOutputStandby
  split <;> rfl

theorem sounding_useOutput (out : OmapStreamOut) : (useOutput out s).sounding = s.sounding := by
  unfold useOutput
  cases out.echoReference with
  | none => exact sounding_pcmUse s _
  | some e =>
    exact (sounding_pcmUse _ _).trans ((sounding_echoUse _ e).trans (sounding_pcmUse s _))

theorem sounding_useInput (i : InId) (inp : OmapStreamIn α) (before after : Track α) :
    (useInput i inp before after s).sounding = s.sounding := by
  have h1 : ∀ t : Hal α, (if after.pcmUses ≠ before.pcmUses then t.pcmUse inp.pcm
      else t).sounding = t.sounding := by
    intro t
    split
    · exact sounding_pcmUse t _
    · rfl
  have h2 : ∀ t : Hal α, (if after.echoUses ≠ before.echoUses then t.echoUse? inp.echoReference
      else t).sounding = t.sounding := by
    intro t
    split
    · exact sounding_echoUse? t _
    · rfl
  have h3 : ∀ t : Hal α, (if after.noDev ≠ before.noDev then t.fault (.noDev i)
      else t).sounding = t.sounding := by
    intro t
    split <;> rfl
  exact (h3 _).trans ((h2 _).trans (h1 s))

theorem sounding_changeTtyMode (ttyMode : TtyMode) :
    (changeTtyMode ttyMode s).sounding = s.sounding := by
  unfold changeTtyMode
  split
  · split
    · exact sounding_selectOutputDevice _
    · rfl
  · rfl

theorem sounding_adevSetParameters (kvpairs : KvPairs) :
    (adevSetParameters kvpairs s).2.sounding = s.sounding := by
  have h : ∀ t, setTtyParameter kvpairs s = some t → t.sounding = s.sounding := by
    intro t ht
    unfold setTtyParameter at ht
    split at ht
    · cases ht
      rfl
    · obtain ⟨m, -, rfl⟩ := Option.map_eq_some_iff.mp ht
      exact sounding_changeTtyMode (s.pthreadMutexLock .device) m
  unfold adevSetParameters
  split
  · rfl
  · next t ht =>
    refine Eq.trans ?_ (h t ht)
    split <;> rfl

end

/-! ## The device's echo reference -/

section
variable (s : Hal α)

theorem echoReference_removeFromActive (e : Nat) :
    (removeFromActive e s).echoReference = s.echoReference := by
  have hu : ∀ t : Hal α, (t.echoUse e).echoReference = t.echoReference := by
    intro t
    unfold Hal.echoUse
    split <;> rfl
  have hd : ∀ (t : Hal α) o, (detachEchoReference o e t).echoReference = t.echoReference := by
    intro t o
    unfold detachEchoReference
    split
    · split
      · exact hu t
      · rfl
    · rfl
  unfold removeFromActive
  split
  · next o _ => exact hd (s.pthreadMutexLock (.out o)) o
  · rfl

theorem echoReference_putEchoReference :
    (putEchoReference s.echoReference s).echoReference = none := by
  unfold putEchoReference
  split
  · next e he => rw [if_pos he]; rfl
  · assumption

end

/-! ## Every event is made of them -/

/-- A stream that was started has the threshold of its pcm. -/
theorem writeThreshold_startOutputStream (s : Hal α) (o : OutId) {out : OmapStreamOut}
    (h : (startOutputStream o true s).2.outs o = some out) : out.writeThreshold = fullThreshold := by
  have hm : ∀ (t : Hal α) (f : OmapStreamOut → OmapStreamOut) (out : OmapStreamOut),
      (t.modOut o f).outs o = some out → ∃ x, t.outs o = some x ∧ out = f x := by
    intro t f out ho
    have ho : Function.update t.outs o ((t.outs o).map f) o = some out := ho
    rw [Function.update_self] at ho
    obtain ⟨x, hx, rfl⟩ := Option.map_eq_some_iff.mp ho
    exact ⟨x, hx, rfl⟩
  unfold startOutputStream openOutputPcm at h
  simp only [if_true] at h
  unfold shareEchoReference at h
  split at h
  · obtain ⟨x, hx, rfl⟩ := hm _ _ _ h
    obtain ⟨y, -, rfl⟩ := hm _ _ _ hx
    rfl
  · obtain ⟨y, -, rfl⟩ := hm _ _ _ h
    rfl

namespace Touches

variable {may : OutId → Prop} (s : Hal α)

theorem refl : Touches may s s := .other rfl

variable {s} in
/-- Code that holds a lock meanwhile. -/
theorem bracket {t : Hal α} {m : Mutex} (h : Touches may (s.pthreadMutexLock m) t) :
    Touches may s (t.pthreadMutexUnlock m) :=
  .trans (t := s.pthreadMutexLock m) (.other rfl) (.trans h (.other rfl))

variable {s} in
theorem both {t : Hal α} {m : Mutex} (h : Touches may (s.lockBoth m) t) :
    Touches may s (t.unlockBoth m) :=
  .trans (t := s.lockBoth m) (.other rfl) (.trans h (.other rfl))

/-! ### Echo references -/

theorem attachEchoReference (o : OutId) (e : Option Nat) :
    Touches may s (attachEchoReference o e s) := by
  unfold Audio.attachEchoReference
  split
  · exact .refer s o e
  · exact .other rfl

theorem removeFromActive (e : Nat) : Touches may s (removeFromActive e s) := by
  unfold Audio.removeFromActive
  split
  · next o _ =>
    refine bracket ?_
    unfold detachEchoReference
    split
    · split
      · exact .trans (.other (sounding_echoUse _ e)) (.refer _ o none)
      · exact refl _
    · exact .other rfl
  · exact refl s

theorem putEchoReference (e : Option Nat) : Touches may s (putEchoReference e s) := by
  unfold Audio.putEchoReference
  split
  · next r hr =>
    split
    · exact .trans (removeFromActive s r)
        (.release ((echoReference_removeFromActive s r).trans hr))
    · exact refl s
  · exact refl s

theorem getEchoReference (created : Bool) : Touches may s (getEchoReference created s) := by
  refine .trans (putEchoReference s s.echoReference) ?_
  unfold Audio.getEchoReference newEchoReference
  split
  · split
    · exact .trans (.create (echoReference_putEchoReference s))
        (bracket (attachEchoReference _ _ _))
    · exact refl _
  · exact refl _

/-! ### Standby and starting -/

theorem doOutputStandby (o : OutId) : Touches may s (doOutputStandby o s) := by
  unfold Audio.doOutputStandby
  split
  · exact .other rfl
  · next out _ =>
    split
    · exact refl s
    · refine .trans (.other ?_) (.stop _ o)
      exact (sounding_echoUse? _ _).trans
        ((sounding_routeOutputStandby (s.pcmClose out.pcm)).trans (sounding_pcmClose s _))

theorem dropEchoReference (e : Option Nat) : Touches may s (dropEchoReference e s) := by
  cases e with
  | none => exact refl s
  | some e => exact .trans (.other (sounding_echoUse s e)) (putEchoReference _ _)

theorem doInputStandby (i : InId) : Touches may s (doInputStandby i s) := by
  unfold Audio.doInputStandby
  split
  · exact .other rfl
  · next inp _ =>
    split
    · exact refl s
    · have hu : ∀ t : Hal α, (unrouteInput t).sounding = t.sounding :=
        fun t => sounding_selectInputDevice (t.setInDevice audioDeviceNone)
      have hs : (((s.pcmClose inp.pcm).setActiveInput none).outsideCall unrouteInput).sounding =
          s.sounding := (sounding_outsideCall _ (hu _)).trans (sounding_pcmClose s _)
      exact .trans (.other hs) (.trans (dropEchoReference _ _) (.other rfl))

theorem forceOutput : Touches may s (forceOutput s) := by
  unfold Audio.forceOutput
  split
  · next o _ => exact bracket (doOutputStandby _ o)
  · exact refl s

theorem forceInput : Touches may s (forceInput s) := by
  unfold Audio.forceInput
  split
  · next i _ => exact bracket (doInputStandby _ i)
  · exact refl s

theorem selectMode : Touches may s (selectMode s) := by
  have hf : ∀ t : Hal α, Touches may t (forceAllStandby t) :=
    fun t => .trans (forceOutput t) (forceInput _)
  unfold Audio.selectMode
  split
  · split
    · exact refl s
    · refine .trans (hf s) (.other ?_)
      exact (sounding_adevSetVoiceVolume _ _).trans ((sounding_selectOutputDevice _).trans
        (sounding_callDevices _))
  · split
    · refine .trans (t := s.setInCall false) (.other rfl) (.trans (hf _) (.other ?_))
      exact (sounding_selectInputDevice _).trans (sounding_selectOutputDevice _)
    · exact refl s

theorem shareEchoReference (o : OutId) : Touches may s (shareEchoReference o s) := by
  unfold Audio.shareEchoReference
  split
  · exact .refer s o _
  · exact refl s

/-- Both rates `start_output_stream` chooses from are the one of the clients. -/
theorem claimOutput (o : OutId) : Touches may s (claimOutput o s) := by
  have hr : ∀ d : Devices, (if anyOf d audioDeviceOutAllSco then mmFullPowerSamplingRate
      else defaultOutSamplingRate) = defaultOutSamplingRate := by
    intro d
    split <;> rfl
  unfold Audio.claimOutput
  rw [hr]
  exact .trans (t := s.setActiveOutput (some o)) (.other rfl)
    (.trans (.claim _ o) (.other (sounding_outsideCall _ (sounding_selectOutputDevice _))))

theorem startOutputStream {o : OutId} (ho : may o) (ready : Bool) :
    Touches may s (startOutputStream o ready s).2 := by
  refine .trans (claimOutput s o) ?_
  unfold Audio.startOutputStream openOutputPcm
  generalize Audio.claimOutput o s = t
  have ht : Touches may t (t.pcmOpen.modOut o fun out =>
      { out with writeThreshold := fullThreshold, pcm := some t.newPcm }) :=
    .trans (t := t.pcmOpen) (.other rfl) (.prepare _ _ ho)
  cases ready with
  | true => exact .trans ht (shareEchoReference _ o)
  | false => exact .trans ht (.other (sounding_pcmClose _ _))

theorem referenceInput (i : InId) (created : Bool) (inp : OmapStreamIn α) :
    Touches may s (referenceInput i created inp s) := by
  unfold Audio.referenceInput takeEchoReference
  split
  · exact .trans (getEchoReference s created) (.other rfl)
  · exact refl s

theorem startInputStream (i : InId) (ready created : Bool) :
    Touches may s (startInputStream i ready created s).2 := by
  unfold Audio.startInputStream
  split
  · exact .other rfl
  · next inp _ =>
    have hc : (claimInput i inp.device s).sounding = s.sounding :=
      sounding_outsideCall (s.setActiveInput (some i))
        (sounding_selectInputDevice ((s.setActiveInput (some i)).setInDevice inp.device))
    have hm : ∀ t : Hal α, (remixInput i inp t).sounding = t.sounding := by
      intro t
      unfold remixInput
      split <;> rfl
    refine .trans (.other ((hm _).trans hc)) (.trans (referenceInput _ i created inp) ?_)
    generalize Audio.referenceInput i created inp _ = u
    unfold openInputPcm
    cases ready with
    | true => exact .other rfl
    | false => exact .other (sounding_pcmClose _ _)

/-! ### The entry points -/

theorem outStandby (o : OutId) : Touches may s (outStandby o s) := both (doOutputStandby _ o)

theorem inStandby (i : InId) : Touches may s (inStandby i s) := both (doInputStandby _ i)

theorem outSetParameters (o : OutId) (kvpairs : KvPairs) :
    Touches may s (outSetParameters o kvpairs s).2 := by
  have hd : ∀ (t : Hal α) (val : Devices), Touches may t (selectOutputDevice (t.setOutDevice val)) :=
    fun t val => .other (sounding_selectOutputDevice (t.setOutDevice val))
  have hr : ∀ (t : Hal α) (val : Devices), Touches may t (setOutputRouting o val t).2 := by
    intro t val
    unfold setOutputRouting rerouteOutput
    split
    · split
      · exact .trans (doOutputStandby t o) (hd _ val)
      · exact hd t val
    · exact refl t
  unfold Audio.outSetParameters
  split
  · exact refl s
  · next value _ =>
    have hroute := bracket (hr ((s.pthreadMutexLock .device).pthreadMutexLock (.out o))
      (atoi value))
    refine bracket (.trans hroute ?_)
    split
    · exact forceInput _
    · exact refl _

theorem beginWrite {o : OutId} (ho : may o) (ready : Bool) :
    Touches may s (beginWrite o ready s).2.2 := by
  unfold Audio.beginWrite
  split
  · exact .other rfl
  · split
    · simp only
      split
      · exact startOutputStream s ho ready
      · next hr =>
        refine .trans (startOutputStream s ho ready) (.run ho fun out hout => ?_)
        cases ready with
        | true => exact writeThreshold_startOutputStream s o hout
        | false => exact absurd enomem_ne_zero hr
    · exact refl s

theorem outWrite {o : OutId} (ho : may o) (ready : Bool) : Touches may s (outWrite o ready s).2 := by
  refine .trans (t := s.lockBoth (.out o)) (.other rfl) (.trans (beginWrite _ ho ready) ?_)
  unfold Audio.outWrite
  simp only
  split <;> exact .other rfl

theorem outWriteData (o : OutId) (resamplerOk : Bool) :
    Touches may s (outWriteData o resamplerOk s) := by
  have hw : Touches may s (writeData o resamplerOk s) := by
    unfold writeData
    split
    · exact .other rfl
    · split
      · split
        · exact .trans (.resample s o) (.other (sounding_useOutput _ _))
        · exact refl s
      · exact .other (sounding_useOutput s _)
  exact .trans hw (.other rfl)

theorem setInputParameters (i : InId) (kvpairs : KvPairs) :
    Touches may s (setInputParameters i kvpairs s) := by
  unfold Audio.setInputParameters
  split
  · exact .other rfl
  · simp only
    split
    · refine .trans (.other ?_) (doInputStandby _ i)
      rfl
    · exact .other rfl

theorem effectChanged (i : InId) (effect : Effect) (need : Bool) :
    Touches may s (effectChanged i effect need s) := by
  unfold Audio.effectChanged
  split
  · refine .trans (.other ?_) (doInputStandby _ i)
    rfl
  · exact refl s

theorem addEffect (i : InId) (effect : Effect) (desc : Int) :
    Touches may s (addEffect i effect desc s).2 := by
  unfold Audio.addEffect
  split
  · exact .other rfl
  · split
    · exact refl s
    · split
      · exact refl s
      · exact .trans (t := appendEffect i effect s) (.other rfl) (effectChanged _ i effect true)

theorem dropEffect (i : InId) (effect : Effect) (desc : Int) :
    Touches may s (dropEffect i effect desc s).2 := by
  unfold Audio.dropEffect
  split
  · exact .other rfl
  · split
    · exact refl s
    · simp only
      split
      · exact refl s
      · split
        · exact .other rfl
        · exact .trans (t := storeEffects i _ s) (.other rfl) (effectChanged _ i effect false)

theorem inRead (i : InId) (ready created : Bool) : Touches may s (inRead i ready created s).2 := by
  have hb : ∀ t : Hal α, Touches may t (beginRead i ready created t).2 := by
    intro t
    unfold beginRead
    split
    · exact .other rfl
    · split
      · simp only
        split
        · exact .trans (startInputStream t i ready created) (.other rfl)
        · exact startInputStream t i ready created
      · exact refl t
  refine .trans (t := s.lockBoth (.inp i)) (.other rfl) (.trans (hb _) ?_)
  unfold Audio.inRead
  simp only
  split <;> exact .other rfl

theorem inReadData [Zero α] (i : InId) (frames : Nat) (dst : List α) (script : ReadScript α) :
    Touches may s (inReadData i frames dst script s).2.2 := by
  unfold Audio.inReadData
  split
  · exact .other rfl
  · next inp _ =>
    simp only
    generalize readPaths inp s.micMute frames script dst = r
    refine .trans (.other (sounding_useInput s i inp inp.capture.track r.capture.track)) ?_
    split <;> exact .other rfl

theorem adevSetMode (mode : Int) : Touches may s (adevSetMode mode s) := by
  refine bracket ?_
  unfold changeMode
  split
  · exact .trans (t := (s.pthreadMutexLock .device).setMode mode) (.other rfl) (selectMode _)
  · exact refl _

theorem adevOpenOutputStream (o : OutId) (devices : Devices) (alloc resamplerOk : Bool) :
    Touches may s (adevOpenOutputStream o devices alloc resamplerOk s).2 := by
  rcases adevOpenOutputStream_cases o devices alloc resamplerOk s with ⟨-, h⟩ | h
  · rw [h]
    exact refl s
  · rw [h]
    exact .add s o rfl rfl

theorem adevOpenInputStream (i : InId) (devices : Devices) (config : AudioConfig)
    (env : OpenEnv α) : Touches may s (adevOpenInputStream i devices config env s).2 := by
  rcases adevOpenInputStream_cases i devices config env s with ⟨-, h⟩ | h
  · rw [h]
    exact refl s
  · rw [h]
    exact .other rfl

theorem act [Zero α] (e : Event α) : Touches e.Starts s (act e s) := by
  cases e with
  | openOutputStream o devices alloc ok => exact adevOpenOutputStream s o devices alloc ok
  | closeOutputStream o => exact .trans (outStandby s o) (.free _ o)
  | openInputStream i devices config env => exact adevOpenInputStream s i devices config env
  | closeInputStream i => exact .trans (inStandby s i) (.other rfl)
  | outWrite o ready =>
    have hw : Touches (· = o) s (Audio.outWrite o ready s).2 := outWrite s (by rfl) ready
    refine .trans hw (.other ?_)
    simp only [Audio.act]
    split <;> rfl
  | outWriteData o force ok => exact .trans (outWriteData s o ok) (.other rfl)
  | outWriteForce => exact .trans (bracket (forceInput _)) (.other rfl)
  | outStandby o => exact outStandby s o
  | outSetParameters o kv => exact outSetParameters s o kv
  | inRead i frames ready created =>
    refine .trans (inRead s i ready created) (.other ?_)
    simp only [Audio.act]
    split <;> rfl
  | inReadData i frames dst script =>
    exact .trans (inReadData s i frames dst script) (.other rfl)
  | inStandby i => exact inStandby s i
  | inSetParameters i kv => exact both (setInputParameters _ i kv)
  | inAddAudioEffect i e d => exact both (addEffect _ i e d)
  | inRemoveAudioEffect i e d => exact both (dropEffect _ i e d)
  | setParameters kv => exact .other (sounding_adevSetParameters s kv)
  | setMode mode => exact adevSetMode s mode
  | setVoiceVolume v => exact .other (sounding_adevSetVoiceVolume s v)
  | setMicMute b => exact .other rfl

theorem step [Zero α] {s t : Hal α} {e : Event α} (h : step s e = some t) :
    Touches e.Starts s t := by
  unfold Audio.step at h
  split at h
  · cases h
    exact .trans (t := s.clearTrace) (.other rfl) (.trans (act _ e) (.other rfl))
  · cases h

end Touches

/-! ## What they keep -/

/-- An output stream plays at the rate of its clients, and runs with the threshold it was started
with. -/
structure OmapStreamOut.Plays (out : OmapStreamOut) : Prop where
  rate : out.rate = defaultOutSamplingRate
  threshold : out.standby = false → out.writeThreshold = fullThreshold

/-- Every output stream does. -/
def Hal.Playing (s : Hal α) : Prop := ∀ o out, s.outs o = some out → out.Plays

/-- The one live echo reference is the device's, and no other was released. -/
structure Hal.OwnsReference (s : Hal α) : Prop where
  live : ∀ e, s.echos.live e = true ↔ s.echoReference = some e
  once : ∀ e, .echoRelease e ∉ s.faults

theorem mem_releases {s : Hal α} {e : Nat} :
    e ∈ s.faults.filterMap Fault.release? ↔ .echoRelease e ∈ s.faults := by
  rw [List.mem_filterMap]
  constructor
  · rintro ⟨f, hf, he⟩
    cases f <;> cases he
    exact hf
  · exact fun h => ⟨_, h, rfl⟩

theorem Hal.Playing.modOut {s : Hal α} (h : s.Playing) {o : OutId} {f : OmapStreamOut → OmapStreamOut}
    (hf : ∀ out, s.outs o = some out → out.Plays → (f out).Plays) : (s.modOut o f).Playing := by
  intro o' out' ho
  have ho : Function.update s.outs o ((s.outs o).map f) o' = some out' := ho
  rw [Function.update_apply] at ho
  split at ho
  · obtain ⟨out, hout, rfl⟩ := Option.map_eq_some_iff.mp ho
    exact hf out hout (h o out hout)
  · exact h o' out' ho

variable {may : OutId → Prop}

theorem Touches.playing {s t : Hal α} (h : Touches may s t) (hs : s.Playing) : t.Playing := by
  induction h with
  | other he => exact fun o out ho => hs o out ((congrFun (congrArg Prod.fst he) o).symm.trans ho)
  | trans _ _ ih₁ ih₂ => exact ih₂ (ih₁ hs)
  | stop s o => exact hs.modOut fun out _ hp => ⟨hp.rate, nofun⟩
  | refer s o e => exact hs.modOut fun out _ hp => ⟨hp.rate, hp.threshold⟩
  | claim s o => exact hs.modOut fun out _ hp => ⟨rfl, hp.threshold⟩
  | prepare s h _ => exact hs.modOut fun out _ hp => ⟨hp.rate, fun _ => rfl⟩
  | run _ ht => exact hs.modOut fun out ho hp => ⟨hp.rate, fun _ => ht out ho⟩
  | resample s o => exact hs.modOut fun out _ hp => ⟨hp.rate, hp.threshold⟩
  | release _ =>
    unfold Hal.releaseEchoReference
    split <;> exact hs
  | create _ => exact hs
  | add s o hr hb =>
    intro o' out' ho
    simp only [Function.update_apply] at ho
    split at ho
    · cases ho
      exact ⟨hr, fun h => by rw [hb] at h; cases h⟩
    · exact hs o' out' ho
  | free s o =>
    intro o' out' ho
    simp only [freeOutput, Function.update_apply] at ho
    split at ho
    · cases ho
    · exact hs o' out' ho

theorem Touches.ownsReference {s t : Hal α} (h : Touches may s t) (hs : s.OwnsReference) :
    t.OwnsReference := by
  induction h with
  | other he =>
    have hr := congrArg (·.2.1) he
    have hl := congrArg (·.2.2.1) he
    have hf := congrArg (·.2.2.2) he
    simp only [Hal.sounding] at hr hl hf
    refine ⟨fun e => by rw [hr, hl]; exact hs.live e, fun e => ?_⟩
    rw [← mem_releases, hf, mem_releases]
    exact hs.once e
  | trans _ _ ih₁ ih₂ => exact ih₂ (ih₁ hs)
  | @release s e he =>
    have hl : s.echos.live e = true := (hs.live e).mpr he
    have ht : s.releaseEchoReference e = { s with echos := s.echos.free e } := if_pos hl
    rw [ht]
    refine ⟨fun e' => ?_, hs.once⟩
    show (s.echos.free e).live e' = true ↔ none = some e'
    rw [Ledger.live_free]
    split
    · simp
    · next hne =>
      refine iff_of_false (fun h' => hne ?_) nofun
      exact Option.some.inj (((hs.live e').mp h').symm.trans he)
  | @create s he =>
    refine ⟨fun e' => ?_, hs.once⟩
    show s.echos.alloc.live e' = true ↔ some s.echos.next = some e'
    rw [Ledger.live_alloc]
    split
    · next h' => simp [h']
    · next h' =>
      refine iff_of_false (fun hl => ?_) fun h => h' (Option.some.inj h).symm
      have := (hs.live e').mp hl
      rw [he] at this
      cases this
  | _ => exact ⟨hs.live, hs.once⟩

/-- A stream that runs and was not started ran before, on the same pcm. -/
theorem Touches.ran {s t : Hal α} (h : Touches may s t) {o : OutId} (ho : ¬ may o) {out : OmapStreamOut}
    (hout : t.outs o = some out) (hr : out.standby = false) :
    ∃ x, s.outs o = some x ∧ x.standby = false ∧ x.pcm = out.pcm := by
  have hm : ∀ {s : Hal α} {o'} {f : OmapStreamOut → OmapStreamOut} {out},
      (s.modOut o' f).outs o = some out → out.standby = false →
      (o' = o → ∀ x, (f x).standby = false → x.standby = false ∧ x.pcm = (f x).pcm) →
      ∃ x, s.outs o = some x ∧ x.standby = false ∧ x.pcm = out.pcm := by
    intro s o' f out hout hr hf
    have hout : Function.update s.outs o' ((s.outs o').map f) o = some out := hout
    rw [Function.update_apply] at hout
    split at hout
    · next he =>
      obtain ⟨x, hx, rfl⟩ := Option.map_eq_some_iff.mp hout
      obtain ⟨h1, h2⟩ := hf he.symm x hr
      exact ⟨x, he ▸ hx, h1, h2⟩
    · exact ⟨out, hout, hr, rfl⟩
  induction h generalizing out with
  | other he => exact ⟨out, (congrFun (congrArg Prod.fst he) o).symm.trans hout, hr, rfl⟩
  | trans _ _ ih₁ ih₂ =>
    obtain ⟨y, hy, hyr, hyp⟩ := ih₂ hout hr
    obtain ⟨x, hx, hxr, hxp⟩ := ih₁ hy hyr
    exact ⟨x, hx, hxr, hxp.trans hyp⟩
  | stop s o' => exact hm hout hr fun _ _ h => by cases h
  | refer s o' e => exact hm hout hr fun _ _ h => ⟨h, rfl⟩
  | claim s o' => exact hm hout hr fun _ _ h => ⟨h, rfl⟩
  | prepare s h ho' => exact hm hout hr fun he => absurd (he ▸ ho') ho
  | run ho' _ => exact hm hout hr fun he => absurd (he ▸ ho') ho
  | resample s o' => exact hm hout hr fun _ _ h => ⟨h, rfl⟩
  | @release s e _ =>
    have hs : ((s.releaseEchoReference e).setEchoReference none).outs = s.outs := by
      unfold Hal.releaseEchoReference
      split <;> rfl
    rw [hs] at hout
    exact ⟨out, hout, hr, rfl⟩
  | create _ => exact ⟨out, hout, hr, rfl⟩
  | add s o' _ hb =>
    simp only [Function.update_apply] at hout
    split at hout
    · cases hout
      rw [hb] at hr
      cases hr
    · exact ⟨out, hout, hr, rfl⟩
  | free s o' =>
    simp only [freeOutput, Function.update_apply] at hout
    split at hout
    · cases hout
    · exact ⟨out, hout, hr, rfl⟩

/-! ## In every run -/

section
variable [Zero α] {name : String} {alloc : Bool} {mixer : Option Mixer} {s₀ s : Hal α}

theorem playing_ok (h0 : adevOpen name alloc mixer = .ok s₀) (hr : Reach step s₀ s) :
    s.Playing := by
  obtain ⟨m, -, rfl⟩ := adevOpen_ok h0
  refine hr.invariant (fun o out ho => ?_) fun _ _ _ hs _ ht => (Touches.step ht).playing hs
  have hn : (openDevice m : Hal α).outs = fun _ => none :=
    congrArg Prod.fst ((sounding_selectOutputDevice _).trans rfl)
  rw [hn] at ho
  cases ho

theorem reference_owned (h0 : adevOpen name alloc mixer = .ok s₀) (hr : Reach step s₀ s) :
    (∀ e, s.echos.live e = true ↔ s.echoReference = some e) ∧ ∀ e, .echoRelease e ∉ s.faults := by
  obtain ⟨m, -, rfl⟩ := adevOpen_ok h0
  have h0 : (openDevice m : Hal α).OwnsReference := by
    have ho : Touches (fun _ => False) (callocDevice m : Hal α) (openDevice m) :=
      .other ((sounding_selectOutputDevice _).trans rfl)
    exact ho.ownsReference ⟨fun _ => iff_of_false nofun nofun, nofun⟩
  have hs : s.OwnsReference :=
    hr.invariant h0 fun _ _ _ hs _ ht => (Touches.step ht).ownsReference hs
  exact ⟨hs.live, hs.once⟩

end

end

/-- Two inputs that cancel echo, the second one read while the first one runs. -/
def twoCancellers : List (Event Nat) :=
  [.openOutputStream 0 audioDeviceOutSpeaker true true, .outWrite 0 true,
    .outWriteData 0 false true,
    .openInputStream 0 audioDeviceInBuiltinMic ⟨48000, 1, 1⟩ ⟨true, true, true, id⟩,
    .openInputStream 1 audioDeviceInBuiltinMic ⟨48000, 1, 1⟩ ⟨true, true, true, id⟩,
    .inAddAudioEffect 0 ⟨0, true⟩ 0, .inAddAudioEffect 1 ⟨1, true⟩ 0,
    .inRead 0 1 true true, .inReadData 0 1 [0] ⟨[.copy], [], .ok⟩, .inRead 1 1 true true]

set_option maxRecDepth 8000 in
/-- The first one's reference is gone, and was released once. -/
theorem reference_owned_twoCancellers : ∃ s : Hal Nat,
    exec step twoCancellers (openDevice fun _ => none) = some s ∧
    s.echos.next = 2 ∧ s.echos.live 0 = false ∧ s.echos.live 1 = true ∧
    .echoRelease 0 ∉ s.faults := by
  have hr : (exec step twoCancellers (openDevice fun _ => none)).map
      (fun s => (s.echoReference, s.echos.next)) = some (some 1, 2) := rfl
  obtain ⟨s, hs, hp⟩ := Option.map_eq_some_iff.mp hr
  obtain ⟨he, hn⟩ := Prod.mk.inj hp
  obtain ⟨hlive, honce⟩ := reference_owned (adevOpen_some _) (Reach.of_exec hs)
  refine ⟨s, hs, hn, ?_, (hlive 1).mpr he, honce 0⟩
  refine Bool.eq_false_iff.mpr fun h => ?_
  have h0 := (hlive 0).mp h
  rw [he] at h0
  cases h0

end P970.Audio
