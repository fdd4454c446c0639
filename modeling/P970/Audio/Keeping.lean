import P970.Audio.Entry

/-!
# What the entry points keep

A relation between a state and what becomes of it that composes, and that holds
of every single change of a list, holds of every function of the HAL made of such
changes. `Frame P R` lists the changes, `P` saying which changes of an input
stream are among them; `Frame.act` is about every event that neither opens,
closes, starts, reads or configures an input stream nor sends an output data.
`Keeping R` is a frame for the changes of an input stream that leave alone what
its read side depends on (`Keeping.act`). For a part of the state that is left
alone the relation is equality of that part, for an invariant that it is kept.
-/

namespace P970.Audio

section
variable {α : Type}

/-- The fields of an input stream that only its opening, its start and the read paths set. -/
def OmapStreamIn.lasting (inp : OmapStreamIn α) :
    Bool × Nat × Option BufferRemix × Capture α :=
  (inp.resampler, inp.requestedRate, inp.remixAtDriver, inp.capture)

/-- The streams, and the echo references of the device. -/
def Hal.holdings (s : Hal α) : Bool × (OutId → Option OmapStreamOut) ×
    (InId → Option (OmapStreamIn α)) × Option Nat × Ledger :=
  (s.inputRequiresStereo, s.outs, s.ins, s.echoReference, s.echos)

structure Keeping (R : Hal α → Hal α → Prop) : Prop where
  trans : ∀ {s t u}, R s t → R t u → R s u
  other : ∀ {s t}, t.holdings = s.holdings → R s t
  out : ∀ (s : Hal α) (o : OutId) {f : OmapStreamOut → OmapStreamOut},
    (∀ out, (f out).resampler = out.resampler) → R s (s.modOut o f)
  inp : ∀ (s : Hal α) (i : InId) {f : OmapStreamIn α → OmapStreamIn α},
    (∀ inp, s.ins i = some inp → (f inp).lasting = inp.lasting) → R s (s.modIn i f)
  release : ∀ (s : Hal α) (e : Nat), R s ((s.releaseEchoReference e).setEchoReference none)
  create : ∀ s : Hal α, R s s.createEchoReference

/-- The streams, the echo references of the device, and the active input. -/
def Hal.stock (s : Hal α) : (Bool × (OutId → Option OmapStreamOut) ×
    (InId → Option (OmapStreamIn α)) × Option Nat × Ledger) × Option InId :=
  (s.holdings, s.activeInput)

structure Frame (P : OmapStreamIn α → OmapStreamIn α → Prop) (R : Hal α → Hal α → Prop) : Prop where
  trans : ∀ {s t u}, R s t → R t u → R s u
  other : ∀ {s t}, t.stock = s.stock → R s t
  idle : ∀ s : Hal α, R s (s.setActiveInput none)
  out : ∀ (s : Hal α) (o : OutId) {f : OmapStreamOut → OmapStreamOut},
    (∀ out, (f out).resampler = out.resampler) → R s (s.modOut o f)
  inp : ∀ (s : Hal α) (i : InId) {f : OmapStreamIn α → OmapStreamIn α},
    (∀ inp, s.ins i = some inp → P inp (f inp)) → R s (s.modIn i f)
  stop : ∀ inp, P inp { inp with pcm := none, echoReference := none, standby := true }
  refer : ∀ inp e, P inp { inp with echoReference := e }
  release : ∀ (s : Hal α) (e : Nat), R s ((s.releaseEchoReference e).setEchoReference none)
  create : ∀ s : Hal α, R s s.createEchoReference

theorem Keeping.frame {R : Hal α → Hal α → Prop} (K : Keeping R) :
    Frame (fun inp inp' => inp'.lasting = inp.lasting) R where
  trans := K.trans
  other h := K.other (congrArg Prod.fst h)
  idle _ := K.other rfl
  out := K.out
  inp := K.inp
  stop _ := rfl
  refer _ _ := rfl
  release := K.release
  create := K.create

/-- A part of the input streams that a stop and another reference leave alone. -/
theorem frame_part {β : Type} (p : OmapStreamIn α → β)
    (hstop : ∀ inp, p { inp with pcm := none, echoReference := none, standby := true } = p inp)
    (hrefer : ∀ inp e, p { inp with echoReference := e } = p inp) :
    Frame (fun inp inp' => p inp' = p inp)
      (fun s t : Hal α => (fun i => (t.ins i).map p) = fun i => (s.ins i).map p) where
  trans h h' := h'.trans h
  other h := congrArg (fun x i => (x.1.2.2.1 i).map p) h
  idle _ := rfl
  out _ _ _ _ := rfl
  inp s i f hf := by
    rw [s.map_modIn, Option.map_congr hf]
    exact Function.update_eq_self i fun j => (s.ins j).map p
  stop := hstop
  refer := hrefer
  release s e := by
    unfold Hal.releaseEchoReference
    split <;> rfl
  create _ := rfl

/-- As `Keeping.frame`, for a relation that any change of an input stream meets. -/
theorem Keeping.frame_any {R : Hal α → Hal α → Prop} (K : Keeping R)
    (hinp : ∀ (s : Hal α) i f, R s (s.modIn i f)) : Frame (fun _ _ => True) R where
  trans := K.trans
  other h := K.other (congrArg Prod.fst h)
  idle _ := K.other rfl
  out := K.out
  inp s i f _ := hinp s i f
  stop _ := trivial
  refer _ _ := trivial
  release := K.release
  create := K.create

/-! ## Changes of other fields -/

section
variable (s : Hal α)

theorem stock_setRoute? (r : Option Route) : (s.setRoute? r).stock = s.stock := by
  cases r <;> rfl

theorem stock_pcmClose (h : Option Nat) : (s.pcmClose h).stock = s.stock := by
  unfold Hal.pcmClose
  split
  · split <;> rfl
  · rfl

theorem stock_pcmUse (h : Option Nat) : (s.pcmUse h).stock = s.stock := by
  unfold Hal.pcmUse
  split
  · split <;> rfl
  · rfl

theorem stock_echoUse (e : Nat) : (s.echoUse e).stock = s.stock := by
  unfold Hal.echoUse
  split <;> rfl

theorem stock_echoUse? (e : Option Nat) : (s.echoUse? e).stock = s.stock := by
  cases e with
  | none => rfl
  | some e => exact stock_echoUse s e

theorem stock_outsideCall {f : Hal α → Hal α} (hf : (f s).stock = s.stock) :
    (s.outsideCall f).stock = s.stock := by
  unfold Hal.outsideCall
  split
  · exact hf
  · rfl

theorem stock_selectInputDevice : (selectInputDevice s).stock = s.stock :=
  stock_setRoute? s _

theorem stock_selectOutputDevice : (selectOutputDevice s).stock = s.stock := by
  simp only [selectOutputDevice, setIncallDevice]
  split
  · exact (stock_setRoute? _ _).trans (stock_setRoute? s _)
  · exact stock_setRoute? s _

theorem stock_adevSetVoiceVolume (v : Volume) :
    (adevSetVoiceVolume v s).stock = s.stock := by
  unfold adevSetVoiceVolume
  split <;> rfl

theorem stock_callDevices : (callDevices s).stock = s.stock := by
  unfold callDevices
  split <;> rfl

theorem stock_routeOutputStandby : (routeOutputStandby s).stock = s.stock := by
  unfold routeOutputStandby
  split <;> rfl

theorem stock_useOutput (out : OmapStreamOut) : (useOutput out s).stock = s.stock := by
  unfold useOutput
  cases out.echoReference with
  | none => exact stock_pcmUse s _
  | some e =>
    exact (stock_pcmUse _ _).trans ((stock_echoUse _ e).trans (stock_pcmUse s _))

theorem stock_useInput (i : InId) (inp : OmapStreamIn α) (before after : Track α) :
    (useInput i inp before after s).stock = s.stock := by
  have h1 : ∀ t : Hal α, (if after.pcmUses ≠ before.pcmUses then t.pcmUse inp.pcm
      else t).stock = t.stock := by
    intro t
    split
    · exact stock_pcmUse t _
    · rfl
  have h2 : ∀ t : Hal α, (if after.echoUses ≠ before.echoUses then t.echoUse? inp.echoReference
      else t).stock = t.stock := by
    intro t
    split
    · exact stock_echoUse? t _
    · rfl
  have h3 : ∀ t : Hal α, (if after.noDev ≠ before.noDev then t.fault (.noDev i)
      else t).stock = t.stock := by
    intro t
    split <;> rfl
  exact (h3 _).trans ((h2 _).trans (h1 s))

theorem stock_adevSetParameters (kvpairs : KvPairs) :
    (adevSetParameters kvpairs s).2.stock = s.stock := by
  have hc : ∀ (t : TtyMode) (u : Hal α), (changeTtyMode t u).stock = u.stock := by
    intro t u
    unfold changeTtyMode
    split
    · split
      · exact stock_selectOutputDevice _
      · rfl
    · rfl
  have h : ∀ t, setTtyParameter kvpairs s = some t → t.stock = s.stock := by
    intro t ht
    unfold setTtyParameter at ht
    split at ht
    · cases ht
      rfl
    · obtain ⟨m, -, rfl⟩ := Option.map_eq_some_iff.mp ht
      exact hc m (s.pthreadMutexLock .device)
  unfold adevSetParameters
  split
  · rfl
  · next t ht =>
    refine Eq.trans ?_ (h t ht)
    split <;> rfl

theorem holdings_pcmClose (h : Option Nat) : (s.pcmClose h).holdings = s.holdings :=
  congrArg Prod.fst (stock_pcmClose s h)

theorem holdings_selectOutputDevice : (selectOutputDevice s).holdings = s.holdings :=
  congrArg Prod.fst (stock_selectOutputDevice s)

theorem holdings_useOutput (out : OmapStreamOut) : (useOutput out s).holdings = s.holdings :=
  congrArg Prod.fst (stock_useOutput s out)

theorem holdings_useInput (i : InId) (inp : OmapStreamIn α) (before after : Track α) :
    (useInput i inp before after s).holdings = s.holdings :=
  congrArg Prod.fst (stock_useInput s i inp before after)

theorem holdings_claimInput (i : InId) (d : Devices) : (claimInput i d s).holdings = s.holdings :=
  congrArg Prod.fst (stock_outsideCall (s.setActiveInput (some i))
    (stock_selectInputDevice ((s.setActiveInput (some i)).setInDevice d)))

end

/-! ## The functions below the entry points -/

namespace Frame

variable {P : OmapStreamIn α → OmapStreamIn α → Prop} {R : Hal α → Hal α → Prop} (F : Frame P R)
  (s : Hal α)
include F

theorem refl : R s s := F.other rfl

variable {s} in
/-- Code that holds a lock meanwhile. -/
theorem bracket {t : Hal α} {m : Mutex} (h : R (s.pthreadMutexLock m) t) :
    R s (t.pthreadMutexUnlock m) :=
  F.trans (t := s.pthreadMutexLock m) (F.other rfl) (F.trans h (F.other rfl))

variable {s} in
theorem both {t : Hal α} {m : Mutex} (h : R (s.lockBoth m) t) : R s (t.unlockBoth m) :=
  F.trans (t := s.lockBoth m) (F.other rfl) (F.trans h (F.other rfl))

theorem attachEchoReference (o : OutId) (e : Option Nat) : R s (attachEchoReference o e s) := by
  unfold Audio.attachEchoReference
  split
  · refine F.out s o ?_
    exact fun _ => rfl
  · exact F.other rfl

theorem detachEchoReference (o : OutId) (e : Nat) : R s (detachEchoReference o e s) := by
  unfold Audio.detachEchoReference
  split
  · split
    · refine F.trans (F.other (stock_echoUse s e)) (F.out _ o ?_)
      exact fun _ => rfl
    · exact F.refl s
  · exact F.other rfl

theorem removeFromActive (e : Nat) : R s (removeFromActive e s) := by
  unfold Audio.removeFromActive
  split
  · next o _ => exact F.bracket (F.detachEchoReference _ o e)
  · exact F.refl s

theorem putEchoReference (e : Option Nat) : R s (putEchoReference e s) := by
  unfold Audio.putEchoReference
  split
  · next r _ =>
    split
    · exact F.trans (F.removeFromActive s r) (F.release _ r)
    · exact F.refl s
  · exact F.refl s

theorem getEchoReference (created : Bool) : R s (getEchoReference created s) := by
  refine F.trans (F.putEchoReference s s.echoReference) ?_
  unfold Audio.getEchoReference newEchoReference
  split
  · split
    · exact F.trans (F.create _) (F.bracket (F.attachEchoReference _ _ _))
    · exact F.refl _
  · exact F.refl _

theorem dropEchoReference (e : Option Nat) : R s (dropEchoReference e s) := by
  cases e with
  | none => exact F.refl s
  | some e => exact F.trans (F.other (stock_echoUse s e)) (F.putEchoReference _ _)

theorem doOutputStandby (o : OutId) : R s (doOutputStandby o s) := by
  unfold Audio.doOutputStandby
  split
  · exact F.other rfl
  · next out _ =>
    split
    · exact F.refl s
    · refine F.trans (F.other ?_) (F.out _ o fun _ => rfl)
      exact (stock_echoUse? _ _).trans ((stock_routeOutputStandby (s.pcmClose out.pcm)).trans
        (stock_pcmClose s _))

theorem doInputStandby (i : InId) : R s (doInputStandby i s) := by
  unfold Audio.doInputStandby
  split
  · exact F.other rfl
  · next inp _ =>
    split
    · exact F.refl s
    · have hu : ∀ t : Hal α, (unrouteInput t).stock = t.stock :=
        fun t => stock_selectInputDevice (t.setInDevice audioDeviceNone)
      have hs : R s (((s.pcmClose inp.pcm).setActiveInput none).outsideCall unrouteInput) :=
        F.trans (F.other (stock_pcmClose s _))
          (F.trans (F.idle _) (F.other (stock_outsideCall _ (hu _))))
      exact F.trans hs (F.trans (F.dropEchoReference _ _) (F.inp _ i fun inp _ => F.stop inp))

theorem forceOutput : R s (forceOutput s) := by
  unfold Audio.forceOutput
  split
  · next o _ => exact F.bracket (F.doOutputStandby _ o)
  · exact F.refl s

theorem forceInput : R s (forceInput s) := by
  unfold Audio.forceInput
  split
  · next i _ => exact F.bracket (F.doInputStandby _ i)
  · exact F.refl s

theorem selectMode : R s (selectMode s) := by
  have hf : ∀ t : Hal α, R t (forceAllStandby t) :=
    fun t => F.trans (F.forceOutput t) (F.forceInput _)
  unfold Audio.selectMode
  split
  · split
    · exact F.refl s
    · refine F.trans (hf s) (F.other ?_)
      exact (stock_adevSetVoiceVolume _ _).trans ((stock_selectOutputDevice _).trans
        (stock_callDevices _))
  · split
    · refine F.trans (t := s.setInCall false) (F.other rfl) (F.trans (hf _) (F.other ?_))
      exact (stock_selectInputDevice _).trans (stock_selectOutputDevice _)
    · exact F.refl s

theorem startOutputStream (o : OutId) (ready : Bool) : R s (startOutputStream o ready s).2 := by
  have hc : R s (claimOutput o s) := by
    refine F.trans (t := s.setActiveOutput (some o)) (F.other rfl) ?_
    refine F.trans (F.out _ o ?_) (F.other (stock_outsideCall _ ?_))
    · exact fun _ => rfl
    · exact stock_selectOutputDevice _
  have hsh : ∀ t : Hal α, R t (shareEchoReference o t) := by
    intro t
    unfold shareEchoReference
    split
    · refine F.out t o ?_
      exact fun _ => rfl
    · exact F.refl t
  refine F.trans hc ?_
  unfold Audio.startOutputStream openOutputPcm
  generalize claimOutput o s = t
  have ht : R t (t.pcmOpen.modOut o fun out =>
      { out with writeThreshold := playbackPeriodCount * longPeriodSize, pcm := some t.newPcm }) := by
    refine F.trans (t := t.pcmOpen) (F.other rfl) (F.out t.pcmOpen o ?_)
    exact fun _ => rfl
  cases ready with
  | true => exact F.trans ht (hsh _)
  | false => exact F.trans ht (F.other (stock_pcmClose _ _))

theorem referenceInput (i : InId) (created : Bool) (inp : OmapStreamIn α) :
    R s (referenceInput i created inp s) := by
  unfold Audio.referenceInput takeEchoReference
  split
  · exact F.trans (F.getEchoReference s created) (F.inp _ i fun inp _ => F.refer inp _)
  · exact F.refl s

/-! ## The entry points -/

theorem outStandby (o : OutId) : R s (outStandby o s) := F.both (F.doOutputStandby _ o)

theorem inStandby (i : InId) : R s (inStandby i s) := F.both (F.doInputStandby _ i)

theorem outSetParameters (o : OutId) (kvpairs : KvPairs) : R s (outSetParameters o kvpairs s).2 := by
  have hd : ∀ (t : Hal α) (val : Devices), R t (selectOutputDevice (t.setOutDevice val)) :=
    fun t val => F.other (stock_selectOutputDevice (t.setOutDevice val))
  have hr : ∀ (t : Hal α) (val : Devices), R t (setOutputRouting o val t).2 := by
    intro t val
    unfold setOutputRouting rerouteOutput
    split
    · split
      · exact F.trans (F.doOutputStandby t o) (hd _ val)
      · exact hd t val
    · exact F.refl t
  unfold Audio.outSetParameters
  split
  · exact F.refl s
  · next value _ =>
    have hroute := F.bracket (hr ((s.pthreadMutexLock .device).pthreadMutexLock (.out o))
      (atoi value))
    refine F.bracket (F.trans hroute ?_)
    split
    · exact F.forceInput _
    · exact F.refl _

theorem outWrite (o : OutId) (ready : Bool) : R s (outWrite o ready s).2 := by
  have hb : ∀ t : Hal α, R t (beginWrite o ready t).2.2 := by
    intro t
    unfold beginWrite
    split
    · exact F.other rfl
    · split
      · simp only
        split
        · exact F.startOutputStream t o ready
        · refine F.trans (F.startOutputStream t o ready) (F.out _ o ?_)
          exact fun _ => rfl
      · exact F.refl t
  refine F.trans (t := s.lockBoth (.out o)) (F.other rfl) (F.trans (hb _) ?_)
  unfold Audio.outWrite
  simp only
  split <;> exact F.other rfl

theorem setInputParameters (i : InId) (kvpairs : KvPairs)
    (hp : ∀ inp, P inp (inputParameters kvpairs inp).1) : R s (setInputParameters i kvpairs s) := by
  unfold Audio.setInputParameters
  split
  · exact F.other rfl
  · next inp hi =>
    have hm : R s (s.modIn i fun _ => (inputParameters kvpairs inp).1) := by
      refine F.inp s i fun inp' hi' => ?_
      rw [hi, Option.some.injEq] at hi'
      subst hi'
      exact hp inp
    simp only
    split
    · exact F.trans hm (F.doInputStandby _ i)
    · exact hm

section
variable (hp : ∀ inp need slots n, P inp
  { inp with needEchoReference := need, preprocessors := slots, numPreprocessors := n })
include hp

theorem effectChanged (i : InId) (effect : Effect) (need : Bool) :
    R s (effectChanged i effect need s) := by
  unfold Audio.effectChanged
  split
  · exact F.trans (F.inp s i fun inp _ => hp inp _ _ _) (F.doInputStandby _ i)
  · exact F.refl s

theorem addEffect (i : InId) (effect : Effect) (desc : Int) : R s (addEffect i effect desc s).2 := by
  have ha : R s (appendEffect i effect s) := F.inp s i fun inp _ => hp inp _ _ _
  unfold Audio.addEffect
  split
  · exact F.other rfl
  · split
    · exact F.refl s
    · split
      · exact F.refl s
      · exact F.trans ha (F.effectChanged _ hp i effect true)

theorem dropEffect (i : InId) (effect : Effect) (desc : Int) : R s (dropEffect i effect desc s).2 := by
  have ha : ∀ slots, R s (storeEffects i slots s) := fun slots => F.inp s i fun inp _ => hp inp _ _ _
  unfold Audio.dropEffect
  split
  · exact F.other rfl
  · split
    · exact F.refl s
    · simp only
      split
      · exact F.refl s
      · split
        · exact ha _
        · exact F.trans (ha _) (F.effectChanged _ hp i effect false)

end

theorem adevSetMode (mode : Int) : R s (adevSetMode mode s) := by
  refine F.bracket ?_
  unfold changeMode
  split
  · refine F.trans (t := (s.pthreadMutexLock .device).setMode mode) (F.other rfl) ?_
    exact F.selectMode _
  · exact F.refl _

end Frame

/-! ## Events -/

/-- The event neither opens, closes nor reads a stream, nor sends it data. -/
def Event.plain : Event α → Bool
  | .openOutputStream .. | .closeOutputStream _ | .openInputStream .. | .closeInputStream _
  | .outWriteData .. | .inRead .. | .inReadData .. => false
  | _ => true

/-- The event sets the parameters or the effects of an input stream. -/
def Event.configures : Event α → Bool
  | .inSetParameters .. | .inAddAudioEffect .. | .inRemoveAudioEffect .. => true
  | _ => false

theorem Frame.act [Zero α] {P : OmapStreamIn α → OmapStreamIn α → Prop} {R : Hal α → Hal α → Prop}
    (F : Frame P R) (s : Hal α) {e : Event α} (he : e.plain = true) (hc : e.configures = false) :
    R s (act e s) := by
  cases e with
  | outWrite o ready =>
    refine F.trans (F.outWrite s o ready) (F.other ?_)
    simp only [Audio.act]
    split <;> rfl
  | outWriteForce => exact F.trans (F.bracket (F.forceInput _)) (F.other rfl)
  | outStandby o => exact F.outStandby s o
  | outSetParameters o kv => exact F.outSetParameters s o kv
  | inStandby i => exact F.inStandby s i
  | setParameters kv => exact F.other (stock_adevSetParameters s kv)
  | setMode mode => exact F.adevSetMode s mode
  | setVoiceVolume v => exact F.other (stock_adevSetVoiceVolume s v)
  | setMicMute b => exact F.other rfl
  | inSetParameters | inAddAudioEffect | inRemoveAudioEffect => cases hc
  | _ => cases he

/-! ## Streams as a whole -/

namespace Frame

variable {P : OmapStreamIn α → OmapStreamIn α → Prop} {R : Hal α → Hal α → Prop} (F : Frame P R)
  (s : Hal α)
include F

/-- Data sent to an output stream, for a relation that any change of one meets. -/
theorem outWriteData (hout : ∀ (s : Hal α) o f, R s (s.modOut o f)) (o : OutId) (ok : Bool) :
    R s (outWriteData o ok s) := by
  have hw : R s (writeData o ok s) := by
    unfold writeData
    split
    · exact F.other rfl
    · split
      · split
        · exact F.trans (hout s o _) (F.other (stock_useOutput _ _))
        · exact F.refl s
      · exact F.other (stock_useOutput s _)
  exact F.trans hw (F.other rfl)

theorem inReadData [Zero α] (hp : ∀ inp c, P inp { inp with capture := c }) (i : InId)
    (frames : Nat) (dst : List α) (script : ReadScript α) :
    R s (inReadData i frames dst script s).2.2 := by
  unfold Audio.inReadData
  split
  · exact F.other rfl
  · next inp _ =>
    simp only
    generalize readPaths inp s.micMute frames script dst = r
    refine F.trans (F.other (stock_useInput s i inp inp.capture.track r.capture.track)) ?_
    have hm : ∀ t : Hal α, R t (t.modIn i fun inp => { inp with capture := r.capture }) :=
      fun t => F.inp t i fun inp _ => hp inp r.capture
    split
    · exact F.trans (hm _) (F.other rfl)
    · exact hm _

section
variable (hp : ∀ inp pcm channels remix c standby, P inp
    { inp with pcm := pcm, channels := channels, remixAtDriver := remix, capture := c,
               standby := standby })
  (i : InId) (hclaim : ∀ s : Hal α, R s (s.setActiveInput (some i)))
include hp hclaim

theorem startInputStream (ready created : Bool) : R s (startInputStream i ready created s).2 := by
  have hc : ∀ d, R s (claimInput i d s) := fun d =>
    F.trans (hclaim s) (F.other (stock_outsideCall _
      (stock_selectInputDevice ((s.setActiveInput (some i)).setInDevice d))))
  have hremix : ∀ (inp : OmapStreamIn α) (t : Hal α), R t (remixInput i inp t) := by
    intro inp t
    unfold remixInput
    split
    · exact F.inp t i fun inp _ => hp inp _ _ _ _ _
    · exact F.refl t
  unfold Audio.startInputStream
  split
  · exact F.other rfl
  · next inp _ =>
    have hu := F.trans (F.trans (hc inp.device) (hremix inp (claimInput i inp.device s)))
      (F.referenceInput _ i created inp)
    refine F.trans hu ?_
    generalize Audio.referenceInput i created inp _ = u
    refine F.trans (t := u.pcmOpen) (F.other rfl) ?_
    obtain ⟨channels, -, heq⟩ := openInputPcm_eq i ready u
    rw [heq]
    have hopen : ∀ h, R u.pcmOpen (u.pcmOpen.modIn i fun inp =>
        { inp with pcm := h, channels := channels inp }) :=
      fun h => F.inp _ i fun inp _ => hp inp _ _ _ _ _
    cases ready with
    | true => exact F.trans (hopen _) (F.inp _ i fun inp _ => hp inp _ _ _ _ _)
    | false => exact F.trans (hopen _) (F.trans (F.other (stock_pcmClose _ _)) (F.idle _))

theorem inRead (ready created : Bool) : R s (inRead i ready created s).2 := by
  have hb : ∀ t : Hal α, R t (beginRead i ready created t).2 := by
    intro t
    have hs := F.startInputStream t hp i hclaim ready created
    unfold beginRead
    split
    · exact F.other rfl
    · split
      · simp only
        split
        · exact F.trans hs (F.inp _ i fun inp _ => hp inp _ _ _ _ _)
        · exact hs
      · exact F.refl t
  refine F.trans (t := s.lockBoth (.inp i)) (F.other rfl) (F.trans (hb _) ?_)
  unfold Audio.inRead
  simp only
  split <;> exact F.other rfl

end

end Frame

/-! ## The read sides -/

namespace Keeping

variable {R : Hal α → Hal α → Prop} (K : Keeping R) (s : Hal α)
include K

theorem referenceInput (i : InId) (created : Bool) (inp : OmapStreamIn α) :
    R s (referenceInput i created inp s) :=
  K.frame.referenceInput s i created inp

theorem outStandby (o : OutId) : R s (outStandby o s) := K.frame.outStandby s o

theorem inStandby (i : InId) : R s (inStandby i s) := K.frame.inStandby s i

theorem outWriteData (hout : ∀ (s : Hal α) o f, R s (s.modOut o f)) (o : OutId) (ok : Bool) :
    R s (outWriteData o ok s) :=
  K.frame.outWriteData s hout o ok

theorem act [Zero α] {e : Event α} (he : e.plain = true) : R s (act e s) := by
  by_cases hc : e.configures = true
  · cases e with
    | inSetParameters i kv =>
      exact K.frame.both (K.frame.setInputParameters _ i kv fun inp =>
        inputParameters_frame (·.lasting) (fun _ _ => rfl) (fun _ _ => rfl) kv inp)
    | inAddAudioEffect i e d => exact K.frame.both (K.frame.addEffect _ (fun _ _ _ _ => rfl) i e d)
    | inRemoveAudioEffect i e d =>
      exact K.frame.both (K.frame.dropEffect _ (fun _ _ _ _ => rfl) i e d)
    | _ => cases hc
  · exact K.frame.act s he (Bool.eq_false_iff.mpr hc)

section
variable (hinp : ∀ (s : Hal α) i f, R s (s.modIn i f))
include hinp

theorem inRead (i : InId) (ready created : Bool) : R s (inRead i ready created s).2 :=
  (K.frame_any hinp).inRead s (fun _ _ _ _ _ _ => trivial) i (fun _ => K.other rfl) ready created

theorem inReadData [Zero α] (i : InId) (frames : Nat) (dst : List α) (script : ReadScript α) :
    R s (inReadData i frames dst script s).2.2 :=
  (K.frame_any hinp).inReadData s (fun _ _ => trivial) i frames dst script

end

end Keeping

end

end P970.Audio
