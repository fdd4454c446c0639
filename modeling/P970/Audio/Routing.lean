import P970.Audio.Desk
import P970.Audio.Lifecycle

/-!
# The entry points on the desk

The operations on the desk (`Desk.Op`), and the ones an event in a state comes to
(`deskOps`): `desk_step` says that the code does them.
-/

namespace P970.Audio

namespace Desk

variable (d : Desk)

def openOutput (o : OutId) : Desk := { d with output := Function.update d.output o (some false) }

def closeOutput (o : OutId) : Desk := { d with output := Function.update d.output o none }

def openInput (i : InId) (device : Devices) : Desk :=
  { d with input := Function.update d.input i (some (false, device)) }

def closeInput (i : InId) : Desk := { d with input := Function.update d.input i none }

def setDevice (i : InId) (device : Devices) : Desk :=
  { d with input := Function.update d.input i ((d.input i).map fun x => (x.1, device)) }

theorem stopInput_setDevice (i : InId) (device : Devices) :
    (d.setDevice i device).stopInput i = (d.stopInput i).setDevice i device := by
  unfold stopInput setDevice
  rcases hi : d.input i with _ | ⟨_ | _, dev⟩
  · simp [hi]
  · simp [hi]
  · simp only [Function.update_self, Option.map_some, Function.update_idem]
    unfold outsideCall
    split <;> rfl

/-- The operations on the desk. -/
inductive Op where
  | openOutput (o : OutId)
  | closeOutput (o : OutId)
  | openInput (i : InId) (device : Devices)
  | closeInput (i : InId)
  | setDevice (i : InId) (device : Devices)
  | stopOutput (o : OutId) (inputIdle : Bool)
  | stopInput (i : InId)
  | startOutput (o : OutId) (ready : Bool)
  | startInput (i : InId) (ready : Bool)
  | setOutDevice (devices : Devices)
  | setTtyMode (ttyMode : TtyMode)
  | setVolume (volume : Volume)
  | changeMode (mode : Int) (output : Option OutId) (input : Option InId)

def Op.run : Op → Desk → Desk
  | .openOutput o, d => d.openOutput o
  | .closeOutput o, d => d.closeOutput o
  | .openInput i device, d => d.openInput i device
  | .closeInput i, d => d.closeInput i
  | .setDevice i device, d => d.setDevice i device
  | .stopOutput o inputIdle, d => d.stopOutput o inputIdle
  | .stopInput i, d => d.stopInput i
  | .startOutput o ready, d => d.startOutput o ready
  | .startInput i ready, d => d.startInput i ready
  | .setOutDevice devices, d => d.setOutDevice devices
  | .setTtyMode ttyMode, d => d.setTtyMode ttyMode
  | .setVolume volume, d => d.setVolume volume
  | .changeMode mode output input, d => d.changeMode mode output input

def runOps : List Op → Desk → Desk
  | [], d => d
  | op :: ops, d => runOps ops (op.run d)

theorem runOps_ite (c : Prop) [Decidable c] (ops : List Op) :
    d.runOps (if c then ops else []) = if c then d.runOps ops else d := by
  split <;> rfl

end Desk

section
variable {α : Type} (s : Hal α)

/-- The stream `adev->active_input` names is stopped. -/
def forceOps (input : Option InId) : List Desk.Op :=
  match input with
  | some i => [.stopInput i]
  | none => []

theorem runOps_forceOps (d : Desk) (input : Option InId) :
    d.runOps (forceOps input) = d.forceInput input := by
  cases input <;> rfl

/-- `out_set_parameters` with device `val`. -/
def rerouteOps (o : OutId) (val : Devices) : List Desk.Op :=
  if s.outDevice ≠ val ∧ val ≠ 0 then
    if s.activeOutput = some o then
      .stopOutput o s.activeInput.isNone :: .setOutDevice val ::
        if s.voiceInputActive then forceOps s.activeInput else []
    else [.setOutDevice val]
  else []

/-- The TTY mode `adev_set_parameters` changes to, if any. -/
def newTtyMode (kvpairs : KvPairs) : Option TtyMode :=
  ((strParmsGetStr kvpairs audioParameterKeyTtyMode).bind fun r => ttyModeOf r.2).filter
    fun t => t ≠ s.ttyMode

/-- `in_set_parameters`. -/
def inputOps (i : InId) (kvpairs : KvPairs) : List Desk.Op :=
  match s.ins i with
  | some inp =>
    let r := inputParameters kvpairs inp
    -- the code stores the device first, which its standby does not read
    if r.2 then [.stopInput i, .setDevice i r.1.device] else [.setDevice i r.1.device]
  | none => []

def deskOps : Event α → List Desk.Op
  | .openOutputStream o devices alloc ok =>
    if (adevOpenOutputStream o devices alloc ok s).1 = 0 then [.openOutput o] else []
  | .closeOutputStream o => [.stopOutput o s.activeInput.isNone, .closeOutput o]
  | .openInputStream i devices config env =>
    if (adevOpenInputStream i devices config env s).1 = 0 then
      [.openInput i (devices &&& ~~~audioDeviceBitIn)]
    else []
  | .closeInputStream i => [.stopInput i, .closeInput i]
  | .outWrite o ready => [.startOutput o ready]
  | .outWriteForce => forceOps s.activeInput
  | .outStandby o => [.stopOutput o s.activeInput.isNone]
  | .outSetParameters o kvpairs =>
    match strParmsGetStr kvpairs audioParameterStreamRouting with
    | some (_, value) => rerouteOps s o (atoi value)
    | none => []
  | .inRead i _ ready _ => [.startInput i ready]
  | .inStandby i => [.stopInput i]
  | .inSetParameters i kvpairs => inputOps s i kvpairs
  | .inAddAudioEffect i effect desc =>
    if (inAddAudioEffect i effect desc s).1 = 0 ∧ effect.aec then [.stopInput i] else []
  | .inRemoveAudioEffect i effect desc =>
    if (inRemoveAudioEffect i effect desc s).1 = 0 ∧ effect.aec then [.stopInput i] else []
  | .setParameters kvpairs =>
    match newTtyMode s kvpairs with
    | some ttyMode => [.setTtyMode ttyMode]
    | none => []
  | .setMode mode => [.changeMode mode s.activeOutput s.activeInput]
  | .setVoiceVolume volume => [.setVolume volume]
  | .outWriteData .. | .inReadData .. | .setMicMute _ => []

theorem deskOps_ne_changeMode {e : Event α} (he : ∀ mode, e ≠ .setMode mode) {op : Desk.Op}
    (ho : op ∈ deskOps s e) (mode : Int) (output : Option OutId) (input : Option InId) :
    op ≠ .changeMode mode output input := by
  rintro rfl
  have hf : ∀ x, Desk.Op.changeMode mode output input ∉ forceOps x := by
    intro x
    cases x <;> simp [forceOps]
  cases e with
  | setMode m => exact he m rfl
  | outSetParameters o kv =>
    simp only [deskOps] at ho
    split at ho
    · unfold rerouteOps at ho
      split at ho
      · split at ho
        · split at ho
          · simp [hf] at ho
          · simp at ho
        · simp at ho
      · simp at ho
    · simp at ho
  | inSetParameters i kv =>
    simp only [deskOps, inputOps] at ho
    split at ho
    · split at ho <;> simp at ho
    · simp at ho
  | outWriteForce => exact hf _ ho
  | openOutputStream | openInputStream | inAddAudioEffect | inRemoveAudioEffect | setParameters =>
    simp only [deskOps] at ho
    split at ho <;> simp at ho
  | closeOutputStream | closeInputStream | outWrite | outStandby | inRead | inStandby
  | setVoiceVolume | outWriteData | inReadData | setMicMute => simp [deskOps] at ho

/-! ## The code does that -/

theorem desk_adevOpenOutputStream (o : OutId) (devices : Devices) (alloc ok : Bool) :
    (adevOpenOutputStream o devices alloc ok s).2.desk =
      if (adevOpenOutputStream o devices alloc ok s).1 = 0 then s.desk.openOutput o else s.desk := by
  rcases adevOpenOutputStream_cases o devices alloc ok s with ⟨hne, h⟩ | h
  · rw [if_neg hne, h]
  · rw [h, if_pos rfl]
    exact congrArg (fun f => ({ s.desk with output := f } : Desk)) (Hal.map_update _ s.outs o _)

theorem desk_adevOpenInputStream (i : InId) (devices : Devices) (config : AudioConfig)
    (env : OpenEnv α) : (adevOpenInputStream i devices config env s).2.desk =
      if (adevOpenInputStream i devices config env s).1 = 0 then
        s.desk.openInput i (devices &&& ~~~audioDeviceBitIn)
      else s.desk := by
  rcases adevOpenInputStream_cases i devices config env s with ⟨hne, h⟩ | h
  · rw [if_neg hne, h]
  · rw [h, if_pos rfl]
    exact congrArg (fun f => ({ s.desk with input := f } : Desk)) (Hal.map_update _ s.ins i _)

theorem desk_freeOutput (o : OutId) : (freeOutput o s).desk = s.desk.closeOutput o :=
  congrArg (fun f => ({ s.desk with output := f } : Desk)) (Hal.map_update _ s.outs o none)

theorem desk_freeInput (i : InId) : (freeInput i s).desk = s.desk.closeInput i :=
  congrArg (fun f => ({ s.desk with input := f } : Desk)) (Hal.map_update _ s.ins i none)

theorem desk_outStandby (o : OutId) :
    (outStandby o s).desk = s.desk.stopOutput o s.activeInput.isNone :=
  desk_doOutputStandby (s.lockBoth (.out o)) o

theorem desk_inStandby (i : InId) : (inStandby i s).desk = s.desk.stopInput i :=
  desk_doInputStandby (s.lockBoth (.inp i)) i

theorem desk_beginWrite (o : OutId) (ready : Bool) :
    (beginWrite o ready s).2.2.desk = s.desk.startOutput o ready := by
  have hp : s.desk.output o = (s.outs o).map (·.playing) := rfl
  unfold beginWrite
  cases ho : s.outs o with
  | none => simp only [desk_fault, Desk.startOutput, hp, ho, Option.map_none, reduceCtorEq, if_false]
  | some out =>
    have hp : s.desk.output o = some (!out.standby) := by rw [hp, ho]; rfl
    cases hs : out.standby with
    | false => simp only [hs, Desk.startOutput, hp, Bool.not_false, Option.some.injEq,
        Bool.true_eq_false, Bool.false_eq_true, if_false]
    | true =>
      have hd := desk_startOutputStream s ready (o := o) (by rw [hp, hs]; rfl)
      simp only [hs, if_true]
      cases ready with
      | true => exact hd
      | false => exact hd

theorem startInputStream_fst {i : InId} {inp : OmapStreamIn α} (ready created : Bool)
    (hi : s.ins i = some inp) :
    (startInputStream i ready created s).1 = if ready then 0 else -enomem := by
  rw [startInputStream, hi]
  cases ready <;> rfl

theorem desk_beginRead (i : InId) (ready created : Bool) :
    (beginRead i ready created s).2.desk = s.desk.startInput i ready := by
  have hp : s.desk.input i = (s.ins i).map (·.capturing) := rfl
  unfold beginRead
  cases hi : s.ins i with
  | none => simp only [desk_fault, Desk.startInput, hp, hi, Option.map_none]
  | some inp =>
    have hp : s.desk.input i = some (!inp.standby, inp.device) := by rw [hp, hi]; rfl
    cases hs : inp.standby with
    | false =>
      simp only [hs, Desk.startInput, hp, Bool.not_false, Bool.false_eq_true, if_false]
    | true =>
      have hi' : s.desk.input i = some (false, inp.device) := by rw [hp, hs]; rfl
      have hd := desk_startInputStream s ready created hi'
      simp only [hs, if_true, startInputStream_fst s ready created hi]
      cases ready with
      | true => exact hd
      | false => exact hd

theorem desk_outWriteForce : (outWriteForce s).desk = s.desk.forceInput s.activeInput :=
  desk_forceInput (s.pthreadMutexLock .device)

theorem ins_doOutputStandby (o : OutId) : (doOutputStandby o s).ins = s.ins := by
  have hc : ∀ h, (s.pcmClose h).ins = s.ins := by
    intro h
    unfold Hal.pcmClose
    split
    · split <;> rfl
    · rfl
  have he : ∀ (t : Hal α) e, (t.echoUse? e).ins = t.ins := by
    intro t e
    unfold Hal.echoUse? Hal.echoUse
    split
    · split <;> rfl
    · rfl
  unfold doOutputStandby
  split
  · rfl
  · next out _ =>
    split
    · rfl
    · refine (he _ _).trans ?_
      unfold routeOutputStandby
      split
      · exact hc out.pcm
      · exact hc out.pcm

theorem voiceInputActive_doOutputStandby (o : OutId) :
    (doOutputStandby o s).voiceInputActive = s.voiceInputActive := by
  simp only [Hal.voiceInputActive, activeInput_doOutputStandby, ins_doOutputStandby]

theorem desk_setOutputRouting (o : OutId) (val : Devices) :
    (if (setOutputRouting o val s).1 then
        forceInput ((setOutputRouting o val s).2.pthreadMutexUnlock (.out o))
      else (setOutputRouting o val s).2.pthreadMutexUnlock (.out o)).desk =
      s.desk.runOps (rerouteOps s o val) := by
  have hd : ∀ t : Hal α, (selectOutputDevice (t.setOutDevice val)).desk = t.desk.setOutDevice val :=
    fun t => desk_selectOutputDevice _
  have hr : ∀ (t : Hal α) r, (t.setRoute? r).activeInput = t.activeInput := by
    intro t r
    cases r <;> rfl
  have ha : ∀ t : Hal α, (selectOutputDevice (t.setOutDevice val)).activeInput = t.activeInput := by
    intro t
    simp only [selectOutputDevice, setIncallDevice]
    split
    · rw [hr, hr]
      rfl
    · rw [hr]
      rfl
  unfold setOutputRouting rerouteOps rerouteOutput
  split
  · split
    · simp only [voiceInputActive_doOutputStandby]
      split
      · rw [desk_forceInput, desk_unlock, hd, desk_doOutputStandby]
        show Desk.forceInput _ (selectOutputDevice _).activeInput = _
        rw [ha, activeInput_doOutputStandby]
        exact (runOps_forceOps _ _).symm
      · rw [desk_unlock, hd, desk_doOutputStandby]
        rfl
    · simp only [Bool.false_eq_true, if_false, desk_unlock, hd]
      rfl
  · rfl

theorem desk_outSetParameters (o : OutId) (kvpairs : KvPairs) :
    (outSetParameters o kvpairs s).2.desk =
      match strParmsGetStr kvpairs audioParameterStreamRouting with
      | some (_, value) => s.desk.runOps (rerouteOps s o (atoi value))
      | none => s.desk := by
  unfold outSetParameters
  cases strParmsGetStr kvpairs audioParameterStreamRouting with
  | none => rfl
  | some r => exact desk_setOutputRouting (s.lockBoth (.out o)) o (atoi r.2)

theorem desk_setInputParameters (i : InId) (kvpairs : KvPairs) :
    (setInputParameters i kvpairs s).desk = s.desk.runOps (inputOps s i kvpairs) := by
  unfold setInputParameters inputOps
  cases hi : s.ins i with
  | none => rfl
  | some inp =>
    have hst : (inputParameters kvpairs inp).1.standby = inp.standby :=
      inputParameters_frame (·.standby) (fun _ _ => rfl) (fun _ _ => rfl) kvpairs inp
    have hm : (s.modIn i fun _ => (inputParameters kvpairs inp).1).desk =
        s.desk.setDevice i (inputParameters kvpairs inp).1.device := by
      have hp : s.desk.input i = some inp.capturing := by
        show (s.ins i).map _ = _
        rw [hi, Option.map_some]
      rw [desk_modIn, hi, Desk.setDevice, hp]
      simp only [Option.map_some, OmapStreamIn.capturing, hst]
    simp only
    split
    · rw [desk_doInputStandby, hm, Desk.stopInput_setDevice]
      rfl
    · exact hm

theorem desk_effectChanged (i : InId) (effect : Effect) (need : Bool) :
    (effectChanged i effect need s).desk = if effect.aec then s.desk.stopInput i else s.desk := by
  unfold effectChanged
  split
  · refine (desk_doInputStandby _ i).trans ?_
    rw [desk_modIn_same s i (by exact fun _ => rfl)]
  · rfl

theorem desk_addEffect (i : InId) (effect : Effect) (desc : Int) :
    (addEffect i effect desc s).2.desk =
      if (addEffect i effect desc s).1 = 0 ∧ effect.aec then s.desk.stopInput i else s.desk := by
  have hn : ¬ (-enosys : Int) = 0 := by decide
  unfold addEffect
  split
  · exact (if_neg fun h => hn h.1).symm
  · split
    · exact (if_neg fun h => hn h.1).symm
    · split
      · next hd => exact (if_neg fun h => hd h.1).symm
      · have ha : (appendEffect i effect s).desk = s.desk := desk_modIn_same s i fun _ => rfl
        rw [desk_effectChanged, ha]
        simp only [true_and]

theorem desk_dropEffect (i : InId) (effect : Effect) (desc : Int) :
    (dropEffect i effect desc s).2.desk =
      if (dropEffect i effect desc s).1 = 0 ∧ effect.aec then s.desk.stopInput i else s.desk := by
  have hn : ¬ (-enosys : Int) = 0 := by decide
  unfold dropEffect
  split
  · exact (if_neg fun h => hn h.1).symm
  · split
    · exact (if_neg fun h => hn h.1).symm
    · have ha : ∀ slots, (storeEffects i slots s).desk = s.desk :=
        fun slots => desk_modIn_same s i fun _ => rfl
      simp only
      split
      · exact (if_neg fun h => einval_ne_zero h.1).symm
      · split
        · next hd => exact (ha _).trans (if_neg fun h => hd h.1).symm
        · rw [desk_effectChanged, ha]
          simp only [true_and]

theorem desk_changeTtyMode (t : TtyMode) :
    (changeTtyMode t s).desk = if t ≠ s.ttyMode then s.desk.setTtyMode t else s.desk := by
  unfold changeTtyMode
  split
  · have hm : s.desk.mode = s.mode := rfl
    rw [Desk.setTtyMode, hm]
    split
    · exact desk_selectOutputDevice _
    · rfl
  · rfl

theorem desk_adevSetParameters (kvpairs : KvPairs) :
    (adevSetParameters kvpairs s).2.desk =
      match newTtyMode s kvpairs with
      | some ttyMode => s.desk.setTtyMode ttyMode
      | none => s.desk := by
  have hb : ∀ t : Hal α, (match strParmsGetStr kvpairs audioParameterKeyBtNrec with
      | some (ret, value) => ((ret : Int), { t with bluetoothNrec := value = "on" })
      | none => (-enoent, t)).2.desk = t.desk := by
    intro t
    split <;> rfl
  unfold adevSetParameters setTtyParameter newTtyMode
  cases strParmsGetStr kvpairs audioParameterKeyTtyMode with
  | none => exact hb s
  | some r =>
    cases ht : ttyModeOf r.2 with
    | none => simp [ht]
    | some t =>
      simp only [ht, Option.map_some, Option.bind_some, Option.filter_some]
      refine (hb _).trans ((desk_changeTtyMode (s.pthreadMutexLock .device) t).trans ?_)
      rw [show (s.pthreadMutexLock .device).ttyMode = s.ttyMode from rfl, desk_lock]
      by_cases h : t = s.ttyMode
      · rw [if_neg (not_not.mpr h), if_neg (by simpa using h)]
      · rw [if_pos h, if_pos (by simpa using h)]

theorem desk_useOutput (out : OmapStreamOut) : (useOutput out s).desk = s.desk := by
  unfold useOutput
  cases out.echoReference with
  | none => exact desk_pcmUse s _
  | some e => simp only [desk_pcmUse, desk_echoUse]

theorem desk_outWriteData (o : OutId) (ok : Bool) : (outWriteData o ok s).desk = s.desk := by
  rw [outWriteData, desk_unlock]
  unfold writeData
  split
  · rfl
  · split
    · split
      · rw [desk_useOutput]
        exact desk_modOut_same s o fun _ => rfl
      · rfl
    · exact desk_useOutput s _

theorem desk_useInput (i : InId) (inp : OmapStreamIn α) (before after : Track α) :
    (useInput i inp before after s).desk = s.desk := by
  have h1 : (if after.pcmUses ≠ before.pcmUses then s.pcmUse inp.pcm else s).desk = s.desk := by
    split
    · exact desk_pcmUse s _
    · rfl
  unfold useInput
  generalize (if after.pcmUses ≠ before.pcmUses then s.pcmUse inp.pcm else s) = t at h1 ⊢
  simp only
  split <;> split <;> simp only [desk_fault, desk_echoUse?, h1]

theorem desk_outWrite (o : OutId) (ready : Bool) :
    (outWrite o ready s).2.desk = s.desk.startOutput o ready := by
  have h := desk_beginWrite (s.lockBoth (.out o)) o ready
  unfold outWrite
  simp only
  split
  · exact h
  · exact h

theorem desk_inRead (i : InId) (ready created : Bool) :
    (inRead i ready created s).2.desk = s.desk.startInput i ready := by
  have h := desk_beginRead (s.lockBoth (.inp i)) i ready created
  unfold inRead
  simp only
  split
  · exact h
  · exact h

end

section
variable {α : Type} [Zero α] {s t : Hal α}

theorem desk_inReadData (i : InId) (frames : Nat) (dst : List α) (script : ReadScript α) :
    (inReadData i frames dst script s).2.2.desk = s.desk := by
  unfold inReadData
  split
  · rfl
  · next inp _ =>
    have h : ∀ r : Capture α, ((useInput i inp inp.capture.track r.track s).modIn i fun inp =>
        { inp with capture := r }).desk = s.desk := by
      intro r
      refine (desk_modIn_same _ i ?_).trans (desk_useInput s i inp _ _)
      exact fun _ => rfl
    simp only
    split
    · exact h _
    · exact h _

theorem desk_act (e : Event α) : (act e s).desk = s.desk.runOps (deskOps s e) := by
  cases e with
  | openOutputStream o d a r =>
    refine (desk_adevOpenOutputStream s o d a r).trans ?_
    rw [deskOps, Desk.runOps_ite]
    rfl
  | closeOutputStream o => exact (desk_freeOutput _ o).trans (by rw [desk_outStandby]; rfl)
  | openInputStream i d c env =>
    refine (desk_adevOpenInputStream s i d c env).trans ?_
    rw [deskOps, Desk.runOps_ite]
    rfl
  | closeInputStream i => exact (desk_freeInput _ i).trans (by rw [desk_inStandby]; rfl)
  | outWrite o ready =>
    refine Eq.trans ?_ (desk_outWrite s o ready)
    simp only [act]
    split <;> rfl
  | outWriteData o force ok => exact desk_outWriteData s o ok
  | outWriteForce => exact (desk_outWriteForce s).trans (runOps_forceOps _ _).symm
  | outStandby o => exact desk_outStandby s o
  | outSetParameters o kv =>
    refine (desk_outSetParameters s o kv).trans ?_
    rw [deskOps]
    split <;> rfl
  | inRead i n ready created =>
    refine Eq.trans ?_ (desk_inRead s i ready created)
    simp only [act]
    split <;> rfl
  | inReadData i n dst script => exact desk_inReadData i n dst script
  | inStandby i => exact desk_inStandby s i
  | inSetParameters i kv => exact desk_setInputParameters (s.lockBoth (.inp i)) i kv
  | inAddAudioEffect i e d =>
    refine (desk_addEffect (s.lockBoth (.inp i)) i e d).trans ?_
    rw [deskOps, Desk.runOps_ite]
    rfl
  | inRemoveAudioEffect i e d =>
    refine (desk_dropEffect (s.lockBoth (.inp i)) i e d).trans ?_
    rw [deskOps, Desk.runOps_ite]
    rfl
  | setParameters kv =>
    refine (desk_adevSetParameters s kv).trans ?_
    rw [deskOps]
    split <;> rfl
  | setMode mode => exact desk_changeMode (s.pthreadMutexLock .device) mode
  | setVoiceVolume v => exact desk_adevSetVoiceVolume s v
  | setMicMute b => rfl

/-! ### What an entry point returns does not depend on the lock steps recorded so far -/

omit [Zero α] in
theorem ret_openOutput_clearTrace (o : OutId) (d : Devices) (a r : Bool) :
    (adevOpenOutputStream o d a r s.clearTrace).1 = (adevOpenOutputStream o d a r s).1 := by
  unfold adevOpenOutputStream
  split
  · rfl
  · split <;> rfl

omit [Zero α] in
theorem ret_openInput_clearTrace (i : InId) (d : Devices) (c : AudioConfig) (env : OpenEnv α) :
    (adevOpenInputStream i d c env s.clearTrace).1 = (adevOpenInputStream i d c env s).1 := by
  unfold adevOpenInputStream
  repeat' split
  all_goals rfl

omit [Zero α] in
theorem ret_addEffect_clearTrace (i : InId) (e : Effect) (d : Int) :
    (inAddAudioEffect i e d s.clearTrace).1 = (inAddAudioEffect i e d s).1 := by
  show (addEffect i e d _).1 = (addEffect i e d _).1
  unfold addEffect
  rw [show (s.clearTrace.lockBoth (.inp i)).ins i = (s.lockBoth (.inp i)).ins i from rfl]
  cases (s.lockBoth (.inp i)).ins i with
  | none => rfl
  | some inp =>
    simp only
    split
    · rfl
    · split <;> rfl

omit [Zero α] in
theorem ret_removeEffect_clearTrace (i : InId) (e : Effect) (d : Int) :
    (inRemoveAudioEffect i e d s.clearTrace).1 = (inRemoveAudioEffect i e d s).1 := by
  show (dropEffect i e d _).1 = (dropEffect i e d _).1
  unfold dropEffect
  rw [show (s.clearTrace.lockBoth (.inp i)).ins i = (s.lockBoth (.inp i)).ins i from rfl]
  cases (s.lockBoth (.inp i)).ins i with
  | none => rfl
  | some inp =>
    simp only
    split
    · rfl
    · split
      · rfl
      · split <;> rfl

omit [Zero α] in
theorem deskOps_clearTrace (e : Event α) : deskOps s.clearTrace e = deskOps s e := by
  cases e with
  | openOutputStream o d a r => rw [deskOps, deskOps, ret_openOutput_clearTrace]
  | openInputStream i d c env => rw [deskOps, deskOps, ret_openInput_clearTrace]
  | inAddAudioEffect i e d => rw [deskOps, deskOps, ret_addEffect_clearTrace]
  | inRemoveAudioEffect i e d => rw [deskOps, deskOps, ret_removeEffect_clearTrace]
  | _ => rfl

/-- The desk `adev_open` routes, but for the voice volume and the TTY mode it sets afterwards. -/
def Desk.calloc (m : Mixer) : Desk where
  mixer := (setRouteByArray routeSpeaker m).2
  mode := audioModeNormal
  outDevice := audioDeviceOutSpeaker
  inDevice := audioDeviceInBuiltinMic &&& ~~~audioDeviceBitIn
  inCall := false
  voiceVolume := ⟨0, Volume.zero_mem⟩
  ttyMode := .off
  output := fun _ => none
  input := fun _ => none

omit [Zero α] in
theorem desk_openDevice (m : Mixer) : (openDevice m : Hal α).desk =
    { (Desk.calloc m).selectOutput with voiceVolume := Volume.max, ttyMode := .off } :=
  congrArg (fun d : Desk => { d with voiceVolume := Volume.max, ttyMode := .off })
    (desk_selectOutputDevice
      { (callocDevice m : Hal α).setRoute routeSpeaker with
        mode := audioModeNormal
        outDevice := audioDeviceOutSpeaker
        inDevice := audioDeviceInBuiltinMic &&& ~~~audioDeviceBitIn })

theorem desk_step {e : Event α} (h : step s e = some t) : t.desk = s.desk.runOps (deskOps s e) := by
  obtain ⟨-, -, rfl⟩ := step_some h
  refine (desk_act (s := s.clearTrace) e).trans ?_
  rw [deskOps_clearTrace]
  rfl

end

end P970.Audio
