import P970.Lib.Drain
import P970.Audio.Entry

/-!
# The locks of the entry points

What each function does to `trace`: the functions below the entry points take
and give back stream locks in pairs (`Locks`), under the device lock and at most
the one stream lock the caller already has. Every entry point is therefore a
disciplined program for the ranks device, input stream, output stream, and
`locks_ordered` says what that means for threads that call the HAL at will, and
`locks_drain` that they all get out again, as long as the loops inside the calls
come to an end.
-/

namespace P970.Audio

open P970.LockOrder

def Mutex.rank : Mutex → Nat
  | .out _ => 0
  | .inp _ => 1
  | .device => 2

section
variable {α : Type} {s s' s'' : Hal α} {n k : Nat}

/-- `s'` comes from `s` by code that leaves the mutexes as it found them, and that may hold
mutexes of rank `n` and above. -/
def Locks (n : Nat) (s s' : Hal α) : Prop :=
  ∃ t, s'.trace = s.trace ++ t ∧ Neutral Mutex.rank n t

theorem Locks.of_eq (h : s'.trace = s.trace) : Locks n s s' :=
  ⟨[], by rw [h, List.append_nil], neutral_nil n⟩

theorem Locks.trans (h : Locks n s s') (h' : Locks n s' s'') : Locks n s s'' := by
  obtain ⟨t, ht, hn⟩ := h
  obtain ⟨t', ht', hn'⟩ := h'
  exact ⟨t ++ t', by rw [ht', ht, List.append_assoc], hn.append hn'⟩

/-- Code between the lock and the unlock of `m`. -/
theorem Locks.bracket {m : Mutex} (hm : m.rank < n) (h : Locks m.rank (s.pthreadMutexLock m) s') :
    Locks n s (s'.pthreadMutexUnlock m) := by
  obtain ⟨t, ht, hn⟩ := h
  refine ⟨.lock m :: t ++ [.unlock m], ?_, hn.bracket hm⟩
  simp only [Hal.pthreadMutexUnlock, ht, Hal.pthreadMutexLock, List.append_assoc, List.cons_append,
    List.nil_append]

/-! ## Functions that take no lock -/

@[simp] theorem trace_ite (c : Prop) [Decidable c] :
    (if c then s else s').trace = if c then s.trace else s'.trace := apply_ite ..

@[simp] theorem trace_lock (m : Mutex) : (s.pthreadMutexLock m).trace = s.trace ++ [.lock m] := rfl

@[simp] theorem trace_unlock (m : Mutex) :
    (s.pthreadMutexUnlock m).trace = s.trace ++ [.unlock m] := rfl

@[simp] theorem trace_fault (f : Fault) : (s.fault f).trace = s.trace := rfl

@[simp] theorem trace_modOut (o : OutId) (f) : (s.modOut o f).trace = s.trace := rfl

@[simp] theorem trace_modIn (i : InId) (f) : (s.modIn i f).trace = s.trace := rfl

@[simp] theorem trace_setRoute (r : Route) : (s.setRoute r).trace = s.trace := rfl

@[simp] theorem trace_setActiveOutput (o : Option OutId) :
    (s.setActiveOutput o).trace = s.trace := rfl

@[simp] theorem trace_setActiveInput (i : Option InId) : (s.setActiveInput i).trace = s.trace := rfl

@[simp] theorem trace_setEchoReference (e : Option Nat) :
    (s.setEchoReference e).trace = s.trace := rfl

@[simp] theorem trace_setOutDevice (d : Devices) : (s.setOutDevice d).trace = s.trace := rfl

@[simp] theorem trace_setInDevice (d : Devices) : (s.setInDevice d).trace = s.trace := rfl

@[simp] theorem trace_setMode (m : Int) : (s.setMode m).trace = s.trace := rfl

@[simp] theorem trace_setInCall (b : Bool) : (s.setInCall b).trace = s.trace := rfl

@[simp] theorem trace_pcmOpen : s.pcmOpen.trace = s.trace := rfl

@[simp] theorem trace_createEchoReference : s.createEchoReference.trace = s.trace := rfl

@[simp] theorem trace_pcmClose (h : Option Nat) : (s.pcmClose h).trace = s.trace := by
  unfold Hal.pcmClose
  split
  · split <;> rfl
  · rfl

@[simp] theorem trace_pcmUse (h : Option Nat) : (s.pcmUse h).trace = s.trace := by
  unfold Hal.pcmUse
  split
  · split <;> rfl
  · rfl

@[simp] theorem trace_releaseEchoReference (e : Nat) :
    (s.releaseEchoReference e).trace = s.trace := by
  unfold Hal.releaseEchoReference
  split <;> rfl

@[simp] theorem trace_echoUse (e : Nat) : (s.echoUse e).trace = s.trace := by
  unfold Hal.echoUse
  split <;> rfl

@[simp] theorem trace_echoUse? (e : Option Nat) : (s.echoUse? e).trace = s.trace := by
  cases e
  · rfl
  · exact trace_echoUse _

@[simp] theorem trace_setRoute? (r : Option Route) : (s.setRoute? r).trace = s.trace := by
  cases r <;> rfl

@[simp] theorem trace_selectInputDevice : (selectInputDevice s).trace = s.trace :=
  trace_setRoute? _

@[simp] theorem trace_selectOutputDevice : (selectOutputDevice s).trace = s.trace := by
  simp only [selectOutputDevice, setIncallDevice, trace_ite, trace_setRoute?, ite_self]

@[simp] theorem trace_adevSetVoiceVolume (v : Volume) :
    (adevSetVoiceVolume v s).trace = s.trace := by
  unfold adevSetVoiceVolume
  split <;> rfl

@[simp] theorem trace_callDevices : (callDevices s).trace = s.trace := by
  unfold callDevices
  split <;> rfl

@[simp] theorem trace_unrouteInput : (unrouteInput s).trace = s.trace := by
  simp only [unrouteInput, trace_setRoute, trace_selectInputDevice, trace_setInDevice]

@[simp] theorem trace_outsideCall {f : Hal α → Hal α} (hf : ∀ s, (f s).trace = s.trace) :
    (s.outsideCall f).trace = s.trace := by
  simp only [Hal.outsideCall, trace_ite, hf, ite_self]

@[simp] theorem trace_doOutputStandby (o : OutId) : (doOutputStandby o s).trace = s.trace := by
  unfold doOutputStandby
  split
  · rfl
  · split
    · rfl
    · simp [routeOutputStandby]

@[simp] theorem trace_claimOutput (o : OutId) : (claimOutput o s).trace = s.trace := by
  rw [claimOutput, trace_outsideCall fun _ => trace_selectOutputDevice]
  rfl

@[simp] theorem trace_claimInput (i : InId) (d : Devices) : (claimInput i d s).trace = s.trace := by
  rw [claimInput, trace_outsideCall fun _ => by rw [trace_selectInputDevice, trace_setInDevice]]
  rfl

@[simp] theorem trace_shareEchoReference (o : OutId) : (shareEchoReference o s).trace = s.trace := by
  unfold shareEchoReference
  split <;> rfl

@[simp] theorem trace_startOutputStream (o : OutId) (ready : Bool) :
    (startOutputStream o ready s).2.trace = s.trace := by
  cases ready <;> simp [startOutputStream, openOutputPcm]

@[simp] theorem trace_openInputPcm (i : InId) (ready : Bool) :
    (openInputPcm i ready s).2.trace = s.trace := by
  cases ready <;> simp [openInputPcm]

/-! ## Functions that take stream locks -/

theorem locks_addEchoReference (o : OutId) (e : Option Nat) :
    Locks 1 s (addEchoReference o e s) := by
  refine Locks.bracket (m := .out o) Nat.one_pos (.of_eq ?_)
  unfold attachEchoReference
  split <;> rfl

theorem locks_removeEchoReference (o : OutId) (e : Nat) :
    Locks 1 s (removeEchoReference o e s) := by
  refine Locks.bracket (m := .out o) Nat.one_pos (.of_eq ?_)
  unfold detachEchoReference
  split
  · split
    · rw [trace_modOut, trace_echoUse]
    · rfl
  · rfl

theorem locks_removeFromActive (e : Nat) : Locks 1 s (removeFromActive e s) := by
  unfold removeFromActive
  split
  · exact locks_removeEchoReference _ _
  · exact .of_eq rfl

theorem locks_putEchoReference (e : Option Nat) : Locks 1 s (putEchoReference e s) := by
  unfold putEchoReference
  split
  · split
    · next e _ _ =>
      refine (locks_removeFromActive e).trans (.of_eq ?_)
      rw [trace_setEchoReference, trace_releaseEchoReference]
    · exact .of_eq rfl
  · exact .of_eq rfl

theorem locks_newEchoReference (created : Bool) : Locks 1 s (newEchoReference created s) := by
  unfold newEchoReference
  split
  · split
    · exact (Locks.of_eq trace_createEchoReference).trans (locks_addEchoReference _ _)
    · exact .of_eq rfl
  · exact .of_eq rfl

theorem locks_getEchoReference (created : Bool) : Locks 1 s (getEchoReference created s) :=
  (locks_putEchoReference _).trans (locks_newEchoReference created)

theorem locks_dropEchoReference (e : Option Nat) : Locks 1 s (dropEchoReference e s) := by
  cases e with
  | none => exact .of_eq rfl
  | some e => exact (Locks.of_eq (trace_echoUse e)).trans (locks_putEchoReference _)

theorem locks_doInputStandby (i : InId) : Locks 1 s (doInputStandby i s) := by
  unfold doInputStandby
  split
  · exact .of_eq rfl
  · split
    · exact .of_eq rfl
    · refine Locks.trans (.of_eq ?_) ((locks_dropEchoReference _).trans (.of_eq rfl))
      rw [trace_outsideCall fun _ => trace_unrouteInput, trace_setActiveInput, trace_pcmClose]

theorem locks_forceInput : Locks 2 s (forceInput s) := by
  unfold forceInput
  split
  · exact .bracket Nat.one_lt_two (locks_doInputStandby _)
  · exact .of_eq rfl

theorem locks_forceAllStandby : Locks 2 s (forceAllStandby s) := by
  refine Locks.trans ?_ locks_forceInput
  unfold forceOutput
  split
  · exact .bracket Nat.two_pos (.of_eq (trace_doOutputStandby _))
  · exact .of_eq rfl

theorem locks_selectMode : Locks 2 s (selectMode s) := by
  unfold selectMode
  split
  · split
    · exact .of_eq rfl
    · refine locks_forceAllStandby.trans (.of_eq ?_)
      simp only [applyVoiceVolume, trace_setInCall, trace_adevSetVoiceVolume,
        trace_selectOutputDevice, trace_callDevices]
  · split
    · refine (Locks.of_eq (trace_setInCall false)).trans (locks_forceAllStandby.trans (.of_eq ?_))
      rw [trace_selectInputDevice, trace_selectOutputDevice]
    · exact .of_eq rfl

theorem locks_changeMode (mode : Int) : Locks 2 s (changeMode mode s) := by
  unfold changeMode
  split
  · exact (Locks.of_eq (trace_setMode mode)).trans locks_selectMode
  · exact .of_eq rfl

theorem locks_takeEchoReference (i : InId) (created : Bool) :
    Locks 1 s (takeEchoReference i created s) :=
  (locks_getEchoReference created).trans (.of_eq rfl)

theorem locks_startInputStream (i : InId) (ready created : Bool) :
    Locks 1 s (startInputStream i ready created s).2 := by
  unfold startInputStream
  split
  · exact .of_eq rfl
  · next inp _ =>
    refine Locks.trans ?_ (.of_eq (trace_openInputPcm _ _))
    have h : (remixInput i inp (claimInput i inp.device s)).trace = s.trace := by
      simp only [remixInput, setupStereoToMonoInputRemix, trace_ite, trace_modIn, ite_self,
        trace_claimInput]
    refine (Locks.of_eq h).trans ?_
    unfold referenceInput
    split
    · exact locks_takeEchoReference i created
    · exact .of_eq rfl

/-! ## The entry points -/

theorem locks_lockBoth {m : Mutex} (hm : m.rank ≤ 1) (h : Locks m.rank (s.lockBoth m) s') :
    Locks 3 s (s'.unlockBoth m) :=
  .bracket (m := Mutex.device) (by decide) (.bracket (Nat.lt_succ_of_le hm) h)

theorem locks_outStandby (o : OutId) : Locks 3 s (outStandby o s) :=
  locks_lockBoth (Nat.zero_le 1) (.of_eq (trace_doOutputStandby o))

theorem locks_inStandby (i : InId) : Locks 3 s (inStandby i s) :=
  locks_lockBoth (Nat.le_refl 1) (locks_doInputStandby i)

theorem trace_setOutputRouting (o : OutId) (val : Devices) :
    (setOutputRouting o val s).2.trace = s.trace := by
  unfold setOutputRouting rerouteOutput
  split
  · split
    · simp
    · simp
  · rfl

theorem locks_outSetParameters (o : OutId) (kvpairs : KvPairs) :
    Locks 3 s (outSetParameters o kvpairs s).2 := by
  unfold outSetParameters
  split
  · exact .of_eq rfl
  · next ret value _ =>
    refine Locks.bracket (m := Mutex.device) (by decide) ?_
    refine (Locks.bracket (m := .out o) Nat.two_pos
      (.of_eq (trace_setOutputRouting o (atoi value)))).trans ?_
    split
    · exact locks_forceInput
    · exact .of_eq rfl

theorem locks_setInputParameters (i : InId) (kvpairs : KvPairs) :
    Locks 1 s (setInputParameters i kvpairs s) := by
  unfold setInputParameters
  split
  · exact .of_eq rfl
  · simp only
    split
    · exact (Locks.of_eq (trace_modIn i _)).trans (locks_doInputStandby i)
    · exact .of_eq rfl

theorem locks_effectChanged (i : InId) (effect : Effect) (need : Bool) :
    Locks 1 s (effectChanged i effect need s) := by
  unfold effectChanged
  split
  · exact (Locks.of_eq (trace_modIn i _)).trans (locks_doInputStandby i)
  · exact .of_eq rfl

theorem locks_addEffect (i : InId) (effect : Effect) (desc : Int) :
    Locks 1 s (addEffect i effect desc s).2 := by
  unfold addEffect
  split
  · exact .of_eq rfl
  · split
    · exact .of_eq rfl
    · split
      · exact .of_eq rfl
      · have h : (appendEffect i effect s).trace = s.trace := rfl
        exact (Locks.of_eq h).trans (locks_effectChanged i effect true)

theorem locks_dropEffect (i : InId) (effect : Effect) (desc : Int) :
    Locks 1 s (dropEffect i effect desc s).2 := by
  unfold dropEffect
  split
  · exact .of_eq rfl
  · split
    · exact .of_eq rfl
    · simp only
      split
      · exact .of_eq rfl
      · have h : ∀ slots, (storeEffects i slots s).trace = s.trace := fun _ => rfl
        split
        · exact .of_eq (h _)
        · exact (Locks.of_eq (h _)).trans (locks_effectChanged i effect false)

theorem trace_changeTtyMode (t : TtyMode) : (changeTtyMode t s).trace = s.trace := by
  unfold changeTtyMode
  split
  · split
    · rw [trace_selectOutputDevice]
      rfl
    · rfl
  · rfl

theorem locks_setTtyParameter (kvpairs : KvPairs) (h : setTtyParameter kvpairs s = some s') :
    Locks 3 s s' := by
  unfold setTtyParameter at h
  split at h
  · cases h
    exact .of_eq rfl
  · obtain ⟨t, -, rfl⟩ := Option.map_eq_some_iff.mp h
    exact .bracket (m := Mutex.device) (by decide) (.of_eq (trace_changeTtyMode t))

theorem locks_adevSetParameters (kvpairs : KvPairs) :
    Locks 3 s (adevSetParameters kvpairs s).2 := by
  unfold adevSetParameters
  split
  · exact .of_eq rfl
  · next t ht =>
    refine (locks_setTtyParameter kvpairs ht).trans (.of_eq ?_)
    split <;> rfl

theorem locks_outWriteForce : Locks 3 s (outWriteForce s) :=
  .bracket (m := Mutex.device) (by decide) locks_forceInput

/-- Before it releases the device lock, `out_write` has taken the two locks. -/
theorem trace_beginWrite (o : OutId) (ready : Bool) : (beginWrite o ready s).2.2.trace = s.trace := by
  unfold beginWrite
  split
  · rfl
  · split
    · simp only
      split
      · exact trace_startOutputStream o ready
      · rw [trace_modOut, trace_startOutputStream]
    · rfl

theorem locks_beginRead (i : InId) (ready created : Bool) :
    Locks 1 s (beginRead i ready created s).2 := by
  unfold beginRead
  split
  · exact .of_eq rfl
  · split
    · refine (locks_startInputStream i ready created).trans (.of_eq ?_)
      simp only
      split <;> rfl
    · exact .of_eq rfl

theorem trace_useOutput (out : OmapStreamOut) : (useOutput out s).trace = s.trace := by
  simp only [useOutput, trace_pcmUse]
  split
  · rw [trace_echoUse, trace_pcmUse]
  · rfl

theorem trace_writeData (o : OutId) (ok : Bool) : (writeData o ok s).trace = s.trace := by
  unfold writeData
  split
  · rfl
  · split
    · split
      · rw [trace_useOutput, trace_modOut]
      · rfl
    · exact trace_useOutput _

theorem trace_useInput (i : InId) (inp : OmapStreamIn α) (b a : Track α) :
    (useInput i inp b a s).trace = s.trace := by
  simp only [useInput, trace_ite, trace_fault, trace_echoUse?, trace_pcmUse, ite_self]

end

section
variable {α : Type} [Zero α]

/-- An entry point that is one event. -/
def Event.whole : Event α → Bool
  | .outWrite .. | .outWriteData .. | .outWriteForce | .inRead .. | .inReadData .. => false
  | _ => true

/-- The lock steps of an `out_write` whose parts start in `s₁`, `s₂` and `s₃`. -/
def outWriteTrace (o : OutId) (ready resamplerOk : Bool) (s₁ s₂ s₃ : Hal α) : List (Op Mutex) :=
  let r := outWrite o ready s₁.clearTrace
  match r.1 with
  | none => r.2.trace
  | some force =>
    r.2.trace ++ (outWriteData o resamplerOk s₂.clearTrace).trace ++
      if force then (outWriteForce s₃.clearTrace).trace else []

/-- The lock steps of an `in_read` whose parts start in `s₁` and `s₂`. -/
def inReadTrace (i : InId) (frames : Nat) (ready created : Bool) (dst : List α)
    (script : ReadScript α) (s₁ s₂ : Hal α) : List (Op Mutex) :=
  let r := inRead i ready created s₁.clearTrace
  if r.1 then r.2.trace ++ (inReadData i frames dst script s₂.clearTrace).2.2.trace
  else r.2.trace

variable (α) in
/-- The lock steps of the entry points, on every branch, from entry to return: the reads of an
`in_read` are ones that return, and the throttle loop of an `out_write`, which takes no lock, has
been left. The device may be in any state; a part that goes on without the device lock may find
another state than the part before left. -/
inductive EntryTrace : List (Op Mutex) → Prop where
  | event (e : Event α) (s : Hal α) : e.whole → EntryTrace (act e s.clearTrace).trace
  | outWrite (o : OutId) (ready resamplerOk : Bool) (s₁ s₂ s₃ : Hal α) :
      EntryTrace (outWriteTrace o ready resamplerOk s₁ s₂ s₃)
  | inRead (i : InId) (frames : Nat) (ready created : Bool) (dst : List α) (script : ReadScript α)
      (s₁ s₂ : Hal α) : (inReadData i frames dst script s₂.clearTrace).1.isSome →
      EntryTrace (inReadTrace i frames ready created dst script s₁ s₂)

omit [Zero α] in
theorem Locks.disciplined {s s' : Hal α} (h : Locks 3 s.clearTrace s') :
    Disciplined Mutex.rank s'.trace := by
  obtain ⟨t, ht, hn⟩ := h
  rw [ht]
  exact hn.disciplined

theorem locks_act (e : Event α) (he : e.whole) (s : Hal α) : Locks 3 s (act e s) := by
  cases e with
  | openOutputStream o d a r =>
    refine .of_eq ?_
    simp only [act, adevOpenOutputStream, apply_ite Prod.snd, trace_ite, ite_self]
  | closeOutputStream o => exact (locks_outStandby o).trans (.of_eq rfl)
  | openInputStream i d c env =>
    refine .of_eq ?_
    simp only [act, adevOpenInputStream, apply_ite Prod.snd, trace_ite, ite_self]
  | closeInputStream i => exact (locks_inStandby i).trans (.of_eq rfl)
  | outWrite | outWriteData | outWriteForce | inRead | inReadData => cases he
  | outStandby o => exact locks_outStandby o
  | outSetParameters o kv => exact locks_outSetParameters o kv
  | inStandby i => exact locks_inStandby i
  | inSetParameters i kv => exact locks_lockBoth (Nat.le_refl 1) (locks_setInputParameters i kv)
  | inAddAudioEffect i e d => exact locks_lockBoth (Nat.le_refl 1) (locks_addEffect i e d)
  | inRemoveAudioEffect i e d => exact locks_lockBoth (Nat.le_refl 1) (locks_dropEffect i e d)
  | setParameters kv => exact locks_adevSetParameters kv
  | setMode mode => exact .bracket (m := Mutex.device) (by decide) (locks_changeMode mode)
  | setVoiceVolume v => exact .of_eq (trace_adevSetVoiceVolume v)
  | setMicMute b => exact .of_eq rfl

omit [Zero α] in
theorem trace_lockBoth (m : Mutex) (s : Hal α) :
    (s.clearTrace.lockBoth m).trace = [.lock .device, .lock m] := rfl

omit [Zero α] in
theorem trace_outWrite (o : OutId) (ready : Bool) (s : Hal α) :
    (outWrite o ready s.clearTrace).2.trace = [.lock .device, .lock (.out o), .unlock .device] ++
      if (outWrite o ready s.clearTrace).1.isNone then [.unlock (.out o)] else [] := by
  simp only [outWrite]
  split <;> simp [trace_beginWrite, trace_lockBoth]

omit [Zero α] in
theorem trace_outWriteData (o : OutId) (ok : Bool) (s : Hal α) :
    (outWriteData o ok s.clearTrace).trace = [.unlock (.out o)] := by
  rw [outWriteData, trace_unlock, trace_writeData]
  rfl

omit [Zero α] in
theorem trace_inRead (i : InId) (ready created : Bool) (s : Hal α) :
    ∃ t, Neutral Mutex.rank 1 t ∧ (inRead i ready created s.clearTrace).2.trace =
      .lock .device :: .lock (.inp i) :: t ++ .unlock .device ::
        if (inRead i ready created s.clearTrace).1 then [] else [.unlock (.inp i)] := by
  obtain ⟨t, ht, hn⟩ := locks_beginRead (s := s.clearTrace.lockBoth (.inp i)) i ready created
  refine ⟨t, hn, ?_⟩
  simp only [inRead]
  split <;> simp [ht, trace_lockBoth]

theorem trace_inReadData {i : InId} {frames : Nat} {dst : List α} {script : ReadScript α}
    {s : Hal α} (h : (inReadData i frames dst script s.clearTrace).1.isSome) :
    (inReadData i frames dst script s.clearTrace).2.2.trace = [.unlock (.inp i)] := by
  unfold inReadData at h ⊢
  split
  · next hs => simp [hs] at h
  · next inp hs =>
    simp only [hs] at h
    simp only [h, if_true, trace_unlock, trace_modIn, trace_useInput]
    rfl

/-- After `in_read` has the two locks and what it calls is done. -/
theorem after_inRead (i : InId) {t ops : List (Op Mutex)} (ht : Neutral Mutex.rank 1 t) :
    after Mutex.rank [] (.lock .device :: .lock (.inp i) :: t ++ .unlock .device :: ops) =
      after Mutex.rank [.inp i] ops := by
  have hin : ∀ m ∈ [Mutex.inp i, .device], 1 ≤ m.rank := by simp [Mutex.rank]
  rw [List.cons_append, List.cons_append, after_lock (by simp) (by simp),
    after_lock (by simp) (by simp [Mutex.rank]), after_append, ht _ hin]
  simp [after]

theorem EntryTrace.disciplined {ops : List (Op Mutex)} (h : EntryTrace α ops) :
    Disciplined Mutex.rank ops := by
  cases h with
  | event e s he => exact (locks_act e he s.clearTrace).disciplined
  | outWrite o ready ok s₁ s₂ s₃ =>
    have hf := (locks_outWriteForce (s := s₃.clearTrace)).disciplined
    have hw := trace_outWrite o ready s₁
    unfold outWriteTrace
    simp only
    split
    · next hr =>
      rw [hw, hr]
      simp [Disciplined, after, Mutex.rank]
    · next force hr =>
      rw [hw, hr, trace_outWriteData]
      cases force with
      | false => simp [Disciplined, after, Mutex.rank]
      | true => simpa [Disciplined, after, Mutex.rank] using hf
  | inRead i frames ready created dst script s₁ s₂ hd =>
    obtain ⟨t, ht, he⟩ := trace_inRead i ready created s₁
    unfold inReadTrace
    simp only
    split
    · next hr =>
      rw [he, hr, trace_inReadData hd, List.append_assoc]
      exact (after_inRead i ht).trans (by simp [after])
    · next hr =>
      rw [he, if_neg hr]
      exact (after_inRead i ht).trans (by simp [after])

/-- Threads that call the HAL at will: no thread locks a mutex it holds, one that waits while it
holds others waits for one that ranks below them, one that has returned holds nothing, and no
threads wait for each other in a cycle. -/
theorem locks_ordered {T : Type} [DecidableEq T] {c : T → Thread Mutex}
    (h : LockOrder.Reachable (EntryTrace α) c) :
    (∀ t m ops, (c t).rest = .lock m :: ops →
      m ∉ (c t).held ∧ ∀ k ∈ (c t).held, m.rank < k.rank) ∧
    (∀ t, (c t).rest = [] → (c t).held = []) ∧
    ¬ ∃ t, Relation.TransGen (Waits c) t t := by
  have ho : Ordered Mutex.rank c := h.ordered fun _ => EntryTrace.disciplined
  refine ⟨fun t m ops ht => ho.lock_new ht, fun t ht => ho.idle_held ht, ?_⟩
  rintro ⟨t, ht⟩
  exact ho.no_cycle t ht

/-- Of calls whose reads and throttle loops return: however the threads that are inside the HAL are
scheduled, they all get out of it, each way in the same number of steps, and none of them has to wait
for a call that has not begun. -/
theorem locks_drain {T : Type} [DecidableEq T] {c : T → Thread Mutex}
    (h : LockOrder.Reachable (EntryTrace α) c) : ∃ n, ∀ k c', WorkN k c c' →
      k ≤ n ∧ (k = n ↔ ∀ t, (c' t).rest = []) ∧ (k < n → ∃ c'', Work c' c'') := by
  have hp : ∀ ops, EntryTrace α ops → Disciplined Mutex.rank ops := fun _ => EntryTrace.disciplined
  exact h.drains hp

end

/-- Two threads in `adev_set_mode`: the first enters and takes the device lock, the second enters
and waits for it. -/
def twoThreads : Bool → Thread Mutex :=
  let ops := [.lock .device, .unlock .device]
  Function.update (Function.update (Function.update idle true ⟨[], ops⟩) true
    ⟨[.device], [.unlock .device]⟩) false ⟨[], ops⟩

theorem twoThreads_reachable : LockOrder.Reachable (EntryTrace Nat) twoThreads := by
  have hp : EntryTrace Nat [.lock .device, .unlock .device] :=
    .event (.setMode 0) (callocDevice fun _ => none) rfl
  have h1 : Step (EntryTrace Nat) idle (Function.update idle true ⟨[], _⟩) := .enter true rfl hp
  exact ((Relation.ReflTransGen.refl.tail h1).tail (.lock true rfl (by simp [idle]))).tail
    (.enter false rfl hp)

theorem locks_ordered_twoThreads :
    Waits twoThreads false true ∧ ¬ ∃ t, Relation.TransGen (Waits twoThreads) t t :=
  ⟨⟨.device, [.unlock .device], rfl, by simp [twoThreads]⟩,
    (locks_ordered twoThreads_reachable).2.2⟩

/-- The first thread unlocks, and the second locks and unlocks; there is no longer way out. -/
theorem locks_drain_twoThreads : ∃ c', WorkN 3 twoThreads c' ∧ (∀ t, (c' t).rest = []) ∧
    ∀ k c'', WorkN k twoThreads c'' → k ≤ 3 := by
  have h1 : Work twoThreads (Function.update twoThreads true ⟨[], []⟩) :=
    .unlock (m := Mutex.device) true rfl
  have h2 : Work _ (Function.update (Function.update twoThreads true ⟨[], []⟩) false
      ⟨[.device], [.unlock .device]⟩) := .lock (m := Mutex.device) false rfl (by decide)
  have h3 : Work _ (Function.update (Function.update (Function.update twoThreads true ⟨[], []⟩)
      false ⟨[.device], [.unlock .device]⟩) false ⟨[], []⟩) :=
    .unlock (m := Mutex.device) false rfl
  have hrun := WorkN.step h1 (.step h2 (.step h3 (.refl _)))
  obtain ⟨n, hn⟩ := locks_drain twoThreads_reachable
  have hout : 3 = n := (hn 3 _ hrun).2.1.mpr (by decide)
  exact ⟨_, hrun, by decide, fun k c'' hk => hout ▸ (hn k c'' hk).1⟩

end P970.Audio
