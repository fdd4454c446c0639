import P970.Audio.Locks

/-!
# Streams and pcm handles

Output and input streams as slots that lease pcm handles (`Hal.streams`): each
function below the entry points is an operation of `Pool` on this view, or leaves
it alone.
-/

namespace P970.Audio

open P970.LockOrder (Op)

inductive Dir where
  | out
  | inp
  deriving DecidableEq, Repr

inductive StreamKey where
  | out (o : OutId)
  | inp (i : InId)
  deriving DecidableEq, Repr

def StreamKey.dir : StreamKey → Dir
  | .out _ => .out
  | .inp _ => .inp

def StreamKey.mutex : StreamKey → Mutex
  | .out o => .out o
  | .inp i => .inp i

/-- The stream whose lock the call holds. -/
def Call.stream : Call → Option StreamKey
  | .outWrite o _ => some (.out o)
  | .outForce => none
  | .inRead i _ => some (.inp i)
  | .inLoop i => some (.inp i)

/-- A use of a pcm that is not open, or of a stream that is not. -/
def Fault.pcm : Fault → Bool
  | .echoRelease _ | .echoUse _ => false
  | _ => true

def OmapStreamOut.slot (out : OmapStreamOut) : Slot := ⟨out.standby, out.pcm⟩

def OmapStreamIn.slot {α : Type} (inp : OmapStreamIn α) : Slot := ⟨inp.standby, inp.pcm⟩

/-- The streams as a pool, the faults on them, and the calls in progress. -/
structure Streams extends Pool StreamKey Dir where
  faults : List Fault
  calls : List Call

section
variable {α : Type}

def Hal.slots (s : Hal α) : StreamKey → Option Slot
  | .out o => (s.outs o).map OmapStreamOut.slot
  | .inp i => (s.ins i).map OmapStreamIn.slot

def Hal.actives (s : Hal α) : Dir → Option StreamKey
  | .out => s.activeOutput.map .out
  | .inp => s.activeInput.map .inp

def Hal.streams (s : Hal α) : Streams where
  slot := s.slots
  active := s.actives
  ledger := s.pcms
  faults := s.faults.filter Fault.pcm
  calls := s.calls

variable (s : Hal α)

theorem active_out : s.streams.active .out = s.activeOutput.map .out := rfl

theorem active_inp : s.streams.active .inp = s.activeInput.map .inp := rfl

/-! ## The fields of a state -/

@[simp] theorem streams_lock (m : Mutex) : (s.pthreadMutexLock m).streams = s.streams := rfl

@[simp] theorem streams_unlock (m : Mutex) : (s.pthreadMutexUnlock m).streams = s.streams := rfl

@[simp] theorem streams_unlockBoth (m : Mutex) : (s.unlockBoth m).streams = s.streams := rfl

@[simp] theorem streams_setRoute (r : Route) : (s.setRoute r).streams = s.streams := rfl

@[simp] theorem streams_setRoute? (r : Option Route) : (s.setRoute? r).streams = s.streams := by
  cases r <;> rfl

@[simp] theorem streams_setOutDevice (d : Devices) : (s.setOutDevice d).streams = s.streams := rfl

@[simp] theorem streams_setInDevice (d : Devices) : (s.setInDevice d).streams = s.streams := rfl

@[simp] theorem streams_setInCall (b : Bool) : (s.setInCall b).streams = s.streams := rfl

@[simp] theorem streams_setTtyMode (t : TtyMode) : (s.setTtyMode t).streams = s.streams := rfl

@[simp] theorem streams_setEchoReference (e : Option Nat) :
    (s.setEchoReference e).streams = s.streams := rfl

theorem streams_setActiveOutput (o : Option OutId) : (s.setActiveOutput o).streams =
    { s.streams with active := Function.update s.streams.active .out (o.map .out) } := by
  have h : (s.setActiveOutput o).actives = Function.update s.actives .out (o.map .out) := by
    funext d
    cases d <;> rfl
  simp only [Hal.streams, h]
  rfl

theorem streams_setActiveInput (i : Option InId) : (s.setActiveInput i).streams =
    { s.streams with active := Function.update s.streams.active .inp (i.map .inp) } := by
  have h : (s.setActiveInput i).actives = Function.update s.actives .inp (i.map .inp) := by
    funext d
    cases d <;> rfl
  simp only [Hal.streams, h]
  rfl

theorem slots_modOut (o : OutId) (f : OmapStreamOut → OmapStreamOut) : (s.modOut o f).slots =
    Function.update s.slots (.out o) ((s.outs o).map fun out => (f out).slot) := by
  funext k
  cases k with
  | inp i => rfl
  | out o' =>
    by_cases ho : o' = o
    · subst ho
      simp [Hal.slots, Hal.modOut, Function.comp_def]
    · simp [Hal.slots, Hal.modOut, Function.update_of_ne ho,
        Function.update_of_ne (show StreamKey.out o' ≠ .out o by simpa using ho)]

theorem slots_modIn (i : InId) (f : OmapStreamIn α → OmapStreamIn α) : (s.modIn i f).slots =
    Function.update s.slots (.inp i) ((s.ins i).map fun inp => (f inp).slot) := by
  funext k
  cases k with
  | out o => rfl
  | inp i' =>
    by_cases hi : i' = i
    · subst hi
      simp [Hal.slots, Hal.modIn, Function.comp_def]
    · simp [Hal.slots, Hal.modIn, Function.update_of_ne hi,
        Function.update_of_ne (show StreamKey.inp i' ≠ .inp i by simpa using hi)]

/-- Changing other fields of a stream. -/
theorem streams_modOut (o : OutId) {f : OmapStreamOut → OmapStreamOut}
    (hf : ∀ out, (f out).slot = out.slot) : (s.modOut o f).streams = s.streams := by
  have h : (s.modOut o f).slots = s.slots := by
    rw [slots_modOut, Function.update_eq_self_iff]
    simp only [hf]
    rfl
  simp only [Hal.streams, h]
  rfl

theorem streams_modIn (i : InId) {f : OmapStreamIn α → OmapStreamIn α}
    (hf : ∀ inp, s.ins i = some inp → (f inp).slot = inp.slot) :
    (s.modIn i f).streams = s.streams := by
  have h : (s.modIn i f).slots = s.slots := by
    rw [slots_modIn, Function.update_eq_self_iff]
    show (s.ins i).map _ = (s.ins i).map _
    exact Option.map_congr fun inp hi => hf inp hi
  simp only [Hal.streams, h]
  rfl

theorem streams_modOut_slot {o : OutId} {f : OmapStreamOut → OmapStreamOut} (σ τ : Slot)
    (ho : s.streams.slot (.out o) = some σ) (hf : ∀ out, out.slot = σ → (f out).slot = τ) :
    (s.modOut o f).streams =
      { s.streams with slot := Function.update s.streams.slot (.out o) (some τ) } := by
  obtain ⟨out, hout, hσ⟩ := Option.map_eq_some_iff.mp ho
  have h : (s.modOut o f).slots = Function.update s.slots (.out o) (some τ) := by
    rw [slots_modOut, hout, Option.map_some, hf out hσ]
  simp only [Hal.streams, h]
  rfl

theorem streams_modIn_slot {i : InId} {f : OmapStreamIn α → OmapStreamIn α} (σ τ : Slot)
    (hi : s.streams.slot (.inp i) = some σ) (hf : ∀ inp, inp.slot = σ → (f inp).slot = τ) :
    (s.modIn i f).streams =
      { s.streams with slot := Function.update s.streams.slot (.inp i) (some τ) } := by
  obtain ⟨inp, hinp, hσ⟩ := Option.map_eq_some_iff.mp hi
  have h : (s.modIn i f).slots = Function.update s.slots (.inp i) (some τ) := by
    rw [slots_modIn, hinp, Option.map_some, hf inp hσ]
  simp only [Hal.streams, h]
  rfl

theorem streams_pcmClose {h : Nat} (hl : s.streams.ledger.live h = true) :
    (s.pcmClose (some h)).streams = { s.streams with ledger := s.streams.ledger.free h } := by
  have hl : s.pcms.live h = true := hl
  rw [Hal.pcmClose, if_pos hl]
  rfl

theorem pcmUse_live {h : Nat} (hl : s.streams.ledger.live h = true) : s.pcmUse (some h) = s := if_pos hl

@[simp] theorem streams_echoUse (e : Nat) : (s.echoUse e).streams = s.streams := by
  unfold Hal.echoUse
  split <;> rfl

@[simp] theorem streams_echoUse? (e : Option Nat) : (s.echoUse? e).streams = s.streams := by
  cases e
  · rfl
  · exact streams_echoUse _ _

@[simp] theorem streams_releaseEchoReference (e : Nat) :
    (s.releaseEchoReference e).streams = s.streams := by
  unfold Hal.releaseEchoReference
  split <;> rfl

@[simp] theorem streams_selectInputDevice : (selectInputDevice s).streams = s.streams :=
  streams_setRoute? s _

@[simp] theorem streams_selectOutputDevice : (selectOutputDevice s).streams = s.streams := by
  simp only [selectOutputDevice, setIncallDevice]
  split <;> simp only [streams_setRoute?]

@[simp] theorem streams_adevSetVoiceVolume (v : Volume) :
    (adevSetVoiceVolume v s).streams = s.streams := by
  unfold adevSetVoiceVolume
  split <;> rfl

@[simp] theorem streams_callDevices : (callDevices s).streams = s.streams := by
  unfold callDevices
  split <;> rfl

@[simp] theorem streams_routeOutputStandby : (routeOutputStandby s).streams = s.streams := by
  unfold routeOutputStandby
  split <;> rfl

@[simp] theorem streams_unrouteInput : (unrouteInput s).streams = s.streams := by
  simp only [unrouteInput, streams_setRoute, streams_selectInputDevice, streams_setInDevice]

theorem streams_outsideCall {f : Hal α → Hal α} (hf : (f s).streams = s.streams) :
    (s.outsideCall f).streams = s.streams := by
  unfold Hal.outsideCall
  split
  · exact hf
  · rfl

/-! ## Echo references -/

/-- `adev->active_output`, when there is one, is open. -/
def Streams.OutputOpen (v : Streams) : Prop := ∀ k, v.active .out = some k → v.slot k ≠ none

variable {s}

theorem Streams.OutputOpen.outs (h : s.streams.OutputOpen) {o : OutId}
    (ho : s.activeOutput = some o) : ∃ out, s.outs o = some out := by
  have h := h (.out o) (by simp [Hal.streams, Hal.actives, ho])
  simpa [Hal.streams, Hal.slots, Option.ne_none_iff_exists'] using h

theorem streams_addEchoReference (e : Option Nat) {o : OutId} {out : OmapStreamOut}
    (ho : s.outs o = some out) : (addEchoReference o e s).streams = s.streams := by
  have h : (s.pthreadMutexLock (.out o)).outs o = some out := ho
  rw [addEchoReference, streams_unlock, attachEchoReference, h]
  exact streams_modOut _ o fun _ => rfl

theorem streams_removeEchoReference (e : Nat) {o : OutId} {out : OmapStreamOut}
    (ho : s.outs o = some out) : (removeEchoReference o e s).streams = s.streams := by
  have h : (s.pthreadMutexLock (.out o)).outs o = some out := ho
  rw [removeEchoReference, streams_unlock, detachEchoReference, h]
  simp only
  split
  · rw [streams_modOut _ o (by exact fun _ => rfl), streams_echoUse, streams_lock]
  · rfl

theorem streams_removeFromActive (h : s.streams.OutputOpen) (e : Nat) :
    (removeFromActive e s).streams = s.streams := by
  unfold removeFromActive
  split
  · next o ho =>
    obtain ⟨out, hout⟩ := h.outs ho
    exact streams_removeEchoReference e hout
  · rfl

theorem streams_putEchoReference (h : s.streams.OutputOpen) (e : Option Nat) :
    (putEchoReference e s).streams = s.streams := by
  unfold putEchoReference
  split
  · split
    · rw [streams_setEchoReference, streams_releaseEchoReference, streams_removeFromActive h]
    · rfl
  · rfl

theorem streams_newEchoReference (h : s.streams.OutputOpen) (created : Bool) :
    (newEchoReference created s).streams = s.streams := by
  unfold newEchoReference
  split
  · next o ho =>
    split
    · obtain ⟨out, hout⟩ := h.outs ho
      exact streams_addEchoReference (s := s.createEchoReference) _ hout
    · rfl
  · rfl

theorem streams_getEchoReference (h : s.streams.OutputOpen) (created : Bool) :
    (getEchoReference created s).streams = s.streams := by
  have hp := streams_putEchoReference h s.echoReference
  rw [getEchoReference, streams_newEchoReference (by rwa [hp]), hp]

theorem streams_dropEchoReference (h : s.streams.OutputOpen) (e : Option Nat) :
    (dropEchoReference e s).streams = s.streams := by
  cases e with
  | none => rfl
  | some e =>
    rw [dropEchoReference, streams_putEchoReference (by rwa [streams_echoUse]), streams_echoUse]

/-! ## Standby -/

abbrev Streams.InOrder (v : Streams) : Prop := v.toPool.Ok StreamKey.dir

/-- `v` after `do_output_standby` or `do_input_standby` of the stream. -/
def Streams.standby (k : StreamKey) (v : Streams) : Streams :=
  { v with toPool := v.toPool.stop StreamKey.dir k }

/-- `v` after the active stream of that direction was forced into standby. -/
def Streams.force (d : Dir) (v : Streams) : Streams :=
  { v with toPool := v.toPool.halt StreamKey.dir d }

theorem Streams.force_some {v : Streams} {d : Dir} {k : StreamKey} (h : v.active d = some k) :
    v.force d = v.standby k := by
  simp only [Streams.force, Pool.halt, h, Streams.standby]

theorem Streams.force_none {v : Streams} {d : Dir} (h : v.active d = none) : v.force d = v := by
  simp only [Streams.force, Pool.halt, h]

theorem Streams.InOrder.outputOpen {v : Streams} (h : v.InOrder) : v.OutputOpen := by
  intro k hk
  obtain ⟨-, x, hx⟩ := h.active hk
  simp [hx]

theorem streams_doOutputStandby (h : s.streams.InOrder) {o : OutId} {out : OmapStreamOut}
    (ho : s.outs o = some out) : (doOutputStandby o s).streams = s.streams.standby (.out o) := by
  have hk : s.streams.slot (.out o) = some out.slot := by
    show (s.outs o).map _ = _
    rw [ho]
    rfl
  rw [doOutputStandby, ho, Streams.standby]
  simp only
  split
  · next hs =>
    rw [Pool.stop_idle]
    intro x hx
    rw [hk] at hx
    simp [OmapStreamOut.slot, hs] at hx
  · next hs =>
    have hk : s.streams.slot (.out o) = some ⟨false, out.pcm⟩ := by
      rw [hk, OmapStreamOut.slot, Bool.eq_false_iff.mpr hs]
    obtain ⟨y, hy, hl, he⟩ := h.stop_eq hk
    have hT : (((routeOutputStandby (s.pcmClose out.pcm)).setActiveOutput none).echoUse?
        out.echoReference).streams = { s.streams with
          active := Function.update s.streams.active .out none
          ledger := s.streams.ledger.free y } := by
      rw [streams_echoUse?, streams_setActiveOutput, streams_routeOutputStandby, hy,
        streams_pcmClose s hl]
      rfl
    rw [he]
    refine (streams_modOut_slot _ ⟨false, out.pcm⟩ ⟨true, none⟩ ?_ fun _ _ => rfl).trans ?_
    · rw [hT]
      exact hk
    · rw [hT]
      rfl

theorem streams_doInputStandby (h : s.streams.InOrder) {i : InId} {inp : OmapStreamIn α}
    (hi : s.ins i = some inp) : (doInputStandby i s).streams = s.streams.standby (.inp i) := by
  have hk : s.streams.slot (.inp i) = some inp.slot := by
    show (s.ins i).map _ = _
    rw [hi]
    rfl
  rw [doInputStandby, hi, Streams.standby]
  simp only
  split
  · next hs =>
    rw [Pool.stop_idle]
    intro x hx
    rw [hk] at hx
    simp [OmapStreamIn.slot, hs] at hx
  · next hs =>
    have hk : s.streams.slot (.inp i) = some ⟨false, inp.pcm⟩ := by
      rw [hk, OmapStreamIn.slot, Bool.eq_false_iff.mpr hs]
    obtain ⟨y, hy, hl, he⟩ := h.stop_eq hk
    have hT : (((s.pcmClose inp.pcm).setActiveInput none).outsideCall unrouteInput).streams =
        { s.streams with
          active := Function.update s.streams.active .inp none
          ledger := s.streams.ledger.free y } := by
      rw [streams_outsideCall _ (streams_unrouteInput _), streams_setActiveInput, hy,
        streams_pcmClose s hl]
      rfl
    have hd := streams_dropEchoReference
      (s := ((s.pcmClose inp.pcm).setActiveInput none).outsideCall unrouteInput)
      (by rw [hT]; exact h.outputOpen) inp.echoReference
    rw [he]
    refine (streams_modIn_slot _ ⟨false, inp.pcm⟩ ⟨true, none⟩ ?_ fun _ _ => rfl).trans ?_
    · rw [hd, hT]
      exact hk
    · rw [hd, hT]
      rfl

theorem Streams.InOrder.ins {s : Hal α} (h : s.streams.InOrder) {i : InId}
    (hi : s.activeInput = some i) : ∃ inp, s.ins i = some inp := by
  obtain ⟨-, x, hx⟩ := h.active (d := .inp) (k := .inp i) (by simp [Hal.streams, Hal.actives, hi])
  obtain ⟨inp, hinp, -⟩ := Option.map_eq_some_iff.mp hx
  exact ⟨inp, hinp⟩

theorem streams_forceOutput (h : s.streams.InOrder) :
    (forceOutput s).streams = s.streams.force .out := by
  unfold forceOutput
  split
  · next o ho =>
    obtain ⟨out, hout⟩ := h.outputOpen.outs ho
    have ha : s.streams.active .out = some (.out o) := by rw [active_out, ho, Option.map_some]
    rw [streams_unlock, Streams.force_some ha]
    exact streams_doOutputStandby (s := s.pthreadMutexLock (.out o)) h hout
  · next ho => exact (Streams.force_none (by rw [active_out, ho, Option.map_none])).symm

theorem streams_forceInput (h : s.streams.InOrder) :
    (forceInput s).streams = s.streams.force .inp := by
  unfold forceInput
  split
  · next i hi =>
    obtain ⟨inp, hinp⟩ := h.ins hi
    have ha : s.streams.active .inp = some (.inp i) := by rw [active_inp, hi, Option.map_some]
    rw [streams_unlock, Streams.force_some ha]
    exact streams_doInputStandby (s := s.pthreadMutexLock (.inp i)) h hinp
  · next hi => exact (Streams.force_none (by rw [active_inp, hi, Option.map_none])).symm

theorem streams_forceAllStandby (h : s.streams.InOrder) :
    (forceAllStandby s).streams = (s.streams.force .out).force .inp := by
  have ho := streams_forceOutput h
  rw [forceAllStandby, streams_forceInput, ho]
  rw [ho]
  exact h.halt .out

/-! ## Starting -/

/-- `v` after a start of the stream, with the standby flag the caller clears when it succeeds. -/
def Streams.start (k : StreamKey) (ready : Bool) (v : Streams) : Streams :=
  { v with toPool := v.toPool.start StreamKey.dir k ready }

theorem streams_pcmOpen : s.pcmOpen.streams = { s.streams with ledger := s.streams.ledger.alloc } :=
  rfl

/-- A handle that is not ready is closed as soon as it was handed out. -/
theorem live_newPcm : s.streams.ledger.alloc.live s.newPcm = true := by
  rw [Ledger.live_alloc]
  exact if_pos rfl

theorem streams_shareEchoReference (o : OutId) : (shareEchoReference o s).streams = s.streams := by
  unfold shareEchoReference
  split
  · exact streams_modOut s o fun _ => rfl
  · rfl

theorem startOutputStream_fst (o : OutId) (ready : Bool) :
    (startOutputStream o ready s).1 = if ready then 0 else -enomem := by
  cases ready <;> rfl

theorem streams_claimOutput (o : OutId) : (claimOutput o s).streams =
    { s.streams with active := Function.update s.streams.active .out (some (.out o)) } := by
  rw [claimOutput, streams_outsideCall _ (streams_selectOutputDevice _)]
  refine (streams_modOut _ o ?_).trans (streams_setActiveOutput s (some o))
  exact fun _ => rfl

/-- `start_output_stream` and, when it succeeds, `out->standby = 0`. -/
theorem streams_startOutputStream {o : OutId} {x : Option Nat} (ready : Bool)
    (hk : s.streams.slot (.out o) = some ⟨true, x⟩) :
    (if ready then (startOutputStream o ready s).2.modOut o fun out => { out with standby := false }
      else (startOutputStream o ready s).2).streams = s.streams.start (.out o) ready := by
  have hu := streams_claimOutput (s := s) o
  unfold startOutputStream
  generalize claimOutput o s = u at hu ⊢
  have hn : u.newPcm = s.streams.ledger.next := congrArg (fun v => v.ledger.next) hu
  have ht : (u.pcmOpen.modOut o fun out =>
      { out with writeThreshold := playbackPeriodCount * longPeriodSize, pcm := some u.newPcm }
      ).streams = { u.streams with
        slot := Function.update u.streams.slot (.out o) (some ⟨true, some u.newPcm⟩)
        ledger := u.streams.ledger.alloc } := by
    refine streams_modOut_slot _ ⟨true, x⟩ ⟨true, some u.newPcm⟩ ?_ fun out h => ?_
    · rw [streams_pcmOpen, hu]
      exact hk
    · rw [OmapStreamOut.slot, Slot.mk.injEq] at h
      exact congrArg (Slot.mk · _) h.1
  cases ready with
  | true =>
    simp only [openOutputPcm, if_true]
    generalize u.pcmOpen.modOut o _ = t at ht ⊢
    refine (streams_modOut_slot _ ⟨true, some u.newPcm⟩ ⟨false, some u.newPcm⟩ ?_ fun out h => ?_).trans ?_
    · rw [streams_shareEchoReference, ht]
      exact Function.update_self ..
    · rw [OmapStreamOut.slot, Slot.mk.injEq] at h
      exact congrArg (Slot.mk _ ·) h.2
    · rw [streams_shareEchoReference, ht]
      simp only [Function.update_idem, hu, hn]
      rfl
  | false =>
    simp only [openOutputPcm, Bool.false_eq_true, if_false]
    generalize u.pcmOpen.modOut o _ = t at ht ⊢
    have hl : t.streams.ledger.live u.newPcm = true := by
      rw [ht]
      exact live_newPcm
    rw [streams_setActiveOutput, streams_pcmClose t hl, ht]
    simp only [hu, hn, Function.update_idem]
    rfl

theorem streams_claimInput (i : InId) (d : Devices) : (claimInput i d s).streams =
    { s.streams with active := Function.update s.streams.active .inp (some (.inp i)) } := by
  refine (streams_outsideCall _ ?_).trans (streams_setActiveInput s (some i))
  rw [streams_selectInputDevice, streams_setInDevice]

theorem streams_remixInput (i : InId) (inp : OmapStreamIn α) :
    (remixInput i inp s).streams = s.streams := by
  unfold remixInput setupStereoToMonoInputRemix
  split
  · exact streams_modIn s i fun _ _ => rfl
  · rfl

theorem streams_referenceInput (h : s.streams.OutputOpen) (i : InId) (created : Bool)
    (inp : OmapStreamIn α) : (referenceInput i created inp s).streams = s.streams := by
  unfold referenceInput
  split
  · refine (streams_modIn _ i ?_).trans (streams_getEchoReference h created)
    exact fun _ _ => rfl
  · rfl

/-- `start_input_stream` and, when it succeeds, `in->standby = 0`. -/
theorem streams_startInputStream {i : InId} {x : Option Nat} (ready created : Bool)
    (h : s.streams.OutputOpen) (hk : s.streams.slot (.inp i) = some ⟨true, x⟩) :
    (startInputStream i ready created s).1 = (if ready then 0 else -enomem) ∧
    (if ready then
        (startInputStream i ready created s).2.modIn i fun inp => { inp with standby := false }
      else (startInputStream i ready created s).2).streams = s.streams.start (.inp i) ready := by
  obtain ⟨inp, hinp, -⟩ := Option.map_eq_some_iff.mp hk
  have hc : (remixInput i inp (claimInput i inp.device s)).streams =
      { s.streams with active := Function.update s.streams.active .inp (some (.inp i)) } :=
    (streams_remixInput i inp).trans (streams_claimInput i inp.device)
  have hu := (streams_referenceInput (by rw [hc]; exact h) i created inp).trans hc
  rw [startInputStream, hinp]
  simp only
  generalize referenceInput i created inp _ = u at hu ⊢
  have hn : u.newPcm = s.streams.ledger.next := congrArg (fun v => v.ledger.next) hu
  obtain ⟨channels, -, heq⟩ := openInputPcm_eq i ready u
  rw [heq]
  have ht : (u.pcmOpen.modIn i fun inp =>
      { inp with pcm := some u.newPcm, channels := channels inp }).streams = { u.streams with
        slot := Function.update u.streams.slot (.inp i) (some ⟨true, some u.newPcm⟩)
        ledger := u.streams.ledger.alloc } := by
    refine streams_modIn_slot _ ⟨true, x⟩ ⟨true, some u.newPcm⟩ ?_ fun inp h => ?_
    · rw [streams_pcmOpen, hu]
      exact hk
    · rw [OmapStreamIn.slot, Slot.mk.injEq] at h
      exact congrArg (Slot.mk · _) h.1
  cases ready with
  | true =>
    simp only [if_true, true_and]
    generalize u.pcmOpen.modIn i _ = t at ht ⊢
    have hr : (t.modIn i fun inp =>
        { inp with capture := inp.capture.restart inp.resampler }).streams = t.streams :=
      streams_modIn t i fun _ _ => rfl
    refine (streams_modIn_slot _ ⟨true, some u.newPcm⟩ ⟨false, some u.newPcm⟩ ?_ fun inp h => ?_).trans ?_
    · rw [hr, ht]
      exact Function.update_self ..
    · rw [OmapStreamIn.slot, Slot.mk.injEq] at h
      exact congrArg (Slot.mk _ ·) h.2
    · rw [hr, ht]
      simp only [Function.update_idem, hu, hn]
      rfl
  | false =>
    simp only [Bool.false_eq_true, if_false, true_and]
    generalize u.pcmOpen.modIn i _ = t at ht ⊢
    have hl : t.streams.ledger.live u.newPcm = true := by
      rw [ht]
      exact live_newPcm
    rw [streams_setActiveInput, streams_pcmClose t hl, ht]
    simp only [hu, hn, Function.update_idem]
    rfl

/-- The stream of that key is running. -/
def Streams.Running (k : StreamKey) (v : Streams) : Prop := ∃ x, v.slot k = some ⟨false, x⟩

/-- What `out_write` and `in_read` do to the streams under both locks. -/
def Streams.begin (k : StreamKey) (ready : Bool) (v : Streams) : Streams :=
  if (v.slot k).any (·.idle) then v.start k ready else v

theorem Streams.start_running (k : StreamKey) (v : Streams) : (v.start k true).Running k :=
  ⟨_, (Pool.slot_start true k).trans (if_pos rfl)⟩

theorem slot_out {o : OutId} {out : OmapStreamOut} (ho : s.outs o = some out) :
    s.streams.slot (.out o) = some out.slot := by
  show (s.outs o).map _ = _
  rw [ho]
  rfl

theorem slot_inp {i : InId} {inp : OmapStreamIn α} (hi : s.ins i = some inp) :
    s.streams.slot (.inp i) = some inp.slot := by
  show (s.ins i).map _ = _
  rw [hi]
  rfl

/-- `out_write` goes on with a running stream. -/
theorem streams_beginWrite {o : OutId} {out : OmapStreamOut} (ready : Bool)
    (ho : s.outs o = some out) :
    (beginWrite o ready s).2.2.streams = s.streams.begin (.out o) ready ∧
    ((beginWrite o ready s).1 = 0 → (s.streams.begin (.out o) ready).Running (.out o)) := by
  have hk := slot_out ho
  rw [beginWrite, ho, Streams.begin, hk]
  simp only [Option.any_some, OmapStreamOut.slot]
  by_cases hs : out.standby = true
  · have hst := streams_startOutputStream ready (hk.trans (by rw [OmapStreamOut.slot, hs]))
    simp only [hs, if_true, startOutputStream_fst]
    cases ready with
    | true => exact ⟨hst, fun _ => Streams.start_running _ _⟩
    | false => exact ⟨hst, fun h => absurd (show (-enomem : Int) = 0 from h) (by decide)⟩
  · simp only [hs, Bool.false_eq_true, if_false, true_and]
    exact fun _ => ⟨out.pcm, by rw [hk, OmapStreamOut.slot, Bool.eq_false_iff.mpr hs]⟩

/-- `in_read` goes on with a running stream. -/
theorem streams_beginRead {i : InId} {inp : OmapStreamIn α} (ready created : Bool)
    (h : s.streams.OutputOpen) (hi : s.ins i = some inp) :
    (beginRead i ready created s).2.streams = s.streams.begin (.inp i) ready ∧
    (¬ (beginRead i ready created s).1 < 0 →
      (s.streams.begin (.inp i) ready).Running (.inp i)) := by
  have hk := slot_inp hi
  rw [beginRead, hi, Streams.begin, hk]
  simp only [Option.any_some, OmapStreamIn.slot]
  by_cases hs : inp.standby = true
  · obtain ⟨hr, hst⟩ := streams_startInputStream ready created h
      (hk.trans (by rw [OmapStreamIn.slot, hs]))
    simp only [hs, if_true, hr]
    cases ready with
    | true => exact ⟨hst, fun _ => Streams.start_running _ _⟩
    | false => exact ⟨hst, fun h => absurd (show (-enomem : Int) < 0 by decide) h⟩
  · simp only [hs, Bool.false_eq_true, if_false, true_and]
    exact fun _ => ⟨inp.pcm, by rw [hk, OmapStreamIn.slot, Bool.eq_false_iff.mpr hs]⟩

end

end P970.Audio
