import P970.Audio.Routing

/-!
# Echo references

The device, the output streams and the input streams each keep a pointer to an
echo reference (`Echo`, and `Hal.echo` for a state). In an `Echo` in order
(`Echo.Ok`) the device's reference is live and every other pointer is null or the
same: there the functions of the HAL are the operations of `Echo`, and make no
echo fault.
-/

namespace P970.Audio

structure InputEcho where
  running : Bool
  reference : Option Nat
  need : Bool
  source : BitVec 32

structure Echo where
  /-- `adev->echo_reference`. -/
  reference : Option Nat
  ledger : Ledger
  activeOutput : Option OutId
  activeInput : Option InId
  /-- The open output streams: whether they run, and their reference. -/
  output : OutId → Option (Bool × Option Nat)
  input : InId → Option InputEcho
  faults : List Fault

namespace Echo

/-- The device's reference is live, and the running output and input streams that have one have
that one. -/
structure Ok (v : Echo) : Prop where
  live : ∀ e, v.reference = some e → v.ledger.live e = true
  output : ∀ o b r, v.output o = some (b, r) → r = none ∨ b = true ∧ r = v.reference
  input : ∀ i x, v.input i = some x → x.reference = none ∨ x.reference = v.reference
  active : ∀ o, v.activeOutput = some o → ∃ r, v.output o = some (true, r)
  faults : v.faults = []

variable (v : Echo)

def setOutput (o : OutId) (x : Option (Bool × Option Nat)) : Echo :=
  { v with output := Function.update v.output o x }

def setInput (i : InId) (x : Option InputEcho) : Echo :=
  { v with input := Function.update v.input i x }

/-- The reference of the active output. -/
def setActiveReference (r : Option Nat) : Echo :=
  match v.activeOutput with
  | some o => v.setOutput o (some (true, r))
  | none => v

/-- `put_echo_reference` of the device's reference. -/
def clear : Echo :=
  match v.reference with
  | some e => { v.setActiveReference none with reference := none, ledger := v.ledger.free e }
  | none => v

/-- `get_echo_reference`. -/
def renew (created : Bool) : Echo :=
  match v.activeOutput with
  | some _ =>
    if created then
      { v.clear.setActiveReference (some v.clear.ledger.next) with
        reference := some v.clear.ledger.next
        ledger := v.clear.ledger.alloc }
    else v.clear
  | none => v.clear

def stopOutput (o : OutId) : Echo :=
  match v.output o with
  | some (true, _) => { v.setOutput o (some (false, none)) with activeOutput := none }
  | _ => v

/-- The part of `do_input_standby` after the pcm is closed, for a running stream with the fields of
`x`. -/
def dropInput (i : InId) (x : InputEcho) : Echo :=
  let v : Echo := { v with activeInput := none }
  (if x.reference = none then v else v.clear).setInput i
    (some { x with running := false, reference := none })

def stopInput (i : InId) : Echo :=
  match v.input i with
  | some x => if x.running then v.dropInput i x else v
  | none => v

/-- A start takes over the active pointer, and gives it up when it fails. -/
def startOutput (o : OutId) (ready : Bool) : Echo :=
  match v.output o with
  | some (false, _) =>
    { v.setOutput o (some (ready, if ready then v.reference else none)) with
      activeOutput := if ready then some o else none }
  | _ => v

/-- A stream that needs a reference and has none takes a new one, also when the start fails. -/
def takeInput (i : InId) (created : Bool) (x : InputEcho) : Echo :=
  if x.need && x.reference = none then
    (v.renew created).setInput i (some { x with reference := (v.renew created).reference })
  else v

def startInput (i : InId) (ready created : Bool) : Echo :=
  match v.input i with
  | some x =>
    if x.running then v
    else
      let v := v.takeInput i created x
      { v.setInput i ((v.input i).map fun x => { x with running := ready }) with
        activeInput := if ready then some i else none }
  | none => v

end Echo

section
variable {α : Type}

def OmapStreamOut.echoes (out : OmapStreamOut) : Bool × Option Nat :=
  (!out.standby, out.echoReference)

def OmapStreamIn.echoes (inp : OmapStreamIn α) : InputEcho :=
  ⟨!inp.standby, inp.echoReference, inp.needEchoReference, inp.source⟩

def Hal.echo (s : Hal α) : Echo where
  reference := s.echoReference
  ledger := s.echos
  activeOutput := s.activeOutput
  activeInput := s.activeInput
  output o := (s.outs o).map (·.echoes)
  input i := (s.ins i).map (·.echoes)
  faults := s.faults.filter fun f => !f.pcm

variable (s : Hal α)

/-! ## The fields of a state -/

@[simp] theorem echo_unlock (m : Mutex) : (s.pthreadMutexUnlock m).echo = s.echo := rfl

@[simp] theorem echo_lockBoth (m : Mutex) : (s.lockBoth m).echo = s.echo := rfl

@[simp] theorem echo_setRoute (r : Route) : (s.setRoute r).echo = s.echo := rfl

@[simp] theorem echo_setRoute? (r : Option Route) : (s.setRoute? r).echo = s.echo := by
  cases r <;> rfl

@[simp] theorem echo_setOutDevice (d : Devices) : (s.setOutDevice d).echo = s.echo := rfl

@[simp] theorem echo_setInDevice (d : Devices) : (s.setInDevice d).echo = s.echo := rfl

@[simp] theorem echo_setInCall (b : Bool) : (s.setInCall b).echo = s.echo := rfl

@[simp] theorem echo_setTtyMode (t : TtyMode) : (s.setTtyMode t).echo = s.echo := rfl

@[simp] theorem echo_pcmOpen : s.pcmOpen.echo = s.echo := rfl

theorem echo_fault {f : Fault} (hf : f.pcm) : (s.fault f).echo = s.echo := by
  have h : (f :: s.faults).filter (fun f => !f.pcm) = s.faults.filter fun f => !f.pcm :=
    List.filter_cons_of_neg (by simp [hf])
  exact congrArg (fun l => { s.echo with faults := l }) h

@[simp] theorem echo_pcmClose (h : Option Nat) : (s.pcmClose h).echo = s.echo := by
  unfold Hal.pcmClose
  split
  · split
    · rfl
    · exact echo_fault s rfl
  · exact echo_fault s rfl

@[simp] theorem echo_pcmUse (h : Option Nat) : (s.pcmUse h).echo = s.echo := by
  unfold Hal.pcmUse
  split
  · split
    · rfl
    · exact echo_fault s rfl
  · exact echo_fault s rfl

@[simp] theorem echo_selectInputDevice : (selectInputDevice s).echo = s.echo := echo_setRoute? s _

@[simp] theorem echo_selectOutputDevice : (selectOutputDevice s).echo = s.echo := by
  simp only [selectOutputDevice, setIncallDevice]
  split <;> simp only [echo_setRoute?]

@[simp] theorem echo_adevSetVoiceVolume (v : Volume) : (adevSetVoiceVolume v s).echo = s.echo := by
  unfold adevSetVoiceVolume
  split <;> rfl

@[simp] theorem echo_callDevices : (callDevices s).echo = s.echo := by
  unfold callDevices
  split <;> rfl

@[simp] theorem echo_routeOutputStandby : (routeOutputStandby s).echo = s.echo := by
  unfold routeOutputStandby
  split <;> rfl

@[simp] theorem echo_unrouteInput : (unrouteInput s).echo = s.echo := by
  simp only [unrouteInput, echo_setRoute, echo_selectInputDevice, echo_setInDevice]

theorem echo_outsideCall {f : Hal α → Hal α} (hf : (f s).echo = s.echo) :
    (s.outsideCall f).echo = s.echo := by
  unfold Hal.outsideCall
  split
  · exact hf
  · rfl

theorem echo_modOut (o : OutId) (f : OmapStreamOut → OmapStreamOut) : (s.modOut o f).echo =
    s.echo.setOutput o ((s.outs o).map fun out => (f out).echoes) :=
  congrArg (fun x => { s.echo with output := x }) (s.map_modOut (·.echoes) o f)

theorem echo_modIn (i : InId) (f : OmapStreamIn α → OmapStreamIn α) : (s.modIn i f).echo =
    s.echo.setInput i ((s.ins i).map fun inp => (f inp).echoes) :=
  congrArg (fun x => { s.echo with input := x }) (s.map_modIn (·.echoes) i f)

/-- Changing other fields of a stream. -/
theorem echo_modOut_same (o : OutId) {f : OmapStreamOut → OmapStreamOut}
    (hf : ∀ out, (f out).echoes = out.echoes) : (s.modOut o f).echo = s.echo := by
  rw [echo_modOut]
  simp only [hf]
  exact congrArg (fun x => { s.echo with output := x }) (Function.update_eq_self o s.echo.output)

theorem echo_modIn_same (i : InId) {f : OmapStreamIn α → OmapStreamIn α}
    (hf : ∀ inp, (f inp).echoes = inp.echoes) : (s.modIn i f).echo = s.echo := by
  rw [echo_modIn]
  simp only [hf]
  exact congrArg (fun x => { s.echo with input := x }) (Function.update_eq_self i s.echo.input)

theorem echo_output {o : OutId} {out : OmapStreamOut} (ho : s.outs o = some out) :
    s.echo.output o = some out.echoes := by
  show (s.outs o).map _ = _
  rw [ho]
  rfl

theorem echo_input {i : InId} {inp : OmapStreamIn α} (hi : s.ins i = some inp) :
    s.echo.input i = some inp.echoes := by
  show (s.ins i).map _ = _
  rw [hi]
  rfl

variable {s}

theorem echo_modOut_some {o : OutId} {f : OmapStreamOut → OmapStreamOut} {x y : Bool × Option Nat}
    (hx : s.echo.output o = some x) (hf : ∀ out, out.echoes = x → (f out).echoes = y) :
    (s.modOut o f).echo = s.echo.setOutput o (some y) := by
  obtain ⟨out, hout, he⟩ := Option.map_eq_some_iff.mp hx
  rw [echo_modOut, hout, Option.map_some, hf out he]

theorem echo_modIn_some {i : InId} {f : OmapStreamIn α → OmapStreamIn α} {x y : InputEcho}
    (hx : s.echo.input i = some x) (hf : ∀ inp, inp.echoes = x → (f inp).echoes = y) :
    (s.modIn i f).echo = s.echo.setInput i (some y) := by
  obtain ⟨inp, hinp, he⟩ := Option.map_eq_some_iff.mp hx
  rw [echo_modIn, hinp, Option.map_some, hf inp he]

theorem echoUse_live {e : Nat} (hl : s.echo.ledger.live e = true) : s.echoUse e = s := if_pos hl

theorem echo_release {e : Nat} (hl : s.echo.ledger.live e = true) :
    (s.releaseEchoReference e).echo = { s.echo with ledger := s.echo.ledger.free e } := by
  have hl : s.echos.live e = true := hl
  rw [Hal.releaseEchoReference, if_pos hl]
  rfl

theorem echo_addEchoReference {o : OutId} {b : Bool} {r : Option Nat} (e : Option Nat)
    (ho : s.echo.output o = some (b, r)) :
    (addEchoReference o e s).echo = s.echo.setOutput o (some (b, e)) := by
  obtain ⟨out, hout, he⟩ := Option.map_eq_some_iff.mp ho
  have h : (s.pthreadMutexLock (.out o)).outs o = some out := hout
  rw [addEchoReference, echo_unlock, attachEchoReference, h]
  refine echo_modOut_some ho fun out he => ?_
  exact Prod.ext (congrArg Prod.fst he :) rfl

namespace Echo

theorem activeOutput_clear (v : Echo) : v.clear.activeOutput = v.activeOutput := by
  unfold clear setActiveReference
  split
  · simp only
    split <;> rfl
  · rfl

theorem reference_clear (v : Echo) : v.clear.reference = none := by
  unfold clear
  split
  · rfl
  · assumption

theorem input_clear (v : Echo) : v.clear.input = v.input := by
  unfold clear setActiveReference
  split
  · simp only
    split <;> rfl
  · rfl

theorem input_renew (v : Echo) (created : Bool) : (v.renew created).input = v.input := by
  have h : ∀ r, (v.clear.setActiveReference r).input = v.clear.input := by
    intro r
    unfold setActiveReference
    split <;> rfl
  unfold renew
  split
  · split
    · exact (h _).trans v.input_clear
    · exact v.input_clear
  · exact v.input_clear

theorem setOutput_self {v : Echo} {o : OutId} {x : Option (Bool × Option Nat)}
    (h : v.output o = x) : v.setOutput o x = v := by
  subst h
  exact congrArg (fun f => { v with output := f }) (Function.update_eq_self o v.output)

/-- The active output runs, with the device's reference or none. -/
theorem Ok.active_output {v : Echo} (h : v.Ok) {o : OutId} (ho : v.activeOutput = some o) :
    ∃ r, v.output o = some (true, r) ∧ (r = none ∨ r = v.reference) := by
  obtain ⟨r, hr⟩ := h.active o ho
  exact ⟨r, hr, (h.output o true r hr).imp_right And.right⟩

/-- After `clear` the active output has no reference. -/
theorem Ok.output_clear {v : Echo} (h : v.Ok) {o : OutId} (ho : v.activeOutput = some o) :
    v.clear.output o = some (true, none) := by
  obtain ⟨r, hr, hor⟩ := h.active_output ho
  unfold clear
  cases he : v.reference with
  | none =>
    rcases hor with rfl | rfl
    · exact hr
    · rw [hr, he]
  | some e =>
    simp only [setActiveReference, ho]
    exact Function.update_self ..

end Echo

theorem echo_removeFromActive (h : s.echo.Ok) {e : Nat} (he : s.echo.reference = some e) :
    (removeFromActive e s).echo = s.echo.setActiveReference none := by
  have ha : s.echo.activeOutput = s.activeOutput := rfl
  unfold removeFromActive Echo.setActiveReference
  rw [ha]
  cases hao : s.activeOutput with
  | none => rfl
  | some o =>
    obtain ⟨r, hr, hor⟩ := h.active_output (ha.trans hao)
    obtain ⟨out, hout, hx⟩ := Option.map_eq_some_iff.mp hr
    have hx2 : out.echoReference = r := congrArg Prod.snd hx
    have hl : (s.pthreadMutexLock (.out o)).outs o = some out := hout
    simp only [removeEchoReference, echo_unlock, detachEchoReference, hl]
    split
    · rw [echoUse_live (by exact h.live e he)]
      refine echo_modOut_some hr fun out hx => ?_
      exact Prod.ext (congrArg Prod.fst hx :) rfl
    · next hre =>
      have hr0 : r = none := by
        rcases hor with hr0 | hr0
        · exact hr0
        · exact absurd (hx2.trans (hr0.trans he)) hre
      exact (Echo.setOutput_self (v := s.echo) (by rw [hr, hr0])).symm

/-- `put_echo_reference` of the device's reference. -/
theorem echo_putEchoReference (h : s.echo.Ok) :
    (putEchoReference s.echoReference s).echo = s.echo.clear := by
  have hr : s.echo.reference = s.echoReference := rfl
  unfold putEchoReference Echo.clear
  rw [hr]
  cases he : s.echoReference with
  | none => rfl
  | some e =>
    have hd := echo_removeFromActive h (hr.trans he)
    have hl : (removeFromActive e s).echo.ledger.live e = true := by
      rw [hd]
      unfold Echo.setActiveReference
      split <;> exact h.live e (hr.trans he)
    have hrel := echo_release hl
    simp only [if_true]
    show ({ ((removeFromActive e s).releaseEchoReference e).echo with reference := none } : Echo) = _
    rw [hrel, hd]
    unfold Echo.setActiveReference
    split <;> rfl

/-- `get_echo_reference`. -/
theorem echo_getEchoReference (h : s.echo.Ok) (created : Bool) :
    (getEchoReference created s).echo = s.echo.renew created := by
  have hp := echo_putEchoReference h
  have ha : (putEchoReference s.echoReference s).activeOutput = s.echo.activeOutput :=
    (congrArg Echo.activeOutput hp).trans s.echo.activeOutput_clear
  unfold getEchoReference newEchoReference Echo.renew
  generalize putEchoReference s.echoReference s = t at hp ha ⊢
  rw [ha]
  cases ho : s.echo.activeOutput with
  | none => exact hp
  | some o =>
    cases created with
    | false => exact hp
    | true =>
      have hout : t.createEchoReference.echo.output o = some (true, none) :=
        (congrFun (congrArg Echo.output hp) o).trans (h.output_clear ho)
      have hn : t.echos = s.echo.clear.ledger := congrArg Echo.ledger hp
      have hadd := echo_addEchoReference (some t.echos.next) hout
      simp only [if_true]
      rw [hadd, Echo.setActiveReference, s.echo.activeOutput_clear, ho, ← hn, ← hp]
      rfl

theorem echo_dropEchoReference (h : s.echo.Ok) {r : Option Nat}
    (hr : r = none ∨ r = s.echo.reference) :
    (dropEchoReference r s).echo = if r = none then s.echo else s.echo.clear := by
  cases r with
  | none => rfl
  | some e =>
    have he : some e = s.echo.reference := hr.resolve_left (by simp)
    rw [dropEchoReference, echoUse_live (h.live e he.symm), if_neg (by simp), he]
    exact echo_putEchoReference h

/-! ## Standby -/

theorem echo_doOutputStandby (h : s.echo.Ok) {o : OutId} {out : OmapStreamOut}
    (ho : s.outs o = some out) : (doOutputStandby o s).echo = s.echo.stopOutput o := by
  have hk := echo_output s ho
  rw [doOutputStandby, ho, Echo.stopOutput, hk]
  cases hs : out.standby with
  | true => simp only [if_true, OmapStreamOut.echoes, hs, Bool.not_true]
  | false =>
    have hr := h.output o true out.echoReference (by rw [hk, OmapStreamOut.echoes, hs]; rfl)
    have hT : ((routeOutputStandby (s.pcmClose out.pcm)).setActiveOutput none).echo =
        { s.echo with activeOutput := none } := by
      show ({ (routeOutputStandby (s.pcmClose out.pcm)).echo with activeOutput := none } : Echo) = _
      rw [echo_routeOutputStandby, echo_pcmClose]
    have hu : ∀ t : Hal α, t.echo = { s.echo with activeOutput := none } →
        t.echoUse? out.echoReference = t := by
      intro t ht
      cases hre : out.echoReference with
      | none => rfl
      | some e =>
        have he : some e = s.echo.reference := by
          rw [hre] at hr
          exact (hr.resolve_left (by simp)).2
        refine echoUse_live ?_
        rw [ht]
        exact h.live e he.symm
    simp only [Bool.false_eq_true, if_false, OmapStreamOut.echoes, hs, Bool.not_false]
    rw [hu _ hT]
    refine (echo_modOut_some (x := out.echoes) (y := (false, none)) ?_ fun _ _ => rfl).trans ?_
    · rw [hT]
      exact hk
    · rw [hT]
      rfl

theorem echo_doInputStandby (h : s.echo.Ok) {i : InId} {inp : OmapStreamIn α}
    (hi : s.ins i = some inp) : (doInputStandby i s).echo = s.echo.stopInput i := by
  have hk := echo_input s hi
  rw [doInputStandby, hi, Echo.stopInput, hk]
  cases hs : inp.standby with
  | true => simp only [if_true, OmapStreamIn.echoes, hs, Bool.not_true, Bool.false_eq_true, if_false]
  | false =>
    have hT : (((s.pcmClose inp.pcm).setActiveInput none).outsideCall unrouteInput).echo =
        { s.echo with activeInput := none } := by
      rw [echo_outsideCall _ (echo_unrouteInput _)]
      show ({ (s.pcmClose inp.pcm).echo with activeInput := none } : Echo) = _
      rw [echo_pcmClose]
    have hO : (((s.pcmClose inp.pcm).setActiveInput none).outsideCall unrouteInput).echo.Ok := by
      rw [hT]
      exact ⟨h.live, h.output, h.input, h.active, h.faults⟩
    have hr : inp.echoReference = none ∨ inp.echoReference = s.echo.reference := h.input i _ hk
    have hd := echo_dropEchoReference hO (r := inp.echoReference) (by rw [hT]; exact hr)
    rw [hT] at hd
    simp only [Bool.false_eq_true, if_false, OmapStreamIn.echoes, hs, Bool.not_false, if_true,
      Echo.dropInput]
    refine (echo_modIn_some (x := inp.echoes) (y := ⟨false, none, inp.needEchoReference, inp.source⟩)
      ?_ fun inp' he => ?_).trans ?_
    · rw [hd]
      split
      · exact hk
      · rw [Echo.input_clear]
        exact hk
    · have h1 : inp'.needEchoReference = inp.needEchoReference := congrArg InputEcho.need he
      have h2 : inp'.source = inp.source := congrArg InputEcho.source he
      simp only [OmapStreamIn.echoes, h1, h2, Bool.not_true]
    · rw [hd]

/-! ## Starting -/

theorem echo_setActiveOutput (o : Option OutId) :
    (s.setActiveOutput o).echo = { s.echo with activeOutput := o } := rfl

theorem echo_setActiveInput (i : Option InId) :
    (s.setActiveInput i).echo = { s.echo with activeInput := i } := rfl

theorem echo_claimOutput (o : OutId) :
    (claimOutput o s).echo = { s.echo with activeOutput := some o } := by
  rw [claimOutput, echo_outsideCall _ (echo_selectOutputDevice _)]
  refine (echo_modOut_same _ o ?_).trans (echo_setActiveOutput (some o))
  exact fun _ => rfl

/-- `start_output_stream` and, when it succeeds, `out->standby = 0`. -/
theorem echo_startOutputStream (h : s.echo.Ok) {o : OutId} {r : Option Nat} (ready : Bool)
    (hk : s.echo.output o = some (false, r)) :
    (if ready then (startOutputStream o ready s).2.modOut o fun out => { out with standby := false }
      else (startOutputStream o ready s).2).echo = s.echo.startOutput o ready := by
  have hr : r = none := (h.output o false r hk).resolve_right (by simp)
  subst hr
  have hu := echo_claimOutput (s := s) o
  unfold startOutputStream
  generalize claimOutput o s = u at hu ⊢
  have ht : (u.pcmOpen.modOut o fun out =>
      { out with writeThreshold := playbackPeriodCount * longPeriodSize, pcm := some u.newPcm }
      ).echo = { s.echo with activeOutput := some o } := by
    refine (echo_modOut_same _ o ?_).trans ((echo_pcmOpen u).trans hu)
    exact fun _ => rfl
  simp only [Echo.startOutput, hk]
  cases ready with
  | false =>
    simp only [openOutputPcm, Bool.false_eq_true, if_false]
    rw [echo_setActiveOutput, echo_pcmClose, ht, Echo.setOutput_self hk]
  | true =>
    simp only [openOutputPcm, if_true]
    generalize u.pcmOpen.modOut o _ = t at ht ⊢
    have hsh : (shareEchoReference o t).echo =
        { s.echo.setOutput o (some (false, s.echo.reference)) with activeOutput := some o } := by
      have he : t.echoReference = s.echo.reference := congrArg Echo.reference ht
      unfold shareEchoReference
      rw [he]
      cases hre : s.echo.reference with
      | none => rw [Echo.setOutput_self hk]; exact ht
      | some e =>
        refine (echo_modOut_some (x := (false, none)) (y := (false, some e)) ?_ fun out hx => ?_).trans
          ?_
        · rw [ht]
          exact hk
        · exact Prod.ext (congrArg Prod.fst hx :) rfl
        · rw [ht]
          rfl
    refine (echo_modOut_some (x := (false, s.echo.reference)) (y := (true, s.echo.reference)) ?_
      fun out hx => ?_).trans ?_
    · rw [hsh]
      exact Function.update_self ..
    · exact Prod.ext rfl (congrArg Prod.snd hx :)
    · rw [hsh]
      simp only [Echo.setOutput, Function.update_idem]

theorem echo_claimInput (i : InId) (d : Devices) :
    (claimInput i d s).echo = { s.echo with activeInput := some i } := by
  refine (echo_outsideCall (s.setActiveInput (some i)) ?_).trans (echo_setActiveInput (some i))
  rw [echo_selectInputDevice, echo_setInDevice]

theorem echo_remixInput (i : InId) (inp : OmapStreamIn α) : (remixInput i inp s).echo = s.echo := by
  unfold remixInput setupStereoToMonoInputRemix
  split
  · exact echo_modIn_same s i fun _ => rfl
  · rfl

/-- The reference of `start_input_stream`. -/
theorem echo_referenceInput (h : s.echo.Ok) {i : InId} (created : Bool) (inp : OmapStreamIn α)
    (hi : s.echo.input i = some inp.echoes) :
    (referenceInput i created inp s).echo = s.echo.takeInput i created inp.echoes := by
  have hg := echo_getEchoReference h created
  have hr : (getEchoReference created s).echoReference = (s.echo.renew created).reference :=
    congrArg Echo.reference hg
  unfold referenceInput takeEchoReference
  by_cases hc : (inp.needEchoReference && inp.echoReference = none) = true
  · have ht : s.echo.takeInput i created inp.echoes = (s.echo.renew created).setInput i
        (some { inp.echoes with reference := (s.echo.renew created).reference }) := if_pos hc
    rw [if_pos hc, ht]
    refine (echo_modIn_some (x := inp.echoes)
      (y := { inp.echoes with reference := (s.echo.renew created).reference }) ?_
      fun inp' he => ?_).trans ?_
    · rw [hg, Echo.input_renew]
      exact hi
    · have h0 : (!inp'.standby) = !inp.standby := congrArg InputEcho.running he
      have h1 : inp'.needEchoReference = inp.needEchoReference := congrArg InputEcho.need he
      have h2 : inp'.source = inp.source := congrArg InputEcho.source he
      simp only [OmapStreamIn.echoes, h0, h1, h2, hr]
    · rw [hg]
  · have ht : s.echo.takeInput i created inp.echoes = s.echo := if_neg hc
    rw [if_neg hc, ht]

/-- The active input plays no part in it. -/
theorem Echo.takeInput_activeInput (v : Echo) (i : InId) (created : Bool) (x : InputEcho)
    (a : Option InId) : Echo.takeInput { v with activeInput := a } i created x =
      { v.takeInput i created x with activeInput := a } := by
  have hs : ∀ (v : Echo) r, Echo.setActiveReference { v with activeInput := a } r =
      { v.setActiveReference r with activeInput := a } := by
    intro v r
    obtain ⟨_, _, _ | _, _, _, _, _⟩ := v <;> rfl
  have hc : Echo.clear { v with activeInput := a } = { v.clear with activeInput := a } := by
    have h := hs v none
    obtain ⟨_ | _, _, _, _, _, _, _⟩ := v
    · rfl
    · simp only [clear, h]
  have hr : Echo.renew { v with activeInput := a } created =
      { v.renew created with activeInput := a } := by
    simp only [renew, hc, hs]
    split
    · split <;> rfl
    · rfl
  simp only [takeInput, hr]
  split <;> rfl

theorem Echo.input_takeInput {v : Echo} {i : InId} {x : InputEcho} (created : Bool)
    (hi : v.input i = some x) : ∃ r, (v.takeInput i created x).input i =
      some { x with reference := r } := by
  unfold Echo.takeInput
  split
  · exact ⟨_, Function.update_self ..⟩
  · exact ⟨x.reference, hi⟩

/-- `start_input_stream` and, when it succeeds, `in->standby = 0`. -/
theorem echo_startInputStream (h : s.echo.Ok) {i : InId} (ready created : Bool)
    {inp : OmapStreamIn α} (hi : s.ins i = some inp) (hs : inp.standby = true) :
    (if ready then
        (startInputStream i ready created s).2.modIn i fun inp => { inp with standby := false }
      else (startInputStream i ready created s).2).echo = s.echo.startInput i ready created := by
  have hk : s.echo.input i = some inp.echoes := echo_input s hi
  have hc : (remixInput i inp (claimInput i inp.device s)).echo =
      { s.echo with activeInput := some i } :=
    (echo_remixInput i inp).trans (echo_claimInput i inp.device)
  have hu := echo_referenceInput (s := remixInput i inp (claimInput i inp.device s)) (i := i)
    (by rw [hc]; exact ⟨h.live, h.output, h.input, h.active, h.faults⟩) created inp
    (by rw [hc]; exact hk)
  rw [hc] at hu
  rw [startInputStream, hi]
  simp only
  generalize referenceInput i created inp _ = u at hu ⊢
  obtain ⟨channels, -, heq⟩ := openInputPcm_eq i ready u
  rw [heq]
  have ht : (u.pcmOpen.modIn i fun inp =>
      { inp with pcm := some u.newPcm, channels := channels inp }).echo =
        Echo.takeInput { s.echo with activeInput := some i } i created inp.echoes := by
    refine (echo_modIn_same _ i ?_).trans ((echo_pcmOpen u).trans hu)
    exact fun _ => rfl
  rw [Echo.takeInput_activeInput] at ht
  obtain ⟨r, hr⟩ := Echo.input_takeInput created hk
  have hrun : inp.echoes.running = false := by simp [OmapStreamIn.echoes, hs]
  simp only [Echo.startInput, hk, hrun, Bool.false_eq_true, if_false, hr, Option.map_some]
  generalize s.echo.takeInput i created inp.echoes = v at ht hr ⊢
  cases ready with
  | false =>
    simp only [Bool.false_eq_true, if_false]
    generalize u.pcmOpen.modIn i _ = t at ht ⊢
    rw [echo_setActiveInput, echo_pcmClose, ht]
    refine congrArg (fun f => ({ v with activeInput := none, input := f } : Echo)) ?_
    rw [← hrun, ← hr]
    exact (Function.update_eq_self i v.input).symm
  | true =>
    simp only [if_true]
    generalize u.pcmOpen.modIn i _ = t at ht ⊢
    have hre : (t.modIn i fun inp => { inp with capture := inp.capture.restart inp.resampler }).echo =
        t.echo := echo_modIn_same t i fun _ => rfl
    refine (echo_modIn_some (x := { inp.echoes with reference := r })
      (y := { inp.echoes with reference := r, running := true }) ?_ fun inp' he => ?_).trans ?_
    · rw [hre, ht]
      exact hr
    · have h1 : inp'.echoReference = r := congrArg InputEcho.reference he
      have h2 : inp'.needEchoReference = inp.needEchoReference := congrArg InputEcho.need he
      have h3 : inp'.source = inp.source := congrArg InputEcho.source he
      simp only [OmapStreamIn.echoes, h1, h2, h3, Bool.not_false]
    · rw [hre, ht]
      rfl

end

end P970.Audio
