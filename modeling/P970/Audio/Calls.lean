import P970.Audio.Routing

/-!
# Calls

What every operation on the desk keeps: the in-call flag follows the mode
(`Desk.InSync`), and the mixer is only written by the route arrays of the phase
the desk is in and by the voice volume (`Written`).

A mode change into or out of a call puts exactly the active streams into standby,
so every running stream only when each is the active one of its direction
(`setMode_standby_iff`).
-/

namespace P970.Audio

namespace Desk

variable (d : Desk)

/-! ## The mode and the in-call flag -/

def phase : Int × Bool := (d.mode, d.inCall)

theorem phase_setRoute (r : Option Route) : (d.setRoute r).phase = d.phase := by
  cases r <;> rfl

theorem phase_outsideCall {f : Desk → Desk} (hf : (f d).phase = d.phase) :
    (d.outsideCall f).phase = d.phase := by
  unfold outsideCall
  split
  · exact hf
  · rfl

theorem phase_selectOutput : d.selectOutput.phase = d.phase := by
  unfold selectOutput
  split
  · rw [phase_setRoute, phase_setRoute]
  · rw [phase_setRoute]

theorem phase_selectInput : d.selectInput.phase = d.phase := phase_setRoute d _

theorem phase_setVolume (v : Volume) : (d.setVolume v).phase = d.phase := by
  unfold setVolume
  split <;> rfl

theorem phase_stopOutput (o : OutId) (idle : Bool) : (d.stopOutput o idle).phase = d.phase := by
  unfold stopOutput
  split
  · split
    · exact phase_setRoute d (some routeStandby)
    · rfl
  · rfl

theorem phase_stopInput (i : InId) : (d.stopInput i).phase = d.phase := by
  unfold stopInput
  split
  · exact phase_outsideCall d rfl
  · rfl

theorem phase_forceOutput (o : Option OutId) (idle : Bool) :
    (d.forceOutput o idle).phase = d.phase := by
  cases o with
  | none => rfl
  | some o => exact phase_stopOutput d o idle

theorem phase_forceInput (i : Option InId) : (d.forceInput i).phase = d.phase := by
  cases i with
  | none => rfl
  | some i => exact phase_stopInput d i

theorem phase_stopActive (o : Option OutId) (i : Option InId) :
    (d.stopActive o i).phase = d.phase := by
  rw [stopActive, phase_forceInput, phase_forceOutput]

theorem phase_callDevices : d.callDevices.phase = d.phase := by
  unfold callDevices
  split <;> rfl

theorem mode_enterCall (o : Option OutId) (i : Option InId) : (d.enterCall o i).mode = d.mode := by
  have h : (setVolume (d.stopActive o i).callDevices.selectOutput
      (d.stopActive o i).callDevices.selectOutput.voiceVolume).phase = d.phase := by
    rw [phase_setVolume, phase_selectOutput, phase_callDevices, phase_stopActive]
  exact congrArg Prod.fst h

theorem phase_leaveCall (o : Option OutId) (i : Option InId) :
    (d.leaveCall o i).phase = (d.mode, false) := by
  rw [leaveCall, phase_selectInput, phase_selectOutput, phase_stopActive]
  rfl

/-- After `adev_set_mode` to another mode the flag says whether that is the in-call mode. -/
theorem phase_changeMode {mode : Int} (hm : d.mode ≠ mode) (o : Option OutId) (i : Option InId) :
    (d.changeMode mode o i).phase = (mode, decide (mode = audioModeInCall)) := by
  rw [changeMode, if_neg hm, selectMode]
  simp only
  split
  · next hc =>
    rw [decide_eq_true hc]
    split
    · next hi => exact Prod.ext rfl hi
    · exact Prod.ext (mode_enterCall _ o i) rfl
  · next hc =>
    rw [decide_eq_false hc]
    split
    · exact phase_leaveCall _ o i
    · next hi => exact Prod.ext rfl (Bool.eq_false_iff.mpr hi)

theorem phase_run {op : Op} (h : ∀ mode o i, op ≠ .changeMode mode o i) :
    (op.run d).phase = d.phase := by
  cases op with
  | openOutput | closeOutput | openInput | closeInput | setDevice => rfl
  | stopOutput o idle => exact phase_stopOutput d o idle
  | stopInput i => exact phase_stopInput d i
  | startOutput o ready =>
    simp only [Op.run, startOutput]
    split
    · exact phase_outsideCall d (phase_selectOutput d)
    · rfl
  | startInput i ready =>
    simp only [Op.run, startInput]
    split
    · exact phase_outsideCall d (phase_selectInput _)
    · rfl
  | setOutDevice dev => exact phase_selectOutput _
  | setTtyMode t =>
    simp only [Op.run, setTtyMode]
    split
    · exact phase_selectOutput _
    · rfl
  | setVolume v => exact phase_setVolume d v
  | changeMode mode o i => exact absurd rfl (h mode o i)

/-! ## What the output arrays depend on -/

def settings : Int × Devices × TtyMode := (d.mode, d.outDevice, d.ttyMode)

theorem settings_inj {d d' : Desk} (h : d'.settings = d.settings) :
    d'.mode = d.mode ∧ d'.outDevice = d.outDevice ∧ d'.ttyMode = d.ttyMode := by
  simpa only [settings, Prod.mk.injEq] using h

theorem settings_setRoute (r : Option Route) : (d.setRoute r).settings = d.settings := by
  cases r <;> rfl

theorem settings_outsideCall {f : Desk → Desk} (hf : (f d).settings = d.settings) :
    (d.outsideCall f).settings = d.settings := by
  unfold outsideCall
  split
  · exact hf
  · rfl

theorem settings_selectOutput : d.selectOutput.settings = d.settings := by
  unfold selectOutput
  split
  · rw [settings_setRoute, settings_setRoute]
  · rw [settings_setRoute]

theorem settings_stopOutput (o : OutId) (idle : Bool) :
    (d.stopOutput o idle).settings = d.settings := by
  unfold stopOutput
  split
  · split
    · exact settings_setRoute d (some routeStandby)
    · rfl
  · rfl

theorem settings_stopInput (i : InId) : (d.stopInput i).settings = d.settings := by
  unfold stopInput
  split
  · exact settings_outsideCall d rfl
  · rfl

theorem settings_startInput (i : InId) (ready : Bool) :
    (d.startInput i ready).settings = d.settings := by
  unfold startInput
  split
  · next device _ =>
    exact settings_outsideCall d (settings_setRoute { d with inDevice := device } _)
  · rfl

/-- Stopping the active streams leaves the settings as they are. -/
theorem settings_stopActive (o : Option OutId) (i : Option InId) :
    (d.stopActive o i).settings = d.settings := by
  have h1 : (d.forceOutput o i.isNone).settings = d.settings := by
    cases o with
    | none => rfl
    | some o => exact settings_stopOutput d o _
  refine Eq.trans ?_ h1
  cases i with
  | none => rfl
  | some i => exact settings_stopInput _ i

/-- The in-call flag follows the mode. -/
def InSync : Prop := d.inCall = decide (d.mode = audioModeInCall)

variable {d}

theorem InSync.of_phase {d' : Desk} (h : d.InSync) (hp : d'.phase = d.phase) : d'.InSync := by
  obtain ⟨hm, hi⟩ := Prod.mk.inj hp
  rw [InSync, hm, hi]
  exact h

theorem InSync.run (h : d.InSync) (op : Op) : (op.run d).InSync := by
  by_cases hop : ∃ mode o i, op = .changeMode mode o i
  · obtain ⟨mode, o, i, rfl⟩ := hop
    by_cases hm : d.mode = mode
    · simp only [Op.run, changeMode, if_pos hm]
      exact h
    · obtain ⟨h1, h2⟩ := Prod.mk.inj (phase_changeMode d hm o i)
      rw [InSync, Op.run, h1, h2]
  · exact h.of_phase (phase_run d fun mode o i he => hop ⟨mode, o, i, he⟩)

/-- Every operation of the list meets `ok` on the desk it finds. -/
def AllOk (ok : Desk → Op → Prop) : List Op → Desk → Prop
  | [], _ => True
  | op :: ops, d => ok d op ∧ AllOk ok ops (op.run d)

theorem allOk_of_mem {ok : Desk → Op → Prop} {ops : List Op} (h : ∀ op ∈ ops, ∀ d, ok d op) :
    AllOk ok ops d := by
  induction ops generalizing d with
  | nil => trivial
  | cons op ops ih => exact ⟨h op (by simp) d, ih fun op' ho => h op' (List.mem_cons_of_mem _ ho)⟩

theorem runOps_invariant {I : Desk → Prop} {ops : List Op} (h : I d)
    (hs : ∀ d (op : Op), I d → I (op.run d)) : I (d.runOps ops) := by
  induction ops generalizing d with
  | nil => exact h
  | cons op ops ih => exact ih (hs d op h)

/-- What every operation keeps where it is `ok`, a list of such operations keeps. -/
theorem runOps_keeps {I : Desk → Prop} {ok : Desk → Op → Prop} {ops : List Op} (h : I d)
    (ho : AllOk ok ops d) (hs : ∀ d op, I d → ok d op → I (op.run d)) : I (d.runOps ops) := by
  induction ops generalizing d with
  | nil => exact h
  | cons op ops ih => exact ih (hs d op h ho.1) ho.2

end Desk

section
variable {α : Type} {s : Hal α}

/-- Every stream that runs in `s` is in standby in `t`, its pcm closed, and no stream is active. -/
def AllStandby (s t : Hal α) : Prop :=
  (∀ k x, s.slots k = some ⟨false, x⟩ →
    t.slots k = some ⟨true, none⟩ ∧ ∀ n, x = some n → t.pcms.live n = false) ∧
  t.activeOutput = none ∧ t.activeInput = none

/-- Every running stream is the active one of its direction. -/
def Hal.RunningActive (s : Hal α) : Prop :=
  ∀ k x, s.slots k = some ⟨false, x⟩ → s.actives k.dir = some k

theorem streams_selectMode (h : s.streams.InOrder)
    (hi : s.inCall = !decide (s.mode = audioModeInCall)) :
    (selectMode s).streams.toPool = s.streams.haltAll StreamKey.dir [.out, .inp] := by
  unfold selectMode
  split
  · next hc =>
    rw [decide_eq_true hc] at hi
    rw [hi, Bool.not_true, if_neg Bool.false_ne_true]
    simp only [applyVoiceVolume, streams_setInCall, streams_adevSetVoiceVolume,
      streams_selectOutputDevice, streams_callDevices, streams_forceAllStandby h]
    rfl
  · next hc =>
    rw [decide_eq_false hc] at hi
    rw [hi, Bool.not_false, if_pos rfl, streams_selectInputDevice, streams_selectOutputDevice,
      streams_forceAllStandby (s := s.setInCall false) h]
    rfl

variable [Zero α] {s₀ t : Hal α} {name : String} {alloc : Bool} {mixer : Option Mixer}

omit [Zero α] in
theorem inSync_openDevice (m : Mixer) : (openDevice m : Hal α).desk.InSync := by
  rw [desk_openDevice]
  exact Desk.InSync.of_phase (d := Desk.calloc m) rfl (Desk.phase_selectOutput _)

theorem inSync_run {ok : Hal α → Event α → Prop} (h0 : adevOpen name alloc mixer = .ok s₀)
    (h : Run step ok s₀ s) : s.desk.InSync := by
  obtain ⟨m, -, rfl⟩ := adevOpen_ok h0
  refine h.invariant (I := fun s => s.desk.InSync) (inSync_openDevice m) fun s e t hI _ hs => ?_
  rw [desk_step hs]
  exact Desk.runOps_invariant hI fun d op hd => hd.run op

/-- A mode change into or out of a call stops every running stream exactly when each was the
active one of its direction: `force_all_standby` sees no other. -/
theorem setMode_standby_iff (h0 : adevOpen name alloc mixer = .ok s₀) (h : Reach step s₀ s)
    {mode : Int} (hm : s.mode = audioModeInCall ↔ mode ≠ audioModeInCall)
    (hs : step s (.setMode mode) = some t) : AllStandby s t ↔ s.RunningActive := by
  have hO := (streams_ok h0 h).inOrder
  have hI := inSync_run h0 h
  have hne : s.mode ≠ mode := by
    rintro rfl
    exact (iff_not_self hm)
  obtain ⟨-, -, rfl⟩ := step_some hs
  have ht : (act (.setMode mode) s.clearTrace).clearTrace.streams.toPool =
      s.streams.haltAll StreamKey.dir [.out, .inp] := by
    have hc : ∀ u : Hal α, s.clearTrace.pthreadMutexLock .device = u →
        changeMode mode u = selectMode (u.setMode mode) := by
      rintro u rfl
      exact if_pos hne
    show (changeMode mode (s.clearTrace.pthreadMutexLock .device)).streams.toPool = _
    rw [hc _ rfl, streams_selectMode (s := (s.clearTrace.pthreadMutexLock .device).setMode mode) hO]
    · rfl
    · show s.inCall = !decide (mode = audioModeInCall)
      rw [show s.inCall = decide (s.mode = audioModeInCall) from hI, ← decide_not]
      exact decide_eq_decide.mpr hm
  have hk : ∀ k : StreamKey, k.dir ∈ [Dir.out, Dir.inp] := by
    intro k
    cases k with
    | out o => exact .head _
    | inp i => exact .tail _ (.head _)
  have ha : ∀ d, (act (.setMode mode) s.clearTrace).clearTrace.actives d = none := by
    intro d
    refine (congrArg (fun p => p.active d) ht).trans ?_
    rw [hO.active_haltAll, if_pos (by cases d <;> decide)]
  have hl := hO.haltAll_iff_tight hk
  rw [← ht] at hl
  exact ⟨fun hx => hl.mp hx.1, fun hx => ⟨hl.mpr hx,
    Option.map_eq_none_iff.mp (ha .out), Option.map_eq_none_iff.mp (ha .inp)⟩⟩

/-- Two outputs are opened and played. -/
def playTwo : List (Event Nat) :=
  [.openOutputStream 0 audioDeviceOutSpeaker true true,
    .openOutputStream 1 audioDeviceOutSpeaker true true,
    .outWrite 0 true, .outWriteData 0 false true, .outWrite 1 true, .outWriteData 1 false true]

theorem setMode_standby_iff_playTwo : ∃ s t : Hal Nat,
    exec step playTwo (openDevice fun _ => none) = some s ∧
    step s (.setMode audioModeInCall) = some t ∧ (AllStandby s t ↔ s.RunningActive) := by
  have hr : ((exec step playTwo (openDevice fun _ => none)).map fun s =>
      (s.mode, (step s (.setMode audioModeInCall)).isSome)) = some (0, true) := rfl
  obtain ⟨s, hs, hp⟩ := Option.map_eq_some_iff.mp hr
  obtain ⟨hm, ht⟩ := Prod.mk.inj hp
  obtain ⟨t, ht⟩ := Option.isSome_iff_exists.mp ht
  refine ⟨s, t, hs, ht, setMode_standby_iff (adevOpen_some _) (Reach.of_exec hs) ?_ ht⟩
  rw [hm]
  decide

/-- The output that was started first goes on playing. -/
theorem setMode_leaves_output : ∃ s t : Hal Nat,
    exec step playTwo (openDevice fun _ => none) = some s ∧ s.mode ≠ audioModeInCall ∧
    step s (.setMode audioModeInCall) = some t ∧ ¬ AllStandby s t := by
  have hr : ((exec step playTwo (openDevice fun _ => none)).map fun s =>
      (s.mode, s.slots (.out 0), (step s (.setMode audioModeInCall)).map fun t =>
        t.slots (.out 0))) = some (0, some ⟨false, some 0⟩, some (some ⟨false, some 0⟩)) := rfl
  obtain ⟨s, hs, hp⟩ := Option.map_eq_some_iff.mp hr
  simp only [Prod.mk.injEq] at hp
  obtain ⟨hm, h0, ht⟩ := hp
  obtain ⟨t, ht, h1⟩ := Option.map_eq_some_iff.mp ht
  refine ⟨s, t, hs, by rw [hm]; decide, ht, fun ha => ?_⟩
  have h2 := (ha.1 _ _ h0).1
  rw [h1] at h2
  cases h2

end

/-! ## What is written to the mixer -/

/-- The arrays of `select_output_device` and `do_output_standby`. -/
inductive OutputArray : Route → Prop where
  | select {mode : Int} {devices : Devices} {ttyMode : TtyMode} {r : Route}
      (h : outputRoute mode devices ttyMode = some r) : OutputArray r
  | standby : OutputArray routeStandby

/-- The arrays of `select_input_device` and `do_input_standby`. -/
inductive InputArray : Route → Prop where
  | select {devices : Devices} {r : Route} (h : inputRoute devices = some r) : InputArray r
  | standby : InputArray routeInputStandby

/-- The arrays of `set_incall_device`. -/
inductive CallArray : Route → Prop where
  | select {devices : Devices} {r : Route} (h : incallRoute devices = some r) : CallArray r

theorem outputRoute_mem {mode : Int} {devices : Devices} {ttyMode : TtyMode} {r : Route}
    (h : outputRoute mode devices ttyMode = some r) :
    r = routeSpeakerHeadset ∨ r = routeSpeaker ∨ r = routeHeadset := by
  simp only [outputRoute] at h
  split at h
  · exact .inl (Option.some.inj h).symm
  · split at h
    · exact .inr (.inl (Option.some.inj h).symm)
    · split at h
      · exact .inr (.inr (Option.some.inj h).symm)
      · cases h

theorem incallRoute_mem {devices : Devices} {r : Route} (h : incallRoute devices = some r) :
    r = routeVoicecallEarpiece ∨ r = routeVoicecallHeadset ∨ r = routeVoicecallSpeaker := by
  simp only [incallRoute] at h
  split at h
  · exact .inl (Option.some.inj h).symm
  · split at h
    · exact .inr (.inl (Option.some.inj h).symm)
    · split at h
      · exact .inr (.inl (Option.some.inj h).symm)
      · split at h
        · exact .inr (.inr (Option.some.inj h).symm)
        · cases h

theorem inputRoute_mem {devices : Devices} {r : Route} (h : inputRoute devices = some r) :
    r = routeMainMic ∨ r = routeHeadsetMic := by
  simp only [inputRoute] at h
  split at h
  · exact .inl (Option.some.inj h).symm
  · split at h
    · cases h
    · split at h
      · exact .inr (Option.some.inj h).symm
      · cases h

/-- Every output array sets the same controls. -/
theorem OutputArray.names {r : Route} (h : OutputArray r) : r.names = routeStandby.names := by
  cases h with
  | select h => rcases outputRoute_mem h with rfl | rfl | rfl <;> rfl
  | standby => rfl

theorem InputArray.names {r : Route} (h : InputArray r) : r.names ⊆ routeInputStandby.names := by
  cases h with
  | select h => rcases inputRoute_mem h with rfl | rfl <;> decide
  | standby => exact List.Subset.refl _

/-- Whatever a control held, an input array that sets it overwrites it: each has an entry without
a string for it. -/
theorem InputArray.fixes {r : Route} (h : InputArray r) {name : CtlName} (hn : name ∈ r.names)
    (σ : CtlType × Nat) : FixesAt Ctl.shape σ (r.sets name) := by
  have he : ∃ e ∈ r, e.strval = none ∧ e.ctlName = name := by
    revert name
    cases h with
    | select h => rcases inputRoute_mem h with rfl | rfl <;> decide
    | standby => decide
  obtain ⟨e, he, hs, rfl⟩ := he
  exact Route.fixes he (RouteSetting.fixes_int hs σ)

theorem CallArray.names {r : Route} (h : CallArray r) : r.names = routeVoicecallEarpiece.names := by
  cases h with
  | select h => rcases incallRoute_mem h with rfl | rfl | rfl <;> rfl

/-- What arrays of a class and the voice volume can make of a mixer. -/
inductive Written (R : Route → Prop) (m : Mixer) : Mixer → Prop where
  | refl : Written R m m
  | route {m' : Mixer} {r : Route} : Written R m m' → R r → Written R m (setRouteByArray r m').2
  | volume {m' : Mixer} {ctl : Ctl} (v : Int) : Written R m m' →
      m' .dacVoiceDigitalDownlinkVolume = some ctl →
      Written R m (Function.update m' .dacVoiceDigitalDownlinkVolume (some (setValues ctl v)))

section
variable {R R' : Route → Prop} {m m' m'' : Mixer}

theorem Written.trans (h : Written R m m') (h' : Written R m' m'') : Written R m m'' := by
  induction h' with
  | refl => exact h
  | route _ hr ih => exact .route ih hr
  | volume v _ hc ih => exact .volume v ih hc

theorem Written.shapes (h : Written R m m') : m'.shapes = m.shapes := by
  induction h with
  | refl => rfl
  | route _ _ ih => rw [shapes_setRouteByArray, ih]
  | volume v _ hc ih => rw [shapes_update hc (setValues_shape _ v), ih]

/-- A control no array of the class sets keeps its state. -/
theorem Written.frame (hm : m.Present) {name : CtlName} (hn : ∀ r, R r → name ∉ r.names)
    (hv : name ≠ .dacVoiceDigitalDownlinkVolume) (h : Written R m m') : m' name = m name := by
  induction h with
  | refl => rfl
  | route hw hr ih => rw [setRouteByArray_frame (hm.of_shapes hw.shapes) (hn _ hr), ih]
  | volume v hw hc ih => rw [Function.update_of_ne hv, ih]

end

namespace Desk

variable {R : Route → Prop} (d : Desk)

theorem written_setRoute {r : Option Route} (hr : ∀ x, r = some x → R x) :
    Written R d.mixer (d.setRoute r).mixer := by
  cases r with
  | none => exact .refl
  | some x => exact .route .refl (hr x rfl)

theorem written_outsideCall {f : Desk → Desk}
    (hf : d.mode ≠ audioModeInCall → Written R d.mixer (f d).mixer) :
    Written R d.mixer (d.outsideCall f).mixer := by
  unfold outsideCall
  split
  · next hm => exact hf hm
  · exact .refl

theorem written_selectOutput (ho : ∀ r, OutputArray r → R r)
    (hc : d.mode = audioModeInCall → ∀ r, CallArray r → R r) :
    Written R d.mixer d.selectOutput.mixer := by
  have h1 := d.written_setRoute (R := R) (r := outputRoute d.mode d.outDevice d.ttyMode)
    fun r h => ho r (.select h)
  unfold selectOutput
  simp only
  split
  · next hm => exact h1.trans (written_setRoute _ fun r h => hc hm r (.select h))
  · exact h1

theorem written_selectInput (hi : ∀ r, InputArray r → R r) :
    Written R d.mixer d.selectInput.mixer :=
  d.written_setRoute fun r h => hi r (.select h)

theorem written_setVolume (v : Volume) : Written R d.mixer (d.setVolume v).mixer := by
  unfold setVolume
  split
  · next hc => exact .volume _ .refl hc
  · exact .refl

theorem written_stopOutput (ho : ∀ r, OutputArray r → R r) (o : OutId) (idle : Bool) :
    Written R d.mixer (d.stopOutput o idle).mixer := by
  unfold stopOutput
  split
  · split
    · exact .route .refl (ho _ .standby)
    · exact .refl
  · exact .refl

theorem written_stopInput (hi : ∀ r, InputArray r → R r) (i : InId) :
    Written R d.mixer (d.stopInput i).mixer := by
  unfold stopInput
  split
  · exact d.written_outsideCall fun _ => .route .refl (hi _ .standby)
  · exact .refl

theorem written_startOutput (ho : ∀ r, OutputArray r → R r) (o : OutId) (ready : Bool) :
    Written R d.mixer (d.startOutput o ready).mixer := by
  unfold startOutput
  split
  · exact d.written_outsideCall fun hm => d.written_selectOutput ho fun hc => absurd hc hm
  · exact .refl

theorem written_startInput (hi : ∀ r, InputArray r → R r) (i : InId) (ready : Bool) :
    Written R d.mixer (d.startInput i ready).mixer := by
  unfold startInput
  split
  · next device _ =>
    exact d.written_outsideCall fun _ => written_selectInput { d with inDevice := device } hi
  · exact .refl

theorem written_stopActive (ho : ∀ r, OutputArray r → R r) (hi : ∀ r, InputArray r → R r)
    (o : Option OutId) (i : Option InId) : Written R d.mixer (d.stopActive o i).mixer := by
  have h1 : Written R d.mixer (d.forceOutput o i.isNone).mixer := by
    cases o with
    | none => exact .refl
    | some o => exact d.written_stopOutput ho o _
  refine h1.trans ?_
  cases i with
  | none => exact .refl
  | some i => exact written_stopInput _ hi i

theorem mixer_callDevices : d.callDevices.mixer = d.mixer := by
  unfold callDevices
  split <;> rfl

theorem written_leaveCall (hm : d.mode ≠ audioModeInCall) (ho : ∀ r, OutputArray r → R r)
    (hi : ∀ r, InputArray r → R r) (o : Option OutId) (i : Option InId) :
    Written R d.mixer (d.leaveCall o i).mixer := by
  have h1 := written_stopActive { d with inCall := false } ho hi o i
  have hp := congrArg Prod.fst (phase_stopActive { d with inCall := false } o i)
  refine h1.trans ((written_selectOutput _ ho fun hc => ?_).trans (written_selectInput _ hi))
  exact absurd (hp.symm.trans hc) hm

theorem written_enterCall (ho : ∀ r, OutputArray r → R r) (hi : ∀ r, InputArray r → R r)
    (hc : ∀ r, CallArray r → R r) (o : Option OutId) (i : Option InId) :
    Written R d.mixer (d.enterCall o i).mixer := by
  refine (d.written_stopActive ho hi o i).trans (Written.trans ?_ (written_setVolume _ _))
  rw [← mixer_callDevices]
  exact written_selectOutput _ ho fun _ => hc

/-- An operation that ends outside a call sets no in-call array. -/
theorem written_run (ho : ∀ r, OutputArray r → R r) (hi : ∀ r, InputArray r → R r) {op : Op}
    (hc : (op.run d).mode = audioModeInCall → ∀ r, CallArray r → R r) :
    Written R d.mixer (op.run d).mixer := by
  cases op with
  | openOutput | closeOutput | openInput | closeInput | setDevice => exact .refl
  | stopOutput o idle => exact d.written_stopOutput ho o idle
  | stopInput i => exact d.written_stopInput hi i
  | startOutput o ready => exact d.written_startOutput ho o ready
  | startInput i ready => exact d.written_startInput hi i ready
  | setOutDevice dev =>
    have hp := congrArg Prod.fst (phase_selectOutput { d with outDevice := dev })
    exact written_selectOutput { d with outDevice := dev } ho fun hm => hc (hp.trans hm)
  | setTtyMode t =>
    simp only [Op.run, setTtyMode] at hc ⊢
    split
    · next hm =>
      rw [if_pos hm] at hc
      have hp := congrArg Prod.fst (phase_selectOutput { d with ttyMode := t })
      exact written_selectOutput { d with ttyMode := t } ho fun hm => hc (hp.trans hm)
    · exact .refl
  | setVolume v => exact d.written_setVolume v
  | changeMode mode o i =>
    by_cases hm : d.mode = mode
    · simp only [Op.run, changeMode, if_pos hm]
      exact .refl
    · have hp := congrArg Prod.fst (phase_changeMode d hm o i)
      simp only [Op.run, changeMode, if_neg hm, selectMode]
      split
      · next hcall =>
        split
        · exact .refl
        · exact written_enterCall { d with mode := mode } ho hi (hc (hp.trans hcall)) o i
      · next hcall =>
        split
        · exact written_leaveCall { d with mode := mode } hcall ho hi o i
        · exact .refl

theorem shapes_run (op : Op) : (op.run d).mixer.shapes = d.mixer.shapes :=
  (d.written_run (R := fun _ => True) (fun _ _ => trivial) (fun _ _ => trivial)
    fun _ _ _ => trivial).shapes

end Desk

section
variable {α : Type} [Zero α] {s₀ s : Hal α} {name : String} {alloc : Bool} {m : Mixer}

omit [Zero α] in
theorem shapes_openDevice (m : Mixer) : (openDevice m : Hal α).mixer.shapes = m.shapes := by
  have h : (openDevice m : Hal α).mixer = (Desk.calloc m).selectOutput.mixer :=
    congrArg Desk.mixer (desk_openDevice m)
  have hw := (Desk.calloc m).written_selectOutput (R := fun _ => True) (fun _ _ => trivial)
    fun _ _ _ => trivial
  rw [h, hw.shapes]
  exact shapes_setRouteByArray _ _

theorem shapes_run {ok : Hal α → Event α → Prop} (h0 : adevOpen name alloc (some m) = .ok s₀)
    (h : Run step ok s₀ s) : s.mixer.shapes = m.shapes := by
  obtain ⟨_, ⟨⟩, rfl⟩ := adevOpen_ok h0
  refine h.invariant (I := fun s => s.desk.mixer.shapes = m.shapes) (shapes_openDevice m)
    fun s e t hI _ hs => ?_
  rw [desk_step hs]
  exact Desk.runOps_invariant (I := fun d => d.mixer.shapes = m.shapes) hI
    fun d op hd => (d.shapes_run op).trans hd

end

end P970.Audio
