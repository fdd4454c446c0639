import P970.Audio.Calls

/-!
# The voice path

Two properties of the voice path of a call. Its volume stands in the mixer until
an output array is set during the call (`callVolume`): every such array sets the
volume to 0 and nothing puts it back. It is taken down after the call when what
is left of the call sets an output array or the standby route
(`voice_off_outside_call`): nothing else sets "Voice".
-/

namespace P970.Audio

/-! ## The volume of a call -/

/-- Every value of "DAC Voice Digital Downlink Volume" is `v`. -/
def Mixer.VolumeIs (m : Mixer) (v : Int) : Prop :=
  ∃ ctl, m .dacVoiceDigitalDownlinkVolume = some ctl ∧ ∀ x ∈ ctl.values, x = v

/-- "DAC Voice Digital Downlink Volume" stores integers as they are. -/
def Mixer.VolumeStored (m : Mixer) : Prop :=
  ∃ σ, m.shapes .dacVoiceDigitalDownlinkVolume = some σ ∧ σ.1 ≠ .boolean

namespace Desk

variable {d : Desk}

/-- In a call the mixer has the voice volume. -/
def VolumeSet (d : Desk) : Prop :=
  d.mode = audioModeInCall → d.mixer.VolumeIs (voiceLevel d.voiceVolume)

/-- The operation sets no output array during a call. -/
def VolumeKept (d : Desk) : Op → Prop
  | .setOutDevice devices =>
    d.mode = audioModeInCall → outputRoute d.mode devices d.ttyMode = none
  | .setTtyMode ttyMode =>
    d.mode = audioModeInCall → outputRoute d.mode d.outDevice ttyMode = none
  | _ => True

theorem VolumeSet.of_eq {d' : Desk} (h : d.VolumeSet) (hm : d'.mode = d.mode)
    (hx : d'.mixer = d.mixer) (hv : d'.voiceVolume = d.voiceVolume) : d'.VolumeSet := by
  intro hc
  rw [hx, hv]
  exact h (hm ▸ hc)

theorem volumeIs_setVolume (hd : d.mixer.VolumeStored) (v : Volume) :
    (d.setVolume v).mixer.VolumeIs (voiceLevel (d.setVolume v).voiceVolume) := by
  obtain ⟨σ, hσ, hb⟩ := hd
  obtain ⟨ctl, hc, rfl⟩ := Option.map_eq_some_iff.mp hσ
  simp only [setVolume, hc]
  refine ⟨_, Function.update_self .., fun x hx => ?_⟩
  rw [setValues_eq] at hx
  rw [(List.mem_replicate.mp hx).2]
  unfold CtlType.stored
  split
  · next hty => exact absurd hty hb
  · rfl

/-- An output array that is not set leaves the volume to the in-call array, which does not set
it. -/
theorem VolumeSet.selectOutput (hp : d.mixer.Present) (h : d.VolumeSet)
    (hr : d.mode = audioModeInCall → outputRoute d.mode d.outDevice d.ttyMode = none) :
    d.selectOutput.VolumeSet := by
  intro hc
  have hm : d.mode = audioModeInCall := (congrArg Prod.fst d.phase_selectOutput).symm.trans hc
  have hs : d.selectOutput = d.setRoute (incallRoute d.outDevice) := by
    unfold Desk.selectOutput
    rw [if_pos hm, hr hm]
    rfl
  have hv : (d.setRoute (incallRoute d.outDevice)).voiceVolume = d.voiceVolume := by
    cases incallRoute d.outDevice <;> rfl
  have hx : (d.setRoute (incallRoute d.outDevice)).mixer .dacVoiceDigitalDownlinkVolume =
      d.mixer .dacVoiceDigitalDownlinkVolume := by
    cases hi : incallRoute d.outDevice with
    | none => rfl
    | some r =>
      refine setRouteByArray_frame hp ?_
      rw [CallArray.names (.select hi)]
      decide
  rw [hs, hv, Mixer.VolumeIs, hx]
  exact h hm

theorem outsideCall_inCall {f : Desk → Desk} (hc : d.mode = audioModeInCall) :
    d.outsideCall f = d := if_neg (not_not.mpr hc)

theorem VolumeSet.changeMode (hd : d.mixer.VolumeStored) (hs : d.InSync) (h : d.VolumeSet)
    (mode : Int) (o : Option OutId) (i : Option InId) : (d.changeMode mode o i).VolumeSet := by
  by_cases hm : d.mode = mode
  · rw [Desk.changeMode, if_pos hm]
    exact h
  intro hc
  have hp := congrArg Prod.fst (phase_changeMode d hm o i)
  obtain rfl : mode = audioModeInCall := hp.symm.trans hc
  -- the call is entered, which ends with the volume being set
  have hi : d.inCall = false := by rw [hs, decide_eq_false hm]
  have he : d.changeMode audioModeInCall o i =
      ({ d with mode := audioModeInCall } : Desk).enterCall o i := by
    rw [Desk.changeMode, if_neg hm, selectMode]
    simp only [if_true, hi, Bool.false_eq_true, if_false]
  rw [he]
  refine volumeIs_setVolume ?_ _
  have hw : Written (fun _ => True) d.mixer
      (({ d with mode := audioModeInCall } : Desk).stopActive o i).callDevices.selectOutput.mixer := by
    refine (written_stopActive { d with mode := audioModeInCall } (fun _ _ => trivial)
      (fun _ _ => trivial) o i).trans ?_
    rw [← mixer_callDevices]
    exact written_selectOutput _ (fun _ _ => trivial) fun _ _ _ => trivial
  rw [Mixer.VolumeStored, hw.shapes]
  exact hd

theorem VolumeSet.run (hp : d.mixer.Present) (hd : d.mixer.VolumeStored) (hs : d.InSync)
    (h : d.VolumeSet) {op : Op} (hk : d.VolumeKept op) : (op.run d).VolumeSet := by
  by_cases hc : d.mode = audioModeInCall
  case neg =>
    by_cases hop : ∃ mode o i, op = .changeMode mode o i
    · obtain ⟨mode, o, i, rfl⟩ := hop
      exact h.changeMode hd hs mode o i
    · intro hc'
      have hph := phase_run d fun mode o i he => hop ⟨mode, o, i, he⟩
      exact absurd ((congrArg Prod.fst hph).symm.trans hc') hc
  cases op with
  | openOutput | closeOutput | openInput | closeInput | setDevice => exact h.of_eq rfl rfl rfl
  | stopOutput o idle =>
    simp only [Op.run, stopOutput]
    rw [if_neg fun hi : d.mode ≠ audioModeInCall ∧ idle = true => hi.1 hc]
    split <;> exact h.of_eq rfl rfl rfl
  | stopInput i =>
    simp only [Op.run, stopInput, outsideCall_inCall hc]
    split <;> exact h.of_eq rfl rfl rfl
  | startOutput o ready =>
    simp only [Op.run, startOutput, outsideCall_inCall hc]
    split <;> exact h.of_eq rfl rfl rfl
  | startInput i ready =>
    simp only [Op.run, startInput, outsideCall_inCall hc]
    split <;> exact h.of_eq rfl rfl rfl
  | setOutDevice dev =>
    exact VolumeSet.selectOutput (d := { d with outDevice := dev }) hp (h.of_eq rfl rfl rfl) hk
  | setTtyMode t =>
    simp only [Op.run, setTtyMode, if_pos hc]
    exact VolumeSet.selectOutput (d := { d with ttyMode := t }) hp (h.of_eq rfl rfl rfl) hk
  | setVolume v => exact fun _ => volumeIs_setVolume hd v
  | changeMode mode o i => exact h.changeMode hd hs mode o i

end Desk

section
variable {α : Type} (s : Hal α)

/-- The output array an event sets during a call, other than by entering it. -/
def callReroute : Event α → Option Route
  | .outSetParameters _ kvpairs =>
    match strParmsGetStr kvpairs audioParameterStreamRouting with
    | some (_, value) =>
      if s.outDevice ≠ atoi value ∧ atoi value ≠ 0 then
        outputRoute s.mode (atoi value) s.ttyMode
      else none
    | none => none
  | .setParameters kvpairs =>
    match newTtyMode s kvpairs with
    | some ttyMode => outputRoute s.mode s.outDevice ttyMode
    | none => none
  | _ => none

theorem allOk_forceOps (d : Desk) (input : Option InId) :
    Desk.AllOk Desk.VolumeKept (forceOps input) d := by
  cases input with
  | none => trivial
  | some i => exact ⟨trivial, trivial⟩

variable {s} in
theorem allOk_rerouteOps {o : OutId} {val : Devices}
    (h : s.mode = audioModeInCall → (if s.outDevice ≠ val ∧ val ≠ 0 then
      outputRoute s.mode val s.ttyMode else none) = none) :
    Desk.AllOk Desk.VolumeKept (rerouteOps s o val) s.desk := by
  unfold rerouteOps
  split
  · next hv =>
    rw [if_pos hv] at h
    split
    · obtain ⟨hm, -, ht⟩ :=
        Desk.settings_inj (s.desk.settings_stopOutput o s.activeInput.isNone)
      refine ⟨trivial, fun hc => ?_, ?_⟩
      · simp only [Desk.Op.run, hm, ht] at hc ⊢
        exact h hc
      · split
        · exact allOk_forceOps _ _
        · trivial
    · exact ⟨h, trivial⟩
  · trivial

variable {s} in
theorem allOk_volumeKept {e : Event α} (h : s.mode = audioModeInCall → callReroute s e = none) :
    Desk.AllOk Desk.VolumeKept (deskOps s e) s.desk := by
  cases e with
  | outSetParameters o kv =>
    simp only [deskOps, callReroute] at h ⊢
    split
    · next hp =>
      simp only [hp] at h
      exact allOk_rerouteOps h
    · trivial
  | setParameters kv =>
    simp only [deskOps, callReroute] at h ⊢
    split
    · next ht =>
      simp only [ht] at h
      exact ⟨h, trivial⟩
    · trivial
  | outWriteForce => exact allOk_forceOps _ _
  | openOutputStream | openInputStream | inAddAudioEffect | inRemoveAudioEffect =>
    simp only [deskOps]
    split
    · exact ⟨trivial, trivial⟩
    · trivial
  | inSetParameters i kv =>
    simp only [deskOps, inputOps]
    split
    · split
      · exact ⟨trivial, trivial, trivial⟩
      · exact ⟨trivial, trivial⟩
    · trivial
  | closeOutputStream | closeInputStream => exact ⟨trivial, trivial, trivial⟩
  | outWrite | outStandby | inRead | inStandby | setMode | setVoiceVolume =>
    exact ⟨trivial, trivial⟩
  | outWriteData | inReadData | setMicMute => trivial

end

section
variable {α : Type} [Zero α] {s₀ s : Hal α} {name : String} {alloc : Bool} {m : Mixer}

/-- While no step sets an output array during a call, every value of the volume control is the
voice volume in every state of a call. -/
theorem callVolume (h0 : adevOpen name alloc (some m) = .ok s₀) (hm : m.Present)
    (hv : m.VolumeStored)
    (h : Run step (fun s e => s.mode = audioModeInCall → callReroute s e = none) s₀ s)
    (hc : s.mode = audioModeInCall) : s.mixer.VolumeIs (voiceLevel s.voiceVolume) := by
  have h1 : s₀.desk.VolumeSet := by
    obtain ⟨_, ⟨⟩, rfl⟩ := adevOpen_ok h0
    intro hc
    rw [desk_openDevice] at hc
    have hp := (Desk.calloc m).phase_selectOutput
    exact absurd ((congrArg Prod.fst hp).symm.trans hc)
      (show ¬ audioModeNormal = audioModeInCall by decide)
  refine h.invariant_of (I := fun s => s.desk.VolumeSet)
    (J := fun s => s.desk.mixer.shapes = m.shapes ∧ s.desk.InSync)
    (fun u hu => ⟨shapes_run h0 hu, inSync_run h0 hu⟩) h1 ?_ hc
  intro u e t hJ hu hok hs
  rw [desk_step hs]
  refine (Desk.runOps_keeps (I := fun d => d.VolumeSet ∧ d.mixer.shapes = m.shapes ∧ d.InSync)
    ⟨hu, hJ⟩ (allOk_volumeKept hok) fun d op hd hk => ?_).1
  obtain ⟨hd, hs, hi⟩ := hd
  refine ⟨hd.run (hm.of_shapes hs) ?_ hi hk, (d.shapes_run op).trans hs, hi.run op⟩
  rw [Mixer.VolumeStored, hs]
  exact hv

/-- A mixer with the controls the HAL names, each at 0. -/
def boardMixer : Mixer
  | .voice => some ⟨.enumerated ["OFF", "Headset", "Speaker", "Receiver"], [0]⟩
  | .extAmp => some ⟨.enumerated ["OFF", "Speaker", "Dual", "Headset", "Headsetcall", "Spkcall"], [0]⟩
  | _ => some ⟨.integer, [0]⟩

theorem boardMixer_present : boardMixer.Present := by
  intro name
  cases name <;> simp [boardMixer]

theorem boardMixer_volumeStored : boardMixer.VolumeStored := ⟨(.integer, 1), rfl, by decide⟩

theorem callVolume_entered : ∃ s : Hal Nat,
    exec step [.setMode audioModeInCall] (openDevice boardMixer) = some s ∧
    s.mixer.VolumeIs (voiceLevel s.voiceVolume) := by
  have hr : (exec step [.setMode audioModeInCall] (openDevice boardMixer : Hal Nat)).map Hal.mode =
      some audioModeInCall := rfl
  obtain ⟨s, hs, hm⟩ := Option.map_eq_some_iff.mp hr
  refine ⟨s, hs, callVolume (adevOpen_some boardMixer) boardMixer_present boardMixer_volumeStored
    (Run.of_exec hs ⟨fun hc => ?_, fun t _ => trivial⟩) hm⟩
  rfl

theorem le_voiceLevel (v : Volume) : 10 ≤ voiceLevel v := by
  have h := v.2.1
  rw [voiceLevel, Int.le_floor]
  norm_num [minVoiceVolume, maxVoiceVolume]
  linarith

/-- During a call, the text telephone is switched on: the call is muted. -/
theorem callVolume_tty : ∃ s : Hal Nat,
    exec step [.setMode audioModeInCall, .setParameters [("tty_mode", "tty_full")]]
      (openDevice boardMixer) = some s ∧
    s.mode = audioModeInCall ∧ ¬ s.mixer.VolumeIs (voiceLevel s.voiceVolume) := by
  have hr : (exec step [.setMode audioModeInCall, .setParameters [("tty_mode", "tty_full")]]
      (openDevice boardMixer : Hal Nat)).map (fun s =>
        (s.mode, s.mixer .dacVoiceDigitalDownlinkVolume)) =
      some (audioModeInCall, some ⟨.integer, [0]⟩) := rfl
  obtain ⟨s, hs, hp⟩ := Option.map_eq_some_iff.mp hr
  obtain ⟨hm, hx⟩ := Prod.mk.inj hp
  refine ⟨s, hs, hm, ?_⟩
  rintro ⟨ctl, hc, hall⟩
  rw [hx, Option.some.injEq] at hc
  subst hc
  have h0 := hall 0 (by simp)
  have h10 := le_voiceLevel s.voiceVolume
  omega

end

/-! ## The voice path after a call -/

/-- "Voice" is at "OFF". -/
def Mixer.VoiceOff (m : Mixer) : Prop := ∃ ctl, m .voice = some ctl ∧ ctl.item = some "OFF"

/-- "Voice" is a switch with a position "OFF". -/
def Mixer.VoiceSwitch (m : Mixer) : Prop :=
  ∃ items n, m.shapes .voice = some (.enumerated items, n + 1) ∧ "OFF" ∈ items

theorem outputArray_speaker : OutputArray routeSpeaker :=
  have h : outputRoute audioModeNormal audioDeviceOutSpeaker .off = some routeSpeaker := rfl
  .select h

theorem item_mixerCtlSetEnumByString {ctl : Ctl} {items : List String} {n : Nat} {s : String}
    (hc : ctl.shape = (.enumerated items, n + 1)) (hs : s ∈ items) :
    (mixerCtlSetEnumByString ctl s).item = some s := by
  obtain ⟨ht, hn⟩ := Prod.mk.inj hc
  obtain ⟨i, hi⟩ : ∃ i, items.idxOf? s = some i := by
    rw [← Option.isSome_iff_exists, List.isSome_idxOf?]
    exact hs
  obtain ⟨x, xs, hx⟩ := List.exists_cons_of_length_eq_add_one hn
  obtain ⟨hlt, hget⟩ := List.idxOf?_eq_some_iff.mp hi
  simp only [mixerCtlSetEnumByString, ht, hi, Ctl.item, hx, List.mapIdx_cons, List.head?_cons,
    Option.bind_some, if_true, Int.toNat_natCast]
  rw [List.getElem?_eq_getElem hlt, hget.1]

/-- Every output array sets "Voice" to "OFF". -/
theorem OutputArray.sets_voice {r : Route} (h : OutputArray r) (ctl : Ctl) :
    r.sets .voice ctl = mixerCtlSetEnumByString ctl "OFF" := by
  cases h with
  | select h => rcases outputRoute_mem h with rfl | rfl | rfl <;> rfl
  | standby => rfl

theorem voiceOff_setRouteByArray {m : Mixer} (hm : m.Present) (hv : m.VoiceSwitch) {r : Route}
    (hr : OutputArray r) : Mixer.VoiceOff (setRouteByArray r m).2 := by
  obtain ⟨items, n, hs, hoff⟩ := hv
  obtain ⟨ctl, hc, hsh⟩ := Option.map_eq_some_iff.mp hs
  refine ⟨r.sets .voice ctl, ?_, ?_⟩
  · rw [setRouteByArray_apply hm, hc, Option.map_some]
  · rw [hr.sets_voice]
    exact item_mixerCtlSetEnumByString hsh hoff

/-- The arrays set outside a call. -/
def RestArray (r : Route) : Prop := OutputArray r ∨ InputArray r

theorem Mixer.VoiceSwitch.written {R : Route → Prop} {m m' : Mixer} (hv : m.VoiceSwitch)
    (h : Written R m m') : m'.VoiceSwitch := by
  rw [Mixer.VoiceSwitch, h.shapes]
  exact hv

theorem Mixer.VoiceOff.written {m m' : Mixer} (hm : m.Present) (hv : m.VoiceSwitch)
    (h : m.VoiceOff) (hw : Written RestArray m m') : m'.VoiceOff := by
  induction hw with
  | refl => exact h
  | route hw hr ih =>
    rcases hr with hr | hr
    · exact voiceOff_setRouteByArray (hm.of_shapes hw.shapes) (hv.written hw) hr
    · obtain ⟨ctl, hc, ho⟩ := ih
      refine ⟨ctl, ?_, ho⟩
      rw [setRouteByArray_frame (hm.of_shapes hw.shapes) fun hn => ?_, hc]
      exact absurd (hr.names hn) (by decide)
  | volume v hw hc ih =>
    obtain ⟨ctl, hc', ho⟩ := ih
    exact ⟨ctl, (Function.update_of_ne (by decide) ..).trans hc', ho⟩

namespace Desk

variable {d : Desk}

/-- Outside a call, "Voice" is at "OFF". -/
def Silent (d : Desk) : Prop := d.mode ≠ audioModeInCall → d.mixer.VoiceOff

/-- A call is left with a device that has an output array, or with an output playing and no input
active, or with "Voice" already at "OFF". -/
def VoiceLeft (d : Desk) : Op → Prop
  | .changeMode mode output input =>
    d.mode = audioModeInCall → mode ≠ audioModeInCall →
      outputRoute mode d.outDevice d.ttyMode ≠ none ∨
      ((∃ o, output = some o ∧ d.output o = some true) ∧ input = none) ∨ d.mixer.VoiceOff
  | _ => True

theorem written_rest {op : Op} (h : (op.run d).mode ≠ audioModeInCall) :
    Written RestArray d.mixer (op.run d).mixer :=
  d.written_run (fun _ => .inl) (fun _ => .inr) fun hc => absurd hc h

theorem voiceOff_leaveCall (hp : d.mixer.Present) (hv : d.mixer.VoiceSwitch)
    (hm : d.mode ≠ audioModeInCall) {o : Option OutId} {i : Option InId}
    (h : outputRoute d.mode d.outDevice d.ttyMode ≠ none ∨
      ((∃ o', o = some o' ∧ d.output o' = some true) ∧ i = none) ∨ d.mixer.VoiceOff) :
    (d.leaveCall o i).mixer.VoiceOff := by
  rcases h with h | ⟨⟨o, rfl, ho⟩, rfl⟩ | h
  · obtain ⟨r, hr⟩ := Option.ne_none_iff_exists'.mp h
    obtain ⟨h1, h2, h3⟩ := settings_inj (settings_stopActive { d with inCall := false } o i)
    have hw := written_stopActive { d with inCall := false } (R := RestArray)
      (fun _ => .inl) (fun _ => .inr) o i
    have hw' := hw.trans (written_selectOutput _ (fun _ => .inl) fun hc => absurd (h1.symm.trans hc) hm)
    refine Mixer.VoiceOff.written (hp.of_shapes hw'.shapes) (hv.written hw') ?_
      (written_selectInput _ fun _ => .inr)
    rw [selectOutput, h1, h2, h3, if_neg (by exact hm), hr]
    exact voiceOff_setRouteByArray (hp.of_shapes hw.shapes) (hv.written hw) (.select hr)
  · have hs : (({ d with inCall := false } : Desk).stopActive (some o) none).mixer =
        (setRouteByArray routeStandby d.mixer).2 := by
      simp only [stopActive, forceOutput, forceInput, stopOutput, ho, if_true, Option.isNone_none]
      rw [if_pos ⟨hm, trivial⟩]
      rfl
    have hw : Written RestArray (({ d with inCall := false } : Desk).stopActive (some o) none).mixer
        (d.leaveCall (some o) none).mixer := by
      refine (written_selectOutput _ (fun _ => .inl) fun hc => ?_).trans
        (written_selectInput _ fun _ => .inr)
      exact absurd ((settings_inj (settings_stopActive _ _ _)).1.symm.trans hc) hm
    have hsh := shapes_setRouteByArray routeStandby d.mixer
    rw [hs] at hw
    refine (voiceOff_setRouteByArray hp hv .standby).written (hp.of_shapes hsh) ?_ hw
    rw [Mixer.VoiceSwitch, hsh]
    exact hv
  · exact h.written hp hv (d.written_leaveCall hm (fun _ => .inl) (fun _ => .inr) o i)

theorem Silent.run (hp : d.mixer.Present) (hv : d.mixer.VoiceSwitch) (hs : d.InSync)
    (h : d.Silent) {op : Op} (hl : d.VoiceLeft op) : (op.run d).Silent := by
  intro hc
  by_cases hm : d.mode = audioModeInCall
  case neg => exact (h hm).written hp hv (written_rest hc)
  -- only a mode change ends outside the call
  by_cases hop : ∃ mode o i, op = .changeMode mode o i
  case neg =>
    have hph := phase_run d fun mode o i he => hop ⟨mode, o, i, he⟩
    exact absurd ((congrArg Prod.fst hph).trans hm) hc
  obtain ⟨mode, o, i, rfl⟩ := hop
  have hne : d.mode ≠ mode := by
    intro he
    rw [Op.run, changeMode, if_pos he] at hc
    exact hc hm
  have hmode : mode ≠ audioModeInCall := hm ▸ hne.symm
  have he : (Op.changeMode mode o i).run d = ({ d with mode := mode } : Desk).leaveCall o i := by
    rw [Op.run, changeMode, if_neg hne, selectMode, if_neg (by exact hmode),
      if_pos (by exact hs.trans (decide_eq_true hm))]
  rw [he]
  exact voiceOff_leaveCall (d := { d with mode := mode }) hp hv hmode (hl hm hmode)

end Desk

section
variable {α : Type} [Zero α] {s₀ s : Hal α} {name : String} {alloc : Bool} {m : Mixer}

omit [Zero α] in
/-- A call is left with a device that has an output array, or with an output active and no input
active, or with "Voice" already at "OFF". -/
def leavesVoiceOff (s : Hal α) : Event α → Prop
  | .setMode mode =>
    s.mode = audioModeInCall → mode ≠ audioModeInCall →
      outputRoute mode s.outDevice s.ttyMode ≠ none ∨
      (s.activeOutput ≠ none ∧ s.activeInput = none) ∨ s.mixer.VoiceOff
  | _ => True

omit [Zero α] in
theorem allOk_voiceLeft (hI : s.streams.Ok) {e : Event α} (h : leavesVoiceOff s e) :
    Desk.AllOk Desk.VoiceLeft (deskOps s e) s.desk := by
  by_cases he : ∃ mode, e = .setMode mode
  · obtain ⟨mode, rfl⟩ := he
    refine ⟨fun hm hne => ?_, trivial⟩
    rcases h hm hne with hr | ⟨ho, hi⟩ | hv
    · exact .inl hr
    · obtain ⟨o, ho⟩ := Option.ne_none_iff_exists'.mp ho
      refine .inr (.inl ⟨⟨o, ho, ?_⟩, hi⟩)
      obtain ⟨-, x, hx⟩ := hI.inOrder.active (k := .out o) (by rw [active_out, ho, Option.map_some])
      obtain ⟨out, hout, hs⟩ := Option.map_eq_some_iff.mp hx
      show (s.outs o).map _ = _
      rw [hout, Option.map_some, OmapStreamOut.playing, show out.standby = false from congrArg Slot.idle hs]
      rfl
    · exact .inr (.inr hv)
  · refine Desk.allOk_of_mem fun op ho d => ?_
    have hne := deskOps_ne_changeMode s (fun mode hm => he ⟨mode, hm⟩) ho
    cases op with
    | changeMode mode o i => exact absurd rfl (hne mode o i)
    | _ => trivial

/-- While every call is left so, no voice path stays connected outside a call. -/
theorem voice_off_outside_call (h0 : adevOpen name alloc (some m) = .ok s₀) (hm : m.Present)
    (hv : m.VoiceSwitch) (h : Run step leavesVoiceOff s₀ s) (hc : s.mode ≠ audioModeInCall) :
    s.mixer.VoiceOff := by
  have h1 : s₀.desk.Silent := by
    obtain ⟨_, ⟨⟩, rfl⟩ := adevOpen_ok h0
    intro _
    have hs := shapes_setRouteByArray routeSpeaker m
    rw [desk_openDevice]
    refine (voiceOff_setRouteByArray hm hv outputArray_speaker).written (hm.of_shapes hs) ?_ ?_
    · rw [Mixer.VoiceSwitch, hs]
      exact hv
    · exact (Desk.calloc m).written_selectOutput (fun _ => .inl) fun hc =>
        absurd hc (show ¬ audioModeNormal = audioModeInCall by decide)
  refine h.invariant_of (I := fun s => s.desk.Silent)
    (J := fun s => s.streams.Ok ∧ s.desk.mixer.shapes = m.shapes ∧ s.desk.InSync)
    (fun u hu => ⟨streams_ok h0 hu.reach, shapes_run h0 hu, inSync_run h0 hu⟩) h1 ?_ hc
  intro u e t hJ hu hok hs
  rw [desk_step hs]
  refine (Desk.runOps_keeps (I := fun d => d.Silent ∧ d.mixer.shapes = m.shapes ∧ d.InSync)
    ⟨hu, hJ.2⟩ (allOk_voiceLeft hJ.1 hok) fun d op hd hl => ?_).1
  obtain ⟨hd, hs, hi⟩ := hd
  refine ⟨hd.run (hm.of_shapes hs) ?_ hi hl, (d.shapes_run op).trans hs, hi.run op⟩
  rw [Mixer.VoiceSwitch, hs]
  exact hv

theorem boardMixer_voiceSwitch : boardMixer.VoiceSwitch :=
  ⟨["OFF", "Headset", "Speaker", "Receiver"], 0, rfl, by decide⟩

/-- A call on a headset chosen before it. -/
def headsetCall : List (Event Nat) :=
  [.openOutputStream 0 audioDeviceOutWiredHeadset true true,
    .outSetParameters 0 [("routing", "4")], .setMode audioModeInCall]

theorem voice_off_outside_call_headset : ∃ s t : Hal Nat,
    exec step headsetCall (openDevice boardMixer) = some s ∧
    step s (.setMode audioModeNormal) = some t ∧ t.mixer.VoiceOff := by
  have hr : (exec step headsetCall (openDevice boardMixer)).map (fun s =>
      ((outputRoute audioModeNormal s.outDevice s.ttyMode).isSome,
        (step s (.setMode audioModeNormal)).map Hal.mode)) =
      some (true, some audioModeNormal) := rfl
  obtain ⟨s, hs, hp⟩ := Option.map_eq_some_iff.mp hr
  obtain ⟨ho, ht⟩ := Prod.mk.inj hp
  obtain ⟨t, ht, hm⟩ := Option.map_eq_some_iff.mp ht
  have hrun : Run step leavesVoiceOff (openDevice boardMixer) s :=
    Run.of_exec hs ⟨trivial, fun _ _ => ⟨trivial, fun _ _ =>
      ⟨fun _ hne => absurd rfl hne, fun _ _ => trivial⟩⟩⟩
  have hok : leavesVoiceOff s (.setMode audioModeNormal) :=
    fun _ _ => .inl (Option.isSome_iff_ne_none.mp ho)
  refine ⟨s, t, hs, ht, voice_off_outside_call (adevOpen_some boardMixer) boardMixer_present
    boardMixer_voiceSwitch (hrun.snoc hok ht) ?_⟩
  rw [hm]
  decide

/-- A call on the earpiece is over, and "Voice" is still at "Receiver". -/
theorem voice_stays_connected : ∃ s : Hal Nat,
    exec step [.setMode audioModeInCall, .setMode audioModeNormal] (openDevice boardMixer) = some s ∧
    s.mode ≠ audioModeInCall ∧ ¬ s.mixer.VoiceOff := by
  have hr : (exec step [.setMode audioModeInCall, .setMode audioModeNormal]
      (openDevice boardMixer : Hal Nat)).map (fun s =>
        (s.mode, (s.mixer .voice).bind Ctl.item)) =
      some (audioModeNormal, some "Receiver") := rfl
  obtain ⟨s, hs, hp⟩ := Option.map_eq_some_iff.mp hr
  obtain ⟨hm, hx⟩ := Prod.mk.inj hp
  refine ⟨s, hs, by rw [hm]; decide, ?_⟩
  rintro ⟨ctl, hc, ho⟩
  rw [hc, Option.bind_some, ho] at hx
  exact absurd hx (by decide)

end

end P970.Audio
