import P970.Audio.Microphones

/-!
# Routing and the past

The controls of the arrays that the present settings select hold those arrays'
values, whatever came before: of the output and in-call arrays while an output
plays or a call is on (`Desk.Routed`), of the input array while an input captures
outside a call (`Desk.Captured`). So two runs that end in the same settings agree
on these controls (`routing_from_present`). They need not agree on the others: a
device without an array leaves what was there before.
-/

namespace P970.Audio

/-! ## What the present settings select -/

/-- The array of `select_output_device`, followed by that of `set_incall_device` in a call. -/
def selectedRoute (mode : Int) (outDevice : Devices) (ttyMode : TtyMode) : Route :=
  (outputRoute mode outDevice ttyMode).getD [] ++
    if mode = audioModeInCall then (incallRoute outDevice).getD [] else []

/-- The controls of the array hold its values; the voice volume is not the array's to keep. -/
def Mixer.Shows (m : Mixer) (r : Route) : Prop :=
  ∀ name ∈ r.names, name ≠ .dacVoiceDigitalDownlinkVolume →
    ∃ ctl, m name = some ctl ∧ ctl.Shows r name

/-- The enumerated controls have the items the arrays name. -/
def Mixer.Items (m : Mixer) : Prop :=
  ∀ r, OutputArray r ∨ CallArray r → ∀ e ∈ r, ∀ item, e.strval = some item →
    ∃ items n, m.shapes e.ctlName = some (.enumerated items, n) ∧ item ∈ items

/-- Outside a call neither the mode nor the TTY mode matters. -/
theorem outputRoute_outside {mode mode' : Int} (hm : mode ≠ audioModeInCall)
    (hm' : mode' ≠ audioModeInCall) (devices : Devices) (t t' : TtyMode) :
    outputRoute mode devices t = outputRoute mode' devices t' := by
  have h : outputFlags mode devices t = outputFlags mode' devices t' := by
    simp only [outputFlags]
    rw [if_neg fun h => hm h.1, if_neg fun h => hm' h.1]
  rw [outputRoute, outputRoute, h]

theorem selectedRoute_outside {mode mode' : Int} (hm : mode ≠ audioModeInCall)
    (hm' : mode' ≠ audioModeInCall) (devices : Devices) (t t' : TtyMode) :
    selectedRoute mode devices t = selectedRoute mode' devices t' := by
  rw [selectedRoute, selectedRoute, outputRoute_outside hm hm' devices t t', if_neg hm, if_neg hm']

theorem mem_getD {r : Option Route} {e : RouteSetting} (h : e ∈ r.getD []) :
    ∃ x, r = some x ∧ e ∈ x := by
  cases r with
  | none => cases h
  | some x => exact ⟨x, rfl, h⟩

theorem mem_selectedRoute {mode : Int} {devices : Devices} {t : TtyMode} {e : RouteSetting}
    (h : e ∈ selectedRoute mode devices t) : ∃ r, (OutputArray r ∨ CallArray r) ∧ e ∈ r := by
  rcases List.mem_append.mp h with h | h
  · obtain ⟨r, hr, he⟩ := mem_getD h
    exact ⟨r, .inl (.select hr), he⟩
  · split at h
    · obtain ⟨r, hr, he⟩ := mem_getD h
      exact ⟨r, .inr (.select hr), he⟩
    · cases h

/-- Outside a call only output controls are selected. -/
theorem names_selectedRoute {mode : Int} (hm : mode ≠ audioModeInCall) {devices : Devices}
    {t : TtyMode} {name : CtlName} (h : name ∈ (selectedRoute mode devices t).names) :
    name ∈ routeStandby.names := by
  obtain ⟨e, he, rfl⟩ := List.mem_map.mp h
  rw [selectedRoute, if_neg hm, List.append_nil] at he
  obtain ⟨r, hr, he⟩ := mem_getD he
  rw [← OutputArray.names (.select hr)]
  exact List.mem_map_of_mem he

theorem names_inputRoute {devices : Devices} {name : CtlName}
    (h : name ∈ Route.names ((inputRoute devices).getD [])) : name ∈ routeInputStandby.names := by
  obtain ⟨e, he, rfl⟩ := List.mem_map.mp h
  obtain ⟨r, hr, he⟩ := mem_getD he
  exact InputArray.names (.select hr) (List.mem_map_of_mem he)

theorem output_not_input {name : CtlName} (h : name ∈ routeStandby.names) :
    name ∉ routeInputStandby.names := by
  revert name
  decide

theorem Route.sets_nil (name : CtlName) : Route.sets [] name = id := rfl

theorem Route.sets_append (r r' : Route) (name : CtlName) (ctl : Ctl) :
    Route.sets (r ++ r') name ctl = r'.sets name (r.sets name ctl) := by
  rw [Route.sets, Route.writes, List.map_append]
  exact effect_append name _ _ ctl

/-- Writes to other controls leave what an array shows. -/
theorem Mixer.Shows.written {R : Route → Prop} {m m' : Mixer} {r : Route} (hp : m.Present)
    (h : m.Shows r) (hd : ∀ x, R x → ∀ name ∈ r.names, name ∉ x.names) (hw : Written R m m') :
    m'.Shows r := by
  intro name hn hv
  obtain ⟨ctl, hc, hs⟩ := h name hn hv
  exact ⟨ctl, by rw [hw.frame hp (fun x hx => hd x hx name hn) hv, hc], hs⟩

/-- Setting an array that overwrites its controls makes the mixer show it. -/
theorem shows_of_sets {m m' : Mixer} {r : Route} (hp : m.Present)
    (hm : ∀ name, m' name = (m name).map (r.sets name))
    (hf : ∀ name ∈ r.names, ∀ ctl, m name = some ctl → FixesAt Ctl.shape ctl.shape (r.sets name)) :
    m'.Shows r := by
  intro name hn _
  obtain ⟨ctl, hc⟩ := Option.ne_none_iff_exists'.mp (hp name)
  refine ⟨r.sets name ctl, ?_, Route.shows (hf name hn ctl hc)⟩
  rw [hm, hc, Option.map_some]

/-- Two mixers of one shape that show one array agree on what it overwrites. -/
theorem Mixer.Shows.eq {m m' : Mixer} {r : Route} (h : m.Shows r) (h' : m'.Shows r)
    (hσ : m.shapes = m'.shapes) {name : CtlName} (hn : name ∈ r.names)
    (hv : name ≠ .dacVoiceDigitalDownlinkVolume)
    (hf : ∀ ctl, m name = some ctl → FixesAt Ctl.shape ctl.shape (r.sets name)) :
    m name = m' name := by
  obtain ⟨ctl, hc, hs⟩ := h name hn hv
  obtain ⟨ctl', hc', hs'⟩ := h' name hn hv
  have hsh : ctl'.shape = ctl.shape := by
    have hx := congrFun hσ name
    simp only [Mixer.shapes, hc, hc', Option.map_some, Option.some.injEq] at hx
    exact hx.symm
  rw [hc, hc', Holds.eq (hf ctl hc) rfl hsh hs hs']

theorem Mixer.Items.fixes {m : Mixer} (h : m.Items) {r : Route} (hr : OutputArray r ∨ CallArray r)
    {e : RouteSetting} (he : e ∈ r) {ctl : Ctl} (hc : m e.ctlName = some ctl) :
    FixesAt Ctl.shape ctl.shape e.set := by
  cases hs : e.strval with
  | none => exact RouteSetting.fixes_int hs _
  | some item =>
    obtain ⟨items, n, hσ, hi⟩ := h r hr e he item hs
    have hsh : ctl.shape = (.enumerated items, n) := by
      simpa only [Mixer.shapes, hc, Option.map_some, Option.some.injEq] using hσ
    rw [hsh]
    exact RouteSetting.fixes_str hs hi n

namespace Desk

variable {d : Desk}

def selected (d : Desk) : Route := selectedRoute d.mode d.outDevice d.ttyMode

theorem mixer_setRoute (hp : d.mixer.Present) (r : Option Route) (name : CtlName) :
    (d.setRoute r).mixer name = (d.mixer name).map (Route.sets (r.getD []) name) := by
  cases r with
  | none => rw [Option.getD_none, Route.sets_nil, Option.map_id, id]; rfl
  | some r => exact setRouteByArray_apply hp r name

theorem mixer_selectOutput (hp : d.mixer.Present) (name : CtlName) :
    d.selectOutput.mixer name = (d.mixer name).map (d.selected.sets name) := by
  have h1 := d.written_setRoute (R := fun _ => True)
    (r := outputRoute d.mode d.outDevice d.ttyMode) fun _ _ => trivial
  have hs : d.selected.sets name = fun ctl =>
      Route.sets (if d.mode = audioModeInCall then (incallRoute d.outDevice).getD [] else []) name
        (Route.sets ((outputRoute d.mode d.outDevice d.ttyMode).getD []) name ctl) :=
    funext (Route.sets_append _ _ name)
  rw [hs]
  unfold selectOutput
  simp only
  split
  · rw [mixer_setRoute (hp.of_shapes h1.shapes), mixer_setRoute hp, Option.map_map]
    rfl
  · rw [mixer_setRoute hp]
    rfl

theorem fixes_selected (hi : d.mixer.Items) {name : CtlName} (hn : name ∈ d.selected.names)
    (ctl : Ctl) (hc : d.mixer name = some ctl) :
    FixesAt Ctl.shape ctl.shape (d.selected.sets name) := by
  obtain ⟨e, he, rfl⟩ := List.mem_map.mp hn
  obtain ⟨r, hr, her⟩ := mem_selectedRoute he
  exact Route.fixes he (hi.fixes hr her hc)

theorem shows_selectOutput (hp : d.mixer.Present) (hi : d.mixer.Items) :
    d.selectOutput.mixer.Shows d.selected :=
  shows_of_sets hp (mixer_selectOutput hp) fun _ hn => fixes_selected hi hn

theorem fixes_inputRoute {device : Devices} {name : CtlName}
    (hn : name ∈ Route.names ((inputRoute device).getD [])) (σ : CtlType × Nat) :
    FixesAt Ctl.shape σ (Route.sets ((inputRoute device).getD []) name) := by
  cases hr : inputRoute device with
  | none =>
    rw [hr] at hn
    cases hn
  | some r =>
    rw [hr] at hn
    exact InputArray.fixes (.select hr) hn _

theorem shows_routeInput (hp : d.mixer.Present) (device : Devices) :
    (d.routeInput device).mixer.Shows ((inputRoute device).getD []) := by
  have hm := mixer_setRoute (d := { d with inDevice := device }) hp (inputRoute device)
  exact shows_of_sets hp hm fun name hn ctl _ => fixes_inputRoute hn _

/-- While an output plays or a call is on, the mixer shows what is selected. -/
def Routed (d : Desk) : Prop :=
  d.mode = audioModeInCall ∨ (∃ o, d.output o = some true) → d.mixer.Shows d.selected

/-- While an input captures outside a call, the mixer shows the array of its device. -/
def Captured (d : Desk) : Prop :=
  d.mode ≠ audioModeInCall → ∀ i device, d.input i = some (true, device) →
    d.mixer.Shows ((inputRoute device).getD [])

/-- The operation is on the one stream of its direction. -/
def Sole (d : Desk) : Op → Prop
  | .stopOutput o _ => ∀ o', d.output o' = some true → o' = o
  | .stopInput i | .startInput i _ => ∀ i' device, d.input i' = some (true, device) → i' = i
  | .setDevice i device => ∀ device', d.input i = some (true, device') → device' = device
  | .changeMode _ output input =>
    (∀ o, d.output o = some true → output = some o) ∧
    ∀ i device, d.input i = some (true, device) → input = some i
  | _ => True

theorem Routed.of_written {R : Route → Prop} {d' : Desk} (hp : d.mixer.Present) (h : d.Routed)
    (hm : d'.mode = d.mode) (hs : d'.selected = d.selected)
    (ho : ∀ o, d'.output o = some true → ∃ o, d.output o = some true)
    (hd : ∀ x, R x → ∀ name ∈ d.selected.names, name ∉ x.names)
    (hw : Written R d.mixer d'.mixer) : d'.Routed := by
  intro hr
  rw [hs]
  refine (h ?_).written hp hd hw
  rcases hr with hc | ⟨o, hr⟩
  · exact .inl (hm ▸ hc)
  · exact .inr (ho o hr)

theorem Routed.of_eq {d' : Desk} (hp : d.mixer.Present) (h : d.Routed) (hm : d'.mode = d.mode)
    (hs : d'.selected = d.selected) (ho : ∀ o, d'.output o = some true → ∃ o, d.output o = some true)
    (hx : d'.mixer = d.mixer) : d'.Routed :=
  h.of_written (R := fun _ => False) hp hm hs ho (fun _ hf => hf.elim) (hx ▸ .refl)

/-- An input array sets nothing that is selected outside a call. -/
theorem input_disjoint (hm : d.mode ≠ audioModeInCall) {x : Route} (hx : InputArray x)
    {name : CtlName} (hn : name ∈ d.selected.names) : name ∉ x.names :=
  fun h => output_not_input (names_selectedRoute hm hn) (hx.names h)

theorem output_stopInput (d : Desk) (i : InId) : (d.stopInput i).output = d.output := by
  unfold stopInput
  split
  · exact d.output_outsideCall rfl
  · rfl

theorem output_startInput (d : Desk) (i : InId) (ready : Bool) :
    (d.startInput i ready).output = d.output := by
  unfold startInput
  split
  · exact d.output_outsideCall (output_setRoute _ _)
  · rfl

theorem selected_congr {d' : Desk} (h : d'.settings = d.settings) : d'.selected = d.selected :=
  congrArg (fun p : Int × Devices × TtyMode => selectedRoute p.1 p.2.1 p.2.2) h

/-- Input operations: outside a call they set input arrays, during a call none. -/
theorem Routed.of_input {d' : Desk} (hp : d.mixer.Present) (h : d.Routed)
    (hs : d'.settings = d.settings) (ho : d'.output = d.output)
    (hc : d.mode = audioModeInCall → d'.mixer = d.mixer)
    (hw : Written InputArray d.mixer d'.mixer) : d'.Routed := by
  have ho' : ∀ o, d'.output o = some true → ∃ o, d.output o = some true := fun o h => ⟨o, ho ▸ h⟩
  have hm := (settings_inj hs).1
  by_cases hcall : d.mode = audioModeInCall
  · exact h.of_eq hp hm (selected_congr hs) ho' (hc hcall)
  · exact h.of_written hp hm (selected_congr hs) ho'
      (fun x hx name hn => input_disjoint hcall hx hn) hw

theorem Routed.stopInput (hp : d.mixer.Present) (h : d.Routed) (i : InId) :
    (d.stopInput i).Routed := by
  refine h.of_input hp (settings_stopInput d i) (output_stopInput d i) (fun hc => ?_)
    (d.written_stopInput (fun _ => id) i)
  have hx := congrArg mixer (outsideCall_inCall (f := unrouteInput) hc)
  unfold Desk.stopInput
  split
  · exact hx
  · rfl

theorem Routed.startInput (hp : d.mixer.Present) (h : d.Routed) (i : InId) (ready : Bool) :
    (d.startInput i ready).Routed := by
  refine h.of_input hp (settings_startInput d i ready) (output_startInput d i ready) (fun hc => ?_)
    (d.written_startInput (fun _ => id) i ready)
  unfold Desk.startInput
  split
  · next device _ =>
    have hx := congrArg mixer (outsideCall_inCall (f := (·.routeInput device)) hc)
    exact hx
  · rfl

theorem Routed.stopOutput (h : d.Routed) {o : OutId} {idle : Bool}
    (hs : d.Sole (.stopOutput o idle)) : (d.stopOutput o idle).Routed := by
  unfold Desk.stopOutput
  split
  case isFalse => exact h
  next ho =>
    rintro (hc | ⟨o', hr⟩)
    · have hc : d.mode = audioModeInCall := by
        revert hc
        split <;> exact id
      rw [if_neg fun hi : d.mode ≠ audioModeInCall ∧ idle = true => hi.1 hc]
      exact h (.inl hc)
    · -- the one output that played has stopped
      have hne : o' ≠ o := by
        rintro rfl
        have hr := (Function.update_self ..).symm.trans hr
        cases hr
      exact absurd (hs o' ((Function.update_of_ne hne ..).symm.trans hr)) hne

theorem Routed.startOutput (hp : d.mixer.Present) (hi : d.mixer.Items) (h : d.Routed) (o : OutId)
    (ready : Bool) : (d.startOutput o ready).Routed := by
  unfold Desk.startOutput
  split
  case isFalse => exact h
  next ho =>
    by_cases hc : d.mode = audioModeInCall
    · rw [show d.outsideCall selectOutput = d from outsideCall_inCall hc]
      exact fun _ => h (.inl hc)
    · intro _
      rw [outsideCall, if_pos hc]
      show d.selectOutput.mixer.Shows d.selectOutput.selected
      rw [selected_congr d.settings_selectOutput]
      exact shows_selectOutput hp hi

theorem output_setVolume (d : Desk) (v : Volume) : (d.setVolume v).output = d.output := by
  unfold setVolume
  split <;> rfl

theorem settings_setVolume (d : Desk) (v : Volume) : (d.setVolume v).settings = d.settings := by
  unfold setVolume
  split <;> rfl

theorem Routed.setVolume (hp : d.mixer.Present) (h : d.Routed) (v : Volume) :
    (d.setVolume v).Routed := by
  have hs := settings_setVolume d v
  exact h.of_written (R := fun _ => False) hp (settings_inj hs).1 (selected_congr hs)
    (fun o ho => ⟨o, output_setVolume d v ▸ ho⟩) (fun _ hf => hf.elim) (d.written_setVolume v)

/-- Once `select_output_device` has run, the mixer shows what it selected. -/
theorem routed_selectOutput (hp : d.mixer.Present) (hi : d.mixer.Items) : d.selectOutput.Routed := by
  intro _
  rw [selected_congr d.settings_selectOutput]
  exact shows_selectOutput hp hi

theorem Routed.setTtyMode (hp : d.mixer.Present) (hi : d.mixer.Items) (h : d.Routed) (t : TtyMode) :
    (d.setTtyMode t).Routed := by
  unfold Desk.setTtyMode
  split
  · exact routed_selectOutput (d := { d with ttyMode := t }) hp hi
  · next hm =>
    exact h.of_eq hp rfl (selectedRoute_outside hm hm d.outDevice t d.ttyMode)
      (fun o ho => ⟨o, ho⟩) rfl

/-- Nothing that plays on the desk left by `stopActive` was active before. -/
theorem output_stopActive (d : Desk) {output : Option OutId} {input : Option InId} {o : OutId}
    (h : (d.stopActive output input).output o = some true) :
    d.output o = some true ∧ output ≠ some o := by
  have h1 : (d.forceOutput output input.isNone).output o = some true := by
    unfold stopActive at h
    cases input with
    | none => exact h
    | some i => rwa [forceInput, output_stopInput] at h
  cases output with
  | none => exact ⟨h1, by simp⟩
  | some o' =>
    rw [forceOutput, stopOutput] at h1
    by_cases ho : o = o'
    · subst ho
      split at h1
      · have h1 := (Function.update_self ..).symm.trans h1
        cases h1
      · next hn => exact absurd h1 hn
    · refine ⟨?_, by simpa using Ne.symm ho⟩
      split at h1
      · exact (Function.update_of_ne ho ..).symm.trans h1
      · exact h1

theorem input_stopActive (d : Desk) {output : Option OutId} {input : Option InId} {i : InId}
    {device : Devices} (h : (d.stopActive output input).input i = some (true, device)) :
    d.input i = some (true, device) ∧ input ≠ some i := by
  have hf : ∀ idle, (d.forceOutput output idle).input = d.input := by
    intro idle
    cases output with
    | none => rfl
    | some o => exact input_stopOutput d o idle
  unfold stopActive at h
  cases input with
  | none =>
    rw [forceInput, hf] at h
    exact ⟨h, by simp⟩
  | some j =>
    have hn := stopInput_not_true (d.forceOutput output (some j).isNone) j
    rw [forceInput] at h
    have hij : i ≠ j := by
      rintro rfl
      exact hn device h
    refine ⟨?_, by simpa using Ne.symm hij⟩
    unfold stopInput at h
    split at h
    · rw [← hf]
      exact (Function.update_of_ne hij ..).symm.trans h
    · rwa [hf] at h

theorem Routed.changeMode (hp : d.mixer.Present) (hi : d.mixer.Items) (hs : d.InSync)
    (h : d.Routed) {mode : Int} {output : Option OutId} {input : Option InId}
    (hsole : d.Sole (.changeMode mode output input)) :
    (d.changeMode mode output input).Routed := by
  by_cases hm : d.mode = mode
  · rw [Desk.changeMode, if_pos hm]
    exact h
  rw [Desk.changeMode, if_neg hm, selectMode]
  by_cases hmode : mode = audioModeInCall
  · -- entering the call: the volume is set last
    subst hmode
    rw [if_pos rfl, if_neg (by
      exact Bool.eq_false_iff.mp (hs.trans (decide_eq_false hm)))]
    have hw := written_stopActive { d with mode := audioModeInCall } (R := fun _ => True)
      (fun _ _ => trivial) (fun _ _ => trivial) output input
    have hsh := hw.shapes
    rw [← mixer_callDevices] at hsh
    have hw' := written_selectOutput (R := fun _ => True)
      (({ d with mode := audioModeInCall } : Desk).stopActive output input).callDevices
      (fun _ _ => trivial) fun _ _ _ => trivial
    refine Routed.setVolume (hp.of_shapes (hw'.shapes.trans hsh))
      (routed_selectOutput (hp.of_shapes hsh) ?_) _
    rw [Mixer.Items, hsh]
    exact hi
  rw [if_neg (by exact hmode)]
  by_cases hcall : d.mode = audioModeInCall
  · -- leaving the call: nothing plays any more
    rw [if_pos (by exact hs.trans (decide_eq_true hcall))]
    rintro (hc | ⟨o, ho⟩)
    · have hph := congrArg Prod.fst (phase_leaveCall { d with mode := mode } output input)
      exact absurd (hph.symm.trans hc) hmode
    · rw [leaveCall, selectInput, output_setRoute, output_selectOutput] at ho
      obtain ⟨ho, hne⟩ := output_stopActive _ ho
      exact absurd (hsole.1 o ho) hne
  · rw [if_neg (by exact Bool.eq_false_iff.mp (hs.trans (decide_eq_false hcall)))]
    have hsel := selectedRoute_outside hmode hcall d.outDevice d.ttyMode d.ttyMode
    rintro (hc | ho)
    · exact absurd hc hmode
    · have hsh := h (.inr ho)
      rw [show (selected { d with mode := mode }) = d.selected from hsel]
      exact hsh

theorem Routed.run (hp : d.mixer.Present) (hi : d.mixer.Items) (hs : d.InSync) (h : d.Routed)
    {op : Op} (hsole : d.Sole op) : (op.run d).Routed := by
  cases op with
  | openOutput o =>
    refine h.of_eq hp rfl rfl (fun o' ho => ⟨o', ?_⟩) rfl
    rcases eq_or_ne o' o with rfl | hne
    · have ho := (Function.update_self ..).symm.trans ho
      cases ho
    · exact (Function.update_of_ne hne ..).symm.trans ho
  | closeOutput o =>
    refine h.of_eq hp rfl rfl (fun o' ho => ⟨o', ?_⟩) rfl
    rcases eq_or_ne o' o with rfl | hne
    · have ho := (Function.update_self ..).symm.trans ho
      cases ho
    · exact (Function.update_of_ne hne ..).symm.trans ho
  | openInput | closeInput | setDevice => exact h
  | stopOutput o idle => exact h.stopOutput hsole
  | stopInput i => exact h.stopInput hp i
  | startOutput o ready => exact h.startOutput hp hi o ready
  | startInput i ready => exact h.startInput hp i ready
  | setOutDevice dev => exact routed_selectOutput (d := { d with outDevice := dev }) hp hi
  | setTtyMode t => exact h.setTtyMode hp hi t
  | setVolume v => exact h.setVolume hp v
  | changeMode mode o i => exact h.changeMode hp hi hs hsole

/-- Output operations outside a call set no control of an input array. -/
theorem Captured.of_written {d' : Desk} (hp : d.mixer.Present) (h : d.Captured)
    (hm : d'.mode = d.mode) (hi : d'.input = d.input) (hw : Written OutputArray d.mixer d'.mixer) :
    d'.Captured := by
  intro hc i device hd
  refine (h (hm ▸ hc) i device (hi ▸ hd)).written hp (fun x hx name hn hx' => ?_) hw
  rw [hx.names] at hx'
  exact output_not_input hx' (names_inputRoute hn)

theorem Captured.startInput (hp : d.mixer.Present) (h : d.Captured) {i : InId} {ready : Bool}
    (hs : d.Sole (.startInput i ready)) : (d.startInput i ready).Captured := by
  unfold Desk.startInput
  split
  case h_2 => exact h
  next device hi =>
    intro hc j dev hj
    have hm : d.mode ≠ audioModeInCall := fun hm => hc (by
      rw [show (d.outsideCall (·.routeInput device)) = d from outsideCall_inCall hm]
      exact hm)
    have hji : j = i := by
      by_contra hne
      exact hne (hs j dev ((Function.update_of_ne hne ..).symm.trans hj))
    subst hji
    have hj := (Function.update_self ..).symm.trans hj
    obtain rfl : device = dev := congrArg Prod.snd (Option.some.inj hj)
    show (d.outsideCall (·.routeInput device)).mixer.Shows _
    rw [outsideCall, if_pos hm]
    exact shows_routeInput hp device

theorem Captured.stopInput (h : d.Captured) {i : InId} (hs : d.Sole (.stopInput i)) :
    (d.stopInput i).Captured := by
  by_cases hi : ∃ device, d.input i = some (true, device)
  · intro _ j dev hj
    -- the one input that captured has stopped
    have hn := stopInput_not_true d i dev
    have hji : j ≠ i := by
      rintro rfl
      exact hn hj
    unfold Desk.stopInput at hj
    split at hj
    · exact absurd (hs j dev ((Function.update_of_ne hji ..).symm.trans hj)) hji
    · exact absurd (hs j dev hj) hji
  · rw [stopInput_idle fun device hd => hi ⟨device, hd⟩]
    exact h

theorem Captured.changeMode (h : d.Captured) (hs : d.InSync) {mode : Int} {output : Option OutId}
    {input : Option InId} (hsole : d.Sole (.changeMode mode output input)) :
    (d.changeMode mode output input).Captured := by
  by_cases hm : d.mode = mode
  · rw [Desk.changeMode, if_pos hm]
    exact h
  intro hc
  have hmode : mode ≠ audioModeInCall := by
    have hph := congrArg Prod.fst (phase_changeMode d hm output input)
    exact fun he => hc (hph.trans he)
  intro i device hi
  by_cases hcall : d.mode = audioModeInCall
  · -- leaving the call: nothing captures any more
    rw [Desk.changeMode, if_neg hm, selectMode, if_neg (by exact hmode),
      if_pos (by exact hs.trans (decide_eq_true hcall)), leaveCall, selectInput, input_setRoute,
      input_selectOutput] at hi
    obtain ⟨hi, hne⟩ := input_stopActive _ hi
    exact absurd (hsole.2 i device hi) hne
  · rw [Desk.changeMode, if_neg hm, selectMode, if_neg (by exact hmode),
      if_neg (by exact Bool.eq_false_iff.mp (hs.trans (decide_eq_false hcall)))] at hi ⊢
    exact h hcall i device hi

theorem Captured.run (hp : d.mixer.Present) (hs : d.InSync) (h : d.Captured) {op : Op}
    (hsole : d.Sole op) : (op.run d).Captured := by
  cases op with
  | openOutput | closeOutput => exact h
  | openInput i device =>
    intro hc j dev hj
    rcases eq_or_ne j i with rfl | hne
    · have hj := (Function.update_self ..).symm.trans hj
      cases hj
    · exact h hc j dev ((Function.update_of_ne hne ..).symm.trans hj)
  | closeInput i =>
    intro hc j dev hj
    rcases eq_or_ne j i with rfl | hne
    · have hj := (Function.update_self ..).symm.trans hj
      cases hj
    · exact h hc j dev ((Function.update_of_ne hne ..).symm.trans hj)
  | setDevice i device =>
    intro hc j dev hj
    rcases eq_or_ne j i with rfl | hne
    · have hj := (Function.update_self ..).symm.trans hj
      obtain ⟨⟨b, dev'⟩, hd, he⟩ := Option.map_eq_some_iff.mp hj
      obtain ⟨rfl, rfl⟩ := Prod.mk.inj he
      obtain rfl := hsole dev' hd
      exact h hc j _ hd
    · exact h hc j dev ((Function.update_of_ne hne ..).symm.trans hj)
  | stopInput i => exact h.stopInput hsole
  | startInput i ready => exact h.startInput hp hsole
  | changeMode mode o i => exact h.changeMode hs hsole
  | stopOutput o idle =>
    exact h.of_written hp (settings_inj (d.settings_stopOutput o idle)).1 (input_stopOutput d o idle)
      (d.written_stopOutput (fun _ => id) o idle)
  | startOutput o ready =>
    refine h.of_written hp ?_ (input_startOutput d o ready) (d.written_startOutput (fun _ => id) o ready)
    exact congrArg Prod.fst (@phase_run d (.startOutput o ready) (by simp))
  | setVolume v =>
    exact h.of_written hp (settings_inj (settings_setVolume d v)).1 (input_setVolume d v)
      (d.written_setVolume v)
  | setOutDevice dev =>
    intro hc
    have hm := (settings_inj (settings_selectOutput { d with outDevice := dev })).1
    exact Captured.of_written hp (d := { d with outDevice := dev }) h hm (input_selectOutput _)
      (written_selectOutput _ (fun _ => id) fun hcall => absurd (hm.trans hcall) hc) hc
  | setTtyMode t =>
    intro hc
    simp only [Op.run, setTtyMode] at hc ⊢
    split
    · next hcall =>
      rw [if_pos hcall] at hc
      have hm := (settings_inj (settings_selectOutput { d with ttyMode := t })).1
      exact absurd (hm.trans hcall) hc
    · next hcall => exact fun i dev hi => h hcall i dev hi

end Desk

section
variable {α : Type} {s : Hal α}

/-- When nothing changed, the device did not. -/
theorem inputParameters_device {kvpairs : KvPairs} {inp : OmapStreamIn α}
    (h : (inputParameters kvpairs inp).2 = false) :
    (inputParameters kvpairs inp).1.device = inp.device := by
  have hs : (inputSource kvpairs inp).1.device = inp.device := by
    unfold inputSource
    split
    · simp only
      split <;> rfl
    · rfl
  unfold inputParameters inputDevice at h ⊢
  split
  · next hk =>
    simp only [hk] at h ⊢
    split
    · next hc =>
      rw [if_pos hc] at h
      cases h
    · exact hs
  · exact hs

theorem output_sole (h1 : s.streams.One) {o o' : OutId} (ho : (s.outs o).isSome)
    (h : s.desk.output o' = some true) : o' = o := by
  obtain ⟨out, hout⟩ := Option.isSome_iff_exists.mp ho
  obtain ⟨out', hout', -⟩ := Option.map_eq_some_iff.mp h
  have hk := h1.single (.out o') (.out o) (by rw [slot_out hout']; simp)
    (by rw [slot_out hout]; simp) rfl
  exact StreamKey.out.inj hk

theorem input_sole (h1 : s.streams.One) {i i' : InId} {device : Devices} (hi : (s.ins i).isSome)
    (h : s.desk.input i' = some (true, device)) : i' = i := by
  obtain ⟨inp, hinp⟩ := Option.isSome_iff_exists.mp hi
  obtain ⟨inp', hinp', -⟩ := Option.map_eq_some_iff.mp h
  have hk := h1.single (.inp i') (.inp i) (by rw [slot_inp hinp']; simp)
    (by rw [slot_inp hinp]; simp) rfl
  exact StreamKey.inp.inj hk

theorem output_active (h1 : s.streams.One) {o : OutId} (h : s.desk.output o = some true) :
    s.activeOutput = some o := by
  obtain ⟨out, hout, hp⟩ := Option.map_eq_some_iff.mp h
  have hs : out.standby = false := by simpa [OmapStreamOut.playing] using hp
  have ha := h1.tight (.out o) out.pcm (by rw [slot_out hout, OmapStreamOut.slot, hs])
  obtain ⟨o', ho', hk⟩ := Option.map_eq_some_iff.mp ha
  rw [ho', StreamKey.out.inj hk]

theorem input_active (h1 : s.streams.One) {i : InId} {device : Devices}
    (h : s.desk.input i = some (true, device)) : s.activeInput = some i := by
  obtain ⟨inp, hinp, hs, -⟩ := desk_input_eq_true.mp h
  have ha := h1.tight (.inp i) inp.pcm (by rw [slot_inp hinp, OmapStreamIn.slot, hs])
  obtain ⟨i', hi', hk⟩ := Option.map_eq_some_iff.mp ha
  rw [hi', StreamKey.inp.inj hk]

/-- With one stream of each direction, every operation is on the one it finds running. -/
theorem allOk_sole (h1 : s.streams.One) {e : Event α} (hg : guard s e) :
    Desk.AllOk Desk.Sole (deskOps s e) s.desk := by
  have hf : ∀ d : Desk, d.input = s.desk.input →
      Desk.AllOk Desk.Sole (forceOps s.activeInput) d := by
    intro d hd
    cases ha : s.activeInput with
    | none => trivial
    | some i =>
      refine ⟨fun i' device hi => ?_, trivial⟩
      have hi := input_active h1 (hd ▸ hi)
      rw [ha] at hi
      exact (Option.some.inj hi).symm
  cases e with
  | setMode mode =>
    exact ⟨⟨fun o ho => output_active h1 ho, fun i device hi => input_active h1 hi⟩, trivial⟩
  | closeOutputStream o => exact ⟨fun o' ho => output_sole h1 hg ho, trivial, trivial⟩
  | outStandby o => exact ⟨fun o' ho => output_sole h1 hg ho, trivial⟩
  | outSetParameters o kv =>
    simp only [deskOps, rerouteOps]
    split
    · split
      · split
        · refine ⟨fun o' ho => output_sole h1 hg ho, trivial, ?_⟩
          split
          · refine hf _ ?_
            rw [Desk.Op.run, Desk.Op.run, Desk.setOutDevice, Desk.input_selectOutput]
            exact Desk.input_stopOutput _ _ _
          · trivial
        · exact ⟨trivial, trivial⟩
      · trivial
    · trivial
  | closeInputStream i => exact ⟨fun i' device hi => input_sole h1 hg hi, trivial, trivial⟩
  | inRead i | inStandby i => exact ⟨fun i' device hi => input_sole h1 hg hi, trivial⟩
  | inAddAudioEffect i | inRemoveAudioEffect i =>
    simp only [deskOps]
    split
    · exact ⟨fun i' device hi => input_sole h1 hg hi, trivial⟩
    · trivial
  | inSetParameters i kv =>
    obtain ⟨inp, hinp⟩ := Option.isSome_iff_exists.mp hg
    simp only [deskOps, inputOps, hinp]
    split
    · exact ⟨fun i' device hi => input_sole h1 hg hi,
        fun device hi => absurd hi (stopInput_not_true _ i device), trivial⟩
    · next hn =>
      refine ⟨fun device hi => ?_, trivial⟩
      obtain ⟨inp', hinp', -, rfl⟩ := desk_input_eq_true.mp hi
      rw [hinp, Option.some.injEq] at hinp'
      rw [inputParameters_device (Bool.eq_false_iff.mpr hn), hinp']
  | outWriteForce => exact hf _ rfl
  | openOutputStream | openInputStream | setParameters =>
    simp only [deskOps]
    split
    · exact ⟨trivial, trivial⟩
    · trivial
  | outWrite | setVoiceVolume => exact ⟨trivial, trivial⟩
  | outWriteData | inReadData | setMicMute => trivial

end

section
variable {α : Type} [Zero α] {s₀ s s' : Hal α} {name : String} {alloc : Bool} {m : Mixer}

omit [Zero α] in
def Hal.OutputRuns (s : Hal α) : Prop := ∃ o out, s.outs o = some out ∧ out.standby = false

omit [Zero α] in
/-- An input runs on that device. -/
def Hal.InputRuns (s : Hal α) (device : Devices) : Prop :=
  ∃ i inp, s.ins i = some inp ∧ inp.standby = false ∧ inp.device = device

omit [Zero α] in
/-- The states agree on the settings and on which streams run. -/
structure SameSettings (s s' : Hal α) : Prop where
  mode : s.mode = s'.mode
  outDevice : s.outDevice = s'.outDevice
  ttyMode : s.ttyMode = s'.ttyMode
  voiceVolume : s.voiceVolume = s'.voiceVolume
  output : s.OutputRuns ↔ s'.OutputRuns
  input : ∀ device, s.InputRuns device ↔ s'.InputRuns device

theorem routed_run (h0 : adevOpen name alloc (some m) = .ok s₀) (hm : m.Present) (hi : m.Items)
    (h : Run step oneStream s₀ s) : s.desk.Routed ∧ s.desk.Captured := by
  have h1 : s₀.desk.Routed ∧ s₀.desk.Captured := by
    obtain ⟨_, ⟨⟩, rfl⟩ := adevOpen_ok h0
    have hph := congrArg Prod.fst (Desk.calloc m).phase_selectOutput
    rw [desk_openDevice]
    refine ⟨?_, fun _ i device hx => ?_⟩
    · rintro (hc | ⟨o, ho⟩)
      · exact absurd (hph.symm.trans hc) (show ¬ audioModeNormal = audioModeInCall by decide)
      · have ho := (congrFun (Desk.calloc m).output_selectOutput o).symm.trans ho
        cases ho
    · have hx := (congrFun (Desk.calloc m).input_selectOutput i).symm.trans hx
      cases hx
  refine h.invariant_of (I := fun s => s.desk.Routed ∧ s.desk.Captured)
    (J := fun s => s.streams.One ∧ s.desk.mixer.shapes = m.shapes ∧ s.desk.InSync)
    (fun u hu => ⟨streams_one h0 hu, shapes_run h0 hu, inSync_run h0 hu⟩) h1 ?_
  intro u e t hJ hu _ hs
  rw [desk_step hs]
  have ho := allOk_sole hJ.1 (step_some hs).1
  refine (Desk.runOps_keeps (I := fun d =>
    (d.Routed ∧ d.Captured) ∧ d.mixer.shapes = m.shapes ∧ d.InSync) ⟨hu, hJ.2⟩ ho
    fun d op hd hsole => ?_).1
  obtain ⟨⟨hr, hc⟩, hs, hy⟩ := hd
  have hp := hm.of_shapes hs
  refine ⟨⟨hr.run hp ?_ hy hsole, hc.run hp hy hsole⟩, (d.shapes_run op).trans hs, hy.run op⟩
  rw [Mixer.Items, hs]
  exact hi

omit [Zero α] in
theorem outputRuns_iff : s.OutputRuns ↔ ∃ o, s.desk.output o = some true := by
  have h : ∀ o, s.desk.output o = some true ↔ ∃ out, s.outs o = some out ∧ out.standby = false := by
    intro o
    show (s.outs o).map _ = _ ↔ _
    simp [Option.map_eq_some_iff, OmapStreamOut.playing]
  simp only [h, Hal.OutputRuns]

/-- Two runs that end in the same settings, with an output playing or a call on, agree on every
control, but for the voice volume, of the arrays these settings select, and outside a call on every
control of the array of the device an input captures from. -/
theorem routing_from_present (h0 : adevOpen name alloc (some m) = .ok s₀) (hm : m.Present)
    (hi : m.Items) (h : Run step oneStream s₀ s) (h' : Run step oneStream s₀ s')
    (hs : SameSettings s s') (hon : s.mode = audioModeInCall ∨ s.OutputRuns) :
    (∀ ctl ∈ (selectedRoute s.mode s.outDevice s.ttyMode).names,
      ctl ≠ .dacVoiceDigitalDownlinkVolume → s.mixer ctl = s'.mixer ctl) ∧
    (s.mode ≠ audioModeInCall → ∀ device, s.InputRuns device →
      ∀ ctl ∈ Route.names ((inputRoute device).getD []), s.mixer ctl = s'.mixer ctl) := by
  obtain ⟨hr, hc⟩ := routed_run h0 hm hi h
  obtain ⟨hr', hc'⟩ := routed_run h0 hm hi h'
  have hx : s.mixer.shapes = m.shapes := shapes_run h0 h
  have hσ : s.mixer.shapes = s'.mixer.shapes := hx.trans (shapes_run h0 h').symm
  constructor
  · intro ctl hn hv
    have hsel : s'.desk.selected = s.desk.selected := by
      show selectedRoute s'.mode s'.outDevice s'.ttyMode = selectedRoute s.mode s.outDevice s.ttyMode
      rw [hs.mode, hs.outDevice, hs.ttyMode]
    have hshow : s.mixer.Shows s.desk.selected := hr (hon.imp_right outputRuns_iff.mp)
    have hshow' : s'.mixer.Shows s'.desk.selected := by
      refine hr' (hon.imp (fun hc => ?_) fun ho => outputRuns_iff.mp (hs.output.mp ho))
      exact hs.mode.symm.trans hc
    rw [hsel] at hshow'
    refine hshow.eq hshow' hσ hn hv (Desk.fixes_selected (d := s.desk) ?_ hn)
    rw [Mixer.Items, show s.desk.mixer.shapes = m.shapes from hx]
    exact hi
  · intro hcall device hin ctl hn
    have hin' := (hs.input device).mp hin
    obtain ⟨i, inp, hinp, hst, hdev⟩ := hin
    obtain ⟨i', inp', hinp', hst', hdev'⟩ := hin'
    have hshow := hc hcall i device (desk_input_eq_true.mpr ⟨inp, hinp, hst, hdev⟩)
    have hshow' := hc' (fun he => hcall (hs.mode.trans he)) i' device
      (desk_input_eq_true.mpr ⟨inp', hinp', hst', hdev'⟩)
    refine hshow.eq hshow' hσ hn ?_ fun _ _ => Desk.fixes_inputRoute hn _
    rintro rfl
    exact absurd (names_inputRoute hn) (by decide)

/-- The entry sets its control on that mixer. -/
def RouteSetting.fits (m : Mixer) (e : RouteSetting) : Bool :=
  match e.strval with
  | none => true
  | some item =>
    match m.shapes e.ctlName with
    | some (.enumerated items, _) => items.contains item
    | _ => false

theorem boardMixer_items : boardMixer.Items := by
  have hfit : ∀ r, OutputArray r ∨ CallArray r → ∀ e ∈ r, e.fits boardMixer = true := by
    rintro r (h | h)
    · cases h with
      | select h => rcases outputRoute_mem h with rfl | rfl | rfl <;> decide
      | standby => decide
    · cases h with
      | select h => rcases incallRoute_mem h with rfl | rfl | rfl <;> decide
  intro r hr e he item hi
  have h := hfit r hr e he
  unfold RouteSetting.fits at h
  simp only [hi] at h
  split at h
  · next hσ => exact ⟨_, _, hσ, List.contains_iff_mem.mp h⟩
  · cases h

/-- An output is opened, routed to these devices in turn, and played. -/
def playOn (devices : List String) : List (Event Nat) :=
  .openOutputStream 0 audioDeviceOutSpeaker true true ::
    devices.map (fun value => .outSetParameters 0 [("routing", value)]) ++ [.outWrite 0 true]

omit [Zero α] in
theorem sameSettings_of_playing {x : Int × Devices × TtyMode × Volume × Option Bool}
    (hs : (s.mode, s.outDevice, s.ttyMode, s.voiceVolume, (s.outs 0).map (·.standby)) = x)
    (hs' : (s'.mode, s'.outDevice, s'.ttyMode, s'.voiceVolume, (s'.outs 0).map (·.standby)) = x)
    (hx : x.2.2.2.2 = some false) (hi : ∀ i, (s.ins i).isSome = false)
    (hi' : ∀ i, (s'.ins i).isSome = false) : SameSettings s s' ∧ s.OutputRuns := by
  subst hs
  simp only [Prod.mk.injEq] at hs'
  obtain ⟨h1, h2, h3, h4, h5⟩ := hs'
  have hr : ∀ u : Hal α, (u.outs 0).map (·.standby) = some false → u.OutputRuns := by
    intro u hu
    obtain ⟨out, hout, ho⟩ := Option.map_eq_some_iff.mp hu
    exact ⟨0, out, hout, ho⟩
  have hn : ∀ u : Hal α, (∀ i, (u.ins i).isSome = false) → ∀ device, ¬ u.InputRuns device := by
    rintro u hu device ⟨i, inp, hinp, -⟩
    have h := hu i
    rw [hinp] at h
    cases h
  refine ⟨⟨h1.symm, h2.symm, h3.symm, h4.symm, ?_, fun device => ?_⟩, hr s hx⟩
  · exact iff_of_true (hr s hx) (hr s' (h5.trans hx))
  · exact iff_of_false (hn s hi device) (hn s' hi' device)

theorem routing_from_present_speaker : ∃ s s' : Hal Nat,
    exec step (playOn []) (openDevice boardMixer) = some s ∧
    exec step (playOn ["4", "2"]) (openDevice boardMixer) = some s' ∧
    s.mixer .preDrivPlaybackVolume = s'.mixer .preDrivPlaybackVolume := by
  have hr : (exec step (playOn []) (openDevice boardMixer)).map (fun s => (s.mode, s.outDevice,
      s.ttyMode, s.voiceVolume, (s.outs 0).map (·.standby))) =
      some (audioModeNormal, audioDeviceOutSpeaker, .off, Volume.max, some false) := rfl
  have hr' : (exec step (playOn ["4", "2"]) (openDevice boardMixer)).map (fun s => (s.mode,
      s.outDevice, s.ttyMode, s.voiceVolume, (s.outs 0).map (·.standby))) =
      some (audioModeNormal, audioDeviceOutSpeaker, .off, Volume.max, some false) := rfl
  have hn : ∀ i, (exec step (playOn []) (openDevice boardMixer)).map (fun s => (s.ins i).isSome) =
      some false := fun _ => rfl
  have hn' : ∀ i, (exec step (playOn ["4", "2"]) (openDevice boardMixer)).map
      (fun s => (s.ins i).isSome) = some false := fun _ => rfl
  obtain ⟨s, hs, hp⟩ := Option.map_eq_some_iff.mp hr
  obtain ⟨s', hs', hp'⟩ := Option.map_eq_some_iff.mp hr'
  simp only [hs, hs', Option.map_some, Option.some.injEq] at hn hn'
  obtain ⟨hsame, hon⟩ := sameSettings_of_playing hp hp' rfl hn hn'
  have hsel : selectedRoute s.mode s.outDevice s.ttyMode = routeSpeaker := by
    simp only [Prod.mk.injEq] at hp
    rw [hp.1, hp.2.1, hp.2.2.1]
    rfl
  refine ⟨s, s', hs, hs', (routing_from_present (adevOpen_some boardMixer) boardMixer_present
    boardMixer_items (Run.of_exec hs ?_) (Run.of_exec hs' ?_) hsame (.inr hon)).1 _ ?_ (by decide)⟩
  · exact ⟨fun _ => rfl, fun _ _ => ⟨trivial, fun _ _ => trivial⟩⟩
  · exact ⟨fun _ => rfl, fun _ _ => ⟨trivial, fun _ _ => ⟨trivial, fun _ _ =>
      ⟨trivial, fun _ _ => trivial⟩⟩⟩⟩
  · rw [hsel]
    decide

/-- An output playing on the earpiece, after the speaker and after a headset: the speaker amplifier
is on in one state and off in the other. -/
theorem routing_keeps_past : ∃ s s' : Hal Nat,
    exec step (playOn ["1"]) (openDevice boardMixer) = some s ∧
    exec step (playOn ["4", "1"]) (openDevice boardMixer) = some s' ∧
    SameSettings s s' ∧ s.OutputRuns ∧
    .preDrivPlaybackVolume ∈ routeSpeaker.names ∧
    s.mixer .preDrivPlaybackVolume ≠ s'.mixer .preDrivPlaybackVolume := by
  have hr : (exec step (playOn ["1"]) (openDevice boardMixer)).map (fun s => ((s.mode, s.outDevice,
      s.ttyMode, s.voiceVolume, (s.outs 0).map (·.standby)), s.mixer .preDrivPlaybackVolume)) =
      some ((audioModeNormal, audioDeviceOutEarpiece, .off, Volume.max, some false),
        some ⟨.integer, [2]⟩) := rfl
  have hr' : (exec step (playOn ["4", "1"]) (openDevice boardMixer)).map (fun s => ((s.mode,
      s.outDevice, s.ttyMode, s.voiceVolume, (s.outs 0).map (·.standby)),
        s.mixer .preDrivPlaybackVolume)) =
      some ((audioModeNormal, audioDeviceOutEarpiece, .off, Volume.max, some false),
        some ⟨.integer, [0]⟩) := rfl
  have hn : ∀ i, (exec step (playOn ["1"]) (openDevice boardMixer)).map
      (fun s => (s.ins i).isSome) = some false := fun _ => rfl
  have hn' : ∀ i, (exec step (playOn ["4", "1"]) (openDevice boardMixer)).map
      (fun s => (s.ins i).isSome) = some false := fun _ => rfl
  obtain ⟨s, hs, hp⟩ := Option.map_eq_some_iff.mp hr
  obtain ⟨s', hs', hp'⟩ := Option.map_eq_some_iff.mp hr'
  simp only [hs, hs', Option.map_some, Option.some.injEq] at hn hn'
  obtain ⟨hp, hx⟩ := Prod.mk.inj hp
  obtain ⟨hp', hx'⟩ := Prod.mk.inj hp'
  obtain ⟨hsame, hon⟩ := sameSettings_of_playing hp hp' rfl hn hn'
  refine ⟨s, s', hs, hs', hsame, hon, by decide, ?_⟩
  rw [hx, hx']
  decide

end

end P970.Audio
