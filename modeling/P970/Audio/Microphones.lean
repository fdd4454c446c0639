import P970.Audio.Voice

/-!
# The microphone path

Outside a call and with no input running, the three capture switches and the
capture volume are at their standby values (`mics_off_at_rest`), unless a step
left them on: the code sets `route_input_standby` only when it puts a running
input into standby, so neither a failed start outside a call nor the end of a
call that no input ran in switches the microphones off.
-/

namespace P970.Audio

/-- The capture switches and the capture volume. -/
def micControls : List CtlName :=
  [.analogLeftMainMicCaptureSwitch, .analogRightSubMicCaptureSwitch,
    .analogLeftHeadsetMicCaptureSwitch, .analogCaptureVolume]

/-- The capture switches and the capture volume have the values of `route_input_standby`. -/
def Mixer.MicsOff (m : Mixer) : Prop :=
  ∀ name ∈ micControls, ∃ ctl, m name = some ctl ∧ ctl.Shows routeInputStandby name

theorem micControls_subset : micControls ⊆ routeInputStandby.names := by decide

theorem micsOff_setRouteByArray {m : Mixer} (hm : m.Present) :
    Mixer.MicsOff (setRouteByArray routeInputStandby m).2 := by
  intro name hn
  obtain ⟨ctl, hc⟩ := Option.ne_none_iff_exists'.mp (hm name)
  refine ⟨routeInputStandby.sets name ctl, ?_, Route.shows ?_⟩
  · rw [setRouteByArray_apply hm, hc, Option.map_some]
  · exact InputArray.standby.fixes (micControls_subset hn) _

theorem micControls_not_output {r : Route} (hr : OutputArray r) {name : CtlName}
    (hn : name ∈ micControls) : name ∉ r.names := by
  rw [hr.names]
  revert name
  decide

/-- Output arrays and the voice volume leave the microphones alone. -/
theorem Mixer.MicsOff.written {m m' : Mixer} (hm : m.Present) (h : m.MicsOff)
    (hw : Written OutputArray m m') : m'.MicsOff := by
  intro name hn
  obtain ⟨ctl, hc, hs⟩ := h name hn
  refine ⟨ctl, ?_, hs⟩
  rw [hw.frame hm (fun r hr => micControls_not_output hr hn) ?_, hc]
  rintro rfl
  exact absurd hn (by decide)

namespace Desk

variable {d : Desk}

/-- No input captures. -/
def Idle (d : Desk) : Prop := ∀ i device, d.input i ≠ some (true, device)

/-- Outside a call, with no input capturing, the microphones are off. -/
def MicsRest (d : Desk) : Prop := d.mode ≠ audioModeInCall → d.Idle → d.mixer.MicsOff

/-- What the operation needs for the microphones to be off after it. -/
def MicsLeft (d : Desk) : Op → Prop
  | .changeMode mode _ input =>
    d.mode = audioModeInCall → mode ≠ audioModeInCall →
      (∃ i device, input = some i ∧ d.input i = some (true, device)) ∨
      (input = none ∧ ¬ d.Idle) ∨ (inputRoute d.inDevice = none ∧ d.mixer.MicsOff)
  | .startInput i ready =>
    d.mode ≠ audioModeInCall → ready = false → ∀ device, d.input i = some (false, device) →
      inputRoute device = none ∨ ¬ d.Idle
  | .openInput i _ => d.input i = none
  | .closeInput i => ∀ device, d.input i ≠ some (true, device)
  | _ => True

theorem input_stopOutput (d : Desk) (o : OutId) (idle : Bool) :
    (d.stopOutput o idle).input = d.input := by
  unfold stopOutput
  split
  · split
    · exact d.input_setRoute (some routeStandby)
    · rfl
  · rfl

theorem input_startOutput (d : Desk) (o : OutId) (ready : Bool) :
    (d.startOutput o ready).input = d.input := by
  unfold startOutput
  split
  · exact d.input_outsideCall d.input_selectOutput
  · rfl

theorem input_setVolume (d : Desk) (v : Volume) : (d.setVolume v).input = d.input := by
  unfold setVolume
  split <;> rfl

theorem inDevice_stopOutput (d : Desk) (o : OutId) (idle : Bool) :
    (d.stopOutput o idle).inDevice = d.inDevice := by
  unfold stopOutput
  split
  · split <;> rfl
  · rfl

theorem MicsRest.of_written {d' : Desk} (hp : d.mixer.Present) (h : d.MicsRest)
    (hm : d'.mode = d.mode) (hi : d'.input = d.input) (hw : Written OutputArray d.mixer d'.mixer) :
    d'.MicsRest := by
  intro hc hidle
  refine (h (hm ▸ hc) ?_).written hp hw
  rw [Idle, ← hi]
  exact hidle

/-- A capturing input that stops outside a call switches the microphones off. -/
theorem micsOff_stopInput (hp : d.mixer.Present) (hm : d.mode ≠ audioModeInCall) {i : InId}
    {device : Devices} (hi : d.input i = some (true, device)) :
    (d.stopInput i).mixer.MicsOff ∧ (d.stopInput i).inDevice = audioDeviceNone := by
  simp only [stopInput, hi, outsideCall]
  rw [if_pos hm]
  exact ⟨micsOff_setRouteByArray hp, rfl⟩

theorem stopInput_idle {i : InId} (hi : ∀ device, d.input i ≠ some (true, device)) :
    d.stopInput i = d := by
  unfold stopInput
  split
  · next device h => exact absurd h (hi device)
  · rfl

theorem selectInput_none (hr : inputRoute d.inDevice = none) : d.selectInput = d := by
  rw [selectInput, hr]
  rfl

theorem inDevice_selectOutput (d : Desk) : d.selectOutput.inDevice = d.inDevice := by
  have h : ∀ (d : Desk) r, (d.setRoute r).inDevice = d.inDevice := by
    intro d r
    cases r <;> rfl
  unfold selectOutput
  split
  · rw [h, h]
  · rw [h]

/-- After the active streams were stopped, the rest of leaving a call switches nothing on. -/
theorem micsOff_selects {d : Desk} (hp : d.mixer.Present) (hm : d.mode ≠ audioModeInCall)
    (h : d.mixer.MicsOff) (hr : inputRoute d.inDevice = none) :
    d.selectOutput.selectInput.mixer.MicsOff := by
  rw [selectInput_none (by rw [inDevice_selectOutput, hr])]
  exact h.written hp (d.written_selectOutput (fun _ => id) fun hc => absurd hc hm)

theorem micsRest_leaveCall (hp : d.mixer.Present) (hm : d.mode ≠ audioModeInCall) {o : Option OutId}
    {i : Option InId} (h : (∃ j device, i = some j ∧ d.input j = some (true, device)) ∨
      (i = none ∧ ¬ d.Idle) ∨ (inputRoute d.inDevice = none ∧ d.mixer.MicsOff)) :
    (d.leaveCall o i).MicsRest := by
  -- the desk after the active output was stopped
  have hf : ∃ f, f = ({ d with inCall := false } : Desk).forceOutput o i.isNone ∧
      f.mode = d.mode ∧ f.input = d.input ∧ f.inDevice = d.inDevice ∧
      Written OutputArray d.mixer f.mixer := by
    cases o with
    | none => exact ⟨_, rfl, rfl, rfl, rfl, .refl⟩
    | some o =>
      exact ⟨_, rfl, congrArg Prod.fst (phase_stopOutput _ o _), input_stopOutput _ o _,
        inDevice_stopOutput _ o _, written_stopOutput { d with inCall := false } (fun _ => id) o _⟩
  obtain ⟨f, hf, hfm, hfi, hfd, hfw⟩ := hf
  have he : d.leaveCall o i = (f.forceInput i).selectOutput.selectInput := by
    rw [leaveCall, stopActive, ← hf]
  have hfp := hp.of_shapes hfw.shapes
  rw [he]
  intro hc hidle
  by_cases hj : ∃ j device, i = some j ∧ d.input j = some (true, device)
  · obtain ⟨j, device, rfl, hj⟩ := hj
    obtain ⟨hoff, hdev⟩ := micsOff_stopInput hfp (hfm ▸ hm) (i := j) (by rw [hfi, hj])
    have hw := f.written_stopInput (R := fun _ => True) (fun _ _ => trivial) j
    refine micsOff_selects (hfp.of_shapes hw.shapes) ?_ hoff ?_
    · rw [forceInput, (settings_inj (f.settings_stopInput j)).1, hfm]
      exact hm
    · rw [forceInput, hdev, inputRoute_none]
  · have hfi' : f.forceInput i = f := by
      cases i with
      | none => rfl
      | some j =>
        refine stopInput_idle fun device hd => hj ⟨j, device, rfl, ?_⟩
        rw [← hfi, hd]
    rcases h with h | ⟨-, hbusy⟩ | ⟨hr, hoff⟩
    · exact absurd h hj
    · refine absurd ?_ hbusy
      intro k device hk
      rw [hfi'] at hidle
      refine hidle k device ?_
      rw [show f.selectOutput.selectInput.input = f.selectOutput.input from input_setRoute _ _,
        input_selectOutput, hfi, hk]
    · rw [hfi']
      exact micsOff_selects hfp (hfm ▸ hm) (hoff.written hp hfw) (by rw [hfd, hr])

theorem MicsRest.changeMode (hp : d.mixer.Present) (hs : d.InSync) (h : d.MicsRest) {mode : Int}
    {o : Option OutId} {i : Option InId} (hl : d.MicsLeft (.changeMode mode o i)) :
    (d.changeMode mode o i).MicsRest := by
  by_cases hm : d.mode = mode
  · rw [Desk.changeMode, if_pos hm]
    exact h
  intro hc
  have hmode : mode ≠ audioModeInCall := by
    have hph := congrArg Prod.fst (phase_changeMode d hm o i)
    exact fun he => hc (hph.trans he)
  revert hc
  rw [Desk.changeMode, if_neg hm, selectMode, if_neg (by exact hmode)]
  by_cases hcall : d.mode = audioModeInCall
  · rw [if_pos (by exact hs.trans (decide_eq_true hcall))]
    exact micsRest_leaveCall (d := { d with mode := mode }) hp hmode (hl hcall hmode)
  · rw [if_neg (by exact Bool.eq_false_iff.mp (hs.trans (decide_eq_false hcall)))]
    exact fun _ => h hcall

theorem MicsRest.stopInput (hp : d.mixer.Present) (h : d.MicsRest) (i : InId) :
    (d.stopInput i).MicsRest := by
  by_cases hi : ∃ device, d.input i = some (true, device)
  · obtain ⟨device, hi⟩ := hi
    intro hc _
    exact (micsOff_stopInput hp (fun hm => hc ((settings_inj (d.settings_stopInput i)).1.trans hm)) hi).1
  · rw [stopInput_idle fun device hd => hi ⟨device, hd⟩]
    exact h

theorem MicsRest.startInput (h : d.MicsRest) {i : InId} {ready : Bool}
    (hl : d.MicsLeft (.startInput i ready)) : (d.startInput i ready).MicsRest := by
  unfold Desk.startInput
  split
  case h_2 => exact h
  next device hi =>
    intro hc hidle
    have hm : d.mode ≠ audioModeInCall := fun hm => hc (by
      rw [show (d.outsideCall (·.routeInput device)) = d from outsideCall_inCall hm]
      exact hm)
    -- the start failed and nothing else captures
    have hin : (d.outsideCall (·.routeInput device)).input = d.input :=
      d.input_outsideCall (input_setRoute _ _)
    have hready : ready = false := by
      by_contra hr
      refine hidle i device ?_
      rw [Bool.eq_true_of_not_eq_false hr]
      exact Function.update_self ..
    have hother : d.Idle := by
      intro j dev hj
      refine hidle j dev ((Function.update_of_ne ?_ ..).trans hj)
      rintro rfl
      rw [hi] at hj
      cases hj
    have hr := (hl hm hready device hi).resolve_right (not_not.mpr hother)
    have hx : d.outsideCall (·.routeInput device) = { d with inDevice := device } := by
      rw [outsideCall, if_pos hm, routeInput, selectInput_none (by exact hr)]
    rw [hx]
    exact h hm hother

theorem MicsRest.run (hp : d.mixer.Present) (hs : d.InSync) (h : d.MicsRest) {op : Op}
    (hl : d.MicsLeft op) : (op.run d).MicsRest := by
  cases op with
  | openOutput | closeOutput => exact h
  | openInput i device =>
    intro hc hidle
    refine h hc fun j dev hj => hidle j dev ((Function.update_of_ne ?_ ..).trans hj)
    rintro rfl
    have hn : d.input j = none := hl
    rw [hn] at hj
    cases hj
  | closeInput i =>
    intro hc hidle
    refine h hc fun j dev hj => hidle j dev ((Function.update_of_ne ?_ ..).trans hj)
    rintro rfl
    exact hl dev hj
  | setDevice i device =>
    intro hc hidle
    refine h hc fun j dev hj => ?_
    by_cases hji : j = i
    · subst hji
      refine hidle j device ((Function.update_self ..).trans ?_)
      rw [hj]
      rfl
    · exact hidle j dev ((Function.update_of_ne hji ..).trans hj)
  | stopInput i => exact h.stopInput hp i
  | startInput i ready => exact h.startInput hl
  | changeMode mode o i => exact h.changeMode hp hs hl
  | stopOutput o idle =>
    exact h.of_written hp (congrArg Prod.fst (phase_stopOutput d o idle)) (input_stopOutput d o idle)
      (d.written_stopOutput (fun _ => id) o idle)
  | startOutput o ready =>
    refine h.of_written hp ?_ (input_startOutput d o ready) (d.written_startOutput (fun _ => id) o ready)
    exact congrArg Prod.fst (@phase_run d (.startOutput o ready) (by simp))
  | setVolume v =>
    exact h.of_written hp (congrArg Prod.fst (phase_setVolume d v)) (input_setVolume d v)
      (d.written_setVolume v)
  | setOutDevice dev =>
    intro hc
    have hm := congrArg Prod.fst (phase_selectOutput { d with outDevice := dev })
    exact MicsRest.of_written hp (d := { d with outDevice := dev }) h hm (input_selectOutput _)
      (written_selectOutput _ (fun _ => id) fun hcall => absurd (hm.trans hcall) hc) hc
  | setTtyMode t =>
    intro hc
    simp only [Op.run, setTtyMode] at hc ⊢
    split
    · next hcall =>
      rw [if_pos hcall] at hc
      have hm := congrArg Prod.fst (phase_selectOutput { d with ttyMode := t })
      exact absurd (hm.trans hcall) hc
    · next hcall => exact fun hidle => h hcall hidle

end Desk

section
variable {α : Type} {s : Hal α}

/-- A call is left while an input runs, or with an input device that has no array and the
microphones already off; outside a call an input fails to start only while another runs, or with a
device that has no array. -/
def leavesMicsOff (s : Hal α) : Event α → Prop
  | .setMode mode =>
    s.mode = audioModeInCall → mode ≠ audioModeInCall →
      (∃ i inp, s.ins i = some inp ∧ inp.standby = false) ∨
      (inputRoute s.inDevice = none ∧ s.mixer.MicsOff)
  | .inRead i _ ready _ =>
    s.mode ≠ audioModeInCall → ready = false →
      ∀ inp, s.ins i = some inp → inp.standby = true →
        inputRoute inp.device = none ∨ ∃ j inp', s.ins j = some inp' ∧ inp'.standby = false
  | _ => True

theorem desk_input_eq_true {i : InId} {device : Devices} :
    s.desk.input i = some (true, device) ↔
      ∃ inp, s.ins i = some inp ∧ inp.standby = false ∧ inp.device = device := by
  show (s.ins i).map _ = _ ↔ _
  simp [Option.map_eq_some_iff, OmapStreamIn.capturing]

theorem not_idle_iff : ¬ s.desk.Idle ↔ ∃ i inp, s.ins i = some inp ∧ inp.standby = false := by
  constructor
  · intro h
    simp only [Desk.Idle, not_forall, not_not] at h
    obtain ⟨i, device, h⟩ := h
    obtain ⟨inp, hi, hs, -⟩ := desk_input_eq_true.mp h
    exact ⟨i, inp, hi, hs⟩
  · rintro ⟨i, inp, hi, hs⟩ h
    exact h i inp.device (desk_input_eq_true.mpr ⟨inp, hi, hs, rfl⟩)

theorem stopInput_not_true (d : Desk) (i : InId) (device : Devices) :
    (d.stopInput i).input i ≠ some (true, device) := by
  unfold Desk.stopInput
  split
  · simp
  · next h => exact h device

theorem allOk_micsLeft (hI : s.streams.Ok) {e : Event α} (hg : guard s e) (h : leavesMicsOff s e) :
    Desk.AllOk Desk.MicsLeft (deskOps s e) s.desk := by
  have hf : ∀ d x, Desk.AllOk Desk.MicsLeft (forceOps x) d := by
    intro d x
    cases x with
    | none => trivial
    | some i => exact ⟨trivial, trivial⟩
  cases e with
  | setMode mode =>
    refine ⟨fun hm hne => ?_, trivial⟩
    rcases h hm hne with hr | hr
    · cases ha : s.activeInput with
      | none => exact .inr (.inl ⟨rfl, not_idle_iff.mpr hr⟩)
      | some j =>
        obtain ⟨-, x, hx⟩ := hI.inOrder.active (k := .inp j)
          (by rw [active_inp, ha, Option.map_some])
        obtain ⟨inp, hinp, hs⟩ := Option.map_eq_some_iff.mp hx
        exact .inl ⟨j, inp.device, rfl,
          desk_input_eq_true.mpr ⟨inp, hinp, congrArg Slot.idle hs, rfl⟩⟩
    · exact .inr (.inr hr)
  | inRead i n ready created =>
    refine ⟨fun hm hr device hi => ?_, trivial⟩
    obtain ⟨inp, hinp, hc⟩ := Option.map_eq_some_iff.mp hi
    obtain ⟨hs, rfl⟩ := Prod.mk.inj hc
    exact (h hm hr inp hinp (by simpa using hs)).imp_right not_idle_iff.mpr
  | openInputStream i d c env =>
    simp only [deskOps]
    split
    · refine ⟨?_, trivial⟩
      show (s.ins i).map _ = none
      rw [Option.isNone_iff_eq_none.mp hg, Option.map_none]
    · trivial
  | closeInputStream i => exact ⟨trivial, stopInput_not_true s.desk i, trivial⟩
  | outSetParameters o kv =>
    simp only [deskOps, rerouteOps]
    split
    · split
      · split
        · refine ⟨trivial, trivial, ?_⟩
          split
          · exact hf _ _
          · trivial
        · exact ⟨trivial, trivial⟩
      · trivial
    · trivial
  | outWriteForce => exact hf _ _
  | openOutputStream | setParameters | inAddAudioEffect | inRemoveAudioEffect =>
    simp only [deskOps]
    split
    · exact ⟨trivial, trivial⟩
    · trivial
  | inSetParameters i kv =>
    simp only [deskOps, inputOps]
    split
    · split
      · exact ⟨trivial, trivial, trivial⟩
      · exact ⟨trivial, trivial⟩
    · trivial
  | closeOutputStream => exact ⟨trivial, trivial, trivial⟩
  | outWrite | outStandby | inStandby | setVoiceVolume => exact ⟨trivial, trivial⟩
  | outWriteData | inReadData | setMicMute => trivial

end

section
variable {α : Type} [Zero α] {s₀ s : Hal α} {name : String} {alloc : Bool} {m : Mixer}

/-- From a mixer with the microphones off and while every step leaves them off, they are off
whenever no call is on and no input runs. -/
theorem mics_off_at_rest (h0 : adevOpen name alloc (some m) = .ok s₀) (hm : m.Present)
    (hoff : m.MicsOff) (h : Run step leavesMicsOff s₀ s) (hc : s.mode ≠ audioModeInCall)
    (hi : ∀ i inp, s.ins i = some inp → inp.standby = true) : s.mixer.MicsOff := by
  have h1 : s₀.desk.MicsRest := by
    obtain ⟨_, ⟨⟩, rfl⟩ := adevOpen_ok h0
    intro _ _
    rw [desk_openDevice]
    have hw : Written OutputArray m (setRouteByArray routeSpeaker m).2 :=
      .route .refl outputArray_speaker
    refine hoff.written hm (hw.trans ?_)
    exact (Desk.calloc m).written_selectOutput (fun _ => id) fun hc =>
      absurd hc (show ¬ audioModeNormal = audioModeInCall by decide)
  refine h.invariant_of (I := fun s => s.desk.MicsRest)
    (J := fun s => s.streams.Ok ∧ s.desk.mixer.shapes = m.shapes ∧ s.desk.InSync)
    (fun u hu => ⟨streams_ok h0 hu.reach, shapes_run h0 hu, inSync_run h0 hu⟩) h1 ?_ hc ?_
  · intro u e t hJ hu hok hs
    rw [desk_step hs]
    refine (Desk.runOps_keeps (I := fun d => d.MicsRest ∧ d.mixer.shapes = m.shapes ∧ d.InSync)
      ⟨hu, hJ.2⟩ (allOk_micsLeft hJ.1 (step_some hs).1 hok) fun d op hd hl => ?_).1
    obtain ⟨hd, hs, hi⟩ := hd
    exact ⟨hd.run (hm.of_shapes hs) hi hl, (d.shapes_run op).trans hs, hi.run op⟩
  · by_contra hbusy
    obtain ⟨i, inp, hinp, hs⟩ := not_idle_iff.mp hbusy
    rw [hi i inp hinp] at hs
    cases hs

theorem boardMixer_micsOff : boardMixer.MicsOff := by
  intro name hn
  simp only [micControls, List.mem_cons, List.not_mem_nil, or_false] at hn
  rcases hn with rfl | rfl | rfl | rfl <;> exact ⟨_, rfl, rfl⟩

/-- An input captures and is put into standby. -/
def captureOnce : List (Event Nat) :=
  [.openInputStream 0 audioDeviceInBuiltinMic ⟨48000, 1, 1⟩ ⟨true, true, true, id⟩,
    .inRead 0 160 true true, .inReadData 0 160 [] ⟨[], [], .ok⟩, .inStandby 0]

theorem mics_off_at_rest_captureOnce : ∃ s : Hal Nat,
    exec step captureOnce (openDevice boardMixer) = some s ∧ s.mixer.MicsOff := by
  have hr : (exec step captureOnce (openDevice boardMixer)).map (fun s =>
      (s.mode, (s.ins 0).map (·.standby))) = some (audioModeNormal, some true) := rfl
  have hn : ∀ i, (exec step captureOnce (openDevice boardMixer)).map (fun s => s.ins (i + 1)) =
      some none := fun i => rfl
  obtain ⟨s, hs, hp⟩ := Option.map_eq_some_iff.mp hr
  obtain ⟨hm, h0⟩ := Prod.mk.inj hp
  refine ⟨s, hs, mics_off_at_rest (adevOpen_some boardMixer) boardMixer_present boardMixer_micsOff
    (Run.of_exec hs ⟨trivial, fun _ _ => ⟨fun _ hr => (by cases hr), fun _ _ => ⟨trivial, fun _ _ =>
      ⟨trivial, fun _ _ => trivial⟩⟩⟩⟩) (by rw [hm]; decide) fun i inp hi => ?_⟩
  cases i with
  | zero =>
    rw [hi] at h0
    exact Option.some.inj h0
  | succ i =>
    have h := hn i
    rw [hs, Option.map_some, hi] at h
    cases h

/-- A call that no input ran in is over, and the main microphone is on. -/
theorem mics_stay_on : ∃ s : Hal Nat,
    exec step [.setMode audioModeInCall, .setMode audioModeNormal] (openDevice boardMixer) = some s ∧
    s.mode ≠ audioModeInCall ∧ (∀ i inp, s.ins i = some inp → inp.standby = true) ∧
    ¬ s.mixer.MicsOff := by
  have hr : (exec step [.setMode audioModeInCall, .setMode audioModeNormal]
      (openDevice boardMixer : Hal Nat)).map (fun s =>
        (s.mode, s.mixer .analogCaptureVolume)) =
      some (audioModeNormal, some ⟨.integer, [5]⟩) := rfl
  have hn : ∀ i, (exec step [.setMode audioModeInCall, .setMode audioModeNormal]
      (openDevice boardMixer : Hal Nat)).map (fun s => (s.ins i).isSome) = some false := fun i => rfl
  obtain ⟨s, hs, hp⟩ := Option.map_eq_some_iff.mp hr
  obtain ⟨hm, hx⟩ := Prod.mk.inj hp
  refine ⟨s, hs, by rw [hm]; decide, fun i inp hi => ?_, fun hoff => ?_⟩
  · have h := hn i
    rw [hs, Option.map_some, hi] at h
    cases h
  · obtain ⟨ctl, hc, hshow⟩ := hoff .analogCaptureVolume (by decide)
    rw [hx, Option.some.injEq] at hc
    subst hc
    have h0 : routeInputStandby.sets .analogCaptureVolume ⟨.integer, [5]⟩ = ⟨.integer, [0]⟩ := rfl
    exact absurd (h0.symm.trans hshow) (by decide)

end

end P970.Audio
