import P970.Audio.Present

/-!
# Text telephones

During a call "Voice" and "ExtAmp" are what the last selection made of them
(`Desk.CallRouted`): every change of the mode, the output devices or the TTY mode
selects again, and nothing else sets them. `select_output_device` follows the TTY
mode, but the in-call array comes from the devices alone, so the voice path is
that of the TTY mode exactly when the devices select the same array
(`tty_path`).
-/

namespace P970.Audio

/-- The in-call array that belongs to a TTY mode. -/
def ttyRoute : TtyMode → Option Route
  | .full | .vco => some routeVoicecallHeadset
  | .hco => some routeVoicecallSpeaker
  | .off => none

def voiceControls : List CtlName := [.voice, .extAmp]

/-- The voice controls hold the array's values. -/
def Mixer.ShowsVoice (m : Mixer) (r : Route) : Prop :=
  ∀ name ∈ voiceControls, ∃ ctl, m name = some ctl ∧ ctl.Shows r name

/-- "Voice" is a switch with the positions the arrays name. -/
def Mixer.VoicePositions (m : Mixer) : Prop :=
  ∃ items n, m.shapes .voice = some (.enumerated items, n + 1) ∧
    ∀ item ∈ ["OFF", "Headset", "Speaker", "Receiver"], item ∈ items

theorem mixerCtlSetEnumByString_self (ctl : Ctl) (item : String) :
    mixerCtlSetEnumByString (mixerCtlSetEnumByString ctl item) item =
      mixerCtlSetEnumByString ctl item := by
  rcases hty : ctl.type with _ | _ | items
  · simp only [mixerCtlSetEnumByString, hty]
  · simp only [mixerCtlSetEnumByString, hty]
  · cases hi : items.idxOf? item with
    | none => simp only [mixerCtlSetEnumByString, hty, hi]
    | some i =>
      simp only [mixerCtlSetEnumByString, hty, hi, Ctl.mk.injEq, true_and]
      rw [List.mapIdx_mapIdx]
      rfl

/-- The position an in-call array gives "Voice". -/
def voicePosition (r : Route) : Option String :=
  r.findSome? fun e => if e.ctlName = .voice then e.strval else none

/-- An in-call array sets each voice control once. -/
theorem CallArray.sets_once {r : Route} (h : CallArray r) {name : CtlName}
    (hn : name ∈ voiceControls) :
    ∃ item, r.sets name = fun ctl => mixerCtlSetEnumByString ctl item := by
  cases h with
  | select h =>
    simp only [voiceControls, List.mem_cons, List.not_mem_nil, or_false] at hn
    rcases incallRoute_mem h with rfl | rfl | rfl <;> rcases hn with rfl | rfl <;> exact ⟨_, rfl⟩

/-- Setting an in-call array makes the voice controls show it. -/
theorem CallArray.shows {r : Route} (h : CallArray r) {name : CtlName} (hn : name ∈ voiceControls)
    (ctl : Ctl) : (r.sets name ctl).Shows r name := by
  obtain ⟨item, hs⟩ := h.sets_once hn
  show r.sets name (r.sets name ctl) = r.sets name ctl
  rw [hs]
  exact mixerCtlSetEnumByString_self ctl item

theorem CallArray.sets_voice {r : Route} (h : CallArray r) :
    ∃ item ∈ ["Headset", "Speaker", "Receiver"], voicePosition r = some item ∧
      r.sets .voice = fun ctl => mixerCtlSetEnumByString ctl item := by
  cases h with
  | select h =>
    rcases incallRoute_mem h with rfl | rfl | rfl
    · exact ⟨"Receiver", by decide, rfl, rfl⟩
    · exact ⟨"Headset", by decide, rfl, rfl⟩
    · exact ⟨"Speaker", by decide, rfl, rfl⟩

theorem CallArray.eq_of_position {r r' : Route} (h : CallArray r) (h' : CallArray r')
    (hp : voicePosition r = voicePosition r') : r = r' := by
  cases h with
  | select h =>
    cases h' with
    | select h' =>
      rcases incallRoute_mem h with rfl | rfl | rfl <;>
        rcases incallRoute_mem h' with rfl | rfl | rfl <;>
        first | rfl | exact absurd hp (by decide)

theorem callArray_ttyRoute {t : TtyMode} {r : Route} (h : ttyRoute t = some r) : CallArray r := by
  have hh : incallRoute audioDeviceOutWiredHeadset = some routeVoicecallHeadset := rfl
  have hs : incallRoute audioDeviceOutSpeaker = some routeVoicecallSpeaker := rfl
  cases t with
  | off => cases h
  | full | vco =>
    cases h
    exact .select hh
  | hco =>
    cases h
    exact .select hs

/-- With a text telephone on and no SCO device, `select_output_device` selects an array. -/
theorem outputRoute_tty {devices : Devices} {t : TtyMode} (ht : ttyRoute t ≠ none)
    (hsco : anyOf devices audioDeviceOutAllSco = false) :
    ∃ r, outputRoute audioModeInCall devices t = some r := by
  cases t with
  | off => exact absurd rfl ht
  | full | vco | hco =>
    simp only [outputRoute, outputFlags, hsco, and_self, if_true]
    exact ⟨_, rfl⟩

namespace Desk

variable {d : Desk}

/-- In a call the voice controls are what the present settings select, set over something. -/
def CallRouted (d : Desk) : Prop :=
  d.mode = audioModeInCall → ∀ name ∈ voiceControls,
    ∃ ctl, d.mixer name = some (d.selected.sets name ctl)

theorem CallRouted.of_eq {d' : Desk} (h : d.CallRouted) (hs : d'.settings = d.settings)
    (hx : ∀ name ∈ voiceControls, d'.mixer name = d.mixer name) : d'.CallRouted := by
  intro hc name hn
  rw [hx name hn, selected_congr hs]
  exact h ((settings_inj hs).1.symm.trans hc) name hn

theorem callRouted_selectOutput (hp : d.mixer.Present) : d.selectOutput.CallRouted := by
  intro _ name _
  obtain ⟨ctl, hc⟩ := Option.ne_none_iff_exists'.mp (hp name)
  refine ⟨ctl, ?_⟩
  rw [mixer_selectOutput hp, selected_congr d.settings_selectOutput, hc, Option.map_some]

theorem CallRouted.setVolume (h : d.CallRouted) (v : Volume) : (d.setVolume v).CallRouted := by
  refine h.of_eq (settings_setVolume d v) fun name hn => ?_
  unfold Desk.setVolume
  split
  · refine Function.update_of_ne ?_ ..
    rintro rfl
    exact absurd hn (by decide)
  · rfl

theorem CallRouted.changeMode (hp : d.mixer.Present) (hs : d.InSync) (h : d.CallRouted) (mode : Int)
    (o : Option OutId) (i : Option InId) : (d.changeMode mode o i).CallRouted := by
  by_cases hm : d.mode = mode
  · rw [Desk.changeMode, if_pos hm]
    exact h
  intro hc
  have hph := congrArg Prod.fst (phase_changeMode d hm o i)
  obtain rfl : mode = audioModeInCall := hph.symm.trans hc
  have hi : d.inCall = false := by rw [hs, decide_eq_false hm]
  have he : d.changeMode audioModeInCall o i =
      ({ d with mode := audioModeInCall } : Desk).enterCall o i := by
    rw [Desk.changeMode, if_neg hm, selectMode]
    simp only [if_true, hi, Bool.false_eq_true, if_false]
  have hw := written_stopActive { d with mode := audioModeInCall } (R := fun _ => True)
    (fun _ _ => trivial) (fun _ _ => trivial) o i
  rw [he] at hc ⊢
  -- the selection for the devices of the call comes last, but for the volume
  have hsel : ((({ d with mode := audioModeInCall } : Desk).stopActive o i).callDevices
      ).selectOutput.CallRouted := by
    refine callRouted_selectOutput ?_
    rw [mixer_callDevices]
    exact hp.of_shapes hw.shapes
  exact hsel.setVolume _ hc

theorem CallRouted.run (hp : d.mixer.Present) (hs : d.InSync) (h : d.CallRouted) (op : Op) :
    (op.run d).CallRouted := by
  by_cases hc : d.mode = audioModeInCall
  case neg =>
    by_cases hop : ∃ mode o i, op = .changeMode mode o i
    · obtain ⟨mode, o, i, rfl⟩ := hop
      exact h.changeMode hp hs mode o i
    · intro hc'
      have hph := phase_run d fun mode o i he => hop ⟨mode, o, i, he⟩
      exact absurd ((congrArg Prod.fst hph).symm.trans hc') hc
  cases op with
  | openOutput | closeOutput | openInput | closeInput | setDevice => exact h.of_eq rfl fun _ _ => rfl
  | stopOutput o idle =>
    simp only [Op.run, Desk.stopOutput]
    rw [if_neg fun hi : d.mode ≠ audioModeInCall ∧ idle = true => hi.1 hc]
    split <;> exact h.of_eq rfl fun _ _ => rfl
  | stopInput i =>
    simp only [Op.run, Desk.stopInput, outsideCall_inCall hc]
    split <;> exact h.of_eq rfl fun _ _ => rfl
  | startOutput o ready =>
    simp only [Op.run, Desk.startOutput, outsideCall_inCall hc]
    split <;> exact h.of_eq rfl fun _ _ => rfl
  | startInput i ready =>
    simp only [Op.run, Desk.startInput, outsideCall_inCall hc]
    split <;> exact h.of_eq rfl fun _ _ => rfl
  | setOutDevice dev => exact callRouted_selectOutput (d := { d with outDevice := dev }) hp
  | setTtyMode t =>
    simp only [Op.run, Desk.setTtyMode, if_pos hc]
    exact callRouted_selectOutput (d := { d with ttyMode := t }) hp
  | setVolume v => exact h.setVolume v
  | changeMode mode o i => exact h.changeMode hp hs mode o i

end Desk

section
variable {α : Type}

/-- The voice path obeys the TTY mode. -/
def Hal.TtyPath (s : Hal α) : Prop :=
  s.mode = audioModeInCall → anyOf s.outDevice audioDeviceOutAllSco = false →
    ∀ r, ttyRoute s.ttyMode = some r → s.mixer.ShowsVoice r

/-- The output devices select the in-call array of the TTY mode. -/
def Hal.TtyDevices (s : Hal α) : Prop :=
  s.mode = audioModeInCall → anyOf s.outDevice audioDeviceOutAllSco = false →
    ∀ r, ttyRoute s.ttyMode = some r → incallRoute s.outDevice = some r

/-- A voice control that shows an in-call array has its position. -/
theorem item_of_shows {ctl : Ctl} {items : List String} {n : Nat}
    (hσ : ctl.shape = (.enumerated items, n + 1))
    (hi : ∀ item ∈ ["OFF", "Headset", "Speaker", "Receiver"], item ∈ items) {r : Route}
    (hr : CallArray r) (h : ctl.Shows r .voice) : voicePosition r = ctl.item := by
  obtain ⟨item, hmem, hp, hs⟩ := hr.sets_voice
  have hc : mixerCtlSetEnumByString ctl item = ctl := by
    have h : r.sets .voice ctl = ctl := h
    rwa [hs] at h
  rw [hp, ← hc, item_mixerCtlSetEnumByString hσ (hi item (List.mem_cons_of_mem _ hmem))]

variable [Zero α] {s₀ s : Hal α} {name : String} {alloc : Bool} {m : Mixer}

theorem callRouted_run (h0 : adevOpen name alloc (some m) = .ok s₀) (hm : m.Present)
    (h : Reach step s₀ s) : s.desk.CallRouted := by
  have h1 : s₀.desk.CallRouted := by
    obtain ⟨_, ⟨⟩, rfl⟩ := adevOpen_ok h0
    intro hc
    rw [desk_openDevice] at hc
    have hp := congrArg Prod.fst (Desk.calloc m).phase_selectOutput
    exact absurd (hp.symm.trans hc) (show ¬ audioModeNormal = audioModeInCall by decide)
  refine h.invariant_of (I := fun s => s.desk.CallRouted)
    (J := fun s => s.desk.mixer.shapes = m.shapes ∧ s.desk.InSync)
    (fun u hu => ⟨shapes_run h0 hu, inSync_run h0 hu⟩) h1 ?_
  intro u e t hJ hu _ hs
  rw [desk_step hs]
  refine (Desk.runOps_invariant (I := fun d => d.CallRouted ∧ d.mixer.shapes = m.shapes ∧ d.InSync)
    ⟨hu, hJ⟩ fun d op hd => ?_).1
  obtain ⟨hr, hσ, hy⟩ := hd
  exact ⟨hr.run (hm.of_shapes hσ) hy op, (d.shapes_run op).trans hσ, hy.run op⟩

/-- In every state the voice path obeys the TTY mode when the output devices select the in-call
array that belongs to it, and, on a mixer with the positions the arrays name, only then. -/
theorem tty_path (h0 : adevOpen name alloc (some m) = .ok s₀) (hm : m.Present)
    (h : Reach step s₀ s) :
    (s.TtyDevices → s.TtyPath) ∧ (m.VoicePositions → s.TtyPath → s.TtyDevices) := by
  have hcall := callRouted_run h0 hm h
  have hσ : s.mixer.shapes = m.shapes := shapes_run h0 h
  constructor
  · intro hd hc hsco r hr name hn
    have hi := hd hc hsco r hr
    obtain ⟨ctl, hx⟩ := hcall hc name hn
    refine ⟨_, hx, ?_⟩
    -- the in-call array is set last
    have hsel : s.desk.selected = (outputRoute s.mode s.outDevice s.ttyMode).getD [] ++ r := by
      show selectedRoute s.mode s.outDevice s.ttyMode = _
      rw [selectedRoute, if_pos hc, hi, Option.getD_some]
    rw [hsel, Route.sets_append]
    exact CallArray.shows (.select hi) hn _
  · rintro ⟨items, n, hv, hitems⟩ hp hc hsco r hr
    obtain ⟨ctl, hx, hs⟩ := hp hc hsco r hr .voice (List.mem_cons_self ..)
    have hsh : ctl.shape = (.enumerated items, n + 1) := by
      have hv' := (congrFun hσ .voice).trans hv
      simpa only [Mixer.shapes, hx, Option.map_some, Option.some.injEq] using hv'
    have hpos := item_of_shows hsh hitems (callArray_ttyRoute hr) hs
    obtain ⟨ctl', hx'⟩ := hcall hc .voice (List.mem_cons_self ..)
    have hctl : ctl = s.desk.selected.sets .voice ctl' :=
      Option.some.inj (hx.symm.trans hx')
    have hsel : s.desk.selected = (outputRoute s.mode s.outDevice s.ttyMode).getD [] ++
        (incallRoute s.outDevice).getD [] := by
      show selectedRoute s.mode s.outDevice s.ttyMode = _
      rw [selectedRoute, if_pos hc]
    rw [hsel, Route.sets_append] at hctl
    have hsh' : ctl'.shape = (.enumerated items, n + 1) := by
      rw [← hsh, hctl, Route.sets_shape, Route.sets_shape]
    cases hi : incallRoute s.outDevice with
    | some r' =>
      rw [hi, Option.getD_some] at hctl
      have hs' : ctl.Shows r' .voice := hctl ▸ CallArray.shows (.select hi) (List.mem_cons_self ..) _
      have hpos' := item_of_shows hsh hitems (.select hi) hs'
      rw [(callArray_ttyRoute hr).eq_of_position (.select hi) (hpos.trans hpos'.symm)]
    | none =>
      -- no in-call array: the output array has left "Voice" at "OFF"
      obtain ⟨x, ho⟩ := outputRoute_tty (t := s.ttyMode) (by rw [hr]; simp) hsco
      rw [hi, Option.getD_none, hc, ho, Option.getD_some, OutputArray.sets_voice (.select ho)] at hctl
      have hoff := item_mixerCtlSetEnumByString hsh' (hitems "OFF" (by simp))
      obtain ⟨item, hmem, hp, -⟩ := (callArray_ttyRoute hr).sets_voice
      have hne : item = "OFF" := by
        have hx : some item = some "OFF" := by
          rw [← hp, hpos, hctl]
          exact hoff
        exact Option.some.inj hx
      subst hne
      exact absurd hmem (by decide)

/-- The text telephone is switched on with a headset plugged in, and a call comes. -/
def headsetTtyCall : List (Event Nat) :=
  [.openOutputStream 0 audioDeviceOutSpeaker true true, .outSetParameters 0 [("routing", "4")],
    .setParameters [("tty_mode", "tty_full")], .setMode audioModeInCall]

theorem tty_path_headsetTtyCall : ∃ s : Hal Nat,
    exec step headsetTtyCall (openDevice boardMixer) = some s ∧ s.mode = audioModeInCall ∧
    s.ttyMode = .full ∧ s.TtyPath := by
  have hr : (exec step headsetTtyCall (openDevice boardMixer)).map (fun s =>
      (s.mode, s.outDevice, s.ttyMode)) =
      some (audioModeInCall, audioDeviceOutWiredHeadset, .full) := rfl
  obtain ⟨s, hs, hp⟩ := Option.map_eq_some_iff.mp hr
  simp only [Prod.mk.injEq] at hp
  obtain ⟨hc, hd, ht⟩ := hp
  refine ⟨s, hs, hc, ht, (tty_path (adevOpen_some boardMixer) boardMixer_present
    (Reach.of_exec hs)).1 fun _ _ r hr => ?_⟩
  rw [ht] at hr
  rw [hd, ← hr]
  rfl

/-- The text telephone is switched on, and a call comes with no headset: it goes to the earpiece. -/
theorem tty_earpiece : ∃ s : Hal Nat,
    exec step [.setParameters [("tty_mode", "tty_full")], .setMode audioModeInCall]
      (openDevice boardMixer) = some s ∧ boardMixer.VoicePositions ∧ ¬ s.TtyPath := by
  have hr : (exec step [.setParameters [("tty_mode", "tty_full")], .setMode audioModeInCall]
      (openDevice boardMixer : Hal Nat)).map (fun s =>
        (s.mode, anyOf s.outDevice audioDeviceOutAllSco, s.ttyMode, s.mixer .voice)) =
      some (audioModeInCall, false, .full,
        some ⟨.enumerated ["OFF", "Headset", "Speaker", "Receiver"], [3]⟩) := rfl
  obtain ⟨s, hs, hp⟩ := Option.map_eq_some_iff.mp hr
  simp only [Prod.mk.injEq] at hp
  obtain ⟨hc, hsco, ht, hv⟩ := hp
  refine ⟨s, hs, ⟨_, _, rfl, fun item h => h⟩, fun hp => ?_⟩
  obtain ⟨ctl, hx, hshow⟩ := hp hc hsco routeVoicecallHeadset (by rw [ht]; rfl) .voice
    (List.mem_cons_self ..)
  rw [hv, Option.some.injEq] at hx
  subst hx
  exact absurd hshow (by decide)

end

end P970.Audio
