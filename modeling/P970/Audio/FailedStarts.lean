import P970.Audio.Keeping
import P970.Audio.Sharing
import P970.Audio.Standbys

/-!
# Failed starts

What a start leaves behind when `pcm_open` fails. The error exits reset the
active pointer and nothing else, so the routes, the device of the input and the
echo references stay as the start made them, and a stream that was active before
no longer is. The device is as it was exactly when there was nothing to undo
(`OutputInert`, `InputInert`, `failed_start_iff`).
-/

namespace P970.Audio

/-! ## Arrays that change nothing -/

section
variable {m : Mixer}

/-- The entries an array gets to: those in front of the first control that is missing. -/
def Route.reached (r : Route) (m : Mixer) : Route := r.takeWhile fun e => (m e.ctlName).isSome

theorem setRouteByArray_reached (r : Route) (m : Mixer) :
    (setRouteByArray (r.reached m) m).2 = (setRouteByArray r m).2 := by
  induction r generalizing m with
  | nil => rfl
  | cons e r ih =>
    cases hc : m e.ctlName with
    | none => simp [Route.reached, setRouteByArray, mixerGetCtlByName, hc]
    | some ctl =>
      have hsome : ∀ name, (Function.update m e.ctlName (some (e.set ctl)) name).isSome =
          (m name).isSome := by
        intro name
        by_cases hn : name = e.ctlName
        · rw [hn, Function.update_self, hc]
          rfl
        · rw [Function.update_of_ne hn]
      have hr : Route.reached (e :: r) m =
          e :: Route.reached r (Function.update m e.ctlName (some (e.set ctl))) := by
        simp only [Route.reached, List.takeWhile_cons, hc, Option.isSome_some, if_true, hsome]
      rw [hr]
      simp only [setRouteByArray, mixerGetCtlByName, hc]
      exact ih _

theorem reached_present (r : Route) (m : Mixer) : ∀ name ∈ (r.reached m).names, m name ≠ none := by
  intro name hn
  obtain ⟨e, he, rfl⟩ := List.mem_map.mp hn
  have h : (m e.ctlName).isSome = true := List.all_eq_true.mp List.all_takeWhile e he
  exact Option.isSome_iff_ne_none.mp h

/-- An array changes nothing when the controls it gets to hold its values. -/
theorem setRouteByArray_eq_self_iff (r : Route) (m : Mixer) :
    (setRouteByArray r m).2 = m ↔ m.ShowsAll (r.reached m) := by
  have happly : ∀ name, (setRouteByArray r m).2 name = (m name).map ((r.reached m).sets name) := by
    intro name
    rw [← setRouteByArray_reached, setRouteByArray_writeAll]
    refine writeAll_apply (fun k hk => ?_) name
    rw [Route.writes_names] at hk
    exact reached_present r m k hk
  constructor
  · intro h name hn
    obtain ⟨ctl, hc⟩ := Option.ne_none_iff_exists'.mp (reached_present r m name hn)
    refine ⟨ctl, hc, ?_⟩
    have ha := happly name
    rw [h, hc, Option.map_some] at ha
    exact (Option.some.inj ha).symm
  · intro h
    funext name
    rw [happly]
    by_cases hn : name ∈ (r.reached m).names
    · obtain ⟨ctl, hc, hs⟩ := h name hn
      rw [Option.mem_def] at hc
      rw [hc, Option.map_some]
      exact congrArg some hs
    · rw [funext (Route.sets_of_not_mem hn), Option.map_id']

end

/-! ## References that were handed out -/

/-- The device's reference is one that was created. -/
def Echo.Issued (v : Echo) : Prop := ∀ e, v.reference = some e → e < v.ledger.next

section
variable {α : Type} {s : Hal α}

theorem keeping_issued : Keeping fun s t : Hal α => s.echo.Issued → t.echo.Issued where
  trans h h' hs := h' (h hs)
  other {s t} h hs e he := by
    simp only [Hal.holdings, Prod.mk.injEq] at h
    obtain ⟨-, -, -, hr, hl⟩ := h
    have hlt := hs e (hr.symm.trans he)
    exact hlt.trans_eq (congrArg Ledger.next hl).symm
  out _ _ _ _ hs := hs
  inp _ _ _ _ hs := hs
  release s _ _ e he := by cases he
  create s _ e he := by
    obtain rfl := Option.some.inj he
    exact Nat.lt_succ_self s.echos.next

theorem echos_removeFromActive (e : Nat) :
    (removeFromActive e s).echoReference = s.echoReference ∧
      (removeFromActive e s).echos = s.echos ∧
      (removeFromActive e s).activeOutput = s.activeOutput := by
  unfold removeFromActive removeEchoReference detachEchoReference Hal.echoUse
  split
  · split
    · split
      · split <;> exact ⟨rfl, rfl, rfl⟩
      · exact ⟨rfl, rfl, rfl⟩
    · exact ⟨rfl, rfl, rfl⟩
  · exact ⟨rfl, rfl, rfl⟩

/-- `put_echo_reference` gives up the device's reference or leaves it. -/
theorem echos_putEchoReference (e : Option Nat) :
    ((putEchoReference e s).echoReference = none ∨
        e ≠ s.echoReference ∧ putEchoReference e s = s) ∧
      (putEchoReference e s).echos.next = s.echos.next ∧
      (putEchoReference e s).activeOutput = s.activeOutput := by
  unfold putEchoReference
  cases hr : s.echoReference with
  | none => exact ⟨.inl hr, rfl, rfl⟩
  | some r =>
    simp only
    split
    · obtain ⟨-, h2, h3⟩ := echos_removeFromActive (s := s) r
      refine ⟨.inl rfl, ?_, ?_⟩
      · unfold Hal.releaseEchoReference
        split
        · exact (Ledger.free_next _ r).trans (congrArg Ledger.next h2)
        · exact congrArg Ledger.next h2
      · unfold Hal.releaseEchoReference
        split <;> exact h3
    · next hne => exact ⟨.inr ⟨hne, rfl⟩, rfl, rfl⟩

/-- `get_echo_reference` on the device: a new reference for an active output, or none. -/
theorem echoReference_getEchoReference (created : Bool) :
    (getEchoReference created s).echoReference =
      if s.activeOutput.isSome && created then some s.echos.next else none := by
  obtain ⟨hr, hn, ha⟩ := echos_putEchoReference (s := s) s.echoReference
  have hr : (putEchoReference s.echoReference s).echoReference = none :=
    hr.resolve_right fun h => h.1 rfl
  unfold getEchoReference newEchoReference
  generalize putEchoReference s.echoReference s = t at hr hn ha ⊢
  rw [← hn, ← ha]
  cases ho : t.activeOutput with
  | none => exact hr
  | some o =>
    cases created with
    | false => exact hr
    | true =>
      have hadd : ∀ u : Hal α, (addEchoReference o (some t.echos.next) u).echoReference =
          u.echoReference := by
        intro u
        unfold addEchoReference attachEchoReference
        split <;> rfl
      exact hadd t.createEchoReference

end

section
variable {α : Type} [Zero α] {s : Hal α}

theorem issued_act (h : s.echo.Issued) (e : Event α) : (act e s).echo.Issued := by
  cases e with
  | openOutputStream o d a r =>
    show (adevOpenOutputStream o d a r s).2.echo.Issued
    unfold adevOpenOutputStream
    split
    · exact h
    · split <;> exact h
  | closeOutputStream o =>
    show (freeOutput o (outStandby o s)).echo.Issued
    rw [echo_freeOutput]
    exact keeping_issued.outStandby s o h
  | openInputStream i d c env =>
    show (adevOpenInputStream i d c env s).2.echo.Issued
    rw [echo_adevOpenInputStream]
    split <;> exact h
  | closeInputStream i =>
    show (freeInput i (inStandby i s)).echo.Issued
    rw [echo_freeInput]
    exact keeping_issued.inStandby s i h
  | outWriteData o force ok => exact keeping_issued.outWriteData s (fun _ _ _ hs => hs) o ok h
  | inRead i n ready created =>
    have hr := keeping_issued.inRead s (fun _ _ _ hs => hs) i ready created h
    simp only [act]
    split <;> exact hr
  | inReadData i n dst script =>
    exact keeping_issued.inReadData s (fun _ _ _ hs => hs) i n dst script h
  | _ => exact keeping_issued.act s rfl h

theorem issued_run {name : String} {alloc : Bool} {mixer : Option Mixer} {s₀ : Hal α}
    (h0 : adevOpen name alloc mixer = .ok s₀) (h : Reach step s₀ s) : s.echo.Issued := by
  obtain ⟨m, -, rfl⟩ := adevOpen_ok h0
  refine h.invariant (I := fun s => s.echo.Issued) (fun e he => ?_) fun s e t hs _ ht => ?_
  · have hd : (openDevice m : Hal α).echo.reference = none :=
      congrArg Echo.reference (echo_selectOutputDevice _)
    exact absurd (hd.symm.trans he) (by simp)
  · obtain ⟨-, -, rfl⟩ := step_some ht
    exact issued_act (s := s.clearTrace) hs e

end

/-! ## What a failed start changes -/

section
variable {d : Desk}

theorem Desk.mixer_setRoute_eq_iff (r : Option Route) :
    (d.setRoute r).mixer = d.mixer ↔ ∀ x ∈ r, d.mixer.ShowsAll (x.reached d.mixer) := by
  cases r with
  | none => simp [Desk.setRoute]
  | some r => simp [Desk.setRoute, setRouteByArray_eq_self_iff]

theorem Desk.inDevice_setRoute (r : Option Route) : (d.setRoute r).inDevice = d.inDevice := by
  cases r <;> rfl

end

/-- What a failed start has to leave alone. -/
structure Hal.Intact {α : Type} (s t : Hal α) : Prop where
  mixer : t.mixer = s.mixer
  inDevice : t.inDevice = s.inDevice
  activeOutput : t.activeOutput = s.activeOutput
  activeInput : t.activeInput = s.activeInput
  echoReference : t.echoReference = s.echoReference
  outs : ∀ o, (t.outs o).map (·.echoReference) = (s.outs o).map (·.echoReference)
  ins : ∀ i, (t.ins i).map (·.echoReference) = (s.ins i).map (·.echoReference)

section
variable {α : Type} {s t : Hal α}

/-- No output was active, and outside a call the array of the outputs is set already. -/
def Hal.OutputInert (s : Hal α) : Prop :=
  s.activeOutput = none ∧
    (s.mode = audioModeInCall ∨ ∀ r ∈ outputRoute s.mode s.outDevice s.ttyMode,
      s.mixer.ShowsAll (r.reached s.mixer))

/-- No input was active, outside a call the stream's device is selected and its array set already,
and no echo reference is given up or made. -/
def Hal.InputInert (s : Hal α) (inp : OmapStreamIn α) (created : Bool) : Prop :=
  s.activeInput = none ∧
    (s.mode = audioModeInCall ∨ s.inDevice = inp.device ∧ ∀ r ∈ inputRoute inp.device,
      s.mixer.ShowsAll (r.reached s.mixer)) ∧
    (inp.needEchoReference = true ∧ inp.echoReference = none →
      s.echoReference = none ∧ (s.activeOutput = none ∨ created = false))

/-- The part of it that concerns the echo references. -/
theorem Hal.Intact.of_echo (hm : t.mixer = s.mixer) (hd : t.inDevice = s.inDevice)
    (he : t.echo = s.echo) : s.Intact t where
  mixer := hm
  inDevice := hd
  activeOutput := congrArg Echo.activeOutput he
  activeInput := congrArg Echo.activeInput he
  echoReference := congrArg Echo.reference he
  outs o := by
    have h : ((t.outs o).map (·.echoes)).map Prod.snd = ((s.outs o).map (·.echoes)).map Prod.snd :=
      congrArg (Option.map Prod.snd) (congrFun (congrArg Echo.output he) o)
    rw [Option.map_map, Option.map_map] at h
    exact h
  ins i := by
    have h : ((t.ins i).map (·.echoes)).map InputEcho.reference =
        ((s.ins i).map (·.echoes)).map InputEcho.reference :=
      congrArg (Option.map InputEcho.reference) (congrFun (congrArg Echo.input he) i)
    rw [Option.map_map, Option.map_map] at h
    exact h

theorem echo_failedOutput (o : OutId) :
    (startOutputStream o false s).2.echo = { s.echo with activeOutput := none } := by
  have hc := echo_claimOutput (s := s) o
  unfold startOutputStream openOutputPcm
  generalize claimOutput o s = u at hc ⊢
  have ht : (u.pcmOpen.modOut o fun out =>
      { out with writeThreshold := playbackPeriodCount * longPeriodSize, pcm := some u.newPcm }
      ).echo = { s.echo with activeOutput := some o } := by
    refine (echo_modOut_same _ o ?_).trans ((echo_pcmOpen u).trans hc)
    exact fun _ => rfl
  simp only [Bool.false_eq_true, if_false]
  rw [echo_setActiveOutput, echo_pcmClose, ht]

theorem failed_output_iff (o : OutId) :
    s.Intact (startOutputStream o false s).2 ↔ s.OutputInert := by
  have hd : (startOutputStream o false s).2.desk = s.desk.outsideCall .selectOutput :=
    (desk_openOutputPcm _ o false).trans (desk_claimOutput s o)
  have he := echo_failedOutput (s := s) o
  have hmix : (startOutputStream o false s).2.mixer = s.mixer ↔ s.mode = audioModeInCall ∨
      ∀ r ∈ outputRoute s.mode s.outDevice s.ttyMode, s.mixer.ShowsAll (r.reached s.mixer) := by
    have hm : (startOutputStream o false s).2.mixer = (s.desk.outsideCall .selectOutput).mixer :=
      congrArg Desk.mixer hd
    rw [hm]
    by_cases hc : s.mode = audioModeInCall
    · have hd' : s.desk.outsideCall .selectOutput = s.desk := if_neg (not_not.mpr hc)
      rw [hd']
      exact ⟨fun _ => .inl hc, fun _ => rfl⟩
    · have hd' : s.desk.outsideCall .selectOutput =
          s.desk.setRoute (outputRoute s.mode s.outDevice s.ttyMode) :=
        (if_pos hc).trans (if_neg hc)
      rw [hd', or_iff_right hc]
      exact Desk.mixer_setRoute_eq_iff _
  have hdev : (startOutputStream o false s).2.inDevice = s.inDevice := by
    refine (congrArg Desk.inDevice hd).trans ?_
    unfold Desk.outsideCall Desk.selectOutput
    split
    · exact Desk.inDevice_setRoute _
    · rfl
  constructor
  · intro h
    exact ⟨h.activeOutput.symm.trans (congrArg Echo.activeOutput he), hmix.mp h.mixer⟩
  · rintro ⟨ha, hr⟩
    refine .of_echo (hmix.mpr hr) hdev (he.trans ?_)
    rw [← ha]
    rfl

theorem echo_failedInput {i : InId} {inp : OmapStreamIn α} (hi : s.ins i = some inp)
    (created : Bool) : (startInputStream i false created s).2.echo =
      { (referenceInput i created inp (remixInput i inp (claimInput i inp.device s))).echo with
        activeInput := none } := by
  rw [startInputStream, hi]
  simp only
  generalize referenceInput i created inp _ = u
  obtain ⟨channels, -, heq⟩ := openInputPcm_eq i false u
  rw [heq]
  have ht : (u.pcmOpen.modIn i fun inp =>
      { inp with pcm := some u.newPcm, channels := channels inp }).echo = u.echo := by
    refine (echo_modIn_same _ i ?_).trans (echo_pcmOpen u)
    exact fun _ => rfl
  simp only [Bool.false_eq_true, if_false]
  generalize u.pcmOpen.modIn i _ = t at ht ⊢
  rw [echo_setActiveInput, echo_pcmClose, ht]

/-- The references after `start_input_stream` took one, or did not have to. -/
theorem echo_takeEchoReference {i : InId} {inp : OmapStreamIn α} {created : Bool}
    (hx : s.echo.input i = some inp.echoes) (hn : inp.echoReference = none)
    (hr : s.echoReference = none) (ha : s.activeOutput = none ∨ created = false) :
    (takeEchoReference i created s).echo = s.echo := by
  have hg : getEchoReference created s = s := by
    have hp : putEchoReference s.echoReference s = s := by
      rw [hr]
      unfold putEchoReference
      rw [hr]
    unfold getEchoReference newEchoReference
    rw [hp]
    split
    · next o ho =>
      rw [ha.resolve_left (by rw [ho]; simp)]
      rfl
    · rfl
  unfold takeEchoReference
  rw [hg]
  refine (echo_modIn_some (y := inp.echoes) hx fun inp' he => ?_).trans ?_
  · have h1 : inp'.echoReference = none := (congrArg InputEcho.reference he).trans hn
    rw [hr, ← h1]
    exact he
  · rw [Echo.setInput, ← hx, Function.update_eq_self]

theorem failed_input_iff (h : s.echo.Issued) {i : InId} {inp : OmapStreamIn α}
    (hi : s.ins i = some inp) (created : Bool) :
    s.Intact (startInputStream i false created s).2 ↔ s.InputInert inp created := by
  have hd : (startInputStream i false created s).2.desk =
      s.desk.outsideCall (·.routeInput inp.device) := by
    rw [startInputStream, hi]
    simp only [desk_openInputPcm, desk_referenceInput, desk_remixInput, desk_claimInput]
  have he := echo_failedInput hi created
  have hv : (remixInput i inp (claimInput i inp.device s)).echo =
      { s.echo with activeInput := some i } :=
    (echo_remixInput i inp).trans (echo_claimInput i inp.device)
  generalize remixInput i inp (claimInput i inp.device s) = v at he hv
  have hmix : (startInputStream i false created s).2.mixer = s.mixer ∧
      (startInputStream i false created s).2.inDevice = s.inDevice ↔ s.mode = audioModeInCall ∨
        s.inDevice = inp.device ∧ ∀ r ∈ inputRoute inp.device,
          s.mixer.ShowsAll (r.reached s.mixer) := by
    have hm : (startInputStream i false created s).2.mixer =
        (s.desk.outsideCall (·.routeInput inp.device)).mixer := congrArg Desk.mixer hd
    have hdev : (startInputStream i false created s).2.inDevice =
        (s.desk.outsideCall (·.routeInput inp.device)).inDevice := congrArg Desk.inDevice hd
    rw [hm, hdev]
    by_cases hc : s.mode = audioModeInCall
    · have hd' : s.desk.outsideCall (·.routeInput inp.device) = s.desk := if_neg (not_not.mpr hc)
      rw [hd']
      exact ⟨fun _ => .inl hc, fun _ => ⟨rfl, rfl⟩⟩
    · have hd' : s.desk.outsideCall (·.routeInput inp.device) =
          ({ s.desk with inDevice := inp.device } : Desk).setRoute (inputRoute inp.device) :=
        if_pos hc
      rw [hd', or_iff_right hc, Desk.inDevice_setRoute, and_comm]
      exact and_congr eq_comm (Desk.mixer_setRoute_eq_iff _)
  have hva : v.activeOutput = s.activeOutput := congrArg Echo.activeOutput hv
  have hvr : v.echoReference = s.echoReference := congrArg Echo.reference hv
  have hvn : v.echos.next = s.echos.next := congrArg (fun x => x.ledger.next) hv
  constructor
  · intro hin
    refine ⟨?_, hmix.mp ⟨hin.mixer, hin.inDevice⟩, fun hneed => ?_⟩
    · exact hin.activeInput.symm.trans (congrArg Echo.activeInput he)
    · have hu : referenceInput i created inp v = takeEchoReference i created v :=
        if_pos (by simp [hneed.1, hneed.2])
      have htake : (takeEchoReference i created v).echoReference =
          (getEchoReference created v).echoReference := rfl
      have href : (startInputStream i false created s).2.echoReference =
          (getEchoReference created v).echoReference :=
        (congrArg Echo.reference he).trans ((congrArg Hal.echoReference hu).trans htake)
      rw [hin.echoReference, echoReference_getEchoReference created, hva, hvn] at href
      split at href
      · exact absurd (h _ href) (Nat.lt_irrefl _)
      · next hc =>
        refine ⟨href, ?_⟩
        cases ha : s.activeOutput with
        | none => exact .inl rfl
        | some o => exact .inr (by simpa [ha] using hc)
  · rintro ⟨ha, hr, hneed⟩
    obtain ⟨hm, hdev⟩ := hmix.mpr hr
    refine .of_echo hm hdev (he.trans ?_)
    have hu : (referenceInput i created inp v).echo = v.echo := by
      unfold referenceInput
      split
      · next hc =>
        obtain ⟨h1, h2⟩ := Bool.and_eq_true_iff.mp hc
        have h2 : inp.echoReference = none := of_decide_eq_true h2
        obtain ⟨h3, h4⟩ := hneed ⟨h1, h2⟩
        refine echo_takeEchoReference ?_ h2 (hvr.trans h3) (by rw [hva]; exact h4)
        rw [hv]
        exact echo_input s hi
      · rfl
    rw [hu, hv, ← ha]
    rfl

theorem intact_lockBoth (m : Mutex) : (s.lockBoth m).Intact t ↔ s.Intact t :=
  ⟨fun h => ⟨h.mixer, h.inDevice, h.activeOutput, h.activeInput, h.echoReference, h.outs, h.ins⟩,
    fun h => ⟨h.mixer, h.inDevice, h.activeOutput, h.activeInput, h.echoReference, h.outs, h.ins⟩⟩

end

section
variable {α : Type} [Zero α] {s : Hal α}

theorem failed_start_iff {name : String} {alloc : Bool} {mixer : Option Mixer} {s₀ : Hal α}
    (h0 : adevOpen name alloc mixer = .ok s₀) (h : Reach step s₀ s) :
    (∀ o out, s.outs o = some out → out.standby = true →
      (startOutputStream o false (s.lockBoth (.out o))).1 = -enomem ∧
        (s.Intact (startOutputStream o false (s.lockBoth (.out o))).2 ↔ s.OutputInert)) ∧
    ∀ i inp created, s.ins i = some inp → inp.standby = true →
      (startInputStream i false created (s.lockBoth (.inp i))).1 = -enomem ∧
        (s.Intact (startInputStream i false created (s.lockBoth (.inp i))).2 ↔
          s.InputInert inp created) := by
  refine ⟨fun o out _ _ => ⟨rfl, ?_⟩, fun i inp created hi _ => ⟨?_, ?_⟩⟩
  · exact (intact_lockBoth (.out o)).symm.trans (failed_output_iff o)
  · have hi' : (s.lockBoth (.inp i)).ins i = some inp := hi
    rw [startInputStream, hi']
    rfl
  · have hs : s.echo.Issued := issued_run h0 h
    exact (intact_lockBoth (.inp i)).symm.trans
      (failed_input_iff (s := s.lockBoth (.inp i)) hs hi created)

/-- An output is open, and an input with an echo canceller, and there was a call. -/
def afterCall : List (Event Nat) :=
  [.openOutputStream 0 audioDeviceOutSpeaker true true,
    .openInputStream 0 audioDeviceInBuiltinMic ⟨48000, 1, 1⟩ ⟨true, true, true, id⟩,
    .inAddAudioEffect 0 ⟨0, true⟩ 0, .setMode audioModeInCall, .setMode audioModeNormal]

/-- The end of the call has set the arrays of both, so neither start has anything to undo: a
reference is not made either, for want of an active output. -/
theorem failed_start_first : ∃ s : Hal Nat, ∃ inp,
    exec step afterCall (openDevice boardMixer) = some s ∧ s.ins 0 = some inp ∧
      inp.needEchoReference = true ∧
      s.Intact (startOutputStream 0 false (s.lockBoth (.out 0))).2 ∧
      s.Intact (startInputStream 0 false true (s.lockBoth (.inp 0))).2 := by
  have hr : (exec step afterCall (openDevice boardMixer)).map (fun s =>
      (((s.outs 0).map (·.standby), s.activeOutput), s.activeInput, s.echoReference)) =
      some ((some true, none), none, none) := by
    decide +kernel
  have hi : (exec step afterCall (openDevice boardMixer)).map (fun s =>
      (s.inDevice, (s.ins 0).map fun inp => (inp.standby, inp.device, inp.needEchoReference))) =
      some (0x4, some (true, 0x4, true)) := by
    decide +kernel
  have hm : (exec step afterCall (openDevice boardMixer)).map (fun s =>
      (decide (s.mixer.ShowsAll
        ((outputRoute s.mode s.outDevice s.ttyMode).elim [] (·.reached s.mixer))),
      decide (s.mixer.ShowsAll ((inputRoute 0x4).elim [] (·.reached s.mixer))))) =
      some (true, true) := by
    decide +kernel
  obtain ⟨s, hs, hp⟩ := Option.map_eq_some_iff.mp hr
  rw [hs, Option.map_some, Option.some.injEq] at hi hm
  simp only [Prod.mk.injEq, decide_eq_true_eq] at hp hi hm
  obtain ⟨⟨ho, hao⟩, hai, her⟩ := hp
  obtain ⟨hd, hi⟩ := hi
  obtain ⟨out, ho, hst⟩ := Option.map_eq_some_iff.mp ho
  obtain ⟨inp, hi, hinp⟩ := Option.map_eq_some_iff.mp hi
  simp only [Prod.mk.injEq] at hinp
  obtain ⟨hist, hdev, hneed⟩ := hinp
  obtain ⟨houts, hins⟩ := failed_start_iff (adevOpen_some boardMixer) (Reach.of_exec hs)
  refine ⟨s, inp, hs, hi, hneed, (houts 0 out ho hst).2.mpr ⟨hao, .inr fun r hr => ?_⟩,
    (hins 0 inp true hi hist).2.mpr ⟨hai, .inr ⟨hd.trans hdev.symm, fun r hr => ?_⟩,
      fun _ => ⟨her, .inl hao⟩⟩⟩
  · rw [hr] at hm
    exact hm.1
  · rw [hdev] at hr
    rw [hr] at hm
    exact hm.2

/-- One output plays and another is in standby; an input from the headset with an echo canceller is
open. -/
def beforeCapture : List (Event Nat) :=
  [.openOutputStream 0 audioDeviceOutSpeaker true true,
    .openOutputStream 1 audioDeviceOutSpeaker true true, .outWrite 0 true, .outWriteData 0 false true,
    .openInputStream 0 audioDeviceInWiredHeadset ⟨48000, 1, 1⟩ ⟨true, true, true, id⟩,
    .inAddAudioEffect 0 ⟨1, true⟩ 0]

/-- The references of the device, of output 0 and of input 0. -/
def Hal.references (s : Hal α) : Option Nat × Option (Option Nat) × Option (Option Nat) :=
  (s.echoReference, (s.outs 0).map (·.echoReference), (s.ins 0).map (·.echoReference))

/-- The failed start of the input leaves its device, its array and a new reference behind, that of
the output takes the playing output off the device. -/
theorem failed_start_leaves : ∃ s : Hal Nat,
    exec step beforeCapture (openDevice boardMixer) = some s ∧
      ((s.outs 1).map (·.standby), (s.ins 0).map (·.standby)) = (some true, some true) ∧
      (s.inDevice, s.activeOutput) = (0x4, some 0) ∧ s.references = (none, some none, some none) ∧
      (∃ t, startInputStream 0 false true (s.lockBoth (.inp 0)) = (-enomem, t) ∧
        t.inDevice = 0x10 ∧ t.references = (some 0, some (some 0), some (some 0)) ∧
        t.mixer .analogCaptureVolume ≠ s.mixer .analogCaptureVolume ∧ ¬ s.Intact t) ∧
      ∃ t, startOutputStream 1 false (s.lockBoth (.out 1)) = (-enomem, t) ∧
        t.activeOutput = none ∧ ¬ s.Intact t := by
  have hr : (exec step beforeCapture (openDevice boardMixer)).map (fun s =>
      (((s.outs 1).map (·.standby), (s.ins 0).map (·.standby)), s.inDevice, s.activeOutput)) =
      some ((some true, some true), 0x4, some 0) := by
    decide +kernel
  have he : (exec step beforeCapture (openDevice boardMixer)).map Hal.references =
      some (none, some none, some none) := by
    decide +kernel
  have hi : (exec step beforeCapture (openDevice boardMixer)).map (fun s =>
      let t := (startInputStream 0 false true (s.lockBoth (.inp 0))).2
      (t.inDevice, decide (t.mixer .analogCaptureVolume ≠ s.mixer .analogCaptureVolume))) =
      some (0x10, true) := by
    decide +kernel
  have hie : (exec step beforeCapture (openDevice boardMixer)).map (fun s =>
      (startInputStream 0 false true (s.lockBoth (.inp 0))).2.references) =
      some (some 0, some (some 0), some (some 0)) := by
    decide +kernel
  obtain ⟨s, hs, hp⟩ := Option.map_eq_some_iff.mp hr
  rw [hs, Option.map_some, Option.some.injEq] at he hi hie
  simp only [Prod.mk.injEq, decide_eq_true_eq] at hp hi
  obtain ⟨⟨ho1, hi0⟩, hd, ha⟩ := hp
  obtain ⟨inp, hinp, -⟩ := Option.map_eq_some_iff.mp hi0
  have hret : (startInputStream 0 false true (s.lockBoth (.inp 0))).1 = -enomem := by
    have hinp : (s.lockBoth (.inp 0)).ins 0 = some inp := hinp
    rw [startInputStream, hinp]
    rfl
  refine ⟨s, hs, Prod.ext ho1 hi0, Prod.ext hd ha, he,
    ⟨_, Prod.ext hret rfl, hi.1, hie, hi.2, fun h => hi.2 (congrFun h.mixer _)⟩,
    ⟨_, rfl, rfl, fun h => ?_⟩⟩
  have hn : none = s.activeOutput := h.activeOutput
  rw [ha] at hn
  cases hn

end

end P970.Audio
