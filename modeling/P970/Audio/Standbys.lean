import P970.Audio.Tty

/-!
# Two standbys

The state a standby leaves, but for the model's own bookkeeping (`Hal.core`), and
the standbys of an output and an input outside a call in either order. The output
is unrouted by its own standby, and only while no input is active, so the orders
agree, with all routes at rest, exactly when no input was active or the output
was unrouted before (`standbys_agree_iff`).
-/

namespace P970.Audio

section
variable {α : Type} (s : Hal α)

/-- The state without what the model keeps of the code's conduct. -/
def Hal.core (s : Hal α) : Hal α := { s with trace := [], faults := [] }

theorem core_pcmClose (h : Option Nat) :
    (s.pcmClose h).core = { s.core with pcms := s.pcms.free? h } := by
  unfold Hal.pcmClose
  split
  · next n =>
    split
    · rfl
    · next hl =>
      have hf : s.pcms.free? (some n) = s.pcms := Ledger.free_dead (Bool.eq_false_iff.mpr hl)
      rw [hf]
      rfl
  · rfl

theorem core_echoUse? (e : Option Nat) : (s.echoUse? e).core = s.core := by
  unfold Hal.echoUse? Hal.echoUse
  split
  · split <;> rfl
  · rfl

/-- What a standby leaves of an output stream. -/
def OmapStreamOut.stopped (out : OmapStreamOut) : OmapStreamOut :=
  { out with pcm := none, echoReference := none, standby := true }

def OmapStreamIn.stopped (inp : OmapStreamIn α) : OmapStreamIn α :=
  { inp with pcm := none, echoReference := none, standby := true }

theorem core_doOutputStandby {o : OutId} {out : OmapStreamOut} (ho : s.outs o = some out)
    (hr : out.standby = false) : (doOutputStandby o s).core = { s.core with
      pcms := s.pcms.free? out.pcm
      mixer := if s.mode ≠ audioModeInCall ∧ s.activeInput = none then
        (setRouteByArray routeStandby s.mixer).2 else s.mixer
      activeOutput := none
      outs := Function.update s.outs o (some out.stopped) } := by
  have hroute : ∀ u : Hal α, (routeOutputStandby u).core = { u.core with
      mixer := if u.core.mode ≠ audioModeInCall ∧ u.core.activeInput = none then
        (setRouteByArray routeStandby u.core.mixer).2 else u.core.mixer } := by
    intro u
    unfold routeOutputStandby
    split
    · next h =>
      rw [if_pos (by exact h)]
      rfl
    · next h => rw [if_neg (by exact h)]
  have hmod : ∀ u : Hal α, (u.modOut o OmapStreamOut.stopped).core =
      u.core.modOut o OmapStreamOut.stopped := fun _ => rfl
  have hset : ∀ u : Hal α, (u.setActiveOutput none).core = u.core.setActiveOutput none := fun _ => rfl
  unfold doOutputStandby
  rw [ho]
  simp only [hr, Bool.false_eq_true, if_false]
  refine (hmod _).trans ?_
  rw [core_echoUse?, hset, hroute, core_pcmClose]
  have hm : ∀ u : Hal α, u.outs = s.outs → u.modOut o OmapStreamOut.stopped =
      { u with outs := Function.update s.outs o (some out.stopped) } := by
    intro u hu
    rw [Hal.modOut, hu, ho]
    rfl
  refine (hm _ ?_).trans ?_
  · rfl
  · rfl

/-- `remove_echo_reference` from the active output. -/
def Hal.detached (e : Nat) (s : Hal α) : OutId → Option OmapStreamOut :=
  match s.activeOutput with
  | some o => Function.update s.outs o ((s.outs o).map fun out =>
      if out.echoReference = some e then { out with echoReference := none } else out)
  | none => s.outs

theorem core_removeFromActive (e : Nat) :
    (removeFromActive e s).core = { s.core with outs := s.detached e } := by
  have he : ∀ u : Hal α, (u.echoUse e).core = u.core := fun u => core_echoUse? u (some e)
  unfold removeFromActive Hal.detached
  cases ha : s.activeOutput with
  | none => rfl
  | some o =>
    show (detachEchoReference o e (s.pthreadMutexLock (.out o))).core = _
    unfold detachEchoReference
    have hl : (s.pthreadMutexLock (.out o)).outs o = s.outs o := rfl
    rw [hl]
    cases ho : s.outs o with
    | none =>
      have hs : Function.update s.outs o none = s.outs := Function.update_eq_self_iff.mpr ho.symm
      simp only [ho, Option.map_none, hs]
      rfl
    | some out =>
      simp only [ho, Option.map_some]
      split
      · have hmod : ∀ u : Hal α, ∀ f, (u.modOut o f).core = u.core.modOut o f := fun _ _ => rfl
        rw [hmod, he]
        show Hal.core (s.modOut o _) = _
        rw [hmod, Hal.modOut, show s.core.outs o = some out from ho, Option.map_some]
        rfl
      · have hs : Function.update s.outs o (some out) = s.outs := Function.update_eq_self_iff.mpr ho.symm
        rw [hs]
        rfl

theorem core_dropEchoReference (e : Option Nat) : (dropEchoReference e s).core =
    if e ≠ none ∧ s.echoReference = e then { s.core with
      outs := s.detached (e.getD 0)
      echos := s.echos.free? e
      echoReference := none } else s.core := by
  cases e with
  | none => rfl
  | some e =>
    have he : (s.echoUse e).core = s.core := core_echoUse? s (some e)
    have hrel : ∀ u : Hal α, (u.releaseEchoReference e).core =
        { u.core with echos := u.core.echos.free? (some e) } := by
      intro u
      unfold Hal.releaseEchoReference
      split
      · rfl
      · next hl =>
        have hf : u.core.echos.free? (some e) = u.core.echos :=
          Ledger.free_dead (Bool.eq_false_iff.mpr hl)
        rw [hf]
        rfl
    have hset : ∀ u : Hal α, (u.setEchoReference none).core = u.core.setEchoReference none :=
      fun _ => rfl
    have hr : (s.echoUse e).echoReference = s.echoReference := by
      have h := congrArg Hal.echoReference he
      exact h
    have hd : (s.echoUse e).detached e = s.detached e := by
      have h := congrArg (Hal.detached e) he
      exact h
    show (putEchoReference (some e) (s.echoUse e)).core = _
    unfold putEchoReference
    rw [hr]
    cases hs : s.echoReference with
    | none => simp [he]
    | some e' =>
      by_cases heq : e' = e
      · subst heq
        simp only [if_true]
        rw [hset, hrel, core_removeFromActive, hd, he]
        simp
        rfl
      · have hne : ¬ some e = some e' := fun h => heq (Option.some.inj h).symm
        have hne' : ¬ (some e ≠ none ∧ some e' = some e) := fun h => heq (Option.some.inj h.2)
        rw [if_neg hne']
        simp only [if_neg hne]
        exact he

theorem core_doInputStandby {i : InId} {inp : OmapStreamIn α} (hi : s.ins i = some inp)
    (hr : inp.standby = false) (hm : s.mode ≠ audioModeInCall) :
    (doInputStandby i s).core = { s.core with
      pcms := s.pcms.free? inp.pcm
      mixer := (setRouteByArray routeInputStandby s.mixer).2
      activeInput := none
      inDevice := audioDeviceNone
      outs := if inp.echoReference ≠ none ∧ s.echoReference = inp.echoReference then
        s.detached (inp.echoReference.getD 0) else s.outs
      echos := if inp.echoReference ≠ none ∧ s.echoReference = inp.echoReference then
        s.echos.free? inp.echoReference else s.echos
      echoReference := if inp.echoReference ≠ none ∧ s.echoReference = inp.echoReference then
        none else s.echoReference
      ins := Function.update s.ins i (some inp.stopped) } := by
  have hroute : ∀ u : Hal α, u.core.mode ≠ audioModeInCall →
      ((u.setActiveInput none).outsideCall unrouteInput).core = { u.core with
        mixer := (setRouteByArray routeInputStandby u.core.mixer).2
        activeInput := none
        inDevice := audioDeviceNone } := by
    intro u hu
    rw [Hal.outsideCall, if_pos (by exact hu), unrouteInput, selectInputDevice]
    rw [show ((u.setActiveInput none).setInDevice audioDeviceNone).inDevice = audioDeviceNone from rfl]
    rw [inputRoute_none]
    rfl
  have hmod : ∀ u : Hal α, (u.modIn i OmapStreamIn.stopped).core =
      u.core.modIn i OmapStreamIn.stopped := fun _ => rfl
  unfold doInputStandby
  rw [hi]
  simp only [hr, Bool.false_eq_true, if_false]
  refine (hmod _).trans ?_
  have hu := hroute (s.pcmClose inp.pcm) (by rw [core_pcmClose]; exact hm)
  rw [core_pcmClose] at hu
  generalize ((s.pcmClose inp.pcm).setActiveInput none).outsideCall unrouteInput = u at hu ⊢
  have h1 : u.echoReference = s.echoReference := by
    have h := congrArg Hal.echoReference hu
    exact h
  have h2 : ∀ e, u.detached e = s.detached e := by
    intro e
    have h := congrArg (Hal.detached e) hu
    exact h
  have h3 : u.echos = s.echos := by
    have h := congrArg Hal.echos hu
    exact h
  have hm : ∀ u : Hal α, u.ins = s.ins → u.modIn i OmapStreamIn.stopped =
      { u with ins := Function.update s.ins i (some inp.stopped) } := by
    intro u hu
    rw [Hal.modIn, hu, hi]
    rfl
  rw [core_dropEchoReference, h1, h2, h3, hu]
  split
  · refine (hm _ ?_).trans ?_
    · rfl
    · rfl
  · refine (hm _ ?_).trans ?_
    · rfl
    · rfl

end

/-! ## The arrays of the standbys -/

/-- Every control of the array holds its values. -/
def Mixer.ShowsAll (m : Mixer) (r : Route) : Prop :=
  ∀ name ∈ r.names, ∃ ctl ∈ m name, ctl.Shows r name

instance (m : Mixer) (r : Route) : Decidable (m.ShowsAll r) :=
  inferInstanceAs (Decidable (∀ name ∈ r.names, ∃ ctl ∈ m name, ctl.Shows r name))

section
variable {m m' : Mixer}

theorem setRouteByArray_setRouteByArray (hm : m.Present) (r r' : Route) (name : CtlName) :
    (setRouteByArray r (setRouteByArray r' m).2).2 name =
      (m name).map fun ctl => r.sets name (r'.sets name ctl) := by
  rw [setRouteByArray_apply (hm.of_shapes (shapes_setRouteByArray r' m)), setRouteByArray_apply hm,
    Option.map_map]
  rfl

/-- Arrays that set different controls can be set in either order. -/
theorem setRouteByArray_comm (hm : m.Present) {r r' : Route} (hd : ∀ name ∈ r.names, name ∉ r'.names) :
    (setRouteByArray r (setRouteByArray r' m).2).2 =
      (setRouteByArray r' (setRouteByArray r m).2).2 := by
  funext name
  rw [setRouteByArray_setRouteByArray hm, setRouteByArray_setRouteByArray hm]
  congr 1
  funext ctl
  by_cases hn : name ∈ r.names
  · rw [Route.sets_of_not_mem (hd name hn), Route.sets_of_not_mem (hd name hn)]
  · rw [Route.sets_of_not_mem hn, Route.sets_of_not_mem hn]

/-- Setting an array that the mixer shows changes nothing. -/
theorem Mixer.ShowsAll.setRouteByArray_eq (hm : m.Present) {r : Route} (h : m.ShowsAll r) :
    (setRouteByArray r m).2 = m := by
  funext name
  rw [setRouteByArray_apply hm]
  by_cases hn : name ∈ r.names
  · obtain ⟨ctl, hc, hs⟩ := h name hn
    rw [Option.mem_def] at hc
    rw [hc, Option.map_some]
    exact congrArg some hs
  · rw [funext (Route.sets_of_not_mem hn), Option.map_id']

/-- An array that sets no control of another leaves what the mixer shows of it. -/
theorem showsAll_frame (hm : m.Present) {r r' : Route} (hd : ∀ name ∈ r.names, name ∉ r'.names) :
    Mixer.ShowsAll (setRouteByArray r' m).2 r ↔ m.ShowsAll r := by
  refine forall_congr' fun name => forall_congr' fun hn => ?_
  rw [setRouteByArray_frame hm (hd name hn)]

/-- Whatever a control held, setting one of these arrays makes it show the array: its first entry
for the control overwrites the control, or is the only one. -/
theorem standby_shows {r : Route} (hr : r = routeStandby ∨ r = routeInputStandby) {name : CtlName}
    (hn : name ∈ r.names) (ctl : Ctl) : (r.sets name ctl).Shows r name := by
  rcases hr with rfl | rfl
  · by_cases he : ∃ e ∈ routeStandby, e.strval = none ∧ e.ctlName = name
    · obtain ⟨e, he, hs, rfl⟩ := he
      exact Route.shows (Route.fixes he (RouteSetting.fixes_int hs _))
    · have hv : name = .voice ∨ name = .extAmp := by
        revert name
        decide
      rcases hv with rfl | rfl <;> exact mixerCtlSetEnumByString_self ctl "OFF"
  · exact Route.shows (InputArray.standby.fixes hn _)

theorem showsAll_setRouteByArray (hm : m.Present) {r : Route}
    (hr : r = routeStandby ∨ r = routeInputStandby) :
    Mixer.ShowsAll (setRouteByArray r m).2 r := by
  intro name hn
  obtain ⟨ctl, hc⟩ := Option.ne_none_iff_exists'.mp (hm name)
  refine ⟨r.sets name ctl, ?_, standby_shows hr hn ctl⟩
  rw [Option.mem_def, setRouteByArray_apply hm, hc, Option.map_some]

end

/-! ## The standbys in either order -/

section
variable {α : Type} [Zero α] {s t u : Hal α} {o : OutId} {i : InId} {out : OmapStreamOut}
  {inp : OmapStreamIn α}

theorem core_step_outStandby (ho : s.outs o = some out) (hr : out.standby = false)
    (h : step s (.outStandby o) = some t) : t.core = { s.core with
      pcms := s.pcms.free? out.pcm
      mixer := if s.mode ≠ audioModeInCall ∧ s.activeInput = none then
        (setRouteByArray routeStandby s.mixer).2 else s.mixer
      activeOutput := none
      outs := Function.update s.outs o (some out.stopped) } := by
  obtain ⟨-, -, rfl⟩ := step_some h
  have hcore : ∀ v : Hal α, (v.unlockBoth (.out o)).clearTrace.core = v.core := fun _ => rfl
  have hs := core_doOutputStandby (s.clearTrace.lockBoth (.out o)) ho hr
  exact (hcore _).trans hs

theorem core_step_inStandby (hi : s.ins i = some inp) (hr : inp.standby = false)
    (hm : s.mode ≠ audioModeInCall) (h : step s (.inStandby i) = some t) :
    t.core = { s.core with
      pcms := s.pcms.free? inp.pcm
      mixer := (setRouteByArray routeInputStandby s.mixer).2
      activeInput := none
      inDevice := audioDeviceNone
      outs := if inp.echoReference ≠ none ∧ s.echoReference = inp.echoReference then
        s.detached (inp.echoReference.getD 0) else s.outs
      echos := if inp.echoReference ≠ none ∧ s.echoReference = inp.echoReference then
        s.echos.free? inp.echoReference else s.echos
      echoReference := if inp.echoReference ≠ none ∧ s.echoReference = inp.echoReference then
        none else s.echoReference
      ins := Function.update s.ins i (some inp.stopped) } := by
  obtain ⟨-, -, rfl⟩ := step_some h
  have hcore : ∀ v : Hal α, (v.unlockBoth (.inp i)).clearTrace.core = v.core := fun _ => rfl
  have hs := core_doInputStandby (s.clearTrace.lockBoth (.inp i)) hi hr hm
  exact (hcore _).trans hs

omit [Zero α] in
/-- Only the stream that was active loses the reference. -/
theorem detached_eq (e : Nat) (ha : s.activeOutput = none ∨ s.activeOutput = some o)
    (ho : s.outs o = some out) : ∃ out', s.detached e = Function.update s.outs o (some out') ∧
      out'.standby = out.standby ∧ out'.pcm = out.pcm ∧ out'.stopped = out.stopped := by
  rcases ha with ha | ha
  · refine ⟨out, ?_, rfl, rfl, rfl⟩
    rw [Hal.detached, ha]
    exact (Function.update_eq_self_iff.mpr ho.symm).symm
  · refine ⟨if out.echoReference = some e then { out with echoReference := none } else out, ?_, ?_⟩
    · unfold Hal.detached
      simp only [ha, ho, Option.map_some]
    · split <;> exact ⟨rfl, rfl, rfl⟩

/-- An output standby and then an input standby. -/
theorem core_outThenIn (ho : s.outs o = some out) (hro : out.standby = false)
    (hi : s.ins i = some inp) (hri : inp.standby = false) (hm : s.mode ≠ audioModeInCall)
    (h : exec step [.outStandby o, .inStandby i] s = some t) : t.core = { s.core with
      pcms := (s.pcms.free? out.pcm).free? inp.pcm
      mixer := (setRouteByArray routeInputStandby (if s.activeInput = none then
        (setRouteByArray routeStandby s.mixer).2 else s.mixer)).2
      activeInput := none
      activeOutput := none
      inDevice := audioDeviceNone
      outs := Function.update s.outs o (some out.stopped)
      echos := if inp.echoReference ≠ none ∧ s.echoReference = inp.echoReference then
        s.echos.free? inp.echoReference else s.echos
      echoReference := if inp.echoReference ≠ none ∧ s.echoReference = inp.echoReference then
        none else s.echoReference
      ins := Function.update s.ins i (some inp.stopped) } := by
  obtain ⟨t₁, h₁, h⟩ := Option.bind_eq_some_iff.mp h
  obtain ⟨t₂, h₂, h⟩ := Option.bind_eq_some_iff.mp h
  cases h
  have hc := core_step_outStandby ho hro h₁
  have hins : t₁.ins i = some inp := by
    have h := congrArg (fun u => u.ins i) hc
    exact h.trans hi
  have hmode : t₁.mode ≠ audioModeInCall := by
    have h := (congrArg Hal.mode hc :)
    exact fun hn => hm (h.symm.trans hn)
  have hdet : ∀ e, t₁.detached e = Function.update s.outs o (some out.stopped) := by
    intro e
    have h := congrArg (Hal.detached e) hc
    exact h
  have h1 : t₁.pcms = s.pcms.free? out.pcm := (congrArg Hal.pcms hc :)
  have h2 : t₁.mixer = if s.mode ≠ audioModeInCall ∧ s.activeInput = none then
      (setRouteByArray routeStandby s.mixer).2 else s.mixer := (congrArg Hal.mixer hc :)
  have h3 : t₁.echoReference = s.echoReference := (congrArg Hal.echoReference hc :)
  have h4 : t₁.outs = Function.update s.outs o (some out.stopped) := (congrArg Hal.outs hc :)
  have h5 : t₁.echos = s.echos := (congrArg Hal.echos hc :)
  have h6 : t₁.ins = s.ins := (congrArg Hal.ins hc :)
  rw [core_step_inStandby hins hri hmode h₂, h1, h2, h3, h4, h5, h6, hc, hdet, ite_self]
  simp only [ne_eq, hm, not_false_eq_true, true_and]

/-- An input standby and then an output standby. -/
theorem core_inThenOut (ho : s.outs o = some out) (hro : out.standby = false)
    (hi : s.ins i = some inp) (hri : inp.standby = false) (hm : s.mode ≠ audioModeInCall)
    (ha : s.activeOutput = none ∨ s.activeOutput = some o)
    (h : exec step [.inStandby i, .outStandby o] s = some u) : u.core = { s.core with
      pcms := (s.pcms.free? inp.pcm).free? out.pcm
      mixer := (setRouteByArray routeStandby (setRouteByArray routeInputStandby s.mixer).2).2
      activeInput := none
      activeOutput := none
      inDevice := audioDeviceNone
      outs := Function.update s.outs o (some out.stopped)
      echos := if inp.echoReference ≠ none ∧ s.echoReference = inp.echoReference then
        s.echos.free? inp.echoReference else s.echos
      echoReference := if inp.echoReference ≠ none ∧ s.echoReference = inp.echoReference then
        none else s.echoReference
      ins := Function.update s.ins i (some inp.stopped) } := by
  obtain ⟨u₁, h₁, h⟩ := Option.bind_eq_some_iff.mp h
  obtain ⟨u₂, h₂, h⟩ := Option.bind_eq_some_iff.mp h
  cases h
  have hc := core_step_inStandby hi hri hm h₁
  obtain ⟨out', houts, hst, hpcm, hstop⟩ : ∃ out', u₁.outs = Function.update s.outs o (some out') ∧
      out'.standby = out.standby ∧ out'.pcm = out.pcm ∧ out'.stopped = out.stopped := by
    have h : u₁.outs = _ := (congrArg Hal.outs hc :)
    rw [h]
    split
    · exact detached_eq (s := s) _ ha ho
    · exact ⟨out, (Function.update_eq_self_iff.mpr ho.symm).symm, rfl, rfl, rfl⟩
  have ho' : u₁.outs o = some out' := by
    rw [houts]
    exact Function.update_self ..
  have h1 : u₁.pcms = s.pcms.free? inp.pcm := (congrArg Hal.pcms hc :)
  have h2 : u₁.mixer = (setRouteByArray routeInputStandby s.mixer).2 := (congrArg Hal.mixer hc :)
  have h3 : u₁.mode = s.mode := (congrArg Hal.mode hc :)
  have h4 : u₁.activeInput = none := (congrArg Hal.activeInput hc :)
  rw [core_step_outStandby ho' (hst.trans hro) h₂, h1, h2, h3, h4, hc, houts, hpcm, hstop,
    Function.update_idem]
  simp only [ne_eq, hm, not_false_eq_true, and_self, if_true]

theorem routes_disjoint : ∀ name ∈ routeStandby.names, name ∉ routeInputStandby.names := by
  decide

/-- Outside a call, with one output and one input running, both orders of their standbys leave the
same state and every control of the two standby arrays at its values exactly when no input was
active or the controls of `route_standby` held its values already. -/
theorem standbys_agree_iff {name : String} {alloc : Bool} {m : Mixer} {s₀ : Hal α}
    (h0 : adevOpen name alloc (some m) = .ok s₀) (hp : m.Present) (h : Reach step s₀ s)
    (hm : s.mode ≠ audioModeInCall) (ho : s.outs o = some out) (hro : out.standby = false)
    (hone : ∀ o' out', s.outs o' = some out' → out'.standby = false → o' = o)
    (hi : s.ins i = some inp) (hri : inp.standby = false)
    (ht : exec step [.outStandby o, .inStandby i] s = some t)
    (hu : exec step [.inStandby i, .outStandby o] s = some u) :
    (t.core = u.core ∧
      (t.mixer.ShowsAll routeStandby ∧ t.mixer.ShowsAll routeInputStandby) ∧
      u.mixer.ShowsAll routeStandby ∧ u.mixer.ShowsAll routeInputStandby) ↔
    (s.activeInput = none ∨ s.mixer.ShowsAll routeStandby) := by
  have ha : s.activeOutput = none ∨ s.activeOutput = some o := by
    cases hc : s.activeOutput with
    | none => exact .inl rfl
    | some o' =>
      have hact : s.streams.active .out = some (.out o') := by rw [active_out, hc, Option.map_some]
      obtain ⟨-, x, hx⟩ := (streams_ok h0 h).inOrder.active hact
      obtain ⟨out', hs, hy⟩ := Option.map_eq_some_iff.mp (show (s.outs o').map _ = _ from hx)
      have hst := congrArg Slot.idle hy
      exact .inr (congrArg some (hone o' out' hs hst))
  have hsp : s.mixer.Present := hp.of_shapes (shapes_run h0 h)
  have htc := core_outThenIn ho hro hi hri hm ht
  have huc := core_inThenOut ho hro hi hri hm ha hu
  have htm : t.mixer = (setRouteByArray routeInputStandby (if s.activeInput = none then
      (setRouteByArray routeStandby s.mixer).2 else s.mixer)).2 := (congrArg Hal.mixer htc :)
  have hum : u.mixer =
      (setRouteByArray routeStandby (setRouteByArray routeInputStandby s.mixer).2).2 :=
    (congrArg Hal.mixer huc :)
  have hcomm := setRouteByArray_comm hsp routes_disjoint
  have hdisj : ∀ name ∈ routeInputStandby.names, name ∉ routeStandby.names :=
    fun name hn hn' => routes_disjoint name hn' hn
  have hpi : (setRouteByArray routeInputStandby s.mixer).2.Present :=
    hsp.of_shapes (shapes_setRouteByArray ..)
  -- the input's standby always sets its own array
  have husa : u.mixer.ShowsAll routeStandby ∧ u.mixer.ShowsAll routeInputStandby := by
    rw [hum]
    refine ⟨showsAll_setRouteByArray hpi (.inl rfl), ?_⟩
    rw [showsAll_frame hpi hdisj]
    exact showsAll_setRouteByArray hsp (.inr rfl)
  constructor
  · rintro ⟨-, ⟨hts, -⟩, -⟩
    by_cases hact : s.activeInput = none
    · exact .inl hact
    · rw [htm, if_neg hact, showsAll_frame hsp routes_disjoint] at hts
      exact .inr hts
  · intro hc
    have hmix : t.mixer = u.mixer := by
      rw [htm, hum]
      by_cases hact : s.activeInput = none
      · rw [if_pos hact]
        exact hcomm.symm
      · rw [if_neg hact, hcomm, (hc.resolve_left hact).setRouteByArray_eq hsp]
    refine ⟨?_, by rwa [hmix], husa⟩
    rw [htm, hum] at hmix
    rw [htc, huc, hmix, Ledger.free?_comm]

/-- An output plays on the speaker and rests, plays on the earpiece, and an input is read. -/
def playThenCapture (devices : List String) : List (Event Nat) :=
  [.openOutputStream 0 audioDeviceOutSpeaker true true, .outWrite 0 true,
    .outWriteData 0 false true, .outStandby 0] ++
  devices.map (fun value => .outSetParameters 0 [("routing", value)]) ++
  [.outWrite 0 true, .outWriteData 0 false true,
    .openInputStream 0 audioDeviceInBuiltinMic ⟨48000, 1, 1⟩ ⟨true, true, true, id⟩,
    .inRead 0 1 true true, .inReadData 0 1 [0] ⟨[], [], .ok⟩]

theorem standbys_agree_earpiece : ∃ s t u : Hal Nat,
    exec step (playThenCapture ["1"]) (openDevice boardMixer) = some s ∧
    exec step [.outStandby 0, .inStandby 0] s = some t ∧
    exec step [.inStandby 0, .outStandby 0] s = some u ∧ s.activeInput = some 0 ∧
    t.core = u.core := by
  have hr : (exec step (playThenCapture ["1"]) (openDevice boardMixer)).map (fun s =>
      ((s.mode, s.activeInput, decide (s.mixer.ShowsAll routeStandby)),
        (s.outs 0).map (·.standby), (s.ins 0).map (·.standby),
        (exec step [.outStandby 0, .inStandby 0] s).isSome,
        (exec step [.inStandby 0, .outStandby 0] s).isSome)) =
      some ((audioModeNormal, some 0, true), some false, some false, true, true) := by
    decide +kernel
  have hn : ∀ n, (exec step (playThenCapture ["1"]) (openDevice boardMixer)).map
      (fun s => s.outs (n + 1)) = some none := fun _ => rfl
  obtain ⟨s, hs, hp⟩ := Option.map_eq_some_iff.mp hr
  simp only [Prod.mk.injEq, decide_eq_true_eq] at hp
  obtain ⟨⟨hm, ha, hst⟩, ho, hi, ht, hu⟩ := hp
  obtain ⟨out, ho, hro⟩ := Option.map_eq_some_iff.mp ho
  obtain ⟨inp, hi, hri⟩ := Option.map_eq_some_iff.mp hi
  obtain ⟨t, ht⟩ := Option.isSome_iff_exists.mp ht
  obtain ⟨u, hu⟩ := Option.isSome_iff_exists.mp hu
  refine ⟨s, t, u, hs, ht, hu, ha, ((standbys_agree_iff (adevOpen_some boardMixer)
    boardMixer_present (Reach.of_exec hs) ?_ ho hro ?_ hi hri ht hu).mpr (.inr hst)).1⟩
  · rw [hm]
    decide
  · intro o' out' ho' _
    cases o' with
    | zero => rfl
    | succ n =>
      have h := hn n
      rw [hs, Option.map_some, ho'] at h
      cases h

/-- The output plays on the speaker: its standby while the input is active leaves the amplifier on,
and the input's standby does not turn it off. -/
theorem standbys_speaker : ∃ s t u : Hal Nat,
    exec step (playThenCapture []) (openDevice boardMixer) = some s ∧
    s.mode ≠ audioModeInCall ∧ s.OutputRuns ∧ (∃ inp ∈ s.ins 0, inp.standby = false) ∧
    exec step [.outStandby 0, .inStandby 0] s = some t ∧
    exec step [.inStandby 0, .outStandby 0] s = some u ∧
    t.mixer .extAmp ≠ u.mixer .extAmp ∧ ¬ t.mixer.ShowsAll routeStandby := by
  have hr : (exec step (playThenCapture []) (openDevice boardMixer)).map (fun s =>
      (s.mode, (s.outs 0).map (·.standby), (s.ins 0).map (·.standby),
        (exec step [.outStandby 0, .inStandby 0] s).map fun t =>
          ((t.mixer .extAmp).map (·.values), decide (t.mixer.ShowsAll routeStandby)),
        (exec step [.inStandby 0, .outStandby 0] s).map fun u =>
          (u.mixer .extAmp).map (·.values))) =
      some (audioModeNormal, some false, some false, some (some [1], false), some (some [0])) := rfl
  obtain ⟨s, hs, hp⟩ := Option.map_eq_some_iff.mp hr
  simp only [Prod.mk.injEq] at hp
  obtain ⟨hm, ho, hi, ht, hu⟩ := hp
  obtain ⟨out, ho, hro⟩ := Option.map_eq_some_iff.mp ho
  obtain ⟨inp, hi, hri⟩ := Option.map_eq_some_iff.mp hi
  obtain ⟨t, ht, hpt⟩ := Option.map_eq_some_iff.mp ht
  obtain ⟨u, hu, hpu⟩ := Option.map_eq_some_iff.mp hu
  simp only [Prod.mk.injEq, decide_eq_false_iff_not] at hpt
  refine ⟨s, t, u, hs, ?_, ⟨0, out, ho, hro⟩, ⟨inp, hi, hri⟩, ht, hu, ?_, hpt.2⟩
  · rw [hm]
    decide
  · intro heq
    rw [heq, hpu] at hpt
    exact absurd hpt.1 (by decide)

end

end P970.Audio
