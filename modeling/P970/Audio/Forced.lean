import P970.Audio.Keeping
import P970.Audio.Lifecycle

/-!
# The input an `out_write` forces into standby

`out_write` decides under one hold of the device lock whether the active input is
to be put into standby, and does it under a later one. In a run that meanwhile
starts no input of another source (`voiceStart`), the input it puts into standby
is one for voice communication.
-/

namespace P970.Audio

section
variable {α : Type}

def Hal.sources (s : Hal α) : InId → Option (BitVec 32) := fun i => (s.ins i).map (·.source)

/-! ## The active input and the sources -/

variable (s : Hal α)

theorem sources_modIn (i : InId) (f : OmapStreamIn α → OmapStreamIn α) : (s.modIn i f).sources =
    Function.update s.sources i ((s.ins i).map fun inp => (f inp).source) :=
  s.map_modIn (·.source) i f

omit s in
theorem sources_of_holdings {s t : Hal α} (h : t.holdings = s.holdings) : t.sources = s.sources :=
  congrArg (fun x i => (x.2.2.1 i).map (·.source)) h

theorem sources_releaseEchoReference (e : Nat) : (s.releaseEchoReference e).sources = s.sources := by
  unfold Hal.releaseEchoReference
  split <;> rfl

theorem activeInput_releaseEchoReference (e : Nat) :
    (s.releaseEchoReference e).activeInput = s.activeInput := by
  unfold Hal.releaseEchoReference
  split <;> rfl

/-- The active input of `t` was it in `s` or is the `k`, and the sources are the same. -/
def Resumes (k : Option InId) (s t : Hal α) : Prop :=
  (∀ i, t.activeInput = some i → s.activeInput = some i ∨ k = some i) ∧ t.sources = s.sources

omit s in
theorem Resumes.of_eq {k : Option InId} {s t : Hal α} (ha : t.activeInput = s.activeInput)
    (hs : t.sources = s.sources) : Resumes k s t :=
  ⟨fun _ hi => .inl (ha ▸ hi), hs⟩

omit s in
theorem frame_resumes (k : Option InId) :
    Frame (fun inp inp' => inp'.source = inp.source) (Resumes (α := α) k) where
  trans h h' := ⟨fun i hi => (h'.1 i hi).elim (h.1 i) .inr, h'.2.trans h.2⟩
  other h := .of_eq (congrArg Prod.snd h) (sources_of_holdings (congrArg Prod.fst h))
  idle _ := ⟨fun _ hi => (by cases hi), rfl⟩
  out _ _ _ _ := .of_eq rfl rfl
  inp s i f hf := by
    refine .of_eq rfl ?_
    rw [sources_modIn, Option.map_congr hf]
    exact Function.update_eq_self i s.sources
  stop _ := rfl
  refer _ _ := rfl
  release s e := .of_eq (activeInput_releaseEchoReference s e) (sources_releaseEchoReference s e)
  create _ := .of_eq rfl rfl

/-- A running stream that is put into standby leaves no active input. -/
theorem activeInput_doInputStandby {i : InId} {inp : OmapStreamIn α} (hi : s.ins i = some inp)
    (hr : inp.standby = false) : (doInputStandby i s).activeInput = none := by
  have hd : ∀ e (u : Hal α), u.activeInput = none → (dropEchoReference e u).activeInput = none := by
    intro e u hu
    refine Option.eq_none_iff_forall_ne_some.mpr fun j hj => ?_
    rcases ((frame_resumes none).dropEchoReference u e).1 j hj with h | h
    · rw [hu] at h
      cases h
    · cases h
  unfold doInputStandby
  rw [hi]
  simp only
  rw [hr, if_neg Bool.false_ne_true]
  refine hd inp.echoReference _ ?_
  unfold Hal.outsideCall
  split
  · exact congrArg Prod.snd (stock_selectInputDevice (Hal.setInDevice _ audioDeviceNone))
  · rfl

/-- The stream that the event starts, should it be in standby. -/
def Event.starts : Event α → Option InId
  | .inRead i _ true _ => some i
  | _ => none

def Starts (s : Hal α) (e : Event α) (j : InId) : Prop :=
  j ∈ e.starts ∧ ∃ inp ∈ s.ins j, inp.standby = true

end

section
variable {α : Type} {s : Hal α}

theorem sources_eq {j : InId} {inp : OmapStreamIn α} (h : s.ins j = some inp) :
    s.sources j = some inp.source :=
  congrArg (Option.map OmapStreamIn.source) h

theorem Resumes.source {t : Hal α} {k : Option InId} (h : Resumes k s t) {j : InId}
    (hj : t.activeInput = some j) :
    (s.activeInput = some j ∨ k = some j) ∧ t.sources j = s.sources j :=
  ⟨h.1 j hj, congrFun h.2 j⟩

/-- The active input runs. -/
theorem Streams.Ok.active_running (hI : s.streams.Ok) {j : InId} (h : s.activeInput = some j) :
    ∃ inp, s.ins j = some inp ∧ inp.standby = false := by
  obtain ⟨-, x, hx⟩ := hI.inOrder.active (d := .inp) (k := .inp j) (by rw [active_inp, h]; rfl)
  obtain ⟨inp, hi, he⟩ := Option.map_eq_some_iff.mp hx
  exact ⟨inp, hi, congrArg Slot.idle he⟩

/-- An active input that gets another source is put into standby. -/
theorem source_setInputParameters (hI : s.streams.Ok) (i : InId) (kv : KvPairs) {j : InId}
    (hj : (setInputParameters i kv s).activeInput = some j) :
    s.activeInput = some j ∧ (setInputParameters i kv s).sources j = s.sources j := by
  unfold setInputParameters at hj ⊢
  split at hj
  · exact ⟨hj, rfl⟩
  · next inp hi =>
    have hst : (inputParameters kv inp).1.standby = inp.standby :=
      inputParameters_frame (·.standby) (fun _ _ => rfl) (fun _ _ => rfl) kv inp
    have hu : (s.modIn i fun _ => (inputParameters kv inp).1).ins i =
        some (inputParameters kv inp).1 := by
      simp [Hal.modIn, hi]
    simp only at hj ⊢
    cases hr : (inputParameters kv inp).2 with
    | false =>
      rw [hr, if_neg Bool.false_ne_true] at hj
      rw [if_neg Bool.false_ne_true]
      refine ⟨hj, ?_⟩
      rw [sources_modIn, hi, Option.map_some, source_inputParameters hr, ← sources_eq hi,
        Function.update_eq_self]
    | true =>
      rw [hr, if_pos rfl] at hj
      rw [if_pos rfl]
      cases hb : inp.standby with
      | false =>
        rw [activeInput_doInputStandby _ hu (hst.trans hb)] at hj
        cases hj
      | true =>
        have hd : doInputStandby i (s.modIn i fun _ => (inputParameters kv inp).1) =
            s.modIn i fun _ => (inputParameters kv inp).1 := by
          rw [doInputStandby, hu]
          simp only
          rw [hst, hb, if_pos rfl]
        rw [hd] at hj ⊢
        refine ⟨hj, ?_⟩
        obtain ⟨inp', hj', hrun⟩ := hI.active_running hj
        rw [sources_modIn, Function.update_of_ne]
        rintro rfl
        rw [hi, Option.some.injEq] at hj'
        rw [← hj', hb] at hrun
        cases hrun

/-- A stream that is closed is not the active one afterwards. -/
theorem source_adevCloseInputStream (hI : s.streams.Ok) (i : InId) {j : InId}
    (hj : (adevCloseInputStream i s).activeInput = some j) :
    s.activeInput = some j ∧ (adevCloseInputStream i s).sources j = s.sources j := by
  have hj' : (inStandby i s).activeInput = some j := hj
  obtain ⟨ha, hs⟩ := ((frame_resumes none).inStandby s i).source hj'
  have ha := ha.resolve_right (by simp)
  refine ⟨ha, ?_⟩
  have hne : j ≠ i := by
    rintro rfl
    obtain ⟨inp, hi, hr⟩ := hI.active_running ha
    have hn : (inStandby j s).activeInput = none :=
      activeInput_doInputStandby (s.lockBoth (.inp j)) hi hr
    rw [hn] at hj'
    cases hj'
  have hf : (adevCloseInputStream i s).sources = Function.update (inStandby i s).sources i none :=
    Function.comp_update (Option.map OmapStreamIn.source) (inStandby i s).ins i none
  rw [hf, Function.update_of_ne hne, hs]

theorem source_adevOpenInputStream (hI : s.streams.Ok) {i : InId} (hg : (s.ins i).isNone)
    (devices : Devices) (config : AudioConfig) (env : OpenEnv α) {j : InId}
    (hj : (adevOpenInputStream i devices config env s).2.activeInput = some j) :
    s.activeInput = some j ∧
      (adevOpenInputStream i devices config env s).2.sources j = s.sources j := by
  have hne : s.activeInput = some j → j ≠ i := by
    rintro ha rfl
    obtain ⟨inp, hi, -⟩ := hI.active_running ha
    rw [hi] at hg
    cases hg
  rcases adevOpenInputStream_cases i devices config env s with ⟨-, h⟩ | h <;> rw [h] at hj ⊢
  · exact ⟨hj, rfl⟩
  · refine ⟨hj, ?_⟩
    have hs := Function.comp_update (Option.map OmapStreamIn.source) s.ins i
      (some (newInput devices config env.mic))
    exact (congrFun hs j).trans (Function.update_of_ne (hne hj) ..)

theorem activeInput_startInputStream_failed {i : InId} (hg : (s.ins i).isSome) (created : Bool) :
    (startInputStream i false created s).2.activeInput = none := by
  obtain ⟨inp, hi⟩ := Option.isSome_iff_exists.mp hg
  unfold startInputStream
  rw [hi]
  rfl

/-- An `in_read` starts the stream, or the active input was it before. -/
theorem source_inRead {i : InId} (hg : (s.ins i).isSome) (frames : Nat) (ready created : Bool) {j : InId}
    (hj : (inRead i ready created s).2.activeInput = some j) :
    (s.activeInput = some j ∨ Starts s (.inRead i frames ready created) j) ∧
      (inRead i ready created s).2.sources j = s.sources j := by
  have hk := (frame_resumes (some i)).inRead s (fun _ _ _ _ _ _ => rfl) i
    (fun u => ⟨fun j hj => .inr hj, rfl⟩) ready created
  obtain ⟨ha, hs⟩ := hk.source hj
  refine ⟨ha.elim .inl fun he => ?_, hs⟩
  cases he
  obtain ⟨inp, hi⟩ := Option.isSome_iff_exists.mp hg
  have hact : (inRead i ready created s).2.activeInput =
      (beginRead i ready created (s.lockBoth (.inp i))).2.activeInput := by
    unfold inRead
    simp only
    split <;> rfl
  have hi' : (s.lockBoth (.inp i)).ins i = some inp := hi
  rw [hact, beginRead, hi'] at hj
  simp only at hj
  cases hb : inp.standby with
  | false =>
    rw [hb, if_neg Bool.false_ne_true] at hj
    exact .inl hj
  | true =>
    rw [hb, if_pos rfl] at hj
    cases ready with
    | true => exact .inr ⟨rfl, inp, hi, hb⟩
    | false =>
      have hn := activeInput_startInputStream_failed (s := s.lockBoth (.inp i)) hg created
      split at hj
      · cases hn.symm.trans hj
      · cases hn.symm.trans hj

variable [Zero α]

/-- After a step the active input has its source from before, and was active or has been
started. -/
theorem source_step {e : Event α} {t : Hal α} (hI : s.streams.Ok) (h : step s e = some t) {j : InId}
    (hj : t.activeInput = some j) :
    (s.activeInput = some j ∨ Starts s e j) ∧ t.sources j = s.sources j := by
  obtain ⟨hg, -, rfl⟩ := step_some h
  have hI' : s.clearTrace.streams.Ok := hI
  have hj : (act e s.clearTrace).activeInput = some j := hj
  show _ ∧ (act e s.clearTrace).sources j = s.clearTrace.sources j
  have hquiet : ∀ {u : Hal α}, Resumes none s.clearTrace u → u.activeInput = some j →
      (s.activeInput = some j ∨ Starts s e j) ∧ u.sources j = s.clearTrace.sources j := by
    intro u hu hj
    obtain ⟨ha, hs⟩ := hu.source hj
    exact ⟨.inl (ha.resolve_right (by simp)), hs⟩
  have F := frame_resumes (α := α) none
  cases e with
  | openOutputStream o d a r =>
    refine hquiet ?_ hj
    simp only [act, adevOpenOutputStream]
    split
    · exact F.refl _
    · split
      · exact F.refl _
      · exact .of_eq rfl rfl
  | closeOutputStream o => exact hquiet (F.trans (F.outStandby _ o) (.of_eq rfl rfl)) hj
  | openInputStream i d c env =>
    obtain ⟨ha, hs⟩ := source_adevOpenInputStream hI' hg d c env hj
    exact ⟨.inl ha, hs⟩
  | closeInputStream i =>
    obtain ⟨ha, hs⟩ := source_adevCloseInputStream hI' i hj
    exact ⟨.inl ha, hs⟩
  | outWriteData o force ok =>
    refine hquiet ?_ hj
    exact F.trans (F.outWriteData _ (fun _ _ _ => .of_eq rfl rfl) o ok) (.of_eq rfl rfl)
  | inRead i n ready created =>
    have hact : (act (.inRead i n ready created) s.clearTrace).activeInput =
        (inRead i ready created s.clearTrace).2.activeInput := by
      simp only [act]
      split <;> rfl
    have hsrc : (act (.inRead i n ready created) s.clearTrace).sources =
        (inRead i ready created s.clearTrace).2.sources := by
      simp only [act]
      split <;> rfl
    rw [hact] at hj
    rw [hsrc]
    exact source_inRead (s := s.clearTrace) hg n ready created hj
  | inReadData i n dst script =>
    exact hquiet (F.trans (F.inReadData _ (fun _ _ => rfl) i n dst script) (.of_eq rfl rfl)) hj
  | inSetParameters i kv =>
    obtain ⟨ha, hs⟩ := source_setInputParameters (s := s.clearTrace.lockBoth (.inp i)) hI' i kv hj
    exact ⟨.inl ha, hs⟩
  | inAddAudioEffect i e d =>
    exact hquiet (F.both (F.addEffect _ (fun _ _ _ _ => rfl) i e d)) hj
  | inRemoveAudioEffect i e d =>
    exact hquiet (F.both (F.dropEffect _ (fun _ _ _ _ => rfl) i e d)) hj
  | _ => exact hquiet (F.act _ rfl rfl) hj

end

/-! ## The calls that are still to force an input -/

/-- A call of `out_write` with `force_input_standby`. -/
def Call.forces : Call → Bool
  | .outWrite _ force => force
  | .outForce => true
  | _ => false

section
variable {α : Type} {s t : Hal α}

def Hal.forcing (s : Hal α) : Bool := s.calls.any Call.forces

/-- While a call is still to force an input, no input of another source is started. -/
def voiceStart (s : Hal α) (e : Event α) : Prop :=
  s.forcing = true → ∀ i ∈ e.starts, ∀ inp ∈ s.ins i, inp.standby = true →
    inp.source = audioSourceVoiceCommunication

instance (s : Hal α) (e : Event α) : Decidable (voiceStart s e) :=
  inferInstanceAs (Decidable (_ → ∀ i ∈ e.starts, ∀ inp ∈ s.ins i, _ → _))

/-- The active input, if there is one, is for voice communication. -/
def Hal.VoiceInput (s : Hal α) : Prop :=
  ∀ i, s.activeInput = some i → s.sources i = some audioSourceVoiceCommunication

/-- The step puts the stream into standby. -/
def Forced (s t : Hal α) (inp : OmapStreamIn α) : Prop :=
  ∃ i inp', s.ins i = some inp ∧ inp.standby = false ∧ t.ins i = some inp' ∧ inp'.standby = true

theorem Hal.VoiceInput.of_active (h : s.voiceInputActive = true) : s.VoiceInput := by
  intro i hi
  rw [Hal.voiceInputActive, hi] at h
  obtain ⟨inp, hinp, hv⟩ := (Option.any_eq_true ..).mp h
  rw [sources_eq hinp, of_decide_eq_true hv]

/-- The decision is right when it is taken. -/
theorem voiceInput_outWrite {o : OutId} {ready : Bool} (h : (outWrite o ready s).1 = some true) :
    (outWrite o ready s).2.VoiceInput := by
  have hb : ∀ u : Hal α, (beginWrite o ready u).2.1 = true →
      (beginWrite o ready u).2.2.voiceInputActive = true := by
    intro u hu
    unfold beginWrite at hu ⊢
    split at hu
    · cases hu
    · split at hu
      · next hst =>
        simp only at hu ⊢
        split at hu
        · cases hu
        · next h0 =>
          rw [if_pos hst, if_neg h0]
          exact hu
      · cases hu
  unfold outWrite at h ⊢
  simp only at h ⊢
  split at h
  · cases h
  · next h0 =>
    rw [if_neg h0]
    exact .of_active (hb _ (Option.some.inj h))

variable [Zero α]

/-- A call that is to force an input was there before, or is an `out_write` that has just decided
so. -/
theorem forcing_step {e : Event α} (hI : s.streams.Ok) (h : step s e = some t)
    (hf : t.forcing = true) : s.forcing = true ∨
    ∃ o ready, e = .outWrite o ready ∧ (outWrite o ready s.clearTrace).1 = some true := by
  obtain ⟨c, hc, hcf⟩ := List.any_eq_true.mp hf
  have hmem : ∀ {c' : Call}, c' ∈ s.calls → c'.forces = true → s.forcing = true :=
    fun hc hcf => List.any_eq_true.mpr ⟨_, hc, hcf⟩
  obtain ⟨hg, -, -⟩ := step_some h
  rw [calls_step hI h] at hc
  cases e with
  | outWrite o ready =>
    simp only [callsAfter] at hc
    split at hc
    · next force hw =>
      rcases List.mem_cons.mp hc with rfl | hc
      · exact .inr ⟨o, ready, rfl, hw.trans (congrArg some hcf)⟩
      · exact .inl (hmem hc hcf)
    · exact .inl (hmem hc hcf)
  | outWriteData o force ok =>
    simp only [callsAfter] at hc
    split at hc
    · next hforce =>
      -- the call goes on to its last part
      refine .inl (hmem (List.contains_iff_mem.mp hg) hforce)
    · exact .inl (hmem (List.mem_of_mem_erase hc) hcf)
  | outWriteForce => exact .inl (hmem (List.mem_of_mem_erase hc) hcf)
  | inRead i frames ready created =>
    simp only [callsAfter] at hc
    split at hc
    · rcases List.mem_cons.mp hc with rfl | hc
      · cases hcf
      · exact .inl (hmem hc hcf)
    · exact .inl (hmem hc hcf)
  | inReadData i frames dst script =>
    simp only [callsAfter] at hc
    split at hc
    · exact .inl (hmem (List.mem_of_mem_erase hc) hcf)
    · rcases List.mem_cons.mp hc with rfl | hc
      · cases hcf
      · exact .inl (hmem (List.mem_of_mem_erase hc) hcf)
  | _ => exact .inl (hmem hc hcf)

/-- A step that meets `voiceStart` keeps the active input one for voice communication as long as a
call is to force it. -/
theorem voiceInput_step {e : Event α} (hI : s.streams.Ok) (hv : s.forcing = true → s.VoiceInput)
    (hok : voiceStart s e) (h : step s e = some t) (hf : t.forcing = true) : t.VoiceInput := by
  rcases forcing_step hI h hf with hs | ⟨o, ready, rfl, hw⟩
  · intro i hi
    obtain ⟨ha, hsrc⟩ := source_step hI h hi
    rw [hsrc]
    rcases ha with ha | ⟨he, inp, hinp, hst⟩
    · exact hv hs i ha
    · rw [sources_eq hinp, hok hs i he inp hinp hst]
  · obtain ⟨-, -, rfl⟩ := step_some h
    have hvi := voiceInput_outWrite hw
    simp only [act, hw]
    exact hvi

/-- The last part of an `out_write` puts at most the active input into standby. -/
theorem active_of_forced (hI : s.streams.Ok) (h : step s .outWriteForce = some t)
    {inp : OmapStreamIn α} (hf : Forced s t inp) : ∃ i, s.activeInput = some i ∧ s.ins i = some inp := by
  obtain ⟨i, inp', hi, hr, ht, hst⟩ := hf
  refine ⟨i, ?_, hi⟩
  obtain ⟨-, -, rfl⟩ := step_some h
  have hsi : s.streams.slot (.inp i) = some ⟨false, inp.pcm⟩ := by
    rw [slot_inp hi, OmapStreamIn.slot, hr]
  have hti : (forceInput (s.clearTrace.pthreadMutexLock .device)).streams.slot (.inp i) =
      some ⟨true, inp'.pcm⟩ := by
    refine (slot_inp ht).trans ?_
    rw [OmapStreamIn.slot, hst]
  unfold forceInput at hti
  split at hti
  · next j hj =>
    obtain ⟨inpj, hinpj, -⟩ := hI.active_running hj
    by_cases hij : i = j
    · exact hij ▸ hj
    · have hd := streams_doInputStandby
        (s := (s.clearTrace.pthreadMutexLock .device).pthreadMutexLock (.inp j)) hI.inOrder hinpj
      rw [streams_unlock, hd] at hti
      have hk : (s.streams.toPool.stop StreamKey.dir (.inp j)).slot (.inp i) =
          s.streams.slot (.inp i) := Pool.slot_stop_of_ne (by simpa using hij)
      cases (hk.trans hsi).symm.trans hti
  · next hn =>
    have hsi' : s.streams.slot (.inp i) = some ⟨true, inp'.pcm⟩ := hti
    rw [hsi] at hsi'
    cases hsi'

variable {name : String} {alloc : Bool} {mixer : Option Mixer} {s₀ : Hal α}

theorem voiceInput_run (h0 : adevOpen name alloc mixer = .ok s₀) (h : Run step voiceStart s₀ s) :
    s.forcing = true → s.VoiceInput := by
  refine h.invariant_of (I := fun s => s.forcing = true → s.VoiceInput)
    (J := fun s => s.streams.Ok) (fun u hu => streams_ok h0 hu.reach) ?_ ?_
  · obtain ⟨m, -, rfl⟩ := adevOpen_ok h0
    have hc : (openDevice m : Hal α).calls = [] := congrArg Streams.calls (streams_openDevice m)
    intro hf
    rw [Hal.forcing, hc] at hf
    cases hf
  · exact fun u e v hI hv hok hs => voiceInput_step hI hv hok hs

/-- In a run whose steps meet `voiceStart`, an `out_write` forces no input of another source into
standby. -/
theorem forced_source (h0 : adevOpen name alloc mixer = .ok s₀) (h : Run step voiceStart s₀ s)
    (ht : step s .outWriteForce = some t) {inp : OmapStreamIn α} (hf : Forced s t inp) :
    inp.source = audioSourceVoiceCommunication := by
  obtain ⟨i, ha, hi⟩ := active_of_forced (streams_ok h0 h.reach) ht hf
  obtain ⟨hg, -, -⟩ := step_some ht
  have hforce : s.forcing = true :=
    List.any_eq_true.mpr ⟨.outForce, List.contains_iff_mem.mp hg, rfl⟩
  have hv := voiceInput_run h0 h hforce i ha
  rw [sources_eq hi] at hv
  exact Option.some.inj hv

end

/-- A capture for voice communication runs when an output starts. -/
def callThenPlay : List (Event Nat) :=
  [.openInputStream 0 audioDeviceInBuiltinMic ⟨48000, 1, 1⟩ ⟨true, true, true, id⟩,
    .openOutputStream 0 audioDeviceOutSpeaker true true,
    .inSetParameters 0 [("input_source", "7")],
    .inRead 0 1 true true, .inReadData 0 1 [0] ⟨[.copy], [], .ok⟩, .outWrite 0 true]

/-- It is forced into standby. -/
theorem forced_source_callThenPlay : ∃ (s t : Hal Nat) (inp : OmapStreamIn Nat),
    exec step (callThenPlay ++ [.outWriteData 0 true true]) (openDevice fun _ => none) = some s ∧
    step s .outWriteForce = some t ∧ Forced s t inp ∧
    inp.source = audioSourceVoiceCommunication := by
  have hr : ((exec step (callThenPlay ++ [.outWriteData 0 true true])
      (openDevice fun _ => none)).map fun s => ((s.ins 0).map (·.standby),
        (step s .outWriteForce).map fun t => (t.ins 0).map (·.standby))) =
      some (some false, some (some true)) := rfl
  obtain ⟨s, hs, hp⟩ := Option.map_eq_some_iff.mp hr
  obtain ⟨hi, ht⟩ := Prod.mk.inj hp
  obtain ⟨inp, hi, hst⟩ := Option.map_eq_some_iff.mp hi
  obtain ⟨t, ht, hi'⟩ := Option.map_eq_some_iff.mp ht
  obtain ⟨inp', hi', hst'⟩ := Option.map_eq_some_iff.mp hi'
  have hf : Forced s t inp := ⟨0, inp', hi, hst, hi', hst'⟩
  have ho : OkAlong step voiceStart (callThenPlay ++ [.outWriteData 0 true true])
      (openDevice fun _ => none) := by decide +kernel
  exact ⟨s, t, inp, hs, ht, hf, forced_source (adevOpen_some _) (Run.of_exec hs ho) ht hf⟩

/-- While its call goes on, the input gets another source and is read again: it is now a capture
from the microphone that is interrupted. -/
theorem forced_other_source : ∃ (s t : Hal Nat) (inp : OmapStreamIn Nat),
    Reach step (openDevice fun _ => none) s ∧ step s .outWriteForce = some t ∧ Forced s t inp ∧
    inp.source = 1 := by
  have hr : ((exec step (callThenPlay ++ [.inSetParameters 0 [("input_source", "1")],
      .inRead 0 1 true true, .inReadData 0 1 [0] ⟨[.copy], [], .ok⟩, .outWriteData 0 true true])
      (openDevice fun _ => none)).map fun s => ((s.ins 0).map fun inp => (inp.standby, inp.source),
        (step s .outWriteForce).map fun t => (t.ins 0).map (·.standby))) =
      some (some (false, 1), some (some true)) := rfl
  obtain ⟨s, hs, hp⟩ := Option.map_eq_some_iff.mp hr
  obtain ⟨hi, ht⟩ := Prod.mk.inj hp
  obtain ⟨inp, hi, hx⟩ := Option.map_eq_some_iff.mp hi
  obtain ⟨hst, hsrc⟩ := Prod.mk.inj hx
  obtain ⟨t, ht, hi'⟩ := Option.map_eq_some_iff.mp ht
  obtain ⟨inp', hi', hst'⟩ := Option.map_eq_some_iff.mp hi'
  exact ⟨s, t, inp, Reach.of_exec hs, ht, ⟨0, inp', hi, hst, hi', hst'⟩, hsrc⟩

end P970.Audio
