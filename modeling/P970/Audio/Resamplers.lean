import P970.Audio.Readers

/-!
# The resamplers of the streams

`Hal.resamplers` says of each output stream whether it is open and has a
resampler. Opening and closing a stream changes that, and an `out_write` at
another rate (`resamplers_step`). An input stream has one from its open to its
close, or none (`inResamplers_step`).
-/

namespace P970.Audio

section
variable {α : Type} (s : Hal α)

def Hal.resamplers (s : Hal α) : OutId → Option Bool := fun o => (s.outs o).map (·.resampler)

theorem resamplers_modOut (o : OutId) (f : OmapStreamOut → OmapStreamOut) :
    (s.modOut o f).resamplers =
      Function.update s.resamplers o ((s.outs o).map fun out => (f out).resampler) :=
  s.map_modOut (·.resampler) o f

/-- Changing other fields of a stream. -/
theorem resamplers_modOut_same (o : OutId) {f : OmapStreamOut → OmapStreamOut}
    (hf : ∀ out, (f out).resampler = out.resampler) :
    (s.modOut o f).resamplers = s.resamplers := by
  rw [resamplers_modOut, funext hf]
  exact Function.update_eq_self o s.resamplers

/-! ## The functions below the entry points -/

omit s in
theorem keeping_resamplers : Keeping fun s t : Hal α => t.resamplers = s.resamplers where
  trans h h' := h'.trans h
  other h := congrArg (fun x o => (x.2.1 o).map (·.resampler)) h
  out s o _ hf := resamplers_modOut_same s o hf
  inp _ _ _ _ := rfl
  release s e := by
    unfold Hal.releaseEchoReference
    split <;> rfl
  create _ := rfl

/-- An `out_write` makes a resampler when it needs one, has none and gets one. -/
theorem resamplers_outWriteData (o : OutId) (ok : Bool) : (outWriteData o ok s).resamplers =
    match s.outs o with
    | some out =>
      if out.rate ≠ defaultOutSamplingRate ∧ out.resampler = false ∧ ok = true then
        Function.update s.resamplers o (some true)
      else s.resamplers
    | none => s.resamplers := by
  have hu : ∀ (out : OmapStreamOut) (t : Hal α), (useOutput out t).resamplers = t.resamplers :=
    fun out t => keeping_resamplers.other (holdings_useOutput t out)
  show (writeData o ok s).resamplers = _
  unfold writeData
  split
  · next h => rw [h]; rfl
  · next out h =>
    rw [h]
    simp only
    by_cases hr : out.rate ≠ defaultOutSamplingRate ∧ out.resampler = false
    · rw [if_pos hr]
      cases ok with
      | true =>
        rw [if_pos rfl, if_pos ⟨hr.1, hr.2, rfl⟩, hu, resamplers_modOut, h]
        rfl
      | false => rw [if_neg (by decide), if_neg (by simp)]
    · rw [if_neg hr, if_neg fun h => hr ⟨h.1, h.2.1⟩, hu]

end

section
variable {α : Type} [Zero α] (s : Hal α)

/-- The resamplers after an event. -/
def resamplersAfter (s : Hal α) : Event α → OutId → Option Bool
  | .openOutputStream o devices alloc ok =>
    if alloc && (ok || !anyOf devices audioDeviceOutAllSco) then
      Function.update s.resamplers o (some (anyOf devices audioDeviceOutAllSco))
    else s.resamplers
  | .closeOutputStream o => Function.update s.resamplers o none
  | .outWriteData o _ ok =>
    match s.outs o with
    | some out =>
      if out.rate ≠ defaultOutSamplingRate ∧ out.resampler = false ∧ ok = true then
        Function.update s.resamplers o (some true)
      else s.resamplers
    | none => s.resamplers
  | _ => s.resamplers

omit [Zero α] in
theorem resamplers_adevOpenOutputStream (o : OutId) (devices : Devices) (alloc ok : Bool) :
    (adevOpenOutputStream o devices alloc ok s).2.resamplers =
      if alloc && (ok || !anyOf devices audioDeviceOutAllSco) then
        Function.update s.resamplers o (some (anyOf devices audioDeviceOutAllSco))
      else s.resamplers := by
  unfold adevOpenOutputStream
  split
  · next h => simp [h]
  · next ha =>
    split
    · next h =>
      rw [if_neg]
      revert h
      cases anyOf devices audioDeviceOutAllSco <;> cases ok <;> simp
    · next h =>
      have hs : (alloc && (ok || !anyOf devices audioDeviceOutAllSco)) = true := by
        revert ha h
        cases anyOf devices audioDeviceOutAllSco <;> cases ok <;> cases alloc <;> simp
      rw [if_pos hs]
      exact Hal.map_update _ s.outs o _

theorem resamplers_act (e : Event α) : (act e s).resamplers = resamplersAfter s e := by
  cases e with
  | openOutputStream o d a r => exact resamplers_adevOpenOutputStream s o d a r
  | closeOutputStream o =>
    have h : ∀ t : Hal α, (freeOutput o t).resamplers = Function.update t.resamplers o none :=
      fun t => Hal.map_update _ t.outs o none
    show (freeOutput o (outStandby o s)).resamplers = _
    rw [h]
    exact congrArg (Function.update · o none) (keeping_resamplers.outStandby s o)
  | openInputStream i d c env =>
    show (adevOpenInputStream i d c env s).2.resamplers = _
    rcases adevOpenInputStream_cases i d c env s with ⟨-, h⟩ | h <;> rw [h] <;> rfl
  | closeInputStream i => exact keeping_resamplers.inStandby s i
  | outWriteData o force ok => exact resamplers_outWriteData s o ok
  | inRead i n ready created =>
    refine Eq.trans ?_ (keeping_resamplers.inRead s (fun _ _ _ => rfl) i ready created)
    simp only [act]
    split <;> rfl
  | inReadData i n dst script =>
    exact keeping_resamplers.inReadData s (fun _ _ _ => rfl) i n dst script
  | _ => exact keeping_resamplers.act s rfl

theorem resamplers_step {e : Event α} {t : Hal α} (ht : step s e = some t) :
    t.resamplers = resamplersAfter s e := by
  obtain ⟨-, -, rfl⟩ := step_some ht
  show (act e s.clearTrace).resamplers = _
  rw [resamplers_act]
  cases e <;> rfl

/-! ## Input streams -/

omit [Zero α] in
def Readers.resamplers (v : Readers α) : InId → Option Bool := fun i => (v.input i).map (·.resampler)

omit [Zero α] in
theorem Readers.resamplers_setInput (v : Readers α) (i : InId) (r : Option (Reader α)) :
    (v.setInput i r).resamplers = Function.update v.resamplers i (r.map (·.resampler)) :=
  Hal.map_update _ v.input i r

omit [Zero α] in
/-- Changing a reader, but for its resampler. -/
theorem Readers.resamplers_setInput_same (v : Readers α) {i : InId} {r r' : Reader α}
    (hr : v.input i = some r) (h : r'.resampler = r.resampler) :
    (v.setInput i (some r')).resamplers = v.resamplers := by
  rw [Readers.resamplers_setInput, Option.map_some, h]
  refine Function.update_eq_self_iff.mpr ?_
  show _ = (v.input i).map _
  rw [hr]
  rfl

omit [Zero α] in
/-- `adev_open_input_stream` succeeds. -/
def openInputOk (config : AudioConfig) (env : OpenEnv α) : Bool :=
  checkInputParameters config.sampleRate config.format (popcount config.channelMask) = 0 &&
    env.alloc && env.bufferAlloc &&
    (decide (config.sampleRate.toNat = mmFullPowerSamplingRate) || env.resamplerOk)

/-- The resamplers of the input streams after an event. -/
def inResamplersAfter (s : Hal α) : Event α → InId → Option Bool
  | .openInputStream i _ config env =>
    if openInputOk config env then
      Function.update s.readers.resamplers i
        (some (decide (config.sampleRate.toNat ≠ mmFullPowerSamplingRate)))
    else s.readers.resamplers
  | .closeInputStream i => Function.update s.readers.resamplers i none
  | _ => s.readers.resamplers

omit [Zero α] in
theorem resamplers_adevOpenInputStream (i : InId) (devices : Devices) (config : AudioConfig)
    (env : OpenEnv α) : (adevOpenInputStream i devices config env s).2.readers.resamplers =
      if openInputOk config env then
        Function.update s.readers.resamplers i
          (some (decide (config.sampleRate.toNat ≠ mmFullPowerSamplingRate)))
      else s.readers.resamplers := by
  have hset : ∀ inp : OmapStreamIn α,
      ({ s with ins := Function.update s.ins i (some inp) } : Hal α).readers.resamplers =
        Function.update s.readers.resamplers i (some inp.resampler) := by
    intro inp
    rw [readers_setIn, Readers.resamplers_setInput]
    rfl
  unfold adevOpenInputStream openInputOk
  split
  · next h => rw [if_neg (by simp [h])]
  · next hc =>
    split
    · next h => rw [if_neg (by simp [h])]
    · next ha =>
      split
      · next h => rw [if_neg (by simp [h])]
      · next hb =>
        split
        · next h => rw [if_neg (by simp [h.1, h.2])]
        · next hr =>
          rw [Bool.not_eq_false] at ha hb
          have hr' : (decide (config.sampleRate.toNat = mmFullPowerSamplingRate) ||
              env.resamplerOk) = true := by
            by_cases h : config.sampleRate.toNat = mmFullPowerSamplingRate
            · simp [h]
            · simpa [h] using hr
          rw [if_pos (by simp only [hr', ha, hb, not_not.mp hc, decide_true, Bool.and_self])]
          exact hset (newInput devices config env.mic)

omit [Zero α] in
theorem inResamplers_inRead (hs : s.readers.stereo = false) (i : InId) (ready created : Bool) :
    (inRead i ready created s).2.readers.resamplers = s.readers.resamplers := by
  rcases readers_inRead s hs i ready created with h | ⟨r, hr, h⟩
  · rw [h]
  · rw [h]
    exact s.readers.resamplers_setInput_same hr rfl

theorem inResamplers_act (e : Event α) (hs : s.readers.stereo = false) :
    (act e s).readers.resamplers = inResamplersAfter s e := by
  have hsame : (act e s).readers = s.readers →
      (act e s).readers.resamplers = s.readers.resamplers := congrArg Readers.resamplers
  cases e with
  | openInputStream i d c env => exact resamplers_adevOpenInputStream s i d c env
  | closeInputStream i =>
    have h := readers_freeInput (inStandby i s) i
    rw [readers_inStandby] at h
    exact (congrArg Readers.resamplers h).trans (Readers.resamplers_setInput ..)
  | inRead i n ready created =>
    refine Eq.trans ?_ (inResamplers_inRead s hs i ready created)
    simp only [act]
    split <;> rfl
  | inReadData i n dst script =>
    rcases readers_inReadData s i n dst script with h | ⟨inp, hi, h⟩
    · exact hsame h
    · refine (congrArg Readers.resamplers h).trans
        (Readers.resamplers_setInput_same (r := inp.reader) _ ?_ rfl)
      show (s.ins i).map _ = _
      rw [hi]
      rfl
  | openOutputStream o d a r => exact hsame (readers_adevOpenOutputStream s o d a r)
  | closeOutputStream o => exact hsame (readers_outStandby s o)
  | outWriteData o force ok => exact hsame (readers_outWriteData s o ok)
  | _ => exact hsame (keeping_readers.act s rfl)

theorem inResamplers_step {e : Event α} {t : Hal α} (hs : s.readers.stereo = false)
    (ht : step s e = some t) : t.readers.resamplers = inResamplersAfter s e := by
  obtain ⟨-, -, rfl⟩ := step_some ht
  show (act e s.clearTrace).readers.resamplers = _
  rw [inResamplers_act _ e (show s.clearTrace.readers.stereo = false from hs)]
  cases e <;> rfl

/-- `adev->input_requires_stereo` is never set. -/
theorem stereo_run {ok : Hal α → Event α → Prop} {name : String} {alloc : Bool}
    {mixer : Option Mixer} {s₀ s : Hal α} (h0 : adevOpen name alloc mixer = .ok s₀)
    (h : Run step ok s₀ s) : s.readers.stereo = false := by
  obtain ⟨m, -, rfl⟩ := adevOpen_ok h0
  refine h.invariant (I := fun s => s.readers.stereo = false) ?_ fun s e t hI _ hs => ?_
  · rw [readers_openDevice]
  · rcases readers_step s hI hs with h | ⟨_, h⟩ | ⟨_, _, _, _, h⟩ | ⟨_, _, _, h⟩ |
      ⟨_, _, _, _, _, _, _, h⟩ <;> rw [h] <;> exact hI

end

end P970.Audio
