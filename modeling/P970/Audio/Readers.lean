import P970.Audio.Keeping
import P970.Audio.Routing

/-!
# The read sides of the input streams

`Hal.readers` is what the read paths of each input stream depend on. Only
opening a stream, starting it and reading from it change that (`readers_step`).
-/

namespace P970.Audio

structure Reader (α : Type) where
  resampler : Bool
  requestedRate : Nat
  remixAtDriver : Option BufferRemix
  capture : Capture α

structure Readers (α : Type) where
  /-- `adev->input_requires_stereo`. -/
  stereo : Bool
  input : InId → Option (Reader α)

section
variable {α : Type}

def OmapStreamIn.reader (inp : OmapStreamIn α) : Reader α :=
  ⟨inp.resampler, inp.requestedRate, inp.remixAtDriver, inp.capture⟩

def Hal.readers (s : Hal α) : Readers α := ⟨s.inputRequiresStereo, fun i => (s.ins i).map (·.reader)⟩

/-- A start that succeeded. -/
def Reader.restart (r : Reader α) : Reader α := { r with capture := r.capture.restart r.resampler }

def Readers.setInput (i : InId) (r : Option (Reader α)) (v : Readers α) : Readers α :=
  { v with input := Function.update v.input i r }

variable (s : Hal α)

/-! ## The functions below the entry points -/

theorem readers_modIn (i : InId) (f : OmapStreamIn α → OmapStreamIn α) : (s.modIn i f).readers =
    s.readers.setInput i ((s.ins i).map fun inp => (f inp).reader) :=
  congrArg (fun x => { s.readers with input := x }) (s.map_modIn (·.reader) i f)

/-- Changing other fields of a stream. -/
theorem readers_modIn_same (i : InId) {f : OmapStreamIn α → OmapStreamIn α}
    (hf : ∀ inp, s.ins i = some inp → (f inp).reader = inp.reader) :
    (s.modIn i f).readers = s.readers := by
  rw [readers_modIn, Option.map_congr hf]
  exact congrArg (fun x => { s.readers with input := x }) (Function.update_eq_self i s.readers.input)

omit s in
theorem keeping_readers : Keeping fun s t : Hal α => t.readers = s.readers where
  trans h h' := h'.trans h
  other h := by
    simp only [Hal.holdings, Prod.mk.injEq] at h
    simp only [Hal.readers, h.1, h.2.2.1]
  out _ _ _ _ := rfl
  inp s i f hf := by
    refine readers_modIn_same s i fun inp hi => ?_
    have h := hf inp hi
    simp only [OmapStreamIn.lasting, Prod.mk.injEq] at h
    simp only [OmapStreamIn.reader, h]
  release s e := by
    unfold Hal.releaseEchoReference
    split <;> rfl
  create _ := rfl

/-- A start that fails leaves the read side alone, when nothing is remixed. -/
theorem readers_startInputStream (hs : s.readers.stereo = false) {i : InId} {inp : OmapStreamIn α}
    (hi : s.ins i = some inp) (ready created : Bool) :
    (startInputStream i ready created s).2.readers =
      if ready then s.readers.setInput i (some inp.reader.restart) else s.readers := by
  have hu : (referenceInput i created inp (remixInput i inp (claimInput i inp.device s))).readers =
      s.readers := by
    have hc : (claimInput i inp.device s).readers = s.readers :=
      keeping_readers.other (holdings_claimInput s i inp.device)
    have hst : (claimInput i inp.device s).inputRequiresStereo = false :=
      (congrArg Readers.stereo hc).trans hs
    rw [remixInput, hst, Bool.false_and, if_neg Bool.false_ne_true]
    exact (keeping_readers.referenceInput _ i created inp).trans hc
  rw [startInputStream, hi]
  simp only
  generalize referenceInput i created inp _ = u at hu ⊢
  obtain ⟨channels, -, heq⟩ := openInputPcm_eq i ready u
  rw [heq]
  have ht : (u.pcmOpen.modIn i fun inp =>
      { inp with pcm := some u.newPcm, channels := channels inp }).readers = s.readers := by
    refine (readers_modIn_same _ i ?_).trans hu
    exact fun _ _ => rfl
  cases ready with
  | false =>
    simp only [Bool.false_eq_true, if_false]
    generalize u.pcmOpen.modIn i _ = t at ht ⊢
    exact (keeping_readers.other (holdings_pcmClose t _)).trans ht
  | true =>
    simp only [if_true]
    generalize u.pcmOpen.modIn i _ = t at ht ⊢
    have hin : (t.ins i).map (·.reader) = some inp.reader := by
      rw [show (t.ins i).map (·.reader) = s.readers.input i from congrArg (fun v => v.input i) ht]
      show (s.ins i).map _ = _
      rw [hi]
      rfl
    obtain ⟨inp', hinp', hr⟩ := Option.map_eq_some_iff.mp hin
    rw [readers_modIn, hinp', ht, ← hr]
    rfl

/-! ## The entry points -/

theorem readers_adevOpenOutputStream (o : OutId) (devices : Devices) (alloc ok : Bool) :
    (adevOpenOutputStream o devices alloc ok s).2.readers = s.readers :=
  adevOpenOutputStream_frame Hal.readers (fun _ _ => rfl) o devices alloc ok s

theorem readers_outStandby (o : OutId) : (outStandby o s).readers = s.readers :=
  keeping_readers.outStandby s o

theorem readers_inStandby (i : InId) : (inStandby i s).readers = s.readers :=
  keeping_readers.inStandby s i

theorem readers_outWriteData (o : OutId) (ok : Bool) : (outWriteData o ok s).readers = s.readers :=
  keeping_readers.outWriteData s (fun _ _ _ => rfl) o ok

theorem readers_openDevice (m : Mixer) :
    (openDevice m : Hal α).readers = ⟨false, fun _ => none⟩ :=
  congrArg (fun v : Readers α => { v with stereo := false }) (keeping_readers.other (holdings_selectOutputDevice _))

theorem readers_setIn (i : InId) (x : Option (OmapStreamIn α)) :
    ({ s with ins := Function.update s.ins i x } : Hal α).readers =
      s.readers.setInput i (x.map (·.reader)) :=
  congrArg (fun f => ({ s.readers with input := f } : Readers α)) (Hal.map_update _ s.ins i x)

theorem readers_freeInput (i : InId) : (freeInput i s).readers = s.readers.setInput i none :=
  readers_setIn s i none

theorem readers_adevOpenInputStream (i : InId) (devices : Devices) (config : AudioConfig)
    (env : OpenEnv α) : (adevOpenInputStream i devices config env s).2.readers = s.readers ∨
    (adevOpenInputStream i devices config env s).2.readers =
      s.readers.setInput i (some (newInput devices config env.mic).reader) := by
  rcases adevOpenInputStream_cases i devices config env s with ⟨-, h⟩ | h
  · exact .inl (by rw [h])
  · right
    rw [h]
    exact readers_setIn s i _

theorem readers_inRead (hs : s.readers.stereo = false) (i : InId) (ready created : Bool) :
    (inRead i ready created s).2.readers = s.readers ∨
    ∃ r, s.readers.input i = some r ∧
      (inRead i ready created s).2.readers = s.readers.setInput i (some r.restart) := by
  have hb : ∀ t : Hal α, t.readers = s.readers → (beginRead i ready created t).2.readers = s.readers ∨
      ∃ r, s.readers.input i = some r ∧
        (beginRead i ready created t).2.readers = s.readers.setInput i (some r.restart) := by
    intro t ht
    unfold beginRead
    split
    · exact .inl ht
    · next inp hi =>
      have hin : s.readers.input i = some inp.reader := by
        rw [← ht]
        show (t.ins i).map _ = _
        rw [hi]
        rfl
      have hst := readers_startInputStream t (by rwa [ht]) hi ready created
      split
      · simp only [startInputStream_fst t ready created hi]
        cases ready with
        | false => exact .inl (hst.trans ht)
        | true =>
          right
          refine ⟨_, hin, ?_⟩
          simp only [if_true] at hst ⊢
          rw [← ht, ← hst]
          refine readers_modIn_same _ i ?_
          exact fun _ _ => rfl
      · exact .inl ht
  unfold inRead
  simp only
  split
  · exact hb (s.lockBoth (.inp i)) rfl
  · exact hb (s.lockBoth (.inp i)) rfl

end

section
variable {α : Type} [Zero α] (s : Hal α)

theorem readers_inReadData (i : InId) (frames : Nat) (dst : List α) (script : ReadScript α) :
    (inReadData i frames dst script s).2.2.readers = s.readers ∨
    ∃ inp, s.ins i = some inp ∧ (inReadData i frames dst script s).2.2.readers =
      s.readers.setInput i (some { inp.reader with
        capture := (readPaths inp s.micMute frames script dst).capture }) := by
  unfold inReadData
  cases hi : s.ins i with
  | none => exact .inl rfl
  | some inp =>
    right
    refine ⟨inp, rfl, ?_⟩
    have hu := holdings_useInput s i inp inp.capture.track
      (readPaths inp s.micMute frames script dst).capture.track
    have h1 : (useInput i inp inp.capture.track
        (readPaths inp s.micMute frames script dst).capture.track s).ins = s.ins :=
      congrArg (fun x => x.2.2.1) hu
    have h2 := keeping_readers.other hu
    have hm : ∀ c : Capture α, ((useInput i inp inp.capture.track
        (readPaths inp s.micMute frames script dst).capture.track s).modIn i fun inp =>
          { inp with capture := c }).readers = s.readers.setInput i (some { inp.reader with
            capture := c }) := by
      intro c
      rw [readers_modIn, h1, h2, hi]
      rfl
    simp only
    split
    · exact hm _
    · exact hm _

/-- What an event does to the read sides: it opens, closes, starts or reads a stream, or leaves
them alone. -/
inductive Readers.Changed (s : Hal α) (e : Event α) (v : Readers α) : Prop where
  | same (h : v = s.readers)
  | closed (i : InId) (h : v = s.readers.setInput i none)
  | opened (i : InId) (devices : Devices) (config : AudioConfig) (mic : Nat → α)
      (h : v = s.readers.setInput i (some (newInput devices config mic).reader))
  | started (i : InId) (r : Reader α) (hr : s.readers.input i = some r)
      (h : v = s.readers.setInput i (some r.restart))
  | read (i : InId) (frames : Nat) (dst : List α) (script : ReadScript α) (inp : OmapStreamIn α)
      (he : e = .inReadData i frames dst script) (hi : s.ins i = some inp)
      (h : v = s.readers.setInput i (some { inp.reader with
        capture := (readPaths inp s.micMute frames script dst).capture }))

theorem readers_act (e : Event α) (hs : s.readers.stereo = false) :
    Readers.Changed s e (act e s).readers := by
  cases e with
  | openOutputStream o d a r => exact .same (readers_adevOpenOutputStream s o d a r)
  | closeOutputStream o => exact .same (readers_outStandby s o)
  | openInputStream i d c env =>
    rcases readers_adevOpenInputStream s i d c env with h | h
    · exact .same h
    · exact .opened i d c env.mic h
  | closeInputStream i => exact .closed i ((readers_freeInput _ i).trans (by rw [readers_inStandby]))
  | outWriteData o force ok => exact .same (readers_outWriteData s o ok)
  | inRead i n ready created =>
    have hr : (act (.inRead i n ready created) s).readers = (inRead i ready created s).2.readers := by
      simp only [act]
      split <;> rfl
    rcases readers_inRead s hs i ready created with h | ⟨r, hi, h⟩
    · exact .same (hr.trans h)
    · exact .started i r hi (hr.trans h)
  | inReadData i n dst script =>
    rcases readers_inReadData s i n dst script with h | ⟨inp, hi, h⟩
    · exact .same h
    · exact .read i n dst script inp rfl hi h
  | _ => exact .same (keeping_readers.act s rfl)

theorem readers_step {e : Event α} {t : Hal α} (hs : s.readers.stereo = false)
    (ht : step s e = some t) : Readers.Changed s e t.readers := by
  obtain ⟨-, -, rfl⟩ := step_some ht
  have h : Readers.Changed s.clearTrace e (act e s.clearTrace).readers := readers_act _ e hs
  cases h with
  | same h => exact .same h
  | closed i h => exact .closed i h
  | opened i d c m h => exact .opened i d c m h
  | started i r hr h => exact .started i r hr h
  | read i n dst script inp he hi h => exact .read i n dst script inp he hi h

end

end P970.Audio
