import P970.Lib.Cells
import P970.Audio.Resamplers

/-!
# What the HAL allocates

The heap objects and handles the HAL obtains, but for pcm handles and echo
references, and the pointers it keeps them in (`Heap`). `Heap.act` is what an
event does to them, following the same branches of the source as `act`; the two
go side by side in `Held.step`. While no call of the three kinds that leak is
made, the pointers are null as the state of the HAL says (`sound_run`), and
nothing is leaked or given back twice (`heap_owned`).

A `realloc` and `str_parms_create_str` succeed, as the code takes for granted.
-/

namespace P970.Audio

inductive OutCell where
  | stream
  | buffer
  | resampler
  deriving DecidableEq, Repr

inductive InCell where
  | stream
  | buffer
  | resampler
  | procBuf
  | refBuf
  | remixAtDriver
  deriving DecidableEq, Repr

/-- The pointers: the local variables `parms` and `br`, each stream itself, and its fields. -/
inductive Cell where
  | parms
  | br
  | out (o : OutId) (f : OutCell)
  | inp (i : InId) (f : InCell)
  deriving DecidableEq, Repr

abbrev Heap := Cells Cell

/-- A field of output stream `o`, or the stream. -/
def Cell.ofOut (o : OutId) : Cell → Bool
  | .out o' _ => o' = o
  | _ => false

def Cell.ofIn (i : InId) : Cell → Bool
  | .inp i' _ => i' = i
  | _ => false

/-- The pointer to the stream the pointer is a field of. -/
def Cell.stream : Cell → Option Cell
  | .parms | .br => none
  | .out o _ => some (.out o .stream)
  | .inp i _ => some (.inp i .stream)

namespace Heap

/-! ## The functions -/

section
variable {α : Type}

def strParmsCreateStr (h : Heap) : Heap := h.malloc .parms true

/-- A function that made a `parms` returns. -/
def dropParms (h : Heap) : Heap := h.forget (· = .parms)

def strParmsDestroy (h : Heap) : Heap := h.free .parms

/-- `create_resampler` for an output stream, which succeeds, and its buffer. -/
def outResampler (o : OutId) (bufferOk : Bool) (h : Heap) : Heap :=
  (h.malloc (.out o .resampler) true).malloc (.out o .buffer) bufferOk

def adevOpenOutputStream (o : OutId) (devices : Devices) (alloc resamplerOk bufferOk : Bool)
    (h : Heap) : Heap :=
  if alloc = false then h
  else
    let h := h.malloc (.out o .stream) true
    if anyOf devices audioDeviceOutAllSco then
      if resamplerOk then outResampler o bufferOk h
      else (h.freeAll [.out o .stream]).forget (Cell.ofOut o)
    else h

def adevCloseOutputStream (o : OutId) (h : Heap) : Heap :=
  (h.freeAll [.out o .buffer, .out o .resampler, .out o .stream]).forget (Cell.ofOut o)

/-- The resampler of `out_write`, `out` being the stream. -/
def outWriteData (o : OutId) (out : OmapStreamOut) (resamplerOk bufferOk : Bool) (h : Heap) :
    Heap :=
  if out.rate ≠ defaultOutSamplingRate ∧ h.ptr (.out o .resampler) = none then
    if resamplerOk then outResampler o bufferOk h else h
  else h

def adevOpenInputStream (i : InId) (config : AudioConfig) (env : OpenEnv α) (h : Heap) : Heap :=
  if checkInputParameters config.sampleRate config.format (popcount config.channelMask) ≠ 0 then h
  else if env.alloc = false then h
  else
    let h := (h.malloc (.inp i .stream) true).malloc (.inp i .buffer) env.bufferAlloc
    let err (h : Heap) := (h.freeAll [.inp i .resampler, .inp i .stream]).forget (Cell.ofIn i)
    if env.bufferAlloc = false then err h
    else if config.sampleRate.toNat ≠ mmFullPowerSamplingRate then
      if env.resamplerOk then h.malloc (.inp i .resampler) true else err h
    else h

def adevCloseInputStream (i : InId) (h : Heap) : Heap :=
  let h := if h.ptr (.inp i .resampler) = none then h
    else h.freeAll [.inp i .buffer, .inp i .resampler]
  (h.freeAll [.inp i .remixAtDriver, .inp i .stream]).forget (Cell.ofIn i)

def setupStereoToMonoInputRemix (i : InId) (bufferOk : Bool) (h : Heap) : Heap :=
  let h := h.malloc .br true
  let h := if h.ptr (.inp i .buffer) = none then h
    else (h.free (.inp i .buffer)).malloc (.inp i .buffer) bufferOk
  (h.free (.inp i .remixAtDriver)).move .br (.inp i .remixAtDriver)

/-- The remix of `start_input_stream`, for a stream with the fields of `inp`. -/
def inRead (i : InId) (inp : OmapStreamIn α) (stereo bufferOk : Bool) (h : Heap) : Heap :=
  if inp.standby && (stereo && inp.channels = 1) then setupStereoToMonoInputRemix i bufferOk h
  else h

section
variable [Zero α]

/-- The reallocations of a pass of `process_frames`. -/
def processPass (i : InId) (pcm : Option Nat) (resampler echo : Bool) (frames : Nat)
    (p : ProcessPass α) (c : Capture α) (h : Heap) : Heap :=
  let h := if c.procFramesIn < frames ∧ c.procBufSize < frames then h.realloc (.inp i .procBuf)
    else h
  match reload pcm resampler frames p c with
  | (some ret, c) =>
    if ret < 0 then h
    else if echo ∧ c.refFramesIn < c.procFramesIn ∧ c.refBufSize < c.procFramesIn then
      h.realloc (.inp i .refBuf)
    else h
  | (none, _) => h

/-- The reallocations of `process_frames`. -/
def processFrames (i : InId) (pcm : Option Nat) (resampler echo : Bool)
    (numPreprocessors frames : Nat) : List (ProcessPass α) → Nat → List α → Capture α → Heap → Heap
  | [], _, _, _, h => h
  | p :: passes, framesWr, dst, c, h =>
    if frames ≤ framesWr then h
    else
      let h := processPass i pcm resampler echo frames p c h
      match Audio.processPass pcm resampler echo numPreprocessors frames framesWr p dst c with
      | (.next framesWr, dst, c) =>
        processFrames i pcm resampler echo numPreprocessors frames passes framesWr dst c h
      | _ => h

def inReadData (i : InId) (inp : OmapStreamIn α) (frames : Nat) (dst : List α)
    (script : ReadScript α) (h : Heap) : Heap :=
  if inp.numPreprocessors ≠ 0 then
    processFrames i inp.pcm inp.resampler inp.echoReference.isSome inp.numPreprocessors frames
      script.process 0 dst inp.capture h
  else h

end

/-- `out_set_parameters` and `in_set_parameters`. -/
def setParameters (h : Heap) : Heap := dropParms (strParmsDestroy (strParmsCreateStr h))

/-- The value of `tty_mode`, if there is one, names a TTY mode. -/
def ttyKnown (kvpairs : KvPairs) : Bool :=
  match strParmsGetStr kvpairs audioParameterKeyTtyMode with
  | some (_, value) => (ttyModeOf value).isSome
  | none => true

/-- With an unknown TTY mode the code returns at once. -/
def adevSetParameters (kvpairs : KvPairs) (h : Heap) : Heap :=
  if ttyKnown kvpairs then setParameters h else dropParms (strParmsCreateStr h)

variable [Zero α]

/-- What an event does to the heap, in the state it starts from; `bufferOk` is the outcome of the
one `malloc` of a buffer that no event has an outcome of. -/
def act (e : Event α) (bufferOk : Bool) (s : Hal α) (h : Heap) : Heap :=
  match e with
  | .openOutputStream o devices alloc ok => adevOpenOutputStream o devices alloc ok bufferOk h
  | .closeOutputStream o => adevCloseOutputStream o h
  | .openInputStream i _ config env => adevOpenInputStream i config env h
  | .closeInputStream i => adevCloseInputStream i h
  | .outWriteData o _ ok =>
    match s.outs o with
    | some out => outWriteData o out ok bufferOk h
    | none => h
  | .inRead i .. =>
    match s.ins i with
    | some inp => inRead i inp s.inputRequiresStereo bufferOk h
    | none => h
  | .inReadData i frames dst script =>
    match s.ins i with
    | some inp => inReadData i inp frames dst script h
    | none => h
  | .outSetParameters .. | .inSetParameters .. => setParameters h
  | .setParameters kvpairs => adevSetParameters kvpairs h
  | .outWrite .. | .outWriteForce | .outStandby _ | .inStandby _ | .inAddAudioEffect ..
  | .inRemoveAudioEffect .. | .setMode _ | .setVoiceVolume _ | .setMicMute _ => h

end

end Heap

/-- The HAL and what it holds. -/
structure Held (α : Type) where
  hal : Hal α
  heap : Heap

def Held.step {α : Type} [Zero α] (x : Held α) (e : Event α × Bool) : Option (Held α) :=
  (Audio.step x.hal e.1).map fun t => ⟨t, Heap.act e.1 e.2 x.hal x.heap⟩

/-! ## No pointer is lost -/

/-- The pointers and the live objects match, a pointer that is not null is a field of a stream there
is, and an output stream has a buffer only with a resampler. -/
structure Heap.Sound (h : Heap) : Prop where
  owns : h.Owns ∅
  field : ∀ {c n}, h.ptr c = some n → ∃ d, c.stream = some d ∧ h.ptr d ≠ none
  paired : ∀ {o}, h.ptr (.out o .resampler) = none → h.ptr (.out o .buffer) = none

namespace Heap

section
variable {h h' : Heap} {c d : Cell} {o : OutId} {i : InId}

theorem sound_empty : Sound Cells.empty where
  owns := Cells.owns_empty
  field hc := by cases hc
  paired _ := rfl

theorem Sound.of_ptr (hs : h.Sound) (ho : h'.Owns ∅) (hp : h'.ptr = h.ptr) : h'.Sound where
  owns := ho
  field := by rw [hp]; exact hs.field
  paired := by rw [hp]; exact hs.paired

/-- The fields of a stream that is not there are null. -/
theorem Sound.null (hs : h.Sound) (hd : ∀ d, c.stream = some d → h.ptr d = none) :
    h.ptr c = none := by
  cases hc : h.ptr c with
  | none => rfl
  | some n =>
    obtain ⟨d, hcd, hn⟩ := hs.field hc
    exact absurd (hd d hcd) hn

theorem Sound.null_parms (hs : h.Sound) : h.ptr .parms = none := hs.null fun d hd => by cases hd

theorem Sound.null_br (hs : h.Sound) : h.ptr .br = none := hs.null fun d hd => by cases hd

theorem Sound.null_out (hs : h.Sound) (ho : h.ptr (.out o .stream) = none) (f : OutCell) :
    h.ptr (.out o f) = none :=
  hs.null fun d hd => by cases hd; exact ho

theorem Sound.null_inp (hs : h.Sound) (hi : h.ptr (.inp i .stream) = none) (f : InCell) :
    h.ptr (.inp i f) = none :=
  hs.null fun d hd => by cases hd; exact hi

theorem ptr_malloc_false (hc : h.ptr c = none) : (h.malloc c false).ptr = h.ptr := by
  funext d
  rw [Cells.ptr_malloc]
  split
  · next hd => rw [hd, hc]; rfl
  · rfl

/-- A stream or a field of a stream is allocated. -/
theorem Sound.malloc (hs : h.Sound) (hc : h.ptr c = none) (hd : c.stream = some d)
    (hd' : d = c ∨ h.ptr d ≠ none)
    (hb : ∀ o, c = .out o .buffer → h.ptr (.out o .resampler) ≠ none) (ok : Bool) :
    Sound (Cells.malloc c ok h) := by
  cases ok with
  | false => exact hs.of_ptr (hs.owns.malloc_new hc false) (ptr_malloc_false hc)
  | true =>
    have hp : ∀ e, (Cells.malloc c true h).ptr e =
        if e = c then some h.ledger.next else h.ptr e := Cells.ptr_malloc true
    refine ⟨hs.owns.malloc_new hc true, fun {e n} he => ?_, fun {o} hr => ?_⟩
    · have hne : ∀ {x}, x = c ∨ h.ptr x ≠ none → (Cells.malloc c true h).ptr x ≠ none := by
        intro x hx
        rw [hp]
        split
        · simp
        · next hxc => exact hx.resolve_left hxc
      rw [hp] at he
      split at he
      · next hec => exact ⟨d, hec ▸ hd, hne hd'⟩
      · obtain ⟨x, hex, hx⟩ := hs.field he
        exact ⟨x, hex, hne (.inr hx)⟩
    · rw [hp] at hr
      split at hr
      · cases hr
      · rw [hp]
        split
        · next hbc => exact absurd hr (hb o hbc.symm)
        · exact hs.paired hr

/-- A field of a stream is allocated again. -/
theorem Sound.realloc (hs : h.Sound) (hd : c.stream = some d) (hd' : h.ptr d ≠ none)
    (hb : ∀ o, c ≠ .out o .buffer) : Sound (Cells.realloc c h) := by
  have hne : ∀ {x}, h.ptr x ≠ none → (Cells.realloc c h).ptr x ≠ none := by
    intro x hx
    rw [Cells.ptr_realloc]
    split
    · simp
    · exact hx
  refine ⟨hs.owns.realloc fun hc => hc, fun {e n} he => ?_, fun {o} hr => ?_⟩
  · rw [Cells.ptr_realloc] at he
    split at he
    · next hec => exact ⟨d, hec ▸ hd, hne hd'⟩
    · obtain ⟨x, hex, hx⟩ := hs.field he
      exact ⟨x, hex, hne hx⟩
  · rw [Cells.ptr_realloc] at hr
    split at hr
    · cases hr
    · rw [Cells.ptr_realloc, if_neg fun hbc => hb o hbc.symm]
      exact hs.paired hr

/-- A stream is freed, with what its fields point to. -/
theorem Sound.destroy (hs : h.Sound) {l : List Cell} {ks : Cell → Bool} (hn : l.Nodup)
    (hl : ∀ k ∈ l, ks k = true) (hk : ∀ k, ks k = true → k ∈ l ∨ h.ptr k = none)
    (hks : ∀ {c d}, c.stream = some d → ks c = ks d) : Sound ((h.freeAll l).forget ks) := by
  have hp : ∀ c, ((h.freeAll l).forget ks).ptr c = if ks c then none else h.ptr c := by
    intro c
    rw [Cells.ptr_forget, Cells.ptr_freeAll]
  refine ⟨hs.owns.destroy hn hl hk, fun {c n} hc => ?_, fun {o} hr => ?_⟩
  · rw [hp] at hc
    split at hc
    · cases hc
    · next hkc =>
      obtain ⟨d, hcd, hd⟩ := hs.field hc
      refine ⟨d, hcd, ?_⟩
      rw [hp, if_neg (by rwa [← hks hcd])]
      exact hd
  · rw [hp] at hr ⊢
    have hob : ks (.out o .buffer) = ks (.out o .resampler) :=
      (hks (d := .out o .stream) rfl).trans (hks (c := .out o .resampler) rfl).symm
    rw [hob]
    split at hr
    · next hkr => rw [if_pos hkr]
    · next hkr => rw [if_neg hkr]; exact hs.paired hr

theorem stream_ofOut (hd : c.stream = some d) : c.ofOut o = d.ofOut o := by
  cases c <;> cases hd <;> rfl

theorem stream_ofIn (hd : c.stream = some d) : c.ofIn i = d.ofIn i := by
  cases c <;> cases hd <;> rfl

/-! ## The functions -/

theorem ptr_setParameters (hs : h.Sound) : (setParameters h).ptr = h.ptr := by
  funext c
  simp only [setParameters, dropParms, strParmsDestroy, strParmsCreateStr, Cells.ptr_forget,
    Cells.ptr_free, Cells.ptr_malloc, decide_eq_true_eq]
  split
  · next hc => rw [hc, hs.null_parms]
  · rfl

theorem Sound.setParameters (hs : h.Sound) : (setParameters h).Sound := by
  refine hs.of_ptr ?_ (ptr_setParameters hs)
  refine Cells.Owns.destroy (c := strParmsCreateStr h) (l := [.parms])
    (hs.owns.malloc_new hs.null_parms true) (by simp) (fun k hk => ?_) fun k hk => ?_
  · exact decide_eq_true (List.mem_singleton.mp hk)
  · exact .inl (List.mem_singleton.mpr (of_decide_eq_true hk))

theorem Sound.adevSetParameters (hs : h.Sound) {kvpairs : KvPairs} (hk : ttyKnown kvpairs) :
    (adevSetParameters kvpairs h).Sound := by
  rw [Heap.adevSetParameters, if_pos hk]
  exact hs.setParameters

theorem Sound.outResampler (hs : h.Sound) (ho : h.ptr (.out o .stream) ≠ none)
    (hr : h.ptr (.out o .resampler) = none) (bufferOk : Bool) :
    (outResampler o bufferOk h).Sound := by
  have h1 := hs.malloc hr rfl (.inr ho) (fun _ hb => by cases hb) true
  refine h1.malloc ?_ rfl (.inr ?_) (fun o' hb => ?_) bufferOk
  · rw [Cells.ptr_malloc, if_neg (by simp)]
    exact hs.paired hr
  · rw [Cells.ptr_malloc, if_neg (by simp)]
    exact ho
  · cases hb
    rw [Cells.ptr_malloc, if_pos rfl]
    simp

theorem Sound.adevOpenOutputStream (hs : h.Sound) (ho : h.ptr (.out o .stream) = none)
    (devices : Devices) (alloc resamplerOk bufferOk : Bool) :
    (adevOpenOutputStream o devices alloc resamplerOk bufferOk h).Sound := by
  have h1 := hs.malloc ho rfl (.inl rfl) (fun _ hb => by cases hb) true
  have hp : ∀ f, f ≠ .stream → (Cells.malloc (.out o .stream) true h).ptr (.out o f) = none := by
    intro f hf
    rw [Cells.ptr_malloc, if_neg (by simpa using hf)]
    exact hs.null_out ho f
  unfold Heap.adevOpenOutputStream
  split
  · exact hs
  · simp only
    split
    · split
      · refine h1.outResampler ?_ (hp _ (by simp)) bufferOk
        rw [Cells.ptr_malloc, if_pos rfl]
        simp
      · refine h1.destroy (by simp) (by simp [Cell.ofOut]) (fun k hk => ?_)
          fun hcd => stream_ofOut hcd
        cases k with
        | out o' f =>
          obtain rfl : o' = o := of_decide_eq_true hk
          by_cases hf : f = .stream
          · exact .inl (by simp [hf])
          · exact .inr (hp f hf)
        | parms | br | inp => cases hk
    · exact h1

theorem Sound.adevCloseOutputStream (hs : h.Sound) (o : OutId) :
    (adevCloseOutputStream o h).Sound := by
  refine hs.destroy (by simp) (by simp [Cell.ofOut]) (fun k hk => .inl ?_) fun hcd => stream_ofOut hcd
  cases k with
  | out o' f =>
    obtain rfl : o' = o := of_decide_eq_true hk
    cases f <;> simp
  | parms | br | inp => cases hk

theorem Sound.outWriteData (hs : h.Sound) (ho : h.ptr (.out o .stream) ≠ none) (out : OmapStreamOut)
    (resamplerOk bufferOk : Bool) : (outWriteData o out resamplerOk bufferOk h).Sound := by
  unfold Heap.outWriteData
  split
  · next hr =>
    split
    · exact hs.outResampler ho hr.2 bufferOk
    · exact hs
  · exact hs

/-- The two streams of `adev_open_input_stream` are freed with their fields. -/
theorem Sound.destroyIn (hs : h.Sound) {l : List Cell} (hn : l.Nodup)
    (hl : ∀ k ∈ l, Cell.ofIn i k = true)
    (hk : ∀ f, Cell.inp i f ∈ l ∨ h.ptr (.inp i f) = none) :
    Sound ((h.freeAll l).forget (Cell.ofIn i)) := by
  refine hs.destroy hn hl (fun k hki => ?_) fun hcd => stream_ofIn hcd
  cases k with
  | inp i' f =>
    obtain rfl : i' = i := of_decide_eq_true hki
    exact hk f
  | parms | br | out => cases hki

/-- `adev_open_input_stream` does not get as far as a `create_resampler` that fails. -/
def createOk {α : Type} (config : AudioConfig) (env : OpenEnv α) : Bool :=
  checkInputParameters config.sampleRate config.format (popcount config.channelMask) ≠ 0 ||
    !env.alloc || !env.bufferAlloc || config.sampleRate.toNat = mmFullPowerSamplingRate ||
    env.resamplerOk

theorem Sound.adevOpenInputStream {α : Type} (hs : h.Sound) (hi : h.ptr (.inp i .stream) = none)
    {config : AudioConfig} {env : OpenEnv α} (hc : createOk config env) :
    (adevOpenInputStream i config env h).Sound := by
  have h1 := hs.malloc hi rfl (.inl rfl) (fun _ hb => by cases hb) true
  have hp : ∀ f, f ≠ .stream → (Cells.malloc (.inp i .stream) true h).ptr (.inp i f) = none := by
    intro f hf
    rw [Cells.ptr_malloc, if_neg (by simpa using hf)]
    exact hs.null_inp hi f
  have hst : (Cells.malloc (.inp i .stream) true h).ptr (.inp i .stream) ≠ none := by
    rw [Cells.ptr_malloc, if_pos rfl]
    simp
  unfold Heap.adevOpenInputStream
  split
  · exact hs
  · next hck =>
    split
    · exact hs
    · next ha =>
      have h2 := h1.malloc (hp .buffer (by simp)) rfl (.inr hst) (fun _ hb => by cases hb)
        env.bufferAlloc
      have hp2 : ∀ f, f ≠ .buffer →
          (Cells.malloc (.inp i .buffer) env.bufferAlloc (Cells.malloc (.inp i .stream) true h)).ptr
            (.inp i f) = (Cells.malloc (.inp i .stream) true h).ptr (.inp i f) := by
        intro f hf
        rw [Cells.ptr_malloc, if_neg (by simpa using hf)]
      simp only
      split
      · next hb =>
        refine h2.destroyIn (by simp) (by simp [Cell.ofIn]) fun f => ?_
        by_cases hf : f = .stream
        · exact .inl (by simp [hf])
        · by_cases hfb : f = .buffer
          · right
            rw [hfb, hb, ptr_malloc_false (hp .buffer (by simp))]
            exact hp .buffer (by simp)
          · exact .inr ((hp2 f hfb).trans (hp f hf))
      · next hb =>
        split
        · next hr =>
          have hok : env.resamplerOk = true := by
            rw [Bool.not_eq_false] at ha hb
            simpa [createOk, not_not.mp hck, ha, hb, hr] using hc
          rw [if_pos hok]
          refine h2.malloc ((hp2 _ (by simp)).trans (hp _ (by simp))) rfl (.inr ?_)
            (fun _ hb => by cases hb) true
          rw [hp2 _ (by simp)]
          exact hst
        · exact h2

/-- At the close of input stream `i` the code frees what its fields point to. -/
def freesAll (i : InId) (h : Heap) : Prop :=
  (h.ptr (.inp i .resampler) ≠ none ∨ h.ptr (.inp i .buffer) = none) ∧
    h.ptr (.inp i .procBuf) = none ∧ h.ptr (.inp i .refBuf) = none

instance (i : InId) (h : Heap) : Decidable (freesAll i h) :=
  inferInstanceAs (Decidable (_ ∧ _))

theorem Sound.adevCloseInputStream (hs : h.Sound) (hf : freesAll i h) :
    (adevCloseInputStream i h).Sound := by
  obtain ⟨hr, hp, hq⟩ := hf
  unfold Heap.adevCloseInputStream
  by_cases hn : h.ptr (.inp i .resampler) = none
  · have hb := hr.resolve_left (not_not.mpr hn)
    simp only [if_pos hn]
    refine hs.destroyIn (by simp) (by simp [Cell.ofIn]) fun f => ?_
    cases f with
    | stream | remixAtDriver => exact .inl (by simp)
    | buffer => exact .inr hb
    | resampler => exact .inr hn
    | procBuf => exact .inr hp
    | refBuf => exact .inr hq
  · simp only [if_neg hn]
    refine hs.destroyIn (l := [.inp i .buffer, .inp i .resampler, .inp i .remixAtDriver,
      .inp i .stream]) (by simp) (by simp [Cell.ofIn]) fun f => ?_
    cases f with
    | stream | remixAtDriver | buffer | resampler => exact .inl (by simp)
    | procBuf => exact .inr hp
    | refBuf => exact .inr hq

section
variable {α : Type} [Zero α]

/-- The buffers of `process_frames`. -/
def Grown (i : InId) (h h' : Heap) : Prop :=
  h'.Sound ∧ ∀ c, c ≠ .inp i .procBuf → c ≠ .inp i .refBuf → h'.ptr c = h.ptr c

omit [Zero α] in
theorem Grown.realloc (hg : Grown i h h') (hi : h.ptr (.inp i .stream) ≠ none) {f : InCell}
    (hf : f = .procBuf ∨ f = .refBuf) : Grown i h (h'.realloc (.inp i f)) := by
  refine ⟨hg.1.realloc rfl ?_ fun _ hb => (by cases hb), fun c hp hq => ?_⟩
  · rw [hg.2 _ (by simp) (by simp)]
    exact hi
  · rw [Cells.ptr_realloc, if_neg, hg.2 c hp hq]
    rintro rfl
    rcases hf with rfl | rfl
    · exact hp rfl
    · exact hq rfl

theorem Grown.processPass (hg : Grown i h h') (hi : h.ptr (.inp i .stream) ≠ none)
    (pcm : Option Nat) (resampler echo : Bool) (frames : Nat) (p : ProcessPass α) (c : Capture α) :
    Grown i h (processPass i pcm resampler echo frames p c h') := by
  have h1 : Grown i h (if c.procFramesIn < frames ∧ c.procBufSize < frames then
      h'.realloc (.inp i .procBuf) else h') := by
    split
    · exact hg.realloc hi (.inl rfl)
    · exact hg
  unfold Heap.processPass
  simp only
  split
  · split
    · exact h1
    · split
      · exact h1.realloc hi (.inr rfl)
      · exact h1
  · exact h1

theorem Grown.processFrames (hi : h.ptr (.inp i .stream) ≠ none) (pcm : Option Nat)
    (resampler echo : Bool) (n frames : Nat) (passes : List (ProcessPass α)) (framesWr : Nat)
    (dst : List α) (c : Capture α) (hg : Grown i h h') :
    Grown i h (processFrames i pcm resampler echo n frames passes framesWr dst c h') := by
  induction passes generalizing framesWr dst c h' with
  | nil => exact hg
  | cons p passes ih =>
    have h1 := hg.processPass hi pcm resampler echo frames p c
    simp only [Heap.processFrames]
    split
    · exact hg
    · split
      · exact ih _ _ _ h1
      · exact h1

theorem Sound.inReadData (hs : h.Sound) (hi : h.ptr (.inp i .stream) ≠ none) (inp : OmapStreamIn α)
    (frames : Nat) (dst : List α) (script : ReadScript α) :
    Grown i h (inReadData i inp frames dst script h) := by
  have hr : Grown i h h := ⟨hs, fun _ _ _ => rfl⟩
  unfold Heap.inReadData
  split
  · exact Grown.processFrames hi _ _ _ _ _ _ _ _ _ hr
  · exact hr

end

theorem ptr_setupStereoToMonoInputRemix (hs : h.Sound) (i : InId) (bufferOk : Bool)
    (hc : c ≠ .inp i .buffer) (hc' : c ≠ .inp i .remixAtDriver) :
    (setupStereoToMonoInputRemix i bufferOk h).ptr c = h.ptr c := by
  unfold setupStereoToMonoInputRemix
  simp only [Cells.ptr_move, Cells.ptr_free, if_neg hc']
  split
  · next hbr => rw [hbr, hs.null_br]
  · next hbr =>
    split
    · rw [Cells.ptr_malloc, if_neg hbr]
    · rw [Cells.ptr_malloc, if_neg hc, Cells.ptr_free, Cells.ptr_malloc, if_neg hbr]

theorem owns_setupStereoToMonoInputRemix (hs : h.Sound) (i : InId) (bufferOk : Bool) :
    (setupStereoToMonoInputRemix i bufferOk h).Owns ∅ := by
  have h1 : Cells.Owns ∅ (Cells.malloc .br true h) := hs.owns.malloc_new hs.null_br true
  have h2 : Cells.Owns ∅ (if (Cells.malloc .br true h).ptr (.inp i .buffer) = none then
      Cells.malloc .br true h else
      Cells.malloc (.inp i .buffer) bufferOk (Cells.free (.inp i .buffer) (Cells.malloc .br true h))) := by
    split
    · exact h1
    · refine ((h1.free (.inl fun hd => hd)).malloc (.inl (.inl rfl)) bufferOk).of_null
        (fun k hk => .inl (hk.1.elim (fun he => hk.2 he) fun hd => hd)) fun k hk => hk.elim
  have h3 := (h2.free (k := .inp i .remixAtDriver) (.inl fun hd => hd)).move (k := .br)
    (fun hd => by rcases hd with hd | hd <;> cases hd) (.inl (.inl rfl)) (by simp)
  exact h3.of_null (fun k hk => .inl (hk.1.elim (fun he => hk.2 he) fun hd => hd))
    fun k hk => hk.elim

theorem Sound.setupStereoToMonoInputRemix (hs : h.Sound) (hi : h.ptr (.inp i .stream) ≠ none)
    (bufferOk : Bool) : (setupStereoToMonoInputRemix i bufferOk h).Sound := by
  have hp := fun c => ptr_setupStereoToMonoInputRemix (c := c) hs i bufferOk
  have hst : ∀ x, x.stream = some x → h.ptr x ≠ none →
      (Heap.setupStereoToMonoInputRemix i bufferOk h).ptr x ≠ none := by
    intro x hx hn
    rw [hp x (by rintro rfl; cases hx) (by rintro rfl; cases hx)]
    exact hn
  refine ⟨owns_setupStereoToMonoInputRemix hs i bufferOk, fun {e n} he => ?_, fun {o} hr => ?_⟩
  · by_cases hb : e = .inp i .buffer ∨ e = .inp i .remixAtDriver
    · refine ⟨.inp i .stream, ?_, hst _ rfl hi⟩
      rcases hb with rfl | rfl <;> rfl
    · rw [not_or] at hb
      rw [hp e hb.1 hb.2] at he
      obtain ⟨x, hex, hx⟩ := hs.field he
      refine ⟨x, hex, hst x ?_ hx⟩
      cases e <;> cases hex <;> rfl
  · rw [hp _ (by simp) (by simp)] at hr ⊢
    exact hs.paired hr

theorem Sound.inRead {α : Type} (hs : h.Sound) (hi : h.ptr (.inp i .stream) ≠ none)
    (inp : OmapStreamIn α) (stereo bufferOk : Bool) : (inRead i inp stereo bufferOk h).Sound := by
  unfold Heap.inRead
  split
  · exact hs.setupStereoToMonoInputRemix hi bufferOk
  · exact hs

end

/-! ## Which pointers are null -/

/-- The output streams there are, and whether they have a resampler. -/
def outs (h : Heap) : OutId → Option Bool := fun o =>
  (h.ptr (.out o .stream)).map fun _ => (h.ptr (.out o .resampler)).isSome

def ins (h : Heap) : InId → Option Bool := fun i =>
  (h.ptr (.inp i .stream)).map fun _ => (h.ptr (.inp i .resampler)).isSome

section
variable {h h' : Heap} {o : OutId} {i : InId}

theorem outs_congr (hp : ∀ o f, h'.ptr (.out o f) = h.ptr (.out o f)) : h'.outs = h.outs := by
  funext o
  simp only [outs, hp]

theorem ins_congr (hs : ∀ i, h'.ptr (.inp i .stream) = h.ptr (.inp i .stream))
    (hr : ∀ i, h'.ptr (.inp i .resampler) = h.ptr (.inp i .resampler)) : h'.ins = h.ins := by
  funext i
  simp only [ins, hs, hr]

theorem outs_some {b : Bool} (ho : h.outs o = some b) :
    h.ptr (.out o .stream) ≠ none ∧ (h.ptr (.out o .resampler)).isSome = b := by
  obtain ⟨n, hn, hb⟩ := Option.map_eq_some_iff.mp ho
  exact ⟨by rw [hn]; simp, hb⟩

theorem ins_some {b : Bool} (hi : h.ins i = some b) : h.ptr (.inp i .stream) ≠ none := by
  obtain ⟨n, hn, -⟩ := Option.map_eq_some_iff.mp hi
  rw [hn]
  simp

theorem outs_outResampler (ho : h.ptr (.out o .stream) ≠ none) (bufferOk : Bool) :
    (outResampler o bufferOk h).outs = Function.update h.outs o (some true) := by
  funext o'
  by_cases hoo : o' = o
  · subst hoo
    obtain ⟨n, hn⟩ := Option.ne_none_iff_exists'.mp ho
    simp [outs, outResampler, Cells.ptr_malloc, hn]
  · simp [outs, outResampler, Cells.ptr_malloc, hoo]

theorem ptr_outResampler_inp (f : InCell) (bufferOk : Bool) :
    (outResampler o bufferOk h).ptr (.inp i f) = h.ptr (.inp i f) := by
  simp [outResampler, Cells.ptr_malloc]

theorem outs_adevOpenOutputStream (hs : h.Sound) (ho : h.ptr (.out o .stream) = none)
    (devices : Devices) (alloc resamplerOk bufferOk : Bool) :
    (adevOpenOutputStream o devices alloc resamplerOk bufferOk h).outs =
      if alloc && (resamplerOk || !anyOf devices audioDeviceOutAllSco) then
        Function.update h.outs o (some (anyOf devices audioDeviceOutAllSco))
      else h.outs := by
  have h1 : Heap.outs (Cells.malloc (.out o .stream) true h) =
      Function.update h.outs o (some false) := by
    funext o'
    by_cases hoo : o' = o
    · subst hoo
      simp [outs, Cells.ptr_malloc, hs.null_out ho .resampler]
    · simp [outs, Cells.ptr_malloc, hoo]
  unfold adevOpenOutputStream
  cases alloc with
  | false => rfl
  | true =>
    simp only [Bool.true_eq_false, if_false, Bool.true_and]
    cases anyOf devices audioDeviceOutAllSco with
    | false =>
      simp only [Bool.false_eq_true, if_false, Bool.not_false, Bool.or_true, if_true]
      exact h1
    | true =>
      cases resamplerOk with
      | true =>
        simp only [if_true, Bool.true_or]
        rw [outs_outResampler (by simp [Cells.ptr_malloc]), h1, Function.update_idem]
      | false =>
        simp only [if_true, Bool.false_eq_true, if_false, Bool.not_true, Bool.or_false]
        funext o'
        by_cases hoo : o' = o
        · subst hoo
          simp [outs, Cells.ptr_forget, Cell.ofOut, ho]
        · simp [outs, Cells.ptr_forget, Cell.ofOut, hoo, Cells.ptr_malloc]

theorem ptr_adevCloseOutputStream (o : OutId) (c : Cell) :
    (adevCloseOutputStream o h).ptr c = if c.ofOut o then none else h.ptr c := by
  rw [adevCloseOutputStream, Cells.ptr_forget, Cells.ptr_freeAll]

theorem outs_adevCloseOutputStream (o : OutId) :
    (adevCloseOutputStream o h).outs = Function.update h.outs o none := by
  funext o'
  by_cases hoo : o' = o
  · subst hoo
    simp [outs, ptr_adevCloseOutputStream, Cell.ofOut]
  · simp [outs, ptr_adevCloseOutputStream, Cell.ofOut, hoo]

theorem outs_outWriteData (ho : h.ptr (.out o .stream) ≠ none) {out : OmapStreamOut}
    (hr : (h.ptr (.out o .resampler)).isSome = out.resampler) (resamplerOk bufferOk : Bool) :
    (outWriteData o out resamplerOk bufferOk h).outs =
      if out.rate ≠ defaultOutSamplingRate ∧ out.resampler = false ∧ resamplerOk = true then
        Function.update h.outs o (some true)
      else h.outs := by
  have hn : h.ptr (.out o .resampler) = none ↔ out.resampler = false := by
    rw [← hr, Option.isSome_eq_false_iff, Option.isNone_iff_eq_none]
  unfold outWriteData
  simp only [hn]
  by_cases hc : out.rate ≠ defaultOutSamplingRate ∧ out.resampler = false
  · rw [if_pos hc]
    cases resamplerOk with
    | true => rw [if_pos rfl, if_pos ⟨hc.1, hc.2, rfl⟩, outs_outResampler ho]
    | false => rw [if_neg (by decide), if_neg (by simp)]
  · rw [if_neg hc, if_neg fun h => hc ⟨h.1, h.2.1⟩]

theorem ins_adevOpenInputStream {α : Type} (hs : h.Sound) (hi : h.ptr (.inp i .stream) = none)
    (config : AudioConfig) (env : OpenEnv α) : (adevOpenInputStream i config env h).ins =
      if openInputOk config env then
        Function.update h.ins i (some (decide (config.sampleRate.toNat ≠ mmFullPowerSamplingRate)))
      else h.ins := by
  have h1 : ∀ b, Heap.ins (Cells.malloc (.inp i .buffer) b (Cells.malloc (.inp i .stream) true h)) =
      Function.update h.ins i (some false) := by
    intro b
    funext i'
    by_cases hii : i' = i
    · subst hii
      simp [ins, Cells.ptr_malloc, hs.null_inp hi .resampler]
    · simp [ins, Cells.ptr_malloc, hii]
  have herr : ∀ b, Heap.ins (((Cells.malloc (.inp i .buffer) b
      (Cells.malloc (.inp i .stream) true h)).freeAll [.inp i .resampler, .inp i .stream]).forget
        (Cell.ofIn i)) = h.ins := by
    intro b
    funext i'
    by_cases hii : i' = i
    · subst hii
      simp [ins, Cells.ptr_forget, Cell.ofIn, hi]
    · simp [ins, Cells.ptr_forget, Cell.ofIn, hii, Cells.ptr_malloc]
  unfold adevOpenInputStream openInputOk
  split
  · next hc => rw [if_neg (by simp [hc])]
  · next hc =>
    rw [not_not.mp hc]
    cases env.alloc with
    | false => simp
    | true =>
      cases env.bufferAlloc with
      | false => simpa using herr false
      | true =>
        by_cases hr : config.sampleRate.toNat = mmFullPowerSamplingRate
        · simpa [hr] using h1 true
        · cases env.resamplerOk with
          | false => simpa [hr] using herr true
          | true =>
            simp only [hr, ne_eq, not_false_eq_true, if_true, decide_true, decide_false,
              Bool.or_true, Bool.and_self, Bool.true_eq_false, if_false]
            funext i'
            by_cases hii : i' = i
            · subst hii
              simp [ins, Cells.ptr_malloc]
            · simp [ins, Cells.ptr_malloc, hii]

theorem ptr_adevCloseInputStream (i : InId) (c : Cell) :
    (adevCloseInputStream i h).ptr c = if c.ofIn i then none else h.ptr c := by
  unfold adevCloseInputStream
  simp only [Cells.ptr_forget, Cells.ptr_freeAll]
  split
  · rfl
  · split
    · rfl
    · rw [Cells.ptr_freeAll]

theorem ins_adevCloseInputStream (i : InId) :
    (adevCloseInputStream i h).ins = Function.update h.ins i none := by
  funext i'
  by_cases hii : i' = i
  · subst hii
    simp [ins, ptr_adevCloseInputStream, Cell.ofIn]
  · simp [ins, ptr_adevCloseInputStream, Cell.ofIn, hii]

/-! ### The other streams -/

theorem ptr_adevOpenInputStream_out {α : Type} (i : InId) (config : AudioConfig) (env : OpenEnv α)
    (o : OutId) (f : OutCell) : (adevOpenInputStream i config env h).ptr (.out o f) =
      h.ptr (.out o f) := by
  unfold adevOpenInputStream
  split
  · rfl
  · split
    · rfl
    · simp only
      split
      · simp [Cells.ptr_forget, Cell.ofIn, Cells.ptr_malloc]
      · split
        · split
          · simp [Cells.ptr_malloc]
          · simp [Cells.ptr_forget, Cell.ofIn, Cells.ptr_malloc]
        · simp [Cells.ptr_malloc]

theorem ptr_adevOpenOutputStream_inp (o : OutId) (devices : Devices)
    (alloc resamplerOk bufferOk : Bool) (i : InId) (f : InCell) :
    (adevOpenOutputStream o devices alloc resamplerOk bufferOk h).ptr (.inp i f) =
      h.ptr (.inp i f) := by
  unfold adevOpenOutputStream
  split
  · rfl
  · simp only
    split
    · split
      · simp [ptr_outResampler_inp, Cells.ptr_malloc]
      · simp [Cells.ptr_forget, Cell.ofOut, Cells.ptr_malloc]
    · simp [Cells.ptr_malloc]

theorem ptr_outWriteData_inp (o : OutId) (out : OmapStreamOut) (resamplerOk bufferOk : Bool)
    (i : InId) (f : InCell) : (outWriteData o out resamplerOk bufferOk h).ptr (.inp i f) =
      h.ptr (.inp i f) := by
  unfold outWriteData
  split
  · split
    · exact ptr_outResampler_inp f bufferOk
    · rfl
  · rfl

theorem ptr_inRead {α : Type} (hs : h.Sound) (inp : OmapStreamIn α) (stereo bufferOk : Bool)
    {c : Cell} (hc : c ≠ .inp i .buffer) (hc' : c ≠ .inp i .remixAtDriver) :
    (inRead i inp stereo bufferOk h).ptr c = h.ptr c := by
  unfold inRead
  split
  · exact ptr_setupStereoToMonoInputRemix hs i bufferOk hc hc'
  · rfl

theorem ptr_adevSetParameters (hs : h.Sound) (kvpairs : KvPairs) :
    (adevSetParameters kvpairs h).ptr = h.ptr := by
  unfold adevSetParameters
  split
  · exact ptr_setParameters hs
  · funext c
    simp only [dropParms, strParmsCreateStr, Cells.ptr_forget, Cells.ptr_malloc, decide_eq_true_eq]
    split
    · next hc => rw [hc, hs.null_parms]
    · rfl

end

end Heap

/-! ## Runs -/

section
variable {α : Type} [Zero α] {x y : Held α} {s₀ : Hal α} {name : String} {alloc : Bool}
  {mixer : Option Mixer}

omit [Zero α] in
/-- The pointers of the streams are null as the state of the HAL says. -/
structure Held.Matches (x : Held α) : Prop where
  outs : x.hal.resamplers = x.heap.outs
  ins : x.hal.readers.resamplers = x.heap.ins

omit [Zero α] in
/-- The calls that give back all they should: an input stream is closed with a resampler and
without the buffers of `process_frames`, `create_resampler` does not fail in the open of an input
stream, and the parameters name no unknown TTY mode. -/
def Held.returnsAll (x : Held α) (e : Event α × Bool) : Prop :=
  match e.1 with
  | .closeInputStream i => Heap.freesAll i x.heap
  | .openInputStream _ _ config env => Heap.createOk config env
  | .setParameters kvpairs => Heap.ttyKnown kvpairs
  | _ => True

instance (x : Held α) (e : Event α × Bool) : Decidable (x.returnsAll e) := by
  unfold Held.returnsAll
  split <;> infer_instance

omit [Zero α] in
theorem Held.Matches.out_some (hm : x.Matches) {o : OutId} {out : OmapStreamOut}
    (ho : x.hal.outs o = some out) : x.heap.ptr (.out o .stream) ≠ none ∧
      (x.heap.ptr (.out o .resampler)).isSome = out.resampler := by
  refine Heap.outs_some ?_
  rw [← hm.outs]
  show (x.hal.outs o).map _ = _
  rw [ho]
  rfl

omit [Zero α] in
theorem Held.Matches.inp_some (hm : x.Matches) {i : InId} {inp : OmapStreamIn α}
    (hi : x.hal.ins i = some inp) : x.heap.ptr (.inp i .stream) ≠ none := by
  refine Heap.ins_some (b := inp.resampler) ?_
  rw [← hm.ins]
  show ((x.hal.ins i).map _).map _ = _
  rw [hi]
  rfl

omit [Zero α] in
theorem Held.Matches.out_none (hm : x.Matches) {o : OutId} (ho : x.hal.outs o = none) :
    x.heap.ptr (.out o .stream) = none := by
  have h : x.heap.outs o = none := by
    rw [← hm.outs]
    show (x.hal.outs o).map _ = _
    rw [ho]
    rfl
  exact Option.map_eq_none_iff.mp h

omit [Zero α] in
theorem Held.Matches.inp_none (hm : x.Matches) {i : InId} (hi : x.hal.ins i = none) :
    x.heap.ptr (.inp i .stream) = none := by
  have h : x.heap.ins i = none := by
    rw [← hm.ins]
    show ((x.hal.ins i).map _).map _ = _
    rw [hi]
    rfl
  exact Option.map_eq_none_iff.mp h

/-- A call that gives back all it should leaves the pointers sound. -/
theorem sound_act {e : Event α × Bool} (hg : guard x.hal e.1) (hs : x.heap.Sound) (hm : x.Matches)
    (hr : x.returnsAll e) : (Heap.act e.1 e.2 x.hal x.heap).Sound := by
  obtain ⟨e, ok⟩ := e
  cases e with
  | openOutputStream o d a r =>
    exact hs.adevOpenOutputStream (hm.out_none (Option.isNone_iff_eq_none.mp hg)) d a r ok
  | closeOutputStream o => exact hs.adevCloseOutputStream o
  | openInputStream i d c env =>
    exact hs.adevOpenInputStream (hm.inp_none (Option.isNone_iff_eq_none.mp hg)) hr
  | closeInputStream i => exact hs.adevCloseInputStream hr
  | outWriteData o force rok =>
    simp only [Heap.act]
    split
    · next out ho => exact hs.outWriteData (hm.out_some ho).1 out rok ok
    · exact hs
  | inRead i n ready created =>
    simp only [Heap.act]
    split
    · next inp hi => exact hs.inRead (hm.inp_some hi) inp _ ok
    · exact hs
  | inReadData i n dst script =>
    simp only [Heap.act]
    split
    · next inp hi => exact (hs.inReadData (hm.inp_some hi) inp n dst script).1
    · exact hs
  | outSetParameters o kv => exact hs.setParameters
  | inSetParameters i kv => exact hs.setParameters
  | setParameters kv => exact hs.adevSetParameters hr
  | outWrite | outWriteForce | outStandby | inStandby | inAddAudioEffect | inRemoveAudioEffect
  | setMode | setVoiceVolume | setMicMute => exact hs

theorem outs_act {e : Event α × Bool} (hg : guard x.hal e.1) (hs : x.heap.Sound) (hm : x.Matches) :
    (Heap.act e.1 e.2 x.hal x.heap).outs = resamplersAfter x.hal e.1 := by
  obtain ⟨e, ok⟩ := e
  have hsame : ∀ {h : Heap}, (∀ o f, h.ptr (.out o f) = x.heap.ptr (.out o f)) →
      h.outs = x.hal.resamplers := fun hp => (Heap.outs_congr hp).trans hm.outs.symm
  cases e with
  | openOutputStream o d a r =>
    rw [resamplersAfter, hm.outs]
    exact Heap.outs_adevOpenOutputStream hs (hm.out_none (Option.isNone_iff_eq_none.mp hg)) d a r ok
  | closeOutputStream o =>
    rw [resamplersAfter, hm.outs]
    exact Heap.outs_adevCloseOutputStream o
  | outWriteData o force rok =>
    cases ho : x.hal.outs o with
    | none =>
      simp only [Heap.act, resamplersAfter, ho]
      exact hm.outs.symm
    | some out =>
      simp only [Heap.act, resamplersAfter, ho]
      rw [hm.outs]
      exact Heap.outs_outWriteData (hm.out_some ho).1 (hm.out_some ho).2 rok ok
  | openInputStream i d c env => exact hsame (Heap.ptr_adevOpenInputStream_out i c env)
  | closeInputStream i => exact hsame fun o f => Heap.ptr_adevCloseInputStream i _
  | inRead i n ready created =>
    refine hsame fun o f => ?_
    simp only [Heap.act]
    split
    · exact Heap.ptr_inRead hs _ _ ok (by simp) (by simp)
    · rfl
  | inReadData i n dst script =>
    refine hsame fun o f => ?_
    simp only [Heap.act]
    split
    · next inp hi =>
      exact (hs.inReadData (hm.inp_some hi) inp n dst script).2 _ (by simp) (by simp)
    · rfl
  | outSetParameters | inSetParameters =>
    exact hsame fun o f => congrFun (Heap.ptr_setParameters hs) _
  | setParameters kv => exact hsame fun o f => congrFun (Heap.ptr_adevSetParameters hs kv) _
  | outWrite | outWriteForce | outStandby | inStandby | inAddAudioEffect | inRemoveAudioEffect
  | setMode | setVoiceVolume | setMicMute => exact hm.outs.symm

theorem ins_act {e : Event α × Bool} (hg : guard x.hal e.1) (hs : x.heap.Sound) (hm : x.Matches) :
    (Heap.act e.1 e.2 x.hal x.heap).ins = inResamplersAfter x.hal e.1 := by
  obtain ⟨e, ok⟩ := e
  have hsame : ∀ {h : Heap}, (∀ i, h.ptr (.inp i .stream) = x.heap.ptr (.inp i .stream)) →
      (∀ i, h.ptr (.inp i .resampler) = x.heap.ptr (.inp i .resampler)) →
      h.ins = x.hal.readers.resamplers := fun hp hp' => (Heap.ins_congr hp hp').trans hm.ins.symm
  cases e with
  | openInputStream i d c env =>
    rw [inResamplersAfter, hm.ins]
    exact Heap.ins_adevOpenInputStream hs (hm.inp_none (Option.isNone_iff_eq_none.mp hg)) c env
  | closeInputStream i =>
    rw [inResamplersAfter, hm.ins]
    exact Heap.ins_adevCloseInputStream i
  | openOutputStream o d a r =>
    have hp := fun i f => Heap.ptr_adevOpenOutputStream_inp (h := x.heap) o d a r ok i f
    exact hsame (fun i => hp i _) fun i => hp i _
  | closeOutputStream o =>
    have hp := fun i f => Heap.ptr_adevCloseOutputStream (h := x.heap) o (.inp i f)
    exact hsame (fun i => hp i _) fun i => hp i _
  | outWriteData o force rok =>
    simp only [Heap.act]
    split
    · next out _ =>
      have hp := fun i f => Heap.ptr_outWriteData_inp (h := x.heap) o out rok ok i f
      exact hsame (fun i => hp i _) fun i => hp i _
    · exact hm.ins.symm
  | inRead i n ready created =>
    simp only [Heap.act]
    split
    · refine hsame (fun _ => ?_) fun _ => ?_ <;>
        exact Heap.ptr_inRead hs _ _ ok (by simp) (by simp)
    · exact hm.ins.symm
  | inReadData i n dst script =>
    simp only [Heap.act]
    split
    · next inp hi =>
      have hp := (hs.inReadData (hm.inp_some hi) inp n dst script).2
      exact hsame (fun _ => hp _ (by simp) (by simp)) fun _ => hp _ (by simp) (by simp)
    · exact hm.ins.symm
  | outSetParameters | inSetParameters =>
    have hp := congrFun (Heap.ptr_setParameters hs)
    exact hsame (fun _ => hp _) fun _ => hp _
  | setParameters kv =>
    have hp := congrFun (Heap.ptr_adevSetParameters hs kv)
    exact hsame (fun _ => hp _) fun _ => hp _
  | outWrite | outWriteForce | outStandby | inStandby | inAddAudioEffect | inRemoveAudioEffect
  | setMode | setVoiceVolume | setMicMute => exact hm.ins.symm

theorem Held.step_some {e : Event α × Bool} (h : x.step e = some y) :
    Audio.step x.hal e.1 = some y.hal ∧ y.heap = Heap.act e.1 e.2 x.hal x.heap := by
  obtain ⟨t, ht, rfl⟩ := Option.map_eq_some_iff.mp h
  exact ⟨ht, rfl⟩

/-- While every call gives back all it should, the pointers are sound, and null as the state of the
HAL says. -/
theorem sound_run (h0 : adevOpen name alloc mixer = .ok s₀)
    (h : Run Held.step Held.returnsAll ⟨s₀, Cells.empty⟩ x) : x.heap.Sound ∧ x.Matches := by
  refine h.invariant_of (I := fun x => x.heap.Sound ∧ x.Matches)
    (J := fun x => x.hal.readers.stereo = false) (fun y hy => ?_) ⟨Heap.sound_empty, ?_⟩ ?_
  · have hr : Reach Audio.step s₀ y.hal :=
      Run.part Held.hal Prod.fst (fun _ _ _ hs => (Held.step_some hs).1) hy
    exact stereo_run h0 hr
  · obtain ⟨m, -, rfl⟩ := adevOpen_ok h0
    refine ⟨?_, congrArg Readers.resamplers (readers_openDevice m)⟩
    exact keeping_resamplers.other (holdings_selectOutputDevice _)
  · intro y e z hst ⟨hs, hm⟩ hr hstep
    obtain ⟨ht, hz⟩ := Held.step_some hstep
    have hg := (Audio.step_some ht).1
    rw [hz]
    refine ⟨sound_act hg hs hm hr, ⟨?_, ?_⟩⟩
    · rw [resamplers_step _ ht, hz, outs_act hg hs hm]
    · rw [inResamplers_step _ hst ht, hz, ins_act hg hs hm]

/-- While every call gives back all it should, nothing is given back twice and every live object is
the stream or a field of a stream that is open. -/
theorem heap_owned (h0 : adevOpen name alloc mixer = .ok s₀)
    (h : Run Held.step Held.returnsAll ⟨s₀, Cells.empty⟩ x) :
    x.heap.faults = [] ∧ ∀ n, x.heap.ledger.live n = true →
      (∃ o f, x.heap.ptr (.out o f) = some n ∧ (x.hal.outs o).isSome) ∨
      ∃ i f, x.heap.ptr (.inp i f) = some n ∧ (x.hal.ins i).isSome := by
  obtain ⟨hs, hm⟩ := sound_run h0 h
  refine ⟨hs.owns.faults, fun n hn => ?_⟩
  obtain ⟨c, -, hc⟩ := hs.owns.owned hn
  obtain ⟨d, hd, hdn⟩ := hs.field hc
  cases c with
  | parms | br => cases hd
  | out o f =>
    cases hd
    refine .inl ⟨o, f, hc, ?_⟩
    rw [Option.isSome_iff_ne_none]
    exact fun ho => hdn (hm.out_none ho)
  | inp i f =>
    cases hd
    refine .inr ⟨i, f, hc, ?_⟩
    rw [Option.isSome_iff_ne_none]
    exact fun hi => hdn (hm.inp_none hi)

end

/-- A call over a headset and a capture at 8000 Hz, opened and closed. -/
def openAndClose : List (Event Nat × Bool) :=
  [(.openOutputStream 0 audioDeviceOutAllSco true true, true),
    (.openInputStream 0 audioDeviceInBuiltinMic ⟨8000, 1, 1⟩ ⟨true, true, true, id⟩, true),
    (.setParameters [("tty_mode", "tty_full")], true),
    (.inRead 0 0 true true, true), (.inReadData 0 0 [] ⟨[], [], .ok⟩, true),
    (.closeInputStream 0, true), (.closeOutputStream 0, true)]

theorem heap_owned_openAndClose : ∃ x : Held Nat,
    exec Held.step openAndClose ⟨openDevice (fun _ => none), Cells.empty⟩ = some x ∧
    x.heap.ledger.next = 7 ∧ x.heap.faults = [] ∧ ∀ n, x.heap.ledger.live n = true →
      (∃ o f, x.heap.ptr (.out o f) = some n ∧ (x.hal.outs o).isSome) ∨
      ∃ i f, x.heap.ptr (.inp i f) = some n ∧ (x.hal.ins i).isSome := by
  have hs : (exec Held.step openAndClose ⟨openDevice (fun _ => none), Cells.empty⟩).map
      (fun x => x.heap.ledger.next) = some 7 := by decide +kernel
  obtain ⟨x, hs, hn⟩ := Option.map_eq_some_iff.mp hs
  have ho : OkAlong Held.step Held.returnsAll openAndClose ⟨openDevice (fun _ => none), Cells.empty⟩ := by
    decide +kernel
  exact ⟨x, hs, hn, heap_owned (adevOpen_some _) (Run.of_exec hs ho)⟩

/-- A stream at the rate of the hardware needs no resampler, and its close leaves its buffer. -/
theorem heap_leaked : ∃ x : Held Nat,
    exec Held.step [(.openInputStream 0 audioDeviceInBuiltinMic ⟨48000, 1, 1⟩
      ⟨true, true, true, id⟩, true), (.closeInputStream 0, true)]
      ⟨openDevice (fun _ => none), Cells.empty⟩ = some x ∧
    x.hal.ins 0 = none ∧ x.heap.ledger.live 1 = true ∧ ∀ c, x.heap.ptr c = none := by
  have hs : (exec Held.step [(.openInputStream 0 audioDeviceInBuiltinMic ⟨48000, 1, 1⟩
      (⟨true, true, true, id⟩ : OpenEnv Nat), true), (.closeInputStream 0, true)]
      ⟨openDevice (fun _ => none), Cells.empty⟩).map (fun x => (x.heap.ledger.live 1,
        (x.hal.ins 0).isNone)) = some (true, true) := by decide +kernel
  have hc : ∀ c, (exec Held.step [(.openInputStream 0 audioDeviceInBuiltinMic ⟨48000, 1, 1⟩
      (⟨true, true, true, id⟩ : OpenEnv Nat), true), (.closeInputStream 0, true)]
      ⟨openDevice (fun _ => none), Cells.empty⟩).map (fun x => x.heap.ptr c) = some none := by
    intro c
    cases c with
    | parms | br | out => rfl
    | inp i f =>
      cases i with
      | zero => rfl
      | succ i => rfl
  obtain ⟨x, hs, hp⟩ := Option.map_eq_some_iff.mp hs
  simp only [Prod.mk.injEq, Option.isNone_iff_eq_none] at hp
  refine ⟨x, hs, hp.2, hp.1, fun c => ?_⟩
  have hx := hc c
  rw [hs] at hx
  exact Option.some.inj hx

end P970.Audio
