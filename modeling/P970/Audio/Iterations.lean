import P970.Audio.Mute

/-!
# The loop of `process_frames`

An `Iteration` is one pass of that loop together with the state it starts in;
what it reads, offers, consumes and produces, what it touches of the buffers and
the frames it moves to their front are read off it. `ProcessCall.iterations`
lists those of one call, `session` the calls made one after the other on a
stream, each once the one before has returned.
-/

namespace P970.Audio

/-! ## What `read_frames` leaves alone, and what it gives -/

section
variable {α : Type} {c c' : Capture α}

/-- The buffers of `process_frames`. -/
def Capture.bufs (c : Capture α) : (List α × Nat × Nat) × (List α × Nat × Nat) :=
  ((c.procBuf, c.procBufSize, c.procFramesIn), (c.refBuf, c.refBufSize, c.refFramesIn))

theorem bufs_kept (pcm : Option Nat) : KeptByReads pcm fun c : Capture α => c.bufs where
  getNextBuffer status b c := by
    cases pcm with
    | none => rfl
    | some n =>
      simp only [getNextBuffer, pcmRead_eq]
      split
      · split <;> rfl
      · rfl
  releaseBuffer _ _ := rfl

theorem frameCount_getNextBuffer (pcm : Option Nat) (status : Status) (b : ResamplerBuffer α)
    (c : Capture α) : (getNextBuffer pcm status b c).2.1.frameCount ≤ b.frameCount := by
  have hp : ∀ d : Capture α, (provide b d).2.1.frameCount ≤ b.frameCount := by
    intro d
    simp only [provide]
    split <;> omega
  cases pcm with
  | none => exact Nat.zero_le _
  | some n =>
    simp only [getNextBuffer]
    split
    · split
      · exact Nat.zero_le _
      · exact hp _
    · exact hp _

/-- The resampler takes its frames out of `in->buffer`. -/
theorem reads_pullFrames (h : c.Shape) (pcm : Option Nat) (calls : List (Nat × Nat × Status)) :
    c.Reads (pullFrames pcm calls c).1 (pullFrames pcm calls c).2 := by
  induction calls generalizing c with
  | nil => exact .refl h
  | cons x calls ih =>
    obtain ⟨ask, use, status⟩ := x
    obtain ⟨hr, ho⟩ := reads_getNextBuffer h pcm status ⟨none, ask⟩
    simp only [pullFrames]
    generalize getNextBuffer pcm status ⟨none, ask⟩ c = g at hr ho ⊢
    obtain ⟨st, b, d⟩ := g
    rcases ho with ⟨hb, -⟩ | ⟨n, hn, hb⟩
    · simp only at hb
      subst hb
      exact hr
    · simp only at hb hn
      subst hb
      have hu : min use n ≤ d.framesIn := (Nat.min_le_right ..).trans hn
      have hrel := reads_releaseBuffer hr.shape hu (some d.buffered)
      exact hr.trans (hrel.trans (ih hrel.shape))

theorem readPass_spec (h : c.Shape) (pcm : Option Nat) (resampler : Bool) (n : Nat)
    (p : ReadPass α) :
    (readPass pcm resampler n p c).2.2.Shape ∧ (readPass pcm resampler n p c).1.length ≤ n ∧
      ((readPass pcm resampler n p c).2.2.readStatus = 0 →
        (readPass pcm resampler n p c).2.1 = (readPass pcm resampler n p c).1.length) := by
  cases resampler with
  | false =>
    obtain ⟨hr, hn⟩ := reads_readPass h pcm n p
    refine ⟨hr.shape, ?_, hn⟩
    have hle := frameCount_getNextBuffer pcm p.status ⟨none, n⟩ c
    simp only [readPass, Bool.false_eq_true, if_false]
    split
    · exact (List.length_take_le ..).trans hle
    · exact Nat.zero_le _
  | true =>
    simp only [readPass, if_true]
    exact ⟨(reads_pullFrames h pcm p.provider).shape, List.length_take_le .., fun _ => trivial⟩

/-- `read_frames` writes at most the frames asked for, and exactly these when it succeeds. -/
theorem readFrames_spec (h : c.Shape) (pcm : Option Nat) (resampler : Bool) {frames : Nat}
    (passes : List (ReadPass α)) (out : List α) (ho : out.length ≤ frames) :
    (readFrames pcm resampler frames passes out.length out c).capture.Shape ∧
      (readFrames pcm resampler frames passes out.length out c).out.length ≤ frames ∧
      ∀ n, (readFrames pcm resampler frames passes out.length out c).ret = some n → 0 ≤ n →
        n = frames ∧ (readFrames pcm resampler frames passes out.length out c).out.length = frames := by
  induction passes generalizing c out with
  | nil =>
    refine ⟨h, ho, fun n hn _ => ?_⟩
    simp only [readFrames] at hn ⊢
    split at hn
    · cases hn
      omega
    · cases hn
  | cons p passes ih =>
    obtain ⟨hs, hl, hn⟩ := readPass_spec h pcm resampler (frames - out.length) p
    simp only [readFrames]
    split
    · refine ⟨h, ho, fun n hn _ => ?_⟩
      cases hn
      have hl : out.length = frames := by omega
      exact ⟨congrArg Nat.cast hl, hl⟩
    · generalize readPass pcm resampler (frames - out.length) p c = q at hs hl hn ⊢
      obtain ⟨xs, k, d⟩ := q
      simp only at hs hl hn ⊢
      have hle : (out ++ xs).length ≤ frames := by
        rw [List.length_append]
        omega
      split
      · next hst =>
        refine ⟨hs, hle, fun n hret h0 => ?_⟩
        cases hret
        exact absurd (Int.le_antisymm hs.status h0) hst
      · next hst =>
        have hk : out.length + k = (out ++ xs).length := by
          rw [hn (not_not.mp hst), List.length_append]
        rw [hk]
        exact ih hs _ hle

/-! ### Reads that succeed -/

/-- Every `pcm_read` of the pass succeeds. -/
structure ReadPass.Ok (p : ReadPass α) : Prop where
  status : p.status = .ok
  provider : ∀ x ∈ p.provider, x.2.2 = Status.ok

theorem readStatus_getNextBuffer (h : c.readStatus = 0) (pcm : Nat) (b : ResamplerBuffer α) :
    (getNextBuffer (some pcm) .ok b c).2.2.readStatus = 0 := by
  simp only [getNextBuffer]
  split
  · rfl
  · exact h

theorem readStatus_pullFrames (h : c.readStatus = 0) (pcm : Nat)
    {calls : List (Nat × Nat × Status)} (hok : ∀ x ∈ calls, x.2.2 = Status.ok) :
    (pullFrames (some pcm) calls c).2.readStatus = 0 := by
  induction calls generalizing c with
  | nil => exact h
  | cons x calls ih =>
    obtain ⟨ask, use, status⟩ := x
    obtain rfl : status = .ok := hok _ (List.mem_cons_self ..)
    have hg := readStatus_getNextBuffer h pcm ⟨none, ask⟩
    simp only [pullFrames]
    split
    · exact hg
    · exact ih hg fun x hx => hok x (List.mem_cons_of_mem _ hx)

theorem readStatus_readPass (h : c.readStatus = 0) (pcm : Nat) (resampler : Bool) (n : Nat)
    {p : ReadPass α} (hok : p.Ok) : (readPass (some pcm) resampler n p c).2.2.readStatus = 0 := by
  have hg := readStatus_getNextBuffer h pcm ⟨none, n⟩
  simp only [readPass, hok.status]
  split
  · exact readStatus_pullFrames h pcm hok.provider
  · split <;> exact hg

theorem readStatus_readFrames (h : c.readStatus = 0) (pcm : Nat) (resampler : Bool) (frames : Nat)
    {passes : List (ReadPass α)} (hok : ∀ p ∈ passes, p.Ok) (k : Nat) (out : List α) :
    (readFrames (some pcm) resampler frames passes k out c).capture.readStatus = 0 ∧
      ∀ n, (readFrames (some pcm) resampler frames passes k out c).ret = some n → 0 ≤ n := by
  induction passes generalizing c k out with
  | nil =>
    refine ⟨h, fun n hn => ?_⟩
    simp only [readFrames] at hn
    split at hn
    · cases hn
      omega
    · cases hn
  | cons p passes ih =>
    have hp := readStatus_readPass h pcm resampler (frames - k) (hok p (List.mem_cons_self ..))
    simp only [readFrames]
    split
    · refine ⟨h, fun n hn => ?_⟩
      cases hn
      omega
    · rw [if_neg (not_not.mpr hp)]
      exact ih hp (fun q hq => hok q (List.mem_cons_of_mem _ hq)) _ _

end

/-! ## Iterations -/

/-- One pass of the loop of `process_frames`, and what it finds. -/
structure Iteration (α : Type) where
  pcm : Option Nat
  resampler : Bool
  echo : Bool
  numPreprocessors : Nat
  frames : Nat
  framesWr : Nat
  pass : ProcessPass α
  before : Capture α

/-- A use of the frames from `off` on, `len` of them, of a buffer of `size` frames. -/
structure Access where
  off : Nat
  len : Nat
  size : Nat

def Access.Inside (a : Access) : Prop := a.off + a.len ≤ a.size

/-- A `memcpy` from one place of a buffer to another, in frames. -/
structure Memcpy where
  dst : Nat
  src : Nat
  len : Nat

/-- What a `memcpy` uses of its buffer. -/
def Memcpy.accesses (size : Nat) (m : Memcpy) : List Access :=
  [⟨m.dst, m.len, size⟩, ⟨m.src, m.len, size⟩]

namespace Iteration

variable {α : Type} [Zero α] (it : Iteration α)

/-- The stream when `proc_buf` has room for the frames of the call. -/
def grown : Capture α :=
  if it.before.procBufSize < it.frames then
    { it.before with procBufSize := it.frames, procBuf := grow it.before.procBuf it.frames }
  else it.before

/-- The call of `read_frames`, should the pass make one. -/
def read : Option (Result α) :=
  if it.before.procFramesIn < it.frames then
    some (readFrames it.pcm it.resampler (it.frames - it.before.procFramesIn) it.pass.reads 0 []
      it.grown)
  else none

/-- The pass gets past its reload of `proc_buf`: `read_frames` has returned no error. -/
def loads : Bool := it.read.all fun r => r.ret.any fun n => decide (0 ≤ n)

/-- The frames `read_frames` delivers. -/
def delivered : List α :=
  match it.read with
  | some r => if it.loads then r.out else []
  | none => []

def loaded : Capture α := (reload it.pcm it.resampler it.frames it.pass it.before).2

/-- The stream after `update_echo_reference`. -/
def updated : Capture α :=
  if it.echo then updateEchoReference it.loaded.procFramesIn it.pass it.loaded else it.loaded

/-- The frames the echo reference delivers. -/
def echoed : List α :=
  if it.loads ∧ it.echo ∧ it.loaded.refFramesIn < it.loaded.procFramesIn then
    let r := it.pass.echoRead (it.loaded.procFramesIn - it.loaded.refFramesIn)
    if r.1.1 = 0 then r.2 else []
  else []

/-- `prepro_wr_cnt`, and the stream after `push_echo_reference`. -/
def pushed : Nat × Capture α :=
  if it.echo then pushEchoReference it.numPreprocessors it.loaded.procFramesIn it.pass it.loaded
  else (it.loaded.procFramesIn, it.loaded)

/-- What `process()` makes of the frames it is offered. -/
def chain : Nat × Nat × List α :=
  processChain it.pass it.pushed.2.procBuf 0 it.numPreprocessors it.pushed.1
    (it.frames - it.framesWr) []

/-- The microphone frames offered to `process()`. -/
def offered : Nat := if it.loads then it.pushed.1 else 0

def consumed : Nat := if it.loads then it.chain.1 else 0

def produced : Nat := if it.loads then it.chain.2.1 else 0

/-- The reference frames `process_reverse()` consumed. -/
def taken : Nat := if it.loads ∧ it.echo then it.pushed.1 else 0

def consumedFrames : List α := it.pushed.2.procBuf.take it.consumed

def takenFrames : List α := it.updated.refBuf.take it.taken

def producedFrames : List α := it.chain.2.2.take it.produced

def ends : PassEnd :=
  (processPass it.pcm it.resampler it.echo it.numPreprocessors it.frames it.framesWr it.pass []
    it.before).1

def after : Capture α :=
  (processPass it.pcm it.resampler it.echo it.numPreprocessors it.frames it.framesWr it.pass []
    it.before).2.2

/-- The frames of `ref_buf` left over go to its front. -/
def refMemcpy : List Memcpy :=
  if it.loads ∧ it.echo ∧ it.updated.refFramesIn - it.taken ≠ 0 then
    [⟨0, it.taken, it.updated.refFramesIn - it.taken⟩]
  else []

/-- The frames of `proc_buf` left over go to its front. -/
def procMemcpy : List Memcpy :=
  if it.loads ∧ it.loaded.procFramesIn - it.consumed ≠ 0 then
    [⟨0, it.consumed, it.loaded.procFramesIn - it.consumed⟩]
  else []

/-- What the pass uses of `ref_buf`. -/
def refAccesses : List Access :=
  if it.loads ∧ it.echo then
    (if it.loaded.refFramesIn < it.loaded.procFramesIn then
      [⟨it.loaded.refFramesIn, it.loaded.procFramesIn - it.loaded.refFramesIn,
        it.updated.refBufSize⟩]
    else []) ++
    ⟨0, min it.updated.refFramesIn it.loaded.procFramesIn, it.updated.refBufSize⟩ ::
      it.refMemcpy.flatMap (Memcpy.accesses it.updated.refBufSize)
  else []

/-- What the pass uses of `proc_buf`, and of the client's buffer of `frames` frames. -/
def procAccesses : List Access :=
  (if it.before.procFramesIn < it.frames then
    [⟨it.before.procFramesIn, it.frames - it.before.procFramesIn, it.grown.procBufSize⟩]
  else []) ++
  if it.loads then
    ⟨0, it.pushed.1, it.loaded.procBufSize⟩ :: ⟨it.framesWr, it.frames - it.framesWr, it.frames⟩ ::
      it.procMemcpy.flatMap (Memcpy.accesses it.loaded.procBufSize)
  else []

/-! ### How a pass ends -/

variable {it}

theorem reload_none (h : it.read = none) :
    reload it.pcm it.resampler it.frames it.pass it.before = (some 0, it.before) := by
  unfold read at h
  split at h
  · cases h
  · next hf => rw [reload, if_neg hf]

theorem reload_some {r : Result α} (h : it.read = some r) :
    reload it.pcm it.resampler it.frames it.pass it.before =
      (r.ret, { r.capture with
        procBuf := writeAt r.capture.procBuf it.before.procFramesIn r.out
        procFramesIn := match r.ret with
          | some n => if n < 0 then r.capture.procFramesIn else r.capture.procFramesIn + n.toNat
          | none => r.capture.procFramesIn }) := by
  have hg : it.grown.procFramesIn = it.before.procFramesIn := by
    unfold grown
    split <;> rfl
  unfold read at h
  split at h
  · next hf =>
    have heq : reload it.pcm it.resampler it.frames it.pass it.before =
        (let r := readFrames it.pcm it.resampler (it.frames - it.grown.procFramesIn) it.pass.reads 0
          [] it.grown
        let c := { r.capture with
          procBuf := writeAt r.capture.procBuf it.grown.procFramesIn r.out }
        match r.ret with
        | some n => (some n, if n < 0 then c else
            { c with procFramesIn := c.procFramesIn + n.toNat })
        | none => (none, c)) := by
      rw [reload, if_pos hf]
      rfl
    rw [heq, hg, Option.some.inj h]
    obtain ⟨ret, out, d⟩ := r
    cases ret with
    | none => rfl
    | some n =>
      by_cases hn : n < 0
      · simp only [if_pos hn]
      · simp only [if_neg hn]
  · cases h

theorem reload_loads (h : it.loads = true) : ∃ n, 0 ≤ n ∧
    reload it.pcm it.resampler it.frames it.pass it.before = (some n, it.loaded) := by
  cases hr : it.read with
  | none => exact ⟨0, Int.le_refl 0, by rw [loaded, reload_none hr]⟩
  | some r =>
    simp only [loads, hr, Option.all_some, Option.any_eq_true, decide_eq_true_eq] at h
    obtain ⟨n, hn, h0⟩ := h
    exact ⟨n, h0, by rw [loaded, reload_some hr, hn]⟩

theorem reload_not_loads (h : it.loads = false) :
    (reload it.pcm it.resampler it.frames it.pass it.before).1 = none ∨
      ∃ n < 0, (reload it.pcm it.resampler it.frames it.pass it.before).1 = some n := by
  cases hr : it.read with
  | none => simp [loads, hr] at h
  | some r =>
    rw [reload_some hr]
    simp only [loads, hr, Option.all_some] at h
    cases hret : r.ret with
    | none => exact .inl rfl
    | some n =>
      rw [hret, Option.any_some, decide_eq_false_iff_not, not_le] at h
      exact .inr ⟨n, h, rfl⟩

theorem ends_of_loads (h : it.loads = true) :
    it.ends = .next (it.framesWr + it.produced) ∧ it.after = consume it.consumed it.pushed.2 := by
  obtain ⟨n, hn, hr⟩ := reload_loads h
  have h0 : ¬ n < 0 := not_lt.mpr hn
  simp only [ends, after, processPass, hr, if_neg h0, consumed, produced, if_pos h, List.drop_nil]
  exact ⟨rfl, rfl⟩

theorem ends_of_not_loads (h : it.loads = false) :
    (it.ends = .hung ∨ ∃ n < 0, it.ends = .failed n) ∧ it.after = it.loaded := by
  have hr := reload_not_loads h
  unfold ends after loaded processPass
  generalize reload it.pcm it.resampler it.frames it.pass it.before = r at hr ⊢
  obtain ⟨ret, d⟩ := r
  rcases hr with hr | ⟨n, hn, hr⟩
  · obtain rfl : ret = none := hr
    exact ⟨.inl rfl, rfl⟩
  · obtain rfl : ret = some n := hr
    simp only [if_pos hn]
    exact ⟨.inr ⟨n, hn, rfl⟩, trivial⟩

/-- A pass that does not end the loop: the others go on from it. -/
theorem processFrames_next {m : Nat} (he : it.ends = .next m) (hw : it.framesWr < it.frames)
    (passes : List (ProcessPass α)) (dst : List α) :
    ∃ out, processFrames it.pcm it.resampler it.echo it.numPreprocessors it.frames
        (it.pass :: passes) it.framesWr dst it.before =
      processFrames it.pcm it.resampler it.echo it.numPreprocessors it.frames passes m out
        it.after := by
  obtain ⟨h1, h2, -⟩ := processPass_out it.pcm it.resampler it.echo it.numPreprocessors it.frames
    it.framesWr it.pass dst it.before
  refine ⟨(processPass it.pcm it.resampler it.echo it.numPreprocessors it.frames it.framesWr it.pass
    dst it.before).2.1, ?_⟩
  rw [processFrames, if_neg (not_le.mpr hw)]
  have h1 := h1.trans he
  have h2 : _ = it.after := h2
  generalize processPass it.pcm it.resampler it.echo it.numPreprocessors it.frames it.framesWr
    it.pass dst it.before = r at h1 h2 ⊢
  obtain ⟨e, out, d⟩ := r
  simp only at h1 h2
  rw [h1, h2]

end Iteration

/-! ## Calls in turn -/

/-- A call of `process_frames` as `in_read` makes it: there are preprocessors, and the client's
buffer has room for the frames asked for. -/
structure ProcessCall (α : Type) where
  echo : Bool
  numPreprocessors : Nat
  frames : Nat
  passes : List (ProcessPass α)
  dst : List α
  preprocessed : numPreprocessors ≠ 0
  fits : frames ≤ dst.length

/-- An echo reference that delivers at most `ref` frames, and preprocessors that consume at most `eat`
frames and produce the first `make` of them. -/
def ProcessPass.limited {α : Type} [Zero α] (ref eat make : Nat) : ProcessPass α where
  reads := [⟨.ok, [], id⟩]
  echoRead n := (.ok, List.replicate (min ref n) 0)
  echoRead_le n := Nat.le_trans (Nat.le_of_eq List.length_replicate) (Nat.min_le_right ref n)
  reverse _ := some List.length
  reverse_le := reverse_length_le
  process _ xs room := (min xs.length eat, xs.take (min room make))
  consumed_le _ _ _ := Nat.min_le_left ..
  produced_le _ _ _ := Nat.le_trans (List.length_take_le ..) (Nat.min_le_left ..)

section
variable {α : Type} [Zero α] (pcm : Option Nat) (resampler : Bool)

def ProcessCall.run (call : ProcessCall α) (c : Capture α) : Result α :=
  processFrames pcm resampler call.echo call.numPreprocessors call.frames call.passes 0 call.dst c

/-- The iterations of a call that has `passes` to go, from `frames_wr` on. -/
def ProcessCall.iterationsFrom (call : ProcessCall α) :
    List (ProcessPass α) → Nat → Capture α → List (Iteration α)
  | [], _, _ => []
  | p :: passes, framesWr, c =>
    if call.frames ≤ framesWr then []
    else
      let it : Iteration α :=
        ⟨pcm, resampler, call.echo, call.numPreprocessors, call.frames, framesWr, p, c⟩
      it :: match it.ends with
        | .next framesWr => call.iterationsFrom passes framesWr it.after
        | _ => []

def ProcessCall.iterations (call : ProcessCall α) (c : Capture α) : List (Iteration α) :=
  call.iterationsFrom pcm resampler call.passes 0 c

/-- The calls that are made, each with the stream it finds: one that has not returned is the last. -/
def session : List (ProcessCall α) → Capture α → List (ProcessCall α × Capture α)
  | [], _ => []
  | call :: calls, c =>
    (call, c) ::
      if (call.run pcm resampler c).ret.isSome then session calls (call.run pcm resampler c).capture
      else []

/-- The stream at the end. -/
def sessionEnd : List (ProcessCall α) → Capture α → Capture α
  | [], c => c
  | call :: calls, c =>
    if (call.run pcm resampler c).ret.isSome then sessionEnd calls (call.run pcm resampler c).capture
    else (call.run pcm resampler c).capture

def sessionIterations (calls : List (ProcessCall α)) (c : Capture α) : List (Iteration α) :=
  (session pcm resampler calls c).flatMap fun x => x.1.iterations pcm resampler x.2

/-- The iteration is one of the call. -/
structure Iteration.Of (it : Iteration α) (call : ProcessCall α) : Prop where
  pcm : it.pcm = pcm
  resampler : it.resampler = resampler
  echo : it.echo = call.echo
  numPreprocessors : it.numPreprocessors = call.numPreprocessors
  frames : it.frames = call.frames
  framesWr : it.framesWr < it.frames
  pass : it.pass ∈ call.passes

variable {pcm resampler} {R : Capture α → List (Iteration α) → Capture α → Prop}

/-- What every iteration of a call puts in front of a relation of streams, the call does. -/
theorem ProcessCall.cons_induction {call : ProcessCall α} (its : List (Iteration α))
    (c' : Capture α)
    (hcons : ∀ it : Iteration α, it.Of pcm resampler call → ∀ its, R it.after its c' →
      R it.before (it :: its) c')
    {passes : List (ProcessPass α)} (hp : ∀ p ∈ passes, p ∈ call.passes) (framesWr : Nat)
    (dst : List α) (c : Capture α)
    (h : R (processFrames pcm resampler call.echo call.numPreprocessors call.frames passes framesWr
      dst c).capture its c') :
    R c (call.iterationsFrom pcm resampler passes framesWr c ++ its) c' := by
  induction passes generalizing framesWr dst c with
  | nil => exact h
  | cons p passes ih =>
    simp only [processFrames, iterationsFrom] at h ⊢
    split at h
    · next hle =>
      rw [if_pos hle]
      exact h
    · next hlt =>
      rw [if_neg hlt, List.cons_append]
      obtain ⟨he, hc, -⟩ := processPass_out pcm resampler call.echo call.numPreprocessors
        call.frames framesWr p dst c
      refine hcons ⟨pcm, resampler, call.echo, call.numPreprocessors, call.frames, framesWr, p, c⟩
        ⟨rfl, rfl, rfl, rfl, rfl, not_le.mp hlt, hp p (List.mem_cons_self ..)⟩ _ ?_
      simp only [Iteration.ends, Iteration.after]
      generalize processPass pcm resampler call.echo call.numPreprocessors call.frames framesWr p
        dst c = r at he hc h
      generalize processPass pcm resampler call.echo call.numPreprocessors call.frames framesWr p
        [] c = r' at he hc ⊢
      obtain ⟨e, out, d⟩ := r
      obtain ⟨e', out', d'⟩ := r'
      obtain rfl : e = e' := he
      obtain rfl : d = d' := hc
      cases e with
      | hung => exact h
      | failed ret => exact h
      | next framesWr => exact ih (fun q hq => hp q (List.mem_cons_of_mem _ hq)) framesWr out d h

/-- A relation of streams that every iteration can be put in front of holds of a session. -/
theorem session_induction {calls : List (ProcessCall α)} (hnil : ∀ c, R c [] c)
    (hcons : ∀ call ∈ calls, ∀ it : Iteration α, it.Of pcm resampler call → ∀ its c',
      R it.after its c' → R it.before (it :: its) c') (c : Capture α) :
    R c (sessionIterations pcm resampler calls c) (sessionEnd pcm resampler calls c) := by
  induction calls generalizing c with
  | nil => exact hnil c
  | cons call calls ih =>
    have hcall : ∀ {its c'}, R (call.run pcm resampler c).capture its c' →
        R c (call.iterations pcm resampler c ++ its) c' := fun h =>
      ProcessCall.cons_induction _ _ (fun it hit its => hcons call (List.mem_cons_self ..) it hit its _)
        (fun _ hp => hp) 0 call.dst c h
    rw [sessionIterations, session, sessionEnd, List.flatMap_cons]
    split
    · exact hcall (ih (fun call hc => hcons call (List.mem_cons_of_mem _ hc)) _)
    · exact hcall (hnil _)

end

end P970.Audio
