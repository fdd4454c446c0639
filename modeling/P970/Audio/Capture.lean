import P970.Audio.Mixer

/-!
# The read side of an input stream

From `get_next_buffer` up to the three read paths of `in_read`. Buffers hold
whole frames; `Capture.mic` lists the frames the driver returns, in the order
`pcm_read` returns them and as they stand in `in->buffer` after `remix_func`,
and `captured` counts those returned so far.

What the drivers, the resampler, the echo reference and the preprocessors do is
given from outside, one record per pass of a loop (`ReadPass`, `ProcessPass`),
within their contracts: `pcm_read` fills the whole request or fails with a
negative status, an effect consumes at most what it is offered and produces at
most what it is asked for, an echo read delivers at most the requested count. A
loop whose records run out has not returned yet (`none`).
-/

namespace P970.Audio

/-- What a driver call returns: 0 or a negative error. -/
abbrev Status := { st : Int // st ≤ 0 }

def Status.ok : Status := ⟨0, Int.le_refl 0⟩

/-- Bookkeeping for the properties; the code has none of it. -/
structure Track (α : Type) where
  /-- The microphone frames copied to the client or consumed by the preprocessors, in order,
  each with the number captured before its capture session started. -/
  handed : List (Nat × α)
  /-- How many frames had been captured at the last successful start. -/
  session : Nat
  /-- A start, or a direct read of frames, since the last `process_frames` that had to return
  some. -/
  resumed : Bool
  pcmUses : Nat
  echoUses : Nat
  /-- Times the `in->pcm == NULL` branch was taken. -/
  noDev : Nat

structure Capture (α : Type) where
  periodSize : Nat
  buffer : List α
  framesIn : Nat
  readStatus : Int
  procBuf : List α
  procBufSize : Nat
  procFramesIn : Nat
  refBuf : List α
  refBufSize : Nat
  refFramesIn : Nat
  mic : Nat → α
  captured : Nat
  track : Track α

/-- `struct resampler_buffer`: the frames from the pointer on, and how many of them count. -/
structure ResamplerBuffer (α : Type) where
  raw : Option (List α)
  frameCount : Nat

/-- One pass of the loop of `read_frames`. -/
structure ReadPass (α : Type) where
  /-- The status of the `pcm_read` of the pass, should it make one. -/
  status : Status
  /-- The resampler's calls of its provider: frames asked for, frames given back as used, status. -/
  provider : List (Nat × Nat × Status)
  resample : List α → List α

/-- One pass of the loop of `process_frames`; preprocessors are numbered from 0. -/
structure ProcessPass (α : Type) where
  reads : List (ReadPass α)
  echoRead : Nat → Status × List α
  echoRead_le : ∀ n, (echoRead n).2.length ≤ n
  /-- `process_reverse` of each preprocessor that has one: frames consumed of those offered. -/
  reverse : Nat → Option (List α → Nat)
  reverse_le : ∀ k f, reverse k = some f → ∀ xs, f xs ≤ xs.length
  /-- `process`: frames consumed of those offered, and the frames produced. -/
  process : Nat → List α → Nat → Nat × List α
  consumed_le : ∀ k xs room, (process k xs room).1 ≤ xs.length
  produced_le : ∀ k xs room, (process k xs room).2.length ≤ room

/-- All of the frames offered are consumed. -/
theorem reverse_length_le {α : Type} (_ : Nat) (f : List α → Nat) (h : some List.length = some f)
    (xs : List α) : f xs ≤ xs.length := by
  cases h
  exact Nat.le_refl _

/-- Preprocessors that hand on all they can. -/
def ProcessPass.copy {α : Type} [Zero α] : ProcessPass α where
  reads := [⟨.ok, [], id⟩]
  echoRead n := (.ok, List.replicate n 0)
  echoRead_le n := by simp
  reverse _ := some List.length
  reverse_le := reverse_length_le
  process _ xs room := (min xs.length room, xs.take room)
  consumed_le _ _ _ := Nat.min_le_left ..
  produced_le _ xs room := List.length_take_le room xs

section
variable {α : Type}

/-- The next `n` frames the driver will return. -/
def Capture.fresh (c : Capture α) (n : Nat) : List α :=
  (List.range n).map fun j => c.mic (c.captured + j)

/-- Writes `xs` into `buf` from frame `off` on. -/
def writeAt (buf : List α) (off : Nat) (xs : List α) : List α :=
  buf.take off ++ xs ++ buf.drop (off + xs.length)

def Capture.usePcm (c : Capture α) : Capture α :=
  { c with track := { c.track with pcmUses := c.track.pcmUses + 1 } }

def pcmRead (frames : Nat) (status : Status) (c : Capture α) : List α × Capture α :=
  let c := c.usePcm
  if status.1 = 0 then (c.fresh frames, { c with captured := c.captured + frames }) else ([], c)

/-- The tail of `get_next_buffer`: what is buffered, cut to `frames_in`. -/
def provide (b : ResamplerBuffer α) (c : Capture α) : Int × ResamplerBuffer α × Capture α :=
  (c.readStatus, ⟨some (c.buffer.drop (c.periodSize - c.framesIn)),
    if b.frameCount > c.framesIn then c.framesIn else b.frameCount⟩, c)

def getNextBuffer (pcm : Option Nat) (status : Status) (b : ResamplerBuffer α) (c : Capture α) :
    Int × ResamplerBuffer α × Capture α :=
  match pcm with
  | none =>
    (-enodev, ⟨none, 0⟩,
      { c with readStatus := -enodev, track := { c.track with noDev := c.track.noDev + 1 } })
  | some _ =>
    if c.framesIn = 0 then
      let r := pcmRead c.periodSize status c
      let c := { r.2 with readStatus := status.1 }
      if status.1 ≠ 0 then (status.1, ⟨none, 0⟩, c)
      else provide b { c with buffer := r.1, framesIn := c.periodSize }
    else provide b c

def releaseBuffer (b : ResamplerBuffer α) (c : Capture α) : Capture α :=
  { c with framesIn := c.framesIn - b.frameCount }

/-- The resampler pulling frames from its provider, until it is refused. -/
def pullFrames (pcm : Option Nat) : List (Nat × Nat × Status) → Capture α → List α × Capture α
  | [], c => ([], c)
  | (ask, use, status) :: calls, c =>
    let r := getNextBuffer pcm status ⟨none, ask⟩ c
    match r.2.1.raw with
    | none => ([], r.2.2)
    | some xs =>
      let used := min use r.2.1.frameCount
      let rest := pullFrames pcm calls (releaseBuffer ⟨some xs, used⟩ r.2.2)
      (xs.take used ++ rest.1, rest.2)

/-- One pass of `read_frames`: the frames written, `frames_rd` and the stream. -/
def readPass (pcm : Option Nat) (resampler : Bool) (framesRd : Nat) (p : ReadPass α)
    (c : Capture α) : List α × Nat × Capture α :=
  if resampler then
    let r := pullFrames pcm p.provider c
    let out := (p.resample r.1).take framesRd
    (out, out.length, r.2)
  else
    let r := getNextBuffer pcm p.status ⟨none, framesRd⟩ c
    let c := releaseBuffer r.2.1 r.2.2
    match r.2.1.raw with
    | some xs => (xs.take r.2.1.frameCount, r.2.1.frameCount, c)
    | none => ([], framesRd, c)

/-- The result of a loop: what it returned, what it wrote to its destination, the stream. -/
structure Result (α : Type) where
  ret : Option Int
  out : List α
  capture : Capture α

/-- `read_frames`, from `frames_wr` frames already written (those of `out`) on. -/
def readFrames (pcm : Option Nat) (resampler : Bool) (frames : Nat) :
    List (ReadPass α) → Nat → List α → Capture α → Result α
  | [], framesWr, out, c => ⟨if frames ≤ framesWr then some framesWr else none, out, c⟩
  | p :: passes, framesWr, out, c =>
    if frames ≤ framesWr then ⟨some framesWr, out, c⟩
    else
      let r := readPass pcm resampler (frames - framesWr) p c
      if r.2.2.readStatus ≠ 0 then ⟨some r.2.2.readStatus, out ++ r.1, r.2.2⟩
      else readFrames pcm resampler frames passes (framesWr + r.2.1) (out ++ r.1) r.2.2

/-! ## The preprocessors -/

section
variable [Zero α]

/-- `realloc` to `size` frames; the new ones hold anything. -/
def grow (buf : List α) (size : Nat) : List α := buf ++ List.replicate (size - buf.length) 0

/-- The delay it returns only goes to the preprocessors, and is left out. -/
def updateEchoReference (frames : Nat) (p : ProcessPass α) (c : Capture α) : Capture α :=
  if c.refFramesIn < frames then
    let c := if c.refBufSize < frames then
      { c with refBufSize := frames, refBuf := grow c.refBuf frames } else c
    -- get_capture_delay asks the pcm for its time stamp
    let c := c.usePcm
    let c := { c with track := { c.track with echoUses := c.track.echoUses + 1 } }
    let r := p.echoRead (frames - c.refFramesIn)
    if r.1.1 = 0 then
      { c with
        refBuf := writeAt c.refBuf c.refFramesIn r.2
        refFramesIn := c.refFramesIn + r.2.length }
    else c
  else c

/-- The preprocessors `k, k + 1, …` (`n` of them) offered `count` frames of `ref_buf`. -/
def reverseChain (p : ProcessPass α) (buf : List α) : Nat → Nat → Nat → Nat
  | _, 0, count => count
  | k, n + 1, count =>
    reverseChain p buf (k + 1) n
      (match p.reverse k with
       | none => count
       | some f => f (buf.take count))

def pushEchoReference (numPreprocessors frames : Nat) (p : ProcessPass α) (c : Capture α) :
    Nat × Capture α :=
  let c := updateEchoReference frames p c
  let frames := if c.refFramesIn < frames then c.refFramesIn else frames
  let count := reverseChain p c.refBuf 0 numPreprocessors frames
  let left := c.refFramesIn - count
  let refBuf := if left = 0 then c.refBuf
    else writeAt c.refBuf 0 ((c.refBuf.drop count).take left)
  (count, { c with refFramesIn := left, refBuf := refBuf })

/-- The preprocessors `k, k + 1, …` (`n` of them) over `proc_buf`: frames consumed, frames
produced, and the output buffer. -/
def processChain (p : ProcessPass α) (buf : List α) : Nat → Nat → Nat → Nat → List α →
    Nat × Nat × List α
  | _, 0, inCount, outCount, out => (inCount, outCount, out)
  | k, n + 1, inCount, outCount, out =>
    let r := p.process k (buf.take inCount) outCount
    processChain p buf (k + 1) n r.1 r.2.length (writeAt out 0 r.2)

/-- How a pass of `process_frames` ends. -/
inductive PassEnd where
  /-- Still inside `read_frames`. -/
  | hung
  | failed (ret : Int)
  | next (framesWr : Nat)

/-- The reload of `proc_buf` at the head of a pass: the outcome of `read_frames`, if called. -/
def reload (pcm : Option Nat) (resampler : Bool) (frames : Nat) (p : ProcessPass α)
    (c : Capture α) : Option Int × Capture α :=
  if c.procFramesIn < frames then
    let c := if c.procBufSize < frames then
      { c with procBufSize := frames, procBuf := grow c.procBuf frames } else c
    let r := readFrames pcm resampler (frames - c.procFramesIn) p.reads 0 [] c
    let c := { r.capture with procBuf := writeAt r.capture.procBuf c.procFramesIn r.out }
    match r.ret with
    | some n => (some n, if n < 0 then c else { c with procFramesIn := c.procFramesIn + n.toNat })
    | none => (none, c)
  else (some 0, c)

/-- The frames of `proc_buf` the preprocessors consumed, `count` of them, leave it. -/
def consume (count : Nat) (c : Capture α) : Capture α :=
  let left := c.procFramesIn - count
  { c with
    procFramesIn := left
    procBuf := if left = 0 then c.procBuf
      else writeAt c.procBuf 0 ((c.procBuf.drop count).take left)
    track := { c.track with
      handed := c.track.handed ++ (c.procBuf.take count).map fun x => (c.track.session, x) } }

/-- One pass of `process_frames`, `dst` being the client's buffer. -/
def processPass (pcm : Option Nat) (resampler echo : Bool) (numPreprocessors frames framesWr : Nat)
    (p : ProcessPass α) (dst : List α) (c : Capture α) : PassEnd × List α × Capture α :=
  match reload pcm resampler frames p c with
  | (none, c) => (.hung, dst, c)
  | (some ret, c) =>
    if ret < 0 then (.failed ret, dst, c)
    else
      -- as many microphone frames as reference frames were taken
      let q := if echo then pushEchoReference numPreprocessors c.procFramesIn p c
        else (c.procFramesIn, c)
      let r := processChain p q.2.procBuf 0 numPreprocessors q.1 (frames - framesWr)
        (dst.drop framesWr)
      (.next (framesWr + r.2.1), dst.take framesWr ++ r.2.2, consume r.1 q.2)

/-- `process_frames`, from `frames_wr` on. -/
def processFrames (pcm : Option Nat) (resampler echo : Bool) (numPreprocessors frames : Nat) :
    List (ProcessPass α) → Nat → List α → Capture α → Result α
  | [], framesWr, dst, c => ⟨if frames ≤ framesWr then some framesWr else none, dst, c⟩
  | p :: passes, framesWr, dst, c =>
    if frames ≤ framesWr then ⟨some framesWr, dst, c⟩
    else
      match processPass pcm resampler echo numPreprocessors frames framesWr p dst c with
      | (.hung, dst, c) => ⟨none, dst, c⟩
      | (.failed ret, dst, c) => ⟨some ret, dst, c⟩
      | (.next framesWr, dst, c) =>
        processFrames pcm resampler echo numPreprocessors frames passes framesWr dst c

end

/-! ## What the loops leave alone -/

section
variable {β : Type} {pcm : Option Nat} {f : Capture α → β}

/-- `get_next_buffer` and `release_buffer` change nothing that `f` looks at. -/
structure KeptByReads (pcm : Option Nat) (f : Capture α → β) : Prop where
  getNextBuffer : ∀ status b c, f (getNextBuffer pcm status b c).2.2 = f c
  releaseBuffer : ∀ b c, f (releaseBuffer b c) = f c

namespace KeptByReads

theorem pullFrames (h : KeptByReads pcm f) (calls : List (Nat × Nat × Status)) (c : Capture α) :
    f (pullFrames pcm calls c).2 = f c := by
  induction calls generalizing c with
  | nil => rfl
  | cons x calls ih =>
    obtain ⟨ask, use, status⟩ := x
    simp only [Audio.pullFrames]
    split
    · exact h.getNextBuffer status _ c
    · rw [ih, h.releaseBuffer]
      exact h.getNextBuffer status _ c

theorem readPass (h : KeptByReads pcm f) (resampler : Bool) (n : Nat) (p : ReadPass α)
    (c : Capture α) : f (readPass pcm resampler n p c).2.2 = f c := by
  simp only [Audio.readPass]
  split
  · exact h.pullFrames _ c
  · split <;> exact (h.releaseBuffer _ _).trans (h.getNextBuffer _ _ c)

theorem readFrames (h : KeptByReads pcm f) (resampler : Bool) (frames : Nat)
    (passes : List (ReadPass α)) (n : Nat) (out : List α) (c : Capture α) :
    f (readFrames pcm resampler frames passes n out c).capture = f c := by
  induction passes generalizing n out c with
  | nil => rfl
  | cons p passes ih =>
    simp only [Audio.readFrames]
    split
    · rfl
    · split
      · exact h.readPass _ _ p c
      · rw [ih]
        exact h.readPass _ _ p c

end KeptByReads

/-- Neither do the buffers of `process_frames` and their counts matter to `f`, nor the bookkeeping of
the frames handed on and of the uses of the pcm and the reference. -/
structure KeptByPasses (pcm : Option Nat) (f : Capture α → β) : Prop where
  reads : KeptByReads pcm f
  bufs : ∀ (c : Capture α) procBuf procBufSize procFramesIn refBuf refBufSize refFramesIn handed
    pcmUses echoUses, f { c with
      procBuf := procBuf, procBufSize := procBufSize, procFramesIn := procFramesIn
      refBuf := refBuf, refBufSize := refBufSize, refFramesIn := refFramesIn
      track := { c.track with handed := handed, pcmUses := pcmUses, echoUses := echoUses } } = f c

namespace KeptByPasses

variable [Zero α]

theorem reload (h : KeptByPasses pcm f) (resampler : Bool) (frames : Nat) (p : ProcessPass α)
    (c : Capture α) : f (reload pcm resampler frames p c).2 = f c := by
  unfold Audio.reload
  split
  · -- the stream whose proc_buf has grown
    obtain ⟨d, hd, hf⟩ : ∃ d, (if c.procBufSize < frames then
        { c with procBufSize := frames, procBuf := grow c.procBuf frames } else c) = d ∧
        f d = f c := by
      refine ⟨_, rfl, ?_⟩
      split
      · exact h.bufs c ..
      · rfl
    have hread := h.reads.readFrames resampler (frames - d.procFramesIn) p.reads 0 [] d
    simp only [hd]
    generalize readFrames pcm resampler (frames - d.procFramesIn) p.reads 0 [] d = r at hread ⊢
    obtain ⟨ret, out, e⟩ := r
    cases ret with
    | none => exact (h.bufs e ..).trans (hread.trans hf)
    | some n =>
      simp only
      split <;> exact (h.bufs e ..).trans (hread.trans hf)
  · rfl

theorem updateEchoReference (h : KeptByPasses pcm f) (frames : Nat) (p : ProcessPass α)
    (c : Capture α) : f (updateEchoReference frames p c) = f c := by
  unfold Audio.updateEchoReference
  split
  · simp only [Capture.usePcm]
    split <;> split <;> exact h.bufs c ..
  · rfl

theorem processPass (h : KeptByPasses pcm f) (resampler echo : Bool) (np frames n : Nat)
    (p : ProcessPass α) (dst : List α) (c : Capture α) :
    f (processPass pcm resampler echo np frames n p dst c).2.2 = f c := by
  have hr := h.reload resampler frames p c
  unfold Audio.processPass
  split
  · next heq => rwa [heq] at hr
  · next d heq =>
    rw [heq] at hr
    split
    · exact hr
    · refine (h.bufs _ ..).trans ?_
      split
      · exact (h.bufs _ ..).trans ((h.updateEchoReference _ p _).trans hr)
      · exact hr

theorem processFrames (h : KeptByPasses pcm f) (resampler echo : Bool) (np frames : Nat)
    (passes : List (ProcessPass α)) (n : Nat) (dst : List α) (c : Capture α) :
    f (processFrames pcm resampler echo np frames passes n dst c).capture = f c := by
  induction passes generalizing n dst c with
  | nil => rfl
  | cons p passes ih =>
    have hp := h.processPass resampler echo np frames n p dst c
    simp only [Audio.processFrames]
    split
    · rfl
    · split
      · next heq => rwa [heq] at hp
      · next heq => rwa [heq] at hp
      · next heq =>
        rw [heq] at hp
        rw [ih, hp]

end KeptByPasses

theorem noDev_pcmRead (frames : Nat) (status : Status) (c : Capture α) :
    (pcmRead frames status c).2.track.noDev = c.track.noDev := by
  simp only [pcmRead]
  split <;> rfl

/-- With a pcm, the `in->pcm == NULL` branch is not taken. -/
theorem noDev_kept (h : Nat) : KeptByPasses (some h) fun c : Capture α => c.track.noDev where
  reads :=
    { getNextBuffer := fun status b c => by
        simp only [Audio.getNextBuffer]
        split
        · split <;> exact noDev_pcmRead _ _ c
        · rfl
      releaseBuffer := fun _ _ => rfl }
  bufs _ _ _ _ _ _ _ _ _ _ := rfl

end

end

end P970.Audio
