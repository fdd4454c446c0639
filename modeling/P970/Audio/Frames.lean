import P970.Audio.Periods

/-!
# Frames and bytes

`Capture` holds whole frames as they stand after `remix_func`; the code holds
bytes of hardware frames. When the frames are byte strings of the client's frame
size and those the microphone delivers are what the remixed periods are cut into
(`BufferPass.frames`), both do the same (`PeriodBuffer.Holds`): each pass copies
the same bytes, and so do all calls of `read_frames` in turn, which return the same
(`readCalls_holds`).
-/

namespace P970.Audio

section
variable {β : Type}

/-- The frames the pass reads, should it read any. -/
def BufferPass.frames (p : BufferPass β) : List (List β) :=
  if p.before.pcm.isSome ∧ p.before.framesIn = 0 ∧ p.read.status.1 = 0 then
    (List.range p.before.periodSize).map fun k =>
      ((p.read.fill (p.before.periodSize * p.before.hwFrameSize)).drop
        (k * p.before.hwFrameSize)).take p.before.frameSize
  else []

namespace PeriodBuffer

/-- The frames of `c` that count are the bytes of `b` that are pending. -/
structure Holds (b : PeriodBuffer β) (c : Capture (List β)) : Prop where
  periodSize : c.periodSize = b.periodSize
  framesIn : c.framesIn = b.framesIn
  readStatus : c.readStatus = b.readStatus
  width : ∀ f ∈ c.buffered, f.length = b.frameSize
  bytes : c.buffered.flatten = b.pending

variable {b : PeriodBuffer β} {c : Capture (List β)}

/-- With nothing pending on either side, as when a stream is opened. -/
theorem Holds.of_empty (hc : c.Shape) (hp : c.periodSize = b.periodSize)
    (hs : c.readStatus = b.readStatus) (h0 : c.framesIn = 0) (hb : b.framesIn = 0) : b.Holds c := by
  have hnil : c.buffered = [] := List.length_eq_zero_iff.mp (hc.buffered.trans h0)
  refine ⟨hp, h0.trans hb.symm, hs, fun f hf => ?_, ?_⟩
  · rw [hnil] at hf
    cases hf
  · rw [hnil, pending_of_zero hb]
    rfl

/-- `release_buffer` of `n` frames; these are the first of those that count. -/
theorem Holds.release (hv : b.Valid) (h : b.Holds c) {n : Nat} (hn : n ≤ b.framesIn)
    (raw : Option (List (List β))) :
    (b.releaseBuffer n).Holds (Audio.releaseBuffer ⟨raw, n⟩ c) ∧
      (c.buffered.take n).flatten = b.pending.take (n * b.frameSize) := by
  obtain ⟨hin, -, -, hpend⟩ := release_spec hv hn
  obtain ⟨htake, hdrop⟩ := take_flatten h.width n
  have hbuf : (Audio.releaseBuffer ⟨raw, n⟩ c).buffered = c.buffered.drop n := by
    have h1 := h.framesIn
    have h2 := h.periodSize
    have h3 := hv.framesIn
    show c.buffer.drop (c.periodSize - (c.framesIn - n)) = _
    rw [Capture.buffered, List.drop_drop,
      show c.periodSize - c.framesIn + n = c.periodSize - (c.framesIn - n) by omega]
  refine ⟨⟨h.periodSize, ?_, h.readStatus, ?_, ?_⟩, ?_⟩
  · rw [hin, ← h.framesIn]
    rfl
  · rw [hbuf]
    exact fun f hf => h.width f (List.mem_of_mem_drop hf)
  · rw [hbuf, hpend, ← hdrop, h.bytes]
  · rw [← htake, h.bytes]

end PeriodBuffer

namespace BufferPass

open PeriodBuffer

variable {p : BufferPass β} {c : Capture (List β)}

theorem flatten_frames (p : BufferPass β) : p.frames.flatten = p.fetched.flatten := by
  unfold frames fetched
  split
  · rw [List.flatten_singleton]
    exact (List.flatMap_def ..).symm
  · rfl

theorem width_frames (h : p.before.Valid) : ∀ f ∈ p.frames, f.length = p.before.frameSize := by
  intro f hf
  unfold frames at hf
  split at hf
  · obtain ⟨k, hk, rfl⟩ := List.mem_map.mp hf
    have hk : k < p.before.periodSize := List.mem_range.mp hk
    have hle := h.sizes.2.1
    have hroom : (k + 1) * p.before.hwFrameSize ≤ p.before.periodSize * p.before.hwFrameSize :=
      Nat.mul_le_mul_right _ hk
    rw [Nat.succ_mul] at hroom
    rw [List.length_take, List.length_drop, p.read.length_fill]
    omega
  · cases hf

/-- `get_next_buffer` in frames and in bytes. -/
theorem got_holds (hv : p.before.Valid) (h : p.before.Holds c)
    (hm : c.fresh p.frames.length = p.frames) {r : Int × ResamplerBuffer (List β) × Capture (List β)}
    (hr : Audio.getNextBuffer p.before.pcm p.read.status ⟨none, p.framesRd⟩ c = r) :
    p.got.2.2.Holds r.2.2 ∧ r.2.1 = ⟨p.got.1.map fun _ => r.2.2.buffered, p.got.2.1⟩ ∧
      r.2.2.mic = c.mic ∧ r.2.2.captured = c.captured + p.frames.length := by
  have hprov : ∀ {g : PeriodBuffer β} {d : Capture (List β)}, g.Holds d →
      (Audio.provide ⟨none, p.framesRd⟩ d).2.1 =
        ⟨(g.provide p.framesRd).1.map fun _ => d.buffered, (g.provide p.framesRd).2.1⟩ := by
    intro g d hg
    rw [Audio.provide, PeriodBuffer.provide, Capture.buffered, hg.framesIn]
    rfl
  subst hr
  cases hp : p.before.pcm with
  | none =>
    have hf : p.frames = [] := if_neg fun hc => (by rw [hp] at hc; cases hc.1)
    have hg : p.got = _ := getNextBuffer_closed p.read p.framesRd hp
    rw [hf, hg]
    exact ⟨⟨h.periodSize, h.framesIn, rfl, h.width, h.bytes⟩, rfl, rfl, rfl⟩
  | some n =>
    by_cases hin : p.before.framesIn = 0
    · have hc0 : c.framesIn = 0 := h.framesIn.trans hin
      by_cases hst : p.read.status.1 = 0
      · have hf : p.frames.length = p.before.periodSize := by
          have hf : p.frames = _ := if_pos ⟨by rw [hp]; rfl, hin, hst⟩
          rw [hf, List.length_map, List.length_range]
        have hg : p.got = _ := getNextBuffer_filled p.read p.framesRd hp hin hst
        obtain ⟨h1, h2, h3, h4, h5⟩ :=
          remix_spec (valid_pcmRead p.read hv (Nat.le_refl p.before.periodSize)) rfl
        obtain ⟨hfs, -, hps, -⟩ := sizes_congr h1
        have hfet : p.fetched = [p.period] := if_pos ⟨by rw [hp]; rfl, hin, hst⟩
        -- the stream once the period is in `in->buffer`
        obtain ⟨d, hd⟩ : ∃ d : Capture (List β), d = { c.usePcm with
            captured := c.captured + c.periodSize, readStatus := p.read.status.1,
            buffer := c.fresh c.periodSize, framesIn := c.periodSize } := ⟨_, rfl⟩
        have hc : Audio.getNextBuffer (some n) p.read.status ⟨none, p.framesRd⟩ c =
            Audio.provide ⟨none, p.framesRd⟩ d := by
          rw [hd, Audio.getNextBuffer]
          simp only [if_pos hc0, Audio.pcmRead, if_pos hst, if_neg (not_not.mpr hst)]
          rfl
        have hbuf : d.buffered = p.frames := by
          rw [← hm, hf, ← h.periodSize, hd]
          show (c.fresh c.periodSize).drop (c.periodSize - c.periodSize) = _
          rw [Nat.sub_self, List.drop_zero]
        have hholds : (remix { p.before.pcmRead p.read with
            framesIn := p.before.periodSize }).Holds d := by
          refine ⟨?_, ?_, ?_, ?_, ?_⟩
          · rw [hd, hps]
            exact h.periodSize
          · rw [hd, h2]
            exact h.periodSize
          · rw [hd, h3]
            rfl
          · rw [hbuf, hfs]
            exact width_frames hv
          · rw [hbuf, flatten_frames, hfet, List.flatten_singleton, h5]
            exact (strided_pcmRead p.read hv).symm
        rw [hg, hc, hf]
        refine ⟨hholds, hprov hholds, by rw [hd]; rfl, ?_⟩
        rw [hd, ← h.periodSize]
        rfl
      · have hf : p.frames = [] := if_neg fun hc => hst hc.2.2
        have hg : p.got = _ := getNextBuffer_failed p.read p.framesRd hp hin hst
        have hc : Audio.getNextBuffer (some n) p.read.status ⟨none, p.framesRd⟩ c =
            (p.read.status.1, ⟨none, 0⟩, { c.usePcm with readStatus := p.read.status.1 }) := by
          rw [Audio.getNextBuffer]
          simp only [if_pos hc0, Audio.pcmRead, if_neg hst, if_pos (show p.read.status.1 ≠ 0 from hst)]
        rw [hf, hg, hc]
        have hq : (p.before.pcmRead p.read).pending = [] := pending_of_zero hin
        refine ⟨⟨h.periodSize, h.framesIn, rfl, h.width, ?_⟩, rfl, rfl, rfl⟩
        exact h.bytes.trans ((pending_of_zero hin).trans hq.symm)
    · have hf : p.frames = [] := if_neg fun hc => hin hc.2.1
      have hg : p.got = _ := getNextBuffer_kept p.read p.framesRd hp hin
      have hc : Audio.getNextBuffer (some n) p.read.status ⟨none, p.framesRd⟩ c =
          Audio.provide ⟨none, p.framesRd⟩ c := if_neg (by rw [h.framesIn]; exact hin)
      rw [hf, hg, hc]
      exact ⟨h, hprov h, rfl, rfl⟩

/-- A pass of `read_frames` in frames and in bytes. -/
theorem pass_holds (hv : p.before.Valid) (h : p.before.Holds c)
    (hm : c.fresh p.frames.length = p.frames) {r : List (List β) × Nat × Capture (List β)}
    (hr : readPass p.before.pcm false p.framesRd ⟨p.read.status, [], id⟩ c = r) :
    p.after.Holds r.2.2 ∧ r.1.flatten = p.out ∧ r.2.1 = p.count ∧ r.2.2.mic = c.mic ∧
      r.2.2.captured = c.captured + p.frames.length := by
  obtain ⟨q, hq⟩ : ∃ q, Audio.getNextBuffer p.before.pcm p.read.status ⟨none, p.framesRd⟩ c = q :=
    ⟨_, rfl⟩
  obtain ⟨h1, h2, h3, h4⟩ := got_holds hv h hm hq
  unfold readPass at hr
  simp only [Bool.false_eq_true, if_false, hq, h2] at hr
  rcases got_cases hv with ⟨g, hg, hgv, -⟩ | ⟨g, hg, hgv, hset, -⟩
  · rw [hg] at hr h1
    simp only [Option.map_none] at hr
    subst hr
    simp only [after, out, count, hg]
    exact ⟨(h1.release hgv (Nat.zero_le _) none).1, List.flatten_nil, trivial, h3, h4⟩
  · obtain ⟨n, hn⟩ : ∃ n, n = if p.framesRd > g.framesIn then g.framesIn else p.framesRd := ⟨_, rfl⟩
    have hle : n ≤ g.framesIn := by
      rw [hn]
      split <;> omega
    have hgot : p.got = (some (sizeSub g.periodSize g.framesIn * g.channels * 2), n, g) := by
      rw [hg, hn]
      rfl
    obtain ⟨hfs, -, -, -⟩ := sizes_congr hset
    obtain ⟨-, -, htake, -⟩ := release_spec hgv hle
    rw [hgot] at hr h1
    simp only [Option.map_some] at hr
    subst hr
    obtain ⟨hrel, hflat⟩ := h1.release hgv hle (some q.2.2.buffered)
    simp only [after, out, count, hgot]
    refine ⟨hrel, ?_, trivial, h3, h4⟩
    rw [hflat, ← hfs, htake]

end BufferPass

/-- The frames the passes read. -/
def framesRead (passes : List (BufferPass β)) : List (List β) := passes.flatMap BufferPass.frames

theorem fresh_add {α : Type} (c : Capture α) (m n : Nat) : c.fresh (m + n) =
    c.fresh m ++ (List.range n).map fun j => c.mic (c.captured + m + j) := by
  simp only [Capture.fresh, List.range_add, List.map_append, List.map_map, Function.comp_def,
    Nat.add_assoc]

/-- `read_frames` in frames and in bytes. -/
theorem readFrames_holds {b : PeriodBuffer β} {c : Capture (List β)} (hv : b.Valid) (h : b.Holds c)
    (frames : Nat) (reads : List (PcmRead β)) (framesWr : Nat) (dst : List β)
    (out : List (List β)) (hm : c.fresh (framesRead (b.readPasses frames reads framesWr)).length =
      framesRead (b.readPasses frames reads framesWr)) {r : Result (List β)}
    (hr : readFrames b.pcm false frames (reads.map fun read => ⟨read.status, [], id⟩) framesWr
      out c = r) :
    (b.readFrames frames reads framesWr dst).buffer.Holds r.capture ∧
      r.ret = (b.readFrames frames reads framesWr dst).ret ∧
      r.out.flatten =
        out.flatten ++ (b.readPasses frames reads framesWr).flatMap BufferPass.out ∧
      r.capture.mic = c.mic ∧ r.capture.captured =
        c.captured + (framesRead (b.readPasses frames reads framesWr)).length := by
  induction reads generalizing framesWr dst out b c with
  | nil =>
    subst hr
    exact ⟨h, rfl, by simp [readFrames, PeriodBuffer.readPasses], rfl, rfl⟩
  | cons read reads ih =>
    rw [List.map_cons, readFrames] at hr
    rw [PeriodBuffer.readPasses] at hm ⊢
    rw [PeriodBuffer.readFrames]
    split
    · next hge =>
      rw [if_pos hge] at hr
      subst hr
      exact ⟨h, rfl, by simp, rfl, rfl⟩
    · next hlt =>
      obtain ⟨p, hp⟩ : ∃ p : BufferPass β, p = ⟨b, frames - framesWr, read⟩ := ⟨_, rfl⟩
      obtain ⟨q, hq⟩ : ∃ q, readPass b.pcm false (frames - framesWr) ⟨read.status, [], id⟩ c = q :=
        ⟨_, rfl⟩
      have hb : p.before = b := by rw [hp]
      have hread : p.read = read := by rw [hp]
      have hrd : p.framesRd = frames - framesWr := by rw [hp]
      have hpv : p.before.Valid := hb ▸ hv
      rw [if_neg hlt] at hr hm
      simp only [hq] at hr
      simp only [← hp] at hm ⊢
      obtain ⟨rest, hrest⟩ : ∃ rest, rest = if p.after.readStatus ≠ 0 then [] else
        p.after.readPasses frames reads (framesWr + p.count) := ⟨_, rfl⟩
      rw [← hrest] at hm ⊢
      have hcons : framesRead (p :: rest) = p.frames ++ framesRead rest := List.flatMap_cons
      rw [hcons, List.length_append] at hm ⊢
      rw [fresh_add] at hm
      obtain ⟨hm1, hm2⟩ := List.append_inj hm (length_fresh c _)
      obtain ⟨h1, h2, h3, h4, h5⟩ := BufferPass.pass_holds hpv (hb ▸ h) hm1
        (show _ = q by rw [hb, hread, hrd, hq])
      have hstat : q.2.2.readStatus = p.after.readStatus := h1.readStatus
      have hpcm : p.after.pcm = b.pcm := by
        obtain ⟨-, has, -⟩ := BufferPass.pass_spec hpv
        exact (PeriodBuffer.sizes_congr has).2.2.2.trans (congrArg _ hb)
      rw [List.flatMap_cons]
      by_cases hst : p.after.readStatus ≠ 0
      · rw [hstat, if_pos hst] at hr
        rw [if_pos hst] at hrest
        subst hr
        rw [if_pos hst, hrest]
        refine ⟨h1, rfl, ?_, h4, h5⟩
        rw [List.flatten_append, h2, List.flatMap_nil, List.append_nil]
      · rw [hstat, if_neg hst, h3, ← hpcm] at hr
        rw [if_neg hst] at hrest
        rw [if_neg hst]
        have hm' : q.2.2.fresh (framesRead rest).length = framesRead rest := by
          rw [Capture.fresh, h4, h5]
          exact hm2
        obtain ⟨i1, i2, i3, i4, i5⟩ := ih (BufferPass.pass_spec hpv).1 h1 (framesWr + p.count)
          (writeAt dst (framesWr * b.frameSize) p.out) (out ++ q.1) (hrest ▸ hm') hr
        rw [← hrest] at i3 i5
        refine ⟨i1, i2, i3.trans ?_, i4.trans h4, ?_⟩
        · rw [List.flatten_append, h2, List.append_assoc]
        · rw [i5, h5, Nat.add_assoc]

/-- What the passes copied stands in the client's buffer, errors included. -/
theorem readFrames_copies {b : PeriodBuffer β} (hv : b.Valid) (frames : Nat)
    (reads : List (PcmRead β)) (framesWr : Nat) (dst : List β)
    (hdst : framesWr * b.frameSize ≤ dst.length) :
    (b.readFrames frames reads framesWr dst).dst.take (framesWr * b.frameSize +
        ((b.readPasses frames reads framesWr).flatMap BufferPass.out).length) =
      dst.take (framesWr * b.frameSize) ++
        (b.readPasses frames reads framesWr).flatMap BufferPass.out := by
  induction reads generalizing framesWr dst b with
  | nil => simp [PeriodBuffer.readFrames, PeriodBuffer.readPasses]
  | cons read reads ih =>
    rw [PeriodBuffer.readFrames, PeriodBuffer.readPasses]
    split
    · simp
    · next hlt =>
      obtain ⟨p, hp⟩ : ∃ p : BufferPass β, p = ⟨b, frames - framesWr, read⟩ := ⟨_, rfl⟩
      have hb : p.before = b := by rw [hp]
      have hrd : p.framesRd = frames - framesWr := by rw [hp]
      have hpv : p.before.Valid := hb ▸ hv
      simp only [← hp]
      by_cases hst : p.after.readStatus ≠ 0
      · simp only [if_pos hst, List.flatMap_singleton]
        exact take_writeAt p.out hdst
      · simp only [if_neg hst, List.flatMap_cons]
        obtain ⟨hav, has, -⟩ := BufferPass.pass_spec hpv
        obtain ⟨hfs, -, -, -⟩ := PeriodBuffer.sizes_congr has
        obtain ⟨-, -, hout⟩ := BufferPass.count_spec hpv (not_not.mp hst) (by omega)
        rw [hb] at hfs hout
        have hoff : framesWr * b.frameSize + p.out.length = (framesWr + p.count) * b.frameSize := by
          rw [hout, Nat.add_mul]
        have hroom := length_writeAt p.out hdst
        have hi := ih hav (framesWr + p.count) (writeAt dst (framesWr * b.frameSize) p.out)
          (by rw [hfs, ← hoff]; exact hroom)
        rw [hfs, ← hoff, take_writeAt p.out hdst] at hi
        rw [List.length_append, ← Nat.add_assoc, hi, List.append_assoc]

end

/-! ## Calls in turn -/

section
variable {β : Type}

/-- The calls in frames: what each returns and copies, and the stream after them. -/
def readCalls (pcm : Option Nat) :
    List (ReadCall β) → Capture (List β) → List (Option Int × List (List β)) × Capture (List β)
  | [], c => ([], c)
  | call :: calls, c =>
    let r := readFrames pcm false call.frames (call.reads.map fun read => ⟨read.status, [], id⟩) 0
      [] c
    let rest := readCalls pcm calls r.capture
    ((r.ret, r.out) :: rest.1, rest.2)

/-- The bytes a call copies. -/
def ReadCall.copied (call : ReadCall β) (b : PeriodBuffer β) : List β :=
  (call.passes b).flatMap BufferPass.out

/-- The frames that the calls read. -/
def sessionFrames (calls : List (ReadCall β)) (b : PeriodBuffer β) : List (List β) :=
  (readSession calls b).flatMap fun x => framesRead (x.1.passes x.2)

/-- A microphone that delivers these frames behind the first `n`. -/
def micOf (n : Nat) (frames : List (List β)) (j : Nat) : List β := (frames[j - n]?).getD []

theorem fresh_micOf (c : Capture (List β)) (frames : List (List β)) :
    ({ c with mic := micOf c.captured frames } : Capture (List β)).fresh frames.length = frames := by
  refine List.ext_getElem (length_fresh _ _) fun j hj hj' => ?_
  simp [Capture.fresh, micOf, hj']

/-- The frames-level stream does what the one in bytes does, when the microphone delivers what the
calls read. -/
theorem readCalls_frames {b : PeriodBuffer β} {c : Capture (List β)} (hv : b.Valid) (h : b.Holds c)
    (calls : List (ReadCall β))
    (hm : c.fresh (sessionFrames calls b).length = sessionFrames calls b) :
    (readSessionEnd calls b).Holds (readCalls b.pcm calls c).2 ∧
      (readCalls b.pcm calls c).1.map (fun x => (x.1, x.2.flatten)) =
        (readSession calls b).map fun x => ((x.1.run x.2).ret, x.1.copied x.2) := by
  induction calls generalizing b c with
  | nil => exact ⟨h, rfl⟩
  | cons call calls ih =>
    obtain ⟨r, hr⟩ : ∃ r, readFrames b.pcm false call.frames
      (call.reads.map fun read => ⟨read.status, [], id⟩) 0 [] c = r := ⟨_, rfl⟩
    have hcons : sessionFrames (call :: calls) b =
        framesRead (call.passes b) ++ sessionFrames calls (call.run b).buffer := List.flatMap_cons
    rw [hcons, List.length_append, fresh_add] at hm
    obtain ⟨hm1, hm2⟩ := List.append_inj hm (length_fresh c _)
    obtain ⟨h1, h2, h3, h4, h5⟩ := readFrames_holds hv h call.frames call.reads 0 call.dst [] hm1 hr
    obtain ⟨hbv, hbs, -⟩ := PeriodBuffer.readFrames_spec call.frames hv call.reads 0 call.dst
    have hpcm : (b.readFrames call.frames call.reads 0 call.dst).buffer.pcm = b.pcm :=
      (PeriodBuffer.sizes_congr hbs).2.2.2
    have hm' : r.capture.fresh (sessionFrames calls (call.run b).buffer).length =
        sessionFrames calls (call.run b).buffer := by
      rw [Capture.fresh, h4, h5]
      exact hm2
    obtain ⟨i1, i2⟩ := ih hbv h1 hm'
    rw [hpcm] at i1 i2
    rw [readCalls, hr]
    refine ⟨i1, ?_⟩
    show (r.ret, r.out.flatten) :: _ = (_, call.copied b) :: _
    rw [i2, h2, h3]
    rfl

/-- Over any calls, errors included, the stream in frames returns what the one in bytes does and
copies the same bytes, and both end with the same bytes pending; the client's buffer of each call
starts with the bytes copied. -/
theorem readCalls_holds {b : PeriodBuffer β} {c : Capture (List β)} (hv : b.Valid) (h : b.Holds c)
    (calls : List (ReadCall β)) {r : List (Option Int × List (List β)) × Capture (List β)}
    (hr : readCalls b.pcm calls { c with mic := micOf c.captured (sessionFrames calls b) } = r) :
    (readSessionEnd calls b).Holds r.2 ∧
      r.1.map (fun x => (x.1, x.2.flatten)) =
        ((readSession calls b).map fun x => ((x.1.run x.2).ret, x.1.copied x.2)) ∧
      ∀ x ∈ readSession calls b,
        (x.1.run x.2).dst.take (x.1.copied x.2).length = x.1.copied x.2 := by
  subst hr
  have h' : b.Holds { c with mic := micOf c.captured (sessionFrames calls b) } :=
    ⟨h.periodSize, h.framesIn, h.readStatus, h.width, h.bytes⟩
  obtain ⟨hend, hmap⟩ := readCalls_frames hv h' calls (fresh_micOf c _)
  obtain ⟨-, -, hmem, -⟩ := readSession_spec hv calls
  refine ⟨hend, hmap, fun x hx => ?_⟩
  have hcopy := readFrames_copies (hmem x hx).2.1 x.1.frames x.1.reads 0 x.1.dst
    (by rw [Nat.zero_mul]; exact Nat.zero_le _)
  rw [Nat.zero_mul, Nat.zero_add, List.take_zero, List.nil_append] at hcopy
  exact hcopy

/-- A stream in frames with two frames a period and nothing pending. -/
def emptyCapture : Capture (List Nat) where
  periodSize := 2
  buffer := []
  framesIn := 0
  readStatus := 0
  procBuf := []
  procBufSize := 0
  procFramesIn := 0
  refBuf := []
  refBufSize := 0
  refFramesIn := 0
  mic _ := []
  captured := 0
  track := ⟨[], 0, false, 0, 0, 0⟩

theorem readCalls_holds_threeThenTwo : (readCalls monoOfStereo.pcm threeThenTwo { emptyCapture with
      mic := micOf 0 (sessionFrames threeThenTwo monoOfStereo) }).1.map
        (fun x => (x.1, x.2.flatten)) =
    [(some 3, [0, 1, 4, 5, 10, 11]), (some 2, [14, 15, 40, 41])] := by
  have hb : ∀ n, (List.replicate n 0).length = n := fun n => List.length_replicate
  have hv : monoOfStereo.Valid :=
    (PeriodBuffer.valid_opened (.inl rfl) (by decide) hb).started hb true 0
  have hshape : emptyCapture.Shape := ⟨rfl, by decide, by decide, by decide⟩
  have h : monoOfStereo.Holds emptyCapture := .of_empty hshape rfl rfl rfl rfl
  exact (readCalls_holds hv h threeThenTwo rfl).2.1.trans (by decide)

end

end P970.Audio
