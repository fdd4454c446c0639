import P970.Audio.Outputs
import P970.Audio.Delays

/-!
# From the client to the pcm

The second half of `out_write` with its data: what it hands to the echo reference
and to `pcm_mmap_write`, and the throttle loop between them. `Player` is the HAL
with everything handed over so far, in order, and beside it, for each output
stream, the whole frames its clients wrote since it was last started. The pcm of
a running stream has been handed exactly these (`played_whole`), whatever the
other streams, the mode changes and the forced standbys do in between, and
where its buffer is no larger than `write_threshold` and its counters are sane
nothing is resampled or waited for (`played_directly`).
-/

namespace P970.Audio

/-! ## The data of a write -/

abbrev Bytes := List (BitVec 8)

/-- The buffer of `out_write` and `bytes`, a `size_t`. -/
abbrev ClientBuffer := { b : Bytes // b.length < 2 ^ 32 }

def minWriteSleepUs : Nat := 5000

/-- What `out_write` does to the outside. -/
inductive PlayCall where
  | echoWrite (e : Nat) (raw : Bytes) (frameCount : BitVec 32)
  | usleep (us : Nat)
  | pcmMmapWrite (h : Option Nat) (data : Bytes)
  deriving DecidableEq, Repr

/-- `time` in the throttle loop, an `unsigned long`. -/
def throttleSleep (kernelFrames threshold : Int) : Nat :=
  let time := BitVec.ofInt 32 (((kernelFrames - threshold) * 1000000).tdiv mmFullPowerSamplingRate)
  if time.toNat < minWriteSleepUs then minWriteSleepUs else time.toNat

/-- The throttle loop, over the answers of `pcm_get_htimestamp`; `none` while it goes on. -/
def throttle (bufferSize : BitVec 32) (threshold : Nat) : List HTimestamp → Option (List PlayCall)
  | [] => none
  | ts :: times =>
    if ts.status < 0 then some []
    else
      let kernelFrames := throttleFrames bufferSize ts.avail
      if (threshold : Int) < kernelFrames then
        (throttle bufferSize threshold times).map
          (.usleep (throttleSleep kernelFrames threshold) :: ·)
      else some []

/-- What the outside does during the second half of `out_write`: `create_resampler`,
`resample_from_input` with the frames it takes and leaves, `pcm_get_buffer_size` and the pcm's
time stamps. -/
structure WriteScript where
  resamplerOk : Bool
  resampled : Bytes
  inFrames : BitVec 32
  outFrames : BitVec 32
  bufferSize : BitVec 32
  times : List HTimestamp

/-- From the echo reference to `pcm_mmap_write`. -/
def playBuffer (out : OmapStreamOut) (raw : Bytes) (inFrames : BitVec 32) (buf : Bytes)
    (outFrames bufferSize : BitVec 32) (times : List HTimestamp) : Option (List PlayCall) :=
  (throttle bufferSize out.writeThreshold times).map fun sleeps =>
    (match out.echoReference with
      | some e => [.echoWrite e raw inFrames]
      | none => []) ++
    sleeps ++ [.pcmMmapWrite out.pcm (buf.take (outFrames * outFrameSize).toNat)]

/-- The calls of an `out_write` that goes on with stream `o`; `none` while it is in its loop. -/
def writeCalls {α : Type} (o : OutId) (script : WriteScript) (buffer : Bytes) (s : Hal α) :
    Option (List PlayCall) :=
  match s.outs o with
  | none => some []
  | some out =>
    let inFrames := outWriteFrames (BitVec.ofNat 32 buffer.length)
    if out.rate ≠ defaultOutSamplingRate then
      if out.resampler || script.resamplerOk then
        playBuffer out buffer script.inFrames script.resampled script.outFrames script.bufferSize
          script.times
      else some []
    else playBuffer out buffer inFrames buffer inFrames script.bufferSize script.times

/-- The whole frames of a buffer. -/
def wholeFrames (buffer : Bytes) : Bytes := buffer.take (buffer.length / 4 * 4)

/-! ## The player -/

/-- The HAL, the calls so far, and what each stream's clients wrote since it was started. -/
structure Player (α : Type) where
  hal : Hal α
  calls : List PlayCall
  written : OutId → Bytes

inductive PlayEvent (α : Type) where
  /-- The second half of an `out_write`. -/
  | data (o : OutId) (forceInputStandby : Bool) (buffer : ClientBuffer) (script : WriteScript)
  | other (e : Event α)

section
variable {α : Type}

/-- The event is the second half of an `out_write`. -/
def Event.sendsData : Event α → Bool
  | .outWriteData .. => true
  | _ => false

/-- A write that finds its stream in standby starts anew. -/
def forgetWritten (s : Hal α) (e : Event α) (written : OutId → Bytes) : OutId → Bytes :=
  match e with
  | .outWrite o _ => if (s.outs o).any (·.standby) then Function.update written o [] else written
  | _ => written

def playStep [Zero α] (p : Player α) : PlayEvent α → Option (Player α)
  | .data o force buffer script =>
    (step p.hal (.outWriteData o force script.resamplerOk)).bind fun hal =>
      (writeCalls o script buffer.1 p.hal).map fun calls =>
        { hal := hal
          calls := p.calls ++ calls
          written := Function.update p.written o (p.written o ++ wholeFrames buffer.1) }
  | .other e =>
    if e.sendsData then none
    else
      (step p.hal e).map fun hal =>
        { p with hal := hal, written := forgetWritten p.hal e p.written }

/-- The data of a call that goes to pcm `h`. -/
def PlayCall.to (h : Nat) : PlayCall → Bytes
  | .pcmMmapWrite (some k) data => if k = h then data else []
  | _ => []

/-- Everything pcm `h` was handed. -/
def heard (h : Nat) (calls : List PlayCall) : Bytes := calls.flatMap (·.to h)

@[simp] theorem heard_append (h : Nat) (xs ys : List PlayCall) :
    heard h (xs ++ ys) = heard h xs ++ heard h ys := List.flatMap_append

/-! ## The throttle -/

theorem heard_throttle {bufferSize : BitVec 32} {threshold h : Nat} {times : List HTimestamp}
    {calls : List PlayCall} (ht : throttle bufferSize threshold times = some calls) :
    heard h calls = [] := by
  induction times generalizing calls with
  | nil => cases ht
  | cons ts times ih =>
    unfold throttle at ht
    split at ht
    · cases ht
      rfl
    · simp only at ht
      split at ht
      · obtain ⟨rest, hr, rfl⟩ := Option.map_eq_some_iff.mp ht
        exact (ih hr : heard h rest = [])
      · cases ht
        rfl

/-- A buffer no larger than the threshold holds no more frames than that allows. -/
theorem throttleFrames_le {bufferSize avail : BitVec 32} (hb : bufferSize.toNat ≤ fullThreshold)
    (ha : avail.toNat ≤ 2 ^ 31) : throttleFrames bufferSize avail ≤ fullThreshold := by
  have ht : fullThreshold = 7680 := by decide
  rw [ht] at hb ⊢
  rw [throttleFrames, BitVec.toInt_eq_toNat_cond, BitVec.toNat_sub]
  split <;> omega

/-- So the loop ends where it first looks. -/
theorem throttle_full {bufferSize : BitVec 32} {times : List HTimestamp} {calls : List PlayCall}
    (hb : bufferSize.toNat ≤ fullThreshold) (ha : ∀ ts ∈ times, ts.avail.toNat ≤ 2 ^ 31)
    (ht : throttle bufferSize fullThreshold times = some calls) : calls = [] := by
  cases times with
  | nil => cases ht
  | cons ts times =>
    have hle := throttleFrames_le hb (ha ts List.mem_cons_self)
    unfold throttle at ht
    simp only [if_neg (Int.not_lt.mpr hle), ite_self, Option.some.injEq] at ht
    exact ht.symm

/-! ## One write -/

theorem heard_playBuffer {out : OmapStreamOut} {raw buf : Bytes}
    {inFrames outFrames bufferSize : BitVec 32} {times : List HTimestamp} {calls : List PlayCall}
    (hp : playBuffer out raw inFrames buf outFrames bufferSize times = some calls) (h : Nat) :
    heard h calls =
      if out.pcm = some h then buf.take (outFrames * outFrameSize).toNat else [] := by
  obtain ⟨sleeps, hs, rfl⟩ := Option.map_eq_some_iff.mp hp
  have he : ∀ r : Option Nat, heard h (match r with
      | some e => [.echoWrite e raw inFrames]
      | none => []) = [] := by
    intro r
    cases r <;> rfl
  have hw : ∀ k data, heard h [.pcmMmapWrite k data] = if k = some h then data else [] := by
    intro k data
    cases k with
    | none => rfl
    | some k => simp [heard, PlayCall.to]
  rw [heard_append, heard_append, heard_throttle hs, he, hw]
  rfl

theorem toNat_outFrames (buffer : ClientBuffer) :
    (outWriteFrames (BitVec.ofNat 32 buffer.1.length) * outFrameSize).toNat =
      buffer.1.length / 4 * 4 := by
  have hl := buffer.2
  have hf : outFrameSize.toNat = 4 := by decide
  rw [BitVec.toNat_mul, toNat_outWriteFrames, BitVec.toNat_ofNat, hf]
  omega

/-- A stream at its clients' rate hands its pcm the whole frames of the buffer. -/
theorem heard_writeCalls {s : Hal α} {o : OutId} {out : OmapStreamOut} {script : WriteScript}
    {buffer : ClientBuffer} {calls : List PlayCall} (ho : s.outs o = some out)
    (hr : out.rate = defaultOutSamplingRate)
    (hc : writeCalls o script buffer.1 s = some calls) (h : Nat) :
    heard h calls = if out.pcm = some h then wholeFrames buffer.1 else [] := by
  simp only [writeCalls, ho, hr, ne_eq, not_true_eq_false, if_false] at hc
  rw [heard_playBuffer hc, toNat_outFrames]
  rfl

/-! ## The streams that run -/

theorem streams_outWrite {s : Hal α} {o : OutId} {out : OmapStreamOut} (ho : s.outs o = some out)
    (ready : Bool) : (outWrite o ready s).2.streams = s.streams.begin (.out o) ready := by
  have hb := (streams_beginWrite (s := s.lockBoth (.out o)) ready ho).1
  simp only [outWrite]
  split
  · rw [streams_unlock, streams_unlock, hb]
    rfl
  · rw [streams_unlock, hb]
    rfl

/-- A stream that runs after an event ran before, on the same pcm, or the event started it on a
new one. -/
theorem ran_or_started [Zero α] {s t : Hal α} {e : Event α} (ht : step s e = some t) {o : OutId}
    {out : OmapStreamOut} (ho : t.outs o = some out) (hr : out.standby = false) :
    (∃ x, s.outs o = some x ∧ x.standby = false ∧ x.pcm = out.pcm) ∨
    (∃ ready, e = .outWrite o ready) ∧ (s.outs o).any (·.standby) ∧ out.pcm = some s.newPcm := by
  by_cases hs : e.Starts o
  · cases e with
    | outWrite o' ready =>
      obtain rfl : o = o' := hs
      obtain ⟨hg, -, rfl⟩ := step_some ht
      obtain ⟨x, hx⟩ := Option.isSome_iff_exists.mp hg
      have hst : (act (.outWrite o ready) s.clearTrace).clearTrace.streams.slot =
          (s.streams.begin (.out o) ready).slot := by
        have hw := streams_outWrite (s := s.clearTrace) hx ready
        rw [show s.streams.begin (.out o) ready = s.clearTrace.streams.begin (.out o) ready from rfl,
          ← hw]
        show (act (.outWrite o ready) s.clearTrace).slots = _
        simp only [act]
        split <;> rfl
      have hslot := (slot_out ho).symm.trans (congrFun hst (.out o))
      have hk := slot_out hx
      rw [Streams.begin, hk] at hslot
      by_cases hb : x.standby = true
      · -- started: the slot has the next handle
        rw [if_pos (by simp [OmapStreamOut.slot, hb])] at hslot
        have hstart := hslot.trans ((Pool.slot_start ready _).trans (if_pos rfl))
        refine .inr ⟨⟨ready, rfl⟩, by simp [hx, hb], ?_⟩
        exact congrArg Slot.handle (Option.some.inj hstart)
      · rw [if_neg (by simp [OmapStreamOut.slot, hb]), hk, Option.some.injEq] at hslot
        exact .inl ⟨x, hx, Bool.eq_false_iff.mpr hb, (congrArg Slot.handle hslot).symm⟩
    | _ => exact hs.elim
  · exact .inl ((Touches.step ht).ran hs ho hr)

theorem newPcm_le [Zero α] {s t : Hal α} {e : Event α} (hI : s.streams.Ok)
    (ht : step s e = some t) : s.newPcm ≤ t.newPcm := by
  rcases step_streams hI ht with hm | ⟨k, -, -, hs⟩
  · exact hm.moves.next_le
  · exact Nat.le_of_eq (congrArg (·.ledger.next) hs).symm

/-! ## Every run of the player -/

/-- The pcm of a running stream was handed what its clients wrote, and a pcm that was not opened
nothing. -/
structure Player.Ok (p : Player α) : Prop where
  streams : p.hal.streams.Ok
  playing : p.hal.Playing
  running : ∀ o out h, p.hal.outs o = some out → out.standby = false → out.pcm = some h →
    heard h p.calls = p.written o
  unopened : ∀ h, p.hal.newPcm ≤ h → heard h p.calls = []

theorem Player.Ok.other [Zero α] {p : Player α} {t : Hal α} {e : Event α} (hp : p.Ok)
    (ht : step p.hal e = some t) (written : OutId → Bytes)
    (hw : ∀ o, written o = p.written o ∨ (p.hal.outs o).any (·.standby) ∧ written o = [])
    (hs : ∀ o ready, e = .outWrite o ready → (p.hal.outs o).any (·.standby) → written o = []) :
    Player.Ok { p with hal := t, written := written } where
  streams := hp.streams.step ht
  playing := (Touches.step ht).playing hp.playing
  running o out h ho hr hh := by
    rcases ran_or_started ht ho hr with ⟨x, hx, hxr, hxp⟩ | ⟨⟨ready, he⟩, hb, hn⟩
    · rcases hw o with hwo | ⟨hb, -⟩
      · exact (hp.running o x h hx hxr (hxp.trans hh)).trans hwo.symm
      · rw [hx, Option.any_some, hxr] at hb
        cases hb
    · obtain rfl : h = p.hal.newPcm := Option.some.inj (hh.symm.trans hn)
      exact (hp.unopened _ (Nat.le_refl _)).trans (hs o ready he hb).symm
  unopened h hh := hp.unopened h (Nat.le_trans (newPcm_le hp.streams ht) hh)

theorem Player.Ok.data [Zero α] {p : Player α} {t : Hal α} {o : OutId} {force : Bool}
    {buffer : ClientBuffer} {script : WriteScript} {calls : List PlayCall} (hp : p.Ok)
    (ht : step p.hal (.outWriteData o force script.resamplerOk) = some t)
    (hc : writeCalls o script buffer.1 p.hal = some calls) :
    Player.Ok ⟨t, p.calls ++ calls,
      Function.update p.written o (p.written o ++ wholeFrames buffer.1)⟩ := by
  have hmem : Call.outWrite o force ∈ p.hal.calls := List.contains_iff_mem.mp (step_some ht).1
  obtain ⟨x, hx⟩ := hp.streams.calls _ hmem _ rfl
  obtain ⟨n, rfl, hlive⟩ := hp.streams.inOrder.running hx
  obtain ⟨out, hout, hs⟩ := Option.map_eq_some_iff.mp hx
  obtain ⟨-, hpcm⟩ := Slot.mk.inj hs
  -- the stream of the call runs, on a pcm that is its own
  have hheard : ∀ h, heard h calls = if h = n then wholeFrames buffer.1 else [] := by
    intro h
    rw [heard_writeCalls hout (hp.playing o out hout).rate hc h, hpcm]
    exact if_congr ⟨fun he => (Option.some.inj he).symm, fun he => by rw [he]⟩ rfl rfl
  refine ⟨hp.streams.step ht, (Touches.step ht).playing hp.playing, fun o' out' h ho hr hh => ?_,
    fun h hh => ?_⟩
  · rcases ran_or_started ht ho hr with ⟨y, hy, hyr, hyp⟩ | ⟨⟨_, he⟩, -⟩
    · have hold := hp.running o' y h hy hyr (hyp.trans hh)
      have hslot := slot_out hy
      rw [OmapStreamOut.slot, hyr, hyp, hh] at hslot
      show heard h (p.calls ++ calls) = Function.update p.written o _ o'
      rw [heard_append, hold, hheard, Function.update_apply]
      by_cases ho' : o' = o
      · subst ho'
        obtain rfl : h = n := Option.some.inj (congrArg Slot.handle (Option.some.inj (hslot.symm.trans hx)))
        simp
      · rw [if_neg ho', if_neg, List.append_nil]
        rintro rfl
        exact ho' (StreamKey.out.inj (hp.streams.inOrder.sole hslot hx))
    · cases he
  · have hle : p.hal.newPcm ≤ h := Nat.le_trans (newPcm_le hp.streams ht) hh
    have hlt : n < p.hal.newPcm := p.hal.streams.ledger.lt_next_of_live hlive
    rw [heard_append, hp.unopened h hle, hheard, if_neg (by omega)]
    rfl

theorem forgetWritten_cases (s : Hal α) (e : Event α) (written : OutId → Bytes) (o : OutId) :
    forgetWritten s e written o = written o ∨
      (s.outs o).any (·.standby) ∧ forgetWritten s e written o = [] := by
  cases e with
  | outWrite o' ready =>
    simp only [forgetWritten]
    split
    · next hb =>
      by_cases ho : o = o'
      · subst ho
        exact .inr ⟨hb, Function.update_self ..⟩
      · exact .inl (Function.update_of_ne ho ..)
    · exact .inl rfl
  | _ => exact .inl rfl

theorem Player.Ok.step [Zero α] {p q : Player α} {e : PlayEvent α} (hp : p.Ok)
    (h : playStep p e = some q) : q.Ok := by
  cases e with
  | data o force buffer script =>
    obtain ⟨t, ht, h⟩ := Option.bind_eq_some_iff.mp h
    obtain ⟨calls, hc, rfl⟩ := Option.map_eq_some_iff.mp h
    exact hp.data ht hc
  | other e =>
    simp only [playStep] at h
    split at h
    · cases h
    · obtain ⟨t, ht, rfl⟩ := Option.map_eq_some_iff.mp h
      refine hp.other ht _ (forgetWritten_cases p.hal e p.written) fun o ready he hb => ?_
      subst he
      simp only [forgetWritten, if_pos hb, Function.update_self]

/-- A player over the device `adev_open` returns. -/
def Player.start (s₀ : Hal α) : Player α := ⟨s₀, [], fun _ => []⟩

section
variable [Zero α] {name : String} {alloc : Bool} {mixer : Option Mixer} {s₀ : Hal α} {p : Player α}

theorem player_ok (h0 : adevOpen name alloc mixer = .ok s₀)
    (hr : Reach playStep (.start s₀) p) : p.Ok := by
  refine hr.invariant ?_ fun _ _ _ hs _ h => hs.step h
  have hstart : Reach step s₀ s₀ := .refl
  have hplay : s₀.Playing := playing_ok h0 hstart
  have hst : s₀.streams.Ok := streams_ok h0 hstart
  refine ⟨hst, hplay, fun o out h ho hs hh => rfl, fun _ _ => rfl⟩

/-- The pcm of a running stream was handed the whole frames of every write since the stream was
started, in their order, and nothing else. -/
theorem played_whole (h0 : adevOpen name alloc mixer = .ok s₀)
    (hr : Reach playStep (.start s₀) p) {o : OutId} {out : OmapStreamOut}
    (ho : p.hal.outs o = some out) (hs : out.standby = false) :
    ∃ h, out.pcm = some h ∧ p.hal.pcms.live h = true ∧ heard h p.calls = p.written o := by
  have hp := player_ok h0 hr
  have hslot := slot_out ho
  rw [OmapStreamOut.slot, hs] at hslot
  obtain ⟨h, hh, hl⟩ := hp.streams.inOrder.running hslot
  exact ⟨h, hh, hl, hp.running o out h ho hs hh⟩

/-- The buffer of the pcm is no larger than `write_threshold`, and the pcm never tells of more free
frames than an `int` can count down from it. -/
def WriteScript.Fits (script : WriteScript) : Prop :=
  script.bufferSize.toNat ≤ fullThreshold ∧ ∀ ts ∈ script.times, ts.avail.toNat ≤ 2 ^ 31

def bufferFits (_ : Player α) : PlayEvent α → Prop
  | .data _ _ _ script => script.Fits
  | .other _ => True

/-- A call of a write that neither waits nor resamples: the echo reference gets the frames of the
client's buffer, a pcm gets whole frames. -/
def PlayCall.Direct : PlayCall → Prop
  | .echoWrite _ raw frameCount => frameCount.toNat = raw.length / 4
  | .usleep _ => False
  | .pcmMmapWrite h data => h.isSome ∧ 4 ∣ data.length

omit [Zero α] in
theorem direct_writeCalls {s : Hal α} {o : OutId} {out : OmapStreamOut} {script : WriteScript}
    {buffer : ClientBuffer} {calls : List PlayCall} (ho : s.outs o = some out) (hp : out.Plays)
    (hs : out.standby = false) (hh : out.pcm.isSome) (hf : script.Fits)
    (hc : writeCalls o script buffer.1 s = some calls) : ∀ c ∈ calls, c.Direct := by
  simp only [writeCalls, ho, hp.rate, ne_eq, not_true_eq_false, if_false] at hc
  obtain ⟨sleeps, hsl, rfl⟩ := Option.map_eq_some_iff.mp hc
  rw [hp.threshold hs] at hsl
  obtain rfl := throttle_full hf.1 hf.2 hsl
  have hl := buffer.2
  intro c hm
  rw [List.append_nil, List.mem_append, List.mem_singleton] at hm
  rcases hm with hm | rfl
  · cases hr : out.echoReference with
    | none => simp [hr] at hm
    | some e =>
      simp only [hr, List.mem_singleton] at hm
      subst hm
      show (outWriteFrames (BitVec.ofNat 32 buffer.1.length)).toNat = buffer.1.length / 4
      rw [toNat_outWriteFrames, BitVec.toNat_ofNat, Nat.mod_eq_of_lt hl]
  · refine ⟨hh, ?_⟩
    rw [toNat_outFrames, List.length_take]
    omega

/-- Where the pcm's buffer fits, every write hands over the client's own frames, at once. -/
theorem played_directly (h0 : adevOpen name alloc mixer = .ok s₀)
    (hr : Run playStep bufferFits (.start s₀) p) : ∀ c ∈ p.calls, c.Direct := by
  refine hr.invariant_of (I := fun p => ∀ c ∈ p.calls, c.Direct) (J := Player.Ok)
    (fun q hq => player_ok h0 hq.reach) nofun fun q e q' hJ hI hf h => ?_
  cases e with
  | data o force buffer script =>
    obtain ⟨t, ht, h⟩ := Option.bind_eq_some_iff.mp h
    obtain ⟨calls, hc, rfl⟩ := Option.map_eq_some_iff.mp h
    have hmem : Call.outWrite o force ∈ q.hal.calls := List.contains_iff_mem.mp (step_some ht).1
    obtain ⟨x, hx⟩ := hJ.streams.calls _ hmem _ rfl
    obtain ⟨n, rfl, -⟩ := hJ.streams.inOrder.running hx
    obtain ⟨out, hout, hs⟩ := Option.map_eq_some_iff.mp hx
    obtain ⟨hst, hpcm⟩ := Slot.mk.inj hs
    have hd := direct_writeCalls hout (hJ.playing o out hout) hst (by rw [hpcm]; rfl) hf hc
    exact fun c hm => (List.mem_append.mp hm).elim (hI c) (hd c)
  | other e =>
    simp only [playStep] at h
    split at h
    · cases h
    · obtain ⟨t, -, rfl⟩ := Option.map_eq_some_iff.mp h
      exact hI

end

end

/-- Two frames and a half are written, the stream goes into standby, and one more frame is
written. -/
def playTwice : List (PlayEvent Nat) :=
  [.other (.openOutputStream 0 audioDeviceOutSpeaker true true), .other (.outWrite 0 true),
    .data 0 false ⟨[1, 2, 3, 4, 5, 6, 7, 8, 9, 10], by decide⟩ ⟨true, [], 0, 0, 7680, [⟨0, 7680, 0, 0⟩]⟩,
    .other (.outStandby 0), .other (.outWrite 0 true),
    .data 0 false ⟨[11, 12, 13, 14], by decide⟩ ⟨true, [], 0, 0, 7680, [⟨0, 7680, 0, 0⟩]⟩]

set_option maxRecDepth 8000 in
theorem played_whole_playTwice : ∃ (p : Player Nat) (out : OmapStreamOut),
    exec playStep playTwice (.start (openDevice fun _ => none)) = some p ∧
    p.hal.outs 0 = some out ∧ out.pcm = some 1 ∧ heard 1 p.calls = [11, 12, 13, 14] := by
  have hr : (exec playStep playTwice (.start (openDevice fun _ => none))).map
      (fun p => ((p.hal.outs 0).map fun out => (out.standby, out.pcm), p.written 0)) =
      some (some (false, some 1), [11, 12, 13, 14]) := rfl
  obtain ⟨p, hp, he⟩ := Option.map_eq_some_iff.mp hr
  obtain ⟨ho, hw⟩ := Prod.mk.inj he
  obtain ⟨out, ho, hx⟩ := Option.map_eq_some_iff.mp ho
  obtain ⟨hs, hpcm⟩ := Prod.mk.inj hx
  obtain ⟨h, hh, -, hheard⟩ := played_whole (adevOpen_some _) (Reach.of_exec hp) ho hs
  obtain rfl : h = 1 := Option.some.inj (hh.symm.trans hpcm)
  exact ⟨p, out, hp, ho, hpcm, hheard.trans hw⟩

set_option maxRecDepth 8000 in
theorem played_directly_playTwice : ∃ p : Player Nat,
    exec playStep playTwice (.start (openDevice fun _ => none)) = some p ∧
    ∀ us, .usleep us ∉ p.calls := by
  have hr : (exec playStep playTwice (.start (openDevice fun _ => none))).isSome = true := rfl
  obtain ⟨p, hp⟩ := Option.isSome_iff_exists.mp hr
  have hf : (⟨true, [], 0, 0, 7680, [⟨0, 7680, 0, 0⟩]⟩ : WriteScript).Fits := by
    refine ⟨by decide, fun ts hts => ?_⟩
    obtain rfl := List.mem_singleton.mp hts
    decide
  have ho : OkAlong playStep bufferFits playTwice (.start (openDevice fun _ => none)) :=
    ⟨trivial, fun _ _ => ⟨trivial, fun _ _ => ⟨hf, fun _ _ => ⟨trivial, fun _ _ =>
      ⟨trivial, fun _ _ => ⟨hf, fun _ _ => trivial⟩⟩⟩⟩⟩⟩
  exact ⟨p, hp, fun us hm => played_directly (adevOpen_some _) (Run.of_exec hp ho) _ hm⟩

end P970.Audio
