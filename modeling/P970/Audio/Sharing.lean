import P970.Audio.References

/-!
# Who has which echo reference

In a run that drops the device's reference only when no third stream has it
(`soleHolder`), every stream has none or the device's, which is live
(`references_live`). With one stream of each direction there is no third stream,
and a running input that needs a reference shares it with the running output
(`reference_shared`).
-/

namespace P970.Audio

section
variable {α : Type} [Zero α] {s t : Hal α}
variable {name : String} {alloc : Bool} {mixer : Option Mixer} {s₀ : Hal α}

omit [Zero α] in
/-- Every stream has no echo reference or the device's, which was created and not yet released, and
none was released twice or used after that. -/
structure Hal.ReferencesLive (s : Hal α) : Prop where
  output : ∀ o out, s.outs o = some out →
    out.echoReference = none ∨ out.echoReference = s.echoReference
  input : ∀ i inp, s.ins i = some inp →
    inp.echoReference = none ∨ inp.echoReference = s.echoReference
  live : ∀ e, s.echoReference = some e → s.echos.live e = true
  released : ∀ e, Fault.echoRelease e ∉ s.faults
  used : ∀ e, Fault.echoUse e ∉ s.faults

omit [Zero α] in
theorem Echo.Ok.referencesLive (h : s.echo.Ok) : s.ReferencesLive where
  output o out ho := (h.output o _ _ (echo_output s ho)).imp_right And.right
  input i inp hi := h.input i _ (echo_input s hi)
  live := h.live
  released e he := by
    have hm : Fault.echoRelease e ∈ s.echo.faults := List.mem_filter.mpr ⟨he, rfl⟩
    rw [h.faults] at hm
    cases hm
  used e he := by
    have hm : Fault.echoUse e ∈ s.echo.faults := List.mem_filter.mpr ⟨he, rfl⟩
    rw [h.faults] at hm
    cases hm

theorem echo_ok {ok : Hal α → Event α → Prop} (h0 : adevOpen name alloc mixer = .ok s₀)
    (h : Run step ok s₀ s)
    (hok : ∀ u e, Run step ok s₀ u → u.echo.Ok → ok u e → soleHolder u e) : s.echo.Ok := by
  refine h.invariant_of (I := fun s => s.echo.Ok) (J := fun u => Run step ok s₀ u)
    (fun u hu => hu) ?_ fun u e t hu hI he ht => ?_
  · obtain ⟨m, -, rfl⟩ := adevOpen_ok h0
    exact echo_openDevice m
  · exact hI.step (streams_ok h0 hu.reach) (hok u e hu hI he) ht

end

/-! ## One stream of each direction -/

section
variable {α : Type} [Zero α] {s t : Hal α}
variable {name : String} {alloc : Bool} {mixer : Option Mixer} {s₀ : Hal α}

omit [Zero α] in
theorem Streams.One.activeOutput (h1 : s.streams.One) {o : OutId} {r : Option Nat}
    (ho : s.echo.output o = some (true, r)) : s.activeOutput = some o := by
  obtain ⟨out, hout, he⟩ := Option.map_eq_some_iff.mp ho
  have hs : (!out.standby) = true := congrArg Prod.fst he
  have hk : s.streams.slot (.out o) = some ⟨false, out.pcm⟩ := by
    rw [slot_out hout, OmapStreamOut.slot, (Bool.not_eq_true' _).mp hs]
  obtain ⟨o', ho', he⟩ := Option.map_eq_some_iff.mp (h1.tight (.out o) _ hk)
  cases he
  exact ho'

omit [Zero α] in
theorem Streams.One.activeInput (h1 : s.streams.One) {i : InId} {x : InputEcho}
    (hi : s.echo.input i = some x) (hr : x.running = true) : s.activeInput = some i := by
  obtain ⟨inp, hinp, rfl⟩ := Option.map_eq_some_iff.mp hi
  have hk : s.streams.slot (.inp i) = some ⟨false, inp.pcm⟩ := by
    rw [slot_inp hinp, OmapStreamIn.slot, (Bool.not_eq_true' _).mp hr]
  obtain ⟨i', hi', he⟩ := Option.map_eq_some_iff.mp (h1.tight (.inp i) _ hk)
  cases he
  exact hi'

omit [Zero α] in
theorem Streams.One.input_inj (h1 : s.streams.One) {i j : InId} {x y : InputEcho}
    (hi : s.echo.input i = some x) (hj : s.echo.input j = some y) : i = j := by
  obtain ⟨inp, hinp, -⟩ := Option.map_eq_some_iff.mp hi
  obtain ⟨inp', hinp', -⟩ := Option.map_eq_some_iff.mp hj
  have he := h1.single (.inp i) (.inp j) (by rw [slot_inp hinp]; simp) (by rw [slot_inp hinp']; simp)
    rfl
  cases he
  rfl

omit [Zero α] in
theorem Streams.One.soleHolder (h1 : s.streams.One) (h : s.echo.Ok) (e : Event α) :
    soleHolder s e := by
  intro op _ i hd
  have hi : ∃ x, s.echo.input i = some x := by
    cases op with
    | stopInput j => exact hd.2.imp fun x hx => hx.1
    | startInput j r c => exact hd.2.2.imp fun x hx => hx.1
    | _ => exact hd.elim
  obtain ⟨x, hx⟩ := hi
  refine ⟨fun o b e he => ?_, fun j y hj _ => h1.input_inj hj hx⟩
  obtain ⟨rfl, -⟩ := (h.output o b _ he).resolve_left (by simp)
  exact h1.activeOutput he

/-- With one stream of each direction nobody else has a reference. -/
theorem run_soleHolder (h0 : adevOpen name alloc mixer = .ok s₀) (h : Run step oneStream s₀ s) :
    Run step soleHolder s₀ s := by
  induction h with
  | refl => exact .refl
  | snoc hr ho hs ih =>
    exact .snoc ih ((streams_one h0 hr).soleHolder (echo_ok h0 ih fun _ _ _ _ he => he) _) hs

omit [Zero α] in
/-- The `create_echo_reference` of the event, if any, succeeds. -/
def Event.created : Event α → Bool
  | .inRead _ _ _ created => created
  | _ => true

omit [Zero α] in
/-- Streams are opened one at a time, and every `create_echo_reference` succeeds. -/
def oneStreamCreated (s : Hal α) (e : Event α) : Prop := oneStream s e ∧ e.created = true

/-- While nobody else has a reference that is dropped. -/
theorem references_live (h0 : adevOpen name alloc mixer = .ok s₀) (h : Run step soleHolder s₀ s) :
    s.ReferencesLive :=
  (echo_ok h0 h fun _ _ _ _ he => he).referencesLive

end

/-- An input for voice communication starts before the output: it gets no reference, is put into
standby by the `out_write`, and gets one when it is read again. -/
def captureThenPlay : List (Event Nat) :=
  [.openInputStream 0 audioDeviceInBuiltinMic ⟨48000, 1, 1⟩ ⟨true, true, true, id⟩,
    .openOutputStream 0 audioDeviceOutSpeaker true true,
    .inSetParameters 0 [("input_source", "7")], .inAddAudioEffect 0 ⟨0, true⟩ 0,
    .inRead 0 1 true true, .inReadData 0 1 [0] ⟨[.copy], [], .ok⟩,
    .outWrite 0 true, .outWriteData 0 true true, .outWriteForce,
    .inRead 0 1 true true, .inReadData 0 1 [0] ⟨[.copy], [], .ok⟩]

theorem captureThenPlay_along :
    OkAlong step oneStreamCreated captureThenPlay (openDevice fun _ => none) := by
  refine ⟨⟨fun _ => rfl, rfl⟩, fun t ht => ⟨⟨fun o => ?_, rfl⟩, fun _ _ => ?_⟩⟩
  · have h : (step (openDevice fun _ => none : Hal Nat) (.openInputStream 0 audioDeviceInBuiltinMic
        ⟨48000, 1, 1⟩ ⟨true, true, true, id⟩)).map (fun s => s.outs o) = some none := rfl
    rw [show step _ _ = some t from ht] at h
    exact Option.some.inj h
  · refine ⟨⟨trivial, rfl⟩, fun _ _ => ⟨⟨trivial, rfl⟩, fun _ _ => ⟨⟨trivial, rfl⟩, fun _ _ => ?_⟩⟩⟩
    refine ⟨⟨trivial, rfl⟩, fun _ _ => ⟨⟨trivial, rfl⟩, fun _ _ => ⟨⟨trivial, rfl⟩, fun _ _ => ?_⟩⟩⟩
    exact ⟨⟨trivial, rfl⟩, fun _ _ => ⟨⟨trivial, rfl⟩, fun _ _ => ⟨⟨trivial, rfl⟩, fun _ _ => trivial⟩⟩⟩

theorem references_live_captureThenPlay : ∃ s : Hal Nat,
    exec step captureThenPlay (openDevice fun _ => none) = some s ∧ s.ReferencesLive := by
  have hs : (exec step captureThenPlay (openDevice fun _ => none)).isSome := by decide +kernel
  obtain ⟨s, hs⟩ := Option.isSome_iff_exists.mp hs
  have hr := (Run.of_exec hs captureThenPlay_along).mono fun _ _ he => he.1
  exact ⟨s, hs, references_live (adevOpen_some _) (run_soleHolder (adevOpen_some _) hr)⟩

/-- Two outputs are written while an echo canceller reads, the second from its start on with the
reference of the first; the input's standby releases it. -/
def twoOutputs : List (Event Nat) :=
  [.openOutputStream 0 audioDeviceOutSpeaker true true,
    .openOutputStream 1 audioDeviceOutSpeaker true true,
    .openInputStream 0 audioDeviceInBuiltinMic ⟨48000, 1, 1⟩ ⟨true, true, true, id⟩,
    .inAddAudioEffect 0 ⟨0, true⟩ 0,
    .outWrite 0 true, .outWriteData 0 false true,
    .inRead 0 1 true true, .inReadData 0 1 [0] ⟨[.copy], [], .ok⟩,
    .outWrite 1 true, .outWriteData 1 false true,
    .inStandby 0,
    .outWrite 0 true, .outWriteData 0 false true]

/-- The first output keeps it and writes to it. -/
theorem references_stale : ∃ s : Hal Nat,
    Reach step (openDevice fun _ => none) s ∧ ¬ s.ReferencesLive := by
  have hs : (exec step twoOutputs (openDevice fun _ => none)).map Hal.faults =
      some [.echoUse 0] := by decide +kernel
  obtain ⟨s, hs, hf⟩ := Option.map_eq_some_iff.mp hs
  exact ⟨s, Reach.of_exec hs, fun h => h.used 0 (by rw [hf]; simp)⟩

/-! ### The running output has the device's reference -/

namespace Echo

variable {v w : Echo}

/-- Every running output is the active one and has the device's reference. -/
structure Joined (v : Echo) : Prop where
  playing : ∀ o r, v.output o = some (true, r) → v.activeOutput = some o
  reference : ∀ o r, v.output o = some (true, r) → r = v.reference

theorem Joined.of_output (hj : v.Joined) (ha : w.activeOutput = v.activeOutput)
    (hr : w.reference = v.reference)
    (ho : ∀ o r, w.output o = some (true, r) → v.output o = some (true, r)) : w.Joined where
  playing o r h := ha.trans (hj.playing o r (ho o r h))
  reference o r h := (hj.reference o r (ho o r h)).trans hr.symm

theorem Renews.joined (hr : Renews v w) (hj : v.Joined) : w.Joined := by
  have ho : ∀ o r, w.output o = some (true, r) → v.activeOutput = some o ∧ r = w.reference := by
    intro o r h
    rw [hr.output] at h
    split at h
    · next ha =>
      cases h
      exact ⟨ha, rfl⟩
    · next hn => exact absurd (hj.playing o r h) hn
  exact ⟨fun o r h => hr.activeOutput.trans (ho o r h).1, fun o r h => (ho o r h).2⟩

theorem Joined.setOutput (hj : v.Joined) (o : OutId) {x : Option (Bool × Option Nat)}
    (hx : ∀ r, x ≠ some (true, r)) : (v.setOutput o x).Joined := by
  refine hj.of_output rfl rfl fun o' r h => ?_
  have h : Function.update v.output o x o' = some (true, r) := h
  rw [Function.update_apply] at h
  split at h
  · exact absurd h (hx r)
  · exact h

theorem Joined.stopOutput (hj : v.Joined) (o : OutId) : (v.stopOutput o).Joined := by
  have ho : ∀ o' r, (v.stopOutput o).output o' = some (true, r) →
      o' ≠ o ∧ v.output o' = some (true, r) := by
    intro o' r h
    rw [output_stopOutput] at h
    split at h
    · obtain ⟨x, -, hx⟩ := Option.map_eq_some_iff.mp h
      cases hx
    · exact ⟨‹_›, h⟩
  have hr : (v.stopOutput o).reference = v.reference := by
    unfold Echo.stopOutput
    split <;> rfl
  refine ⟨fun o' r h => ?_, fun o' r h => (hj.reference o' r (ho o' r h).2).trans hr.symm⟩
  obtain ⟨hne, h⟩ := ho o' r h
  have ha := hj.playing o' r h
  unfold Echo.stopOutput
  split
  · next hs => exact absurd (Option.some.inj (ha.symm.trans (hj.playing o _ hs))) hne
  · exact ha

theorem Joined.stopInput (hj : v.Joined) (h : v.Ok) (i : InId) : (v.stopInput i).Joined := by
  unfold Echo.stopInput
  split
  · next x hx =>
    split
    · unfold dropInput
      have hj' : Joined { v with activeInput := none } := hj.of_output rfl rfl fun _ _ => id
      simp only
      split
      · exact hj'.of_output rfl rfl fun _ _ => id
      · exact ((h.setActiveInput none).renews_clear.joined hj').of_output rfl rfl fun _ _ => id
    · exact hj
  · exact hj

theorem Joined.startInput (hj : v.Joined) (h : v.Ok) (i : InId) (ready created : Bool) :
    (v.startInput i ready created).Joined := by
  unfold Echo.startInput
  split
  · next x hx =>
    split
    · exact hj
    · have ht : (v.takeInput i created x).Joined := by
        unfold Echo.takeInput
        split
        · exact ((h.renews_renew created).joined hj).of_output rfl rfl fun _ _ => id
        · exact hj
      exact ht.of_output rfl rfl fun _ _ => id
  · exact hj

/-- A start makes the output the active one, wherever another one ran. -/
theorem Joined.run (hj : v.Joined) (h : v.Ok) {op : Op} (hop : ∀ o r, op ≠ .startOutput o r) :
    (op.run v).Joined := by
  cases op with
  | openOutput o => exact hj.setOutput o (by simp)
  | closeOutput o => exact hj.setOutput o (by simp)
  | openInput | closeInput | setNeed | setSource => exact hj.of_output rfl rfl fun _ _ => id
  | stopOutput o => exact hj.stopOutput o
  | stopInput i => exact hj.stopInput h i
  | startOutput o ready => exact absurd rfl (hop o ready)
  | startInput i ready created => exact hj.startInput h i ready created

theorem Joined.runOps {ops : List Op} (hj : v.Joined) (h : v.Ok) (hf : FitsAlong ops v)
    (hop : ∀ op ∈ ops, ∀ o r, op ≠ .startOutput o r) : (v.runOps ops).Joined := by
  induction ops generalizing v with
  | nil => exact hj
  | cons op ops ih =>
    exact ih (hj.run h (hop op (by simp))) (h.run hf.1) hf.2
      fun op' ho => hop op' (List.mem_cons_of_mem _ ho)

/-- Where no other output runs. -/
theorem Joined.startOutput {o : OutId} (ready : Bool)
    (hs : ∀ o' r, v.output o' = some (true, r) → o' = o) (hj : v.Joined) :
    (v.startOutput o ready).Joined := by
  unfold Echo.startOutput
  split
  · next r0 hi =>
    have ho : ∀ o' r, Function.update v.output o
        (some (ready, if ready then v.reference else none)) o' = some (true, r) →
        o' = o ∧ ready = true ∧ r = v.reference := by
      intro o' r h
      rw [Function.update_apply] at h
      split at h
      · cases h
        exact ⟨‹_›, rfl, rfl⟩
      · next hne => exact absurd (hs o' r h) hne
    refine ⟨fun o' r h => ?_, fun o' r h => (ho o' r h).2.2⟩
    obtain ⟨rfl, hr, -⟩ := ho o' r h
    exact if_pos hr
  · exact hj

end Echo

section
variable {α : Type} [Zero α] {s t : Hal α}
variable {name : String} {alloc : Bool} {mixer : Option Mixer} {s₀ : Hal α}

omit [Zero α] in
/-- The input whose source or need of a reference the event may change. -/
def Event.sets : Event α → Option InId
  | .inSetParameters i _ | .inAddAudioEffect i .. | .inRemoveAudioEffect i .. => some i
  | _ => none

omit [Zero α] in
/-- Which events come to operations of these kinds. -/
def Echo.Op.Of (e : Event α) : Echo.Op → Prop
  | .startOutput o ready => e = .outWrite o ready
  | .startInput _ _ created => e.created = created
  | .setNeed i _ | .setSource i _ => e.sets = some i
  | _ => True

omit [Zero α] in
theorem of_echoOps {e : Event α} {op : Echo.Op} (ho : op ∈ echoOps s e) : op.Of e := by
  have hout : ∀ x, op ∈ haltOutput x → op.Of e := by
    intro x hx
    cases x with
    | none => cases hx
    | some o =>
      rw [List.mem_singleton.mp hx]
      trivial
  have hin : ∀ x, op ∈ haltInput x → op.Of e := by
    intro x hx
    cases x with
    | none => cases hx
    | some i =>
      rw [List.mem_singleton.mp hx]
      trivial
  have h2 : ∀ {a b : Echo.Op}, op ∈ [a, b] → a.Of e → b.Of e → op.Of e := by
    intro a b hop ha hb
    rcases List.mem_cons.mp hop with rfl | hop
    · exact ha
    · rw [List.mem_singleton.mp hop]
      exact hb
  cases e with
  | openOutputStream | openInputStream =>
    simp only [echoOps] at ho
    split at ho
    · rw [List.mem_singleton.mp ho]
      trivial
    · cases ho
  | outWrite | inRead =>
    rw [List.mem_singleton.mp ho]
    rfl
  | outStandby | inStandby =>
    rw [List.mem_singleton.mp ho]
    trivial
  | closeOutputStream | closeInputStream => exact h2 ho trivial trivial
  | outWriteForce => exact hin _ ho
  | outSetParameters o kv =>
    simp only [echoOps] at ho
    split at ho
    · unfold rerouteHalts at ho
      split at ho
      · split at ho
        · rcases List.mem_cons.mp ho with rfl | ho
          · trivial
          · split at ho
            · exact hin _ ho
            · cases ho
        · cases ho
      · cases ho
    · cases ho
  | inSetParameters i kv =>
    simp only [echoOps] at ho
    split at ho
    · rcases List.mem_cons.mp ho with rfl | ho
      · rfl
      · split at ho
        · rw [List.mem_singleton.mp ho]
          trivial
        · cases ho
    · cases ho
  | inAddAudioEffect | inRemoveAudioEffect =>
    simp only [echoOps] at ho
    split at ho
    · exact h2 ho rfl trivial
    · cases ho
  | setMode mode =>
    simp only [echoOps] at ho
    split at ho
    · rcases List.mem_append.mp ho with ho | ho
      · exact hout _ ho
      · exact hin _ ho
    · cases ho
  | outWriteData | inReadData | setParameters | setVoiceVolume | setMicMute => cases ho

omit [Zero α] in
theorem Streams.One.output_inj (h1 : s.streams.One) {o o' : OutId} {x y : Bool × Option Nat}
    (ho : s.echo.output o = some x) (ho' : s.echo.output o' = some y) : o = o' := by
  obtain ⟨out, hout, -⟩ := Option.map_eq_some_iff.mp ho
  obtain ⟨out', hout', -⟩ := Option.map_eq_some_iff.mp ho'
  have he := h1.single (.out o) (.out o') (by rw [slot_out hout]; simp)
    (by rw [slot_out hout']; simp) rfl
  cases he
  rfl

theorem Echo.Joined.step {e : Event α} (hj : s.echo.Joined) (h : s.echo.Ok) (hI : s.streams.Ok)
    (h1 : s.streams.One) (ht : step s e = some t) : t.echo.Joined := by
  have hf := fitsAlong_echoOps h (step_some ht).1 (h1.soleHolder h e)
  rw [echo_step h hI.inOrder.inputOpen ht]
  by_cases he : ∃ o ready, e = .outWrite o ready
  · obtain ⟨o, ready, rfl⟩ := he
    obtain ⟨out, hout⟩ := Option.isSome_iff_exists.mp (step_some ht).1
    exact hj.startOutput ready fun o' r ho' => h1.output_inj ho' (echo_output s hout)
  · refine hj.runOps h hf fun op hop o r hs => he ⟨o, r, ?_⟩
    subst hs
    exact of_echoOps hop

end

/-! ### A running input without a reference is about to be stopped -/

namespace Echo

variable {v : Echo}

/-- Output `o` and input `i` run, and the input has no reference where it needs one. -/
structure Missing (v : Echo) (o : OutId) (i : InId) : Prop where
  output : ∃ r, v.output o = some (true, r)
  input : ∃ x, v.input i = some x ∧ x.running = true ∧ x.need = true ∧
    x.source = audioSourceVoiceCommunication ∧ x.reference = none

theorem running_stopInput (h : v.Ok) (i : InId) {o : OutId} {r : Option Nat}
    (ho : (v.stopInput i).output o = some (true, r)) : ∃ r, v.output o = some (true, r) := by
  unfold stopInput at ho
  split at ho
  · next x _ =>
    split at ho
    · unfold dropInput at ho
      simp only at ho
      split at ho
      · exact ⟨r, ho⟩
      · have ho := ((h.setActiveInput none).renews_clear.output o).symm.trans ho
        split at ho
        · next ha => exact h.active o ha
        · exact ⟨r, ho⟩
    · exact ⟨r, ho⟩
  · exact ⟨r, ho⟩

theorem running_renew (h : v.Ok) (created : Bool) {o : OutId} {r : Option Nat}
    (ho : (v.renew created).output o = some (true, r)) : ∃ r, v.output o = some (true, r) := by
  rw [(h.renews_renew created).output] at ho
  split at ho
  · next ha => exact h.active o ha
  · exact ⟨r, ho⟩

theorem input_stopInput (v : Echo) (i j : InId) : (v.stopInput i).input j =
    if j = i then (v.input i).map fun x =>
      { x with running := false, reference := if x.running then none else x.reference }
    else v.input j := by
  unfold stopInput
  cases hi : v.input i with
  | none =>
    simp only [Option.map_none]
    split
    · next he => rw [he, hi]
    · rfl
  | some x =>
    cases hr : x.running with
    | false =>
      simp only [hr, Bool.false_eq_true, if_false, Option.map_some]
      split
      · next he => rw [he, hi, ← hr]
      · rfl
    | true =>
      simp only [hr, if_true, Option.map_some, dropInput]
      refine (Function.update_apply ..).trans ?_
      split
      · rfl
      · split
        · rfl
        · rw [input_clear]

/-- With an active output there is a new reference. -/
theorem reference_renew {o : OutId} (ha : v.activeOutput = some o) :
    (v.renew true).reference ≠ none := by
  unfold renew
  rw [ha]
  exact Option.some_ne_none _

theorem Missing.back_startInput (h : v.Ok) (hj : v.Joined) {j i : InId} {o : OutId} {ready : Bool}
    (hm : (v.startInput j ready true).Missing o i) : v.Missing o i := by
  unfold startInput at hm
  cases hy : v.input j with
  | none => simpa only [hy] using hm
  | some y =>
    cases hrun : y.running with
    | true => simpa only [hy, hrun, if_true] using hm
    | false =>
      simp only [hy, hrun, Bool.false_eq_true, if_false] at hm
      obtain ⟨⟨r, hr⟩, x, hx, hm⟩ := hm
      have hr : (v.takeInput j true y).output o = some (true, r) := hr
      have hx : (if i = j then ((v.takeInput j true y).input j).map fun x =>
          { x with running := ready } else (v.takeInput j true y).input i) = some x :=
        (Function.update_apply ..).symm.trans hx
      by_cases hc : (y.need && y.reference = none) = true
      · have ht : v.takeInput j true y = (v.renew true).setInput j
            (some { y with reference := (v.renew true).reference }) := if_pos hc
        rw [ht] at hr hx
        obtain ⟨r', hr'⟩ := running_renew h true hr
        simp only [setInput, Function.update_apply, if_true, input_renew] at hx
        split at hx
        · cases hx
          exact absurd hm.2.2.2 (reference_renew (hj.playing o r' hr'))
        · exact ⟨⟨r', hr'⟩, x, hx, hm⟩
      · have ht : v.takeInput j true y = v := if_neg hc
        rw [ht] at hr hx
        split at hx
        · rw [hy] at hx
          cases hx
          have hn : y.need = true := hm.2.1
          have hre : y.reference = none := hm.2.2.2
          exact absurd (by rw [hn, hre]; rfl) hc
        · exact ⟨⟨r, hr⟩, x, hx, hm⟩

/-- An operation that neither starts an output nor sets what input `i` needs, and that creates a
reference where one is needed, leaves no input without one. -/
theorem Missing.back (h : v.Ok) (hj : v.Joined) {op : Op} {o : OutId} {i : InId}
    (ho : ∀ o r, op ≠ .startOutput o r) (hn : ∀ b, op ≠ .setNeed i b)
    (hs : ∀ b, op ≠ .setSource i b) (hc : ∀ j r, op ≠ .startInput j r false)
    (hm : (op.run v).Missing o i) : v.Missing o i := by
  obtain ⟨⟨r, hr⟩, x, hx, hm⟩ := hm
  -- where the operation leaves the output running and the input's fields alone
  have hsame : ∀ w : Echo, (∀ r, w.output o = some (true, r) → ∃ r, v.output o = some (true, r)) →
      w.output o = some (true, r) → v.input i = some x → v.Missing o i :=
    fun w hw hr hx => ⟨hw r hr, x, hx, hm⟩
  cases op with
  | openOutput o' | closeOutput o' =>
    refine hsame _ (fun r hr => ?_) hr hx
    have hr := (Function.update_apply ..).symm.trans hr
    split at hr
    · cases hr
    · exact ⟨r, hr⟩
  | openInput j =>
    have hx := (Function.update_apply ..).symm.trans hx
    split at hx
    · cases hx
      exact absurd hm.1 Bool.false_ne_true
    · exact ⟨⟨r, hr⟩, x, hx, hm⟩
  | closeInput j =>
    have hx := (Function.update_apply ..).symm.trans hx
    split at hx
    · cases hx
    · exact ⟨⟨r, hr⟩, x, hx, hm⟩
  | setNeed j b =>
    have hx := (Function.update_apply ..).symm.trans hx
    rw [if_neg fun he => hn b (by rw [he])] at hx
    exact ⟨⟨r, hr⟩, x, hx, hm⟩
  | setSource j b =>
    have hx := (Function.update_apply ..).symm.trans hx
    rw [if_neg fun he => hs b (by rw [he])] at hx
    exact ⟨⟨r, hr⟩, x, hx, hm⟩
  | stopOutput o' =>
    have hx : (v.stopOutput o').input i = some x := hx
    rw [input_stopOutput] at hx
    refine hsame _ (fun r hr => ?_) hr hx
    have hr := (output_stopOutput ..).symm.trans hr
    split at hr
    · obtain ⟨y, -, hy⟩ := Option.map_eq_some_iff.mp hr
      cases hy
    · exact ⟨r, hr⟩
  | stopInput j =>
    have hx : (v.stopInput j).input i = some x := hx
    rw [input_stopInput] at hx
    split at hx
    · obtain ⟨y, -, rfl⟩ := Option.map_eq_some_iff.mp hx
      exact absurd hm.1 Bool.false_ne_true
    · exact ⟨running_stopInput h j hr, x, hx, hm⟩
  | startOutput o' ready => exact absurd rfl (ho o' ready)
  | startInput j ready created =>
    cases created with
    | true => exact Missing.back_startInput h hj ⟨⟨r, hr⟩, x, hx, hm⟩
    | false => exact absurd rfl (hc j ready)

end Echo

/-! ### The calls that are still to stop it -/

section
variable {α : Type} [Zero α] {s t : Hal α}
variable {name : String} {alloc : Bool} {mixer : Option Mixer} {s₀ : Hal α}

omit [Zero α] in
/-- The call that ends its part with the event. -/
def Event.ends : Event α → Option Call
  | .outWriteData o force _ => some (.outWrite o force)
  | .outWriteForce => some .outForce
  | .inReadData i frames .. => some (.inRead i frames)
  | _ => none

/-- Every other call goes on. -/
theorem calls_kept {e : Event α} {c : Call} (hI : s.streams.Ok) (hc : c ∈ s.calls)
    (he : e.ends ≠ some c) (ht : step s e = some t) : c ∈ t.calls := by
  have herase : ∀ c', e.ends = some c' → c ∈ s.calls.erase c' := fun c' h =>
    (List.mem_erase_of_ne fun hcc => he (by rw [h, hcc])).mpr hc
  rw [calls_step hI ht]
  cases e with
  | outWrite o ready =>
    simp only [callsAfter]
    split
    · exact List.mem_cons_of_mem _ hc
    · exact hc
  | outWriteData o force ok =>
    simp only [callsAfter]
    split
    · exact List.mem_cons_of_mem _ (herase _ rfl)
    · exact herase _ rfl
  | outWriteForce => exact herase _ rfl
  | inRead i frames ready created =>
    simp only [callsAfter]
    split
    · exact List.mem_cons_of_mem _ hc
    · exact hc
  | inReadData i frames dst script =>
    simp only [callsAfter]
    split
    · exact herase _ rfl
    · exact List.mem_cons_of_mem _ (herase _ rfl)
  | _ => exact hc

omit [Zero α] in
theorem voiceInputActive_iff : s.voiceInputActive = true ↔ ∃ i x, s.echo.activeInput = some i ∧
    s.echo.input i = some x ∧ x.source = audioSourceVoiceCommunication := by
  unfold Hal.voiceInputActive
  constructor
  · intro h
    split at h
    · next i ha =>
      obtain ⟨inp, hinp, hv⟩ := (Option.any_eq_true ..).mp h
      exact ⟨i, inp.echoes, ha, echo_input s hinp, of_decide_eq_true hv⟩
    · cases h
  · rintro ⟨i, x, ha, hx, hv⟩
    have ha : s.activeInput = some i := ha
    obtain ⟨inp, hinp, rfl⟩ := Option.map_eq_some_iff.mp hx
    rw [ha]
    exact (Option.any_eq_true ..).mpr ⟨inp, hinp, decide_eq_true hv⟩

omit [Zero α] in
theorem Echo.input_startOutput (v : Echo) (o : OutId) (ready : Bool) :
    (v.startOutput o ready).activeInput = v.activeInput ∧
      (v.startOutput o ready).input = v.input := by
  unfold Echo.startOutput
  split
  · exact ⟨rfl, rfl⟩
  · exact ⟨rfl, rfl⟩

omit [Zero α] in
/-- A successful start goes on with `force_input_standby` when the active input has that source. -/
theorem outWrite_force (h : s.echo.Ok) {o : OutId} {out : OmapStreamOut} (ho : s.outs o = some out)
    (hs : out.standby = true) (hv : s.voiceInputActive = true) :
    (outWrite o true s).1 = some true := by
  have hk : (s.lockBoth (.out o)).echo.output o = some (false, out.echoReference) := by
    rw [echo_lockBoth, echo_output s ho, OmapStreamOut.echoes, hs]
    rfl
  have hst := echo_startOutputStream (s := s.lockBoth (.out o)) h true hk
  rw [if_pos rfl] at hst
  have hin := Echo.input_startOutput (s.lockBoth (.out o)).echo o true
  rw [← hst] at hin
  have hv := voiceInputActive_iff.mpr (by rw [hin.1, hin.2]; exact voiceInputActive_iff.mp hv)
  have ho : (s.lockBoth (.out o)).outs o = some out := ho
  unfold outWrite beginWrite
  rw [ho]
  simp only [hs, if_true, startOutputStream_fst, ne_eq, not_true_eq_false, if_false, hv]

omit [Zero α] in
/-- When an input runs without a reference, an `out_write` in progress will put it into standby. -/
def Hal.Owed (s : Hal α) : Prop :=
  ∀ o i, s.echo.Missing o i → .outForce ∈ s.calls ∨ .outWrite o true ∈ s.calls

theorem Echo.Missing.back_runOps {v : Echo} {ops : List Echo.Op} {o : OutId} {i : InId} (h : v.Ok)
    (hj : v.Joined) (hf : Echo.FitsAlong ops v)
    (hops : ∀ op ∈ ops, (∀ o r, op ≠ .startOutput o r) ∧ (∀ b, op ≠ .setNeed i b) ∧
      (∀ b, op ≠ .setSource i b) ∧ ∀ j r, op ≠ .startInput j r false)
    (hm : (v.runOps ops).Missing o i) : v.Missing o i := by
  induction ops generalizing v with
  | nil => exact hm
  | cons op ops ih =>
    obtain ⟨ho, hn, hs, hc⟩ := hops op (by simp)
    exact (ih (h.run hf.1) (hj.run h ho) hf.2
      (fun op' hop => hops op' (List.mem_cons_of_mem _ hop)) hm).back h hj ho hn hs hc

omit [Zero α] in
theorem Echo.not_missing_stopInput (v : Echo) (o : OutId) (i : InId) :
    ¬ (v.stopInput i).Missing o i := by
  rintro ⟨-, x, hx, hr, -⟩
  rw [Echo.input_stopInput, if_pos rfl] at hx
  obtain ⟨y, -, rfl⟩ := Option.map_eq_some_iff.mp hx
  cases hr

/-- Only the start of an output leaves a running input without a reference. -/
theorem missing_step {e : Event α} {o : OutId} {i : InId} (h : s.echo.Ok) (hj : s.echo.Joined)
    (hI : s.streams.Ok) (h1 : s.streams.One) (hc : e.created = true)
    (he : ∀ o r, e ≠ .outWrite o r) (ht : step s e = some t) (hm : t.echo.Missing o i) :
    s.echo.Missing o i := by
  have hf := fitsAlong_echoOps h (step_some ht).1 (h1.soleHolder h e)
  rw [echo_step h hI.inOrder.inputOpen ht] at hm
  by_cases hset : e.sets = some i
  · have hpair : ∀ f : InputEcho → InputEcho,
        ¬ Echo.Missing ((s.echo.setInput i ((s.echo.input i).map f)).stopInput i) o i :=
      fun f => Echo.not_missing_stopInput _ o i
    cases e with
    | inSetParameters j kv =>
      obtain rfl : j = i := Option.some.inj hset
      obtain ⟨inp, hinp⟩ := Option.isSome_iff_exists.mp (step_some ht).1
      simp only [echoOps, hinp] at hm
      split at hm
      · exact absurd hm (hpair _)
      · next hn =>
        have hs := source_inputParameters (Bool.eq_false_iff.mpr hn)
        have hsame : s.echo.setInput j ((s.echo.input j).map fun x =>
            { x with source := (inputParameters kv inp).1.source }) = s.echo := by
          rw [echo_input s hinp, hs]
          exact congrArg (fun f => { s.echo with input := f })
            (Function.update_eq_self_iff.mpr (echo_input s hinp).symm)
        rw [← hsame]
        exact hm
    | inAddAudioEffect j x d =>
      obtain rfl : j = i := Option.some.inj hset
      simp only [echoOps] at hm
      split at hm
      · exact absurd hm (hpair _)
      · exact hm
    | inRemoveAudioEffect j x d =>
      obtain rfl : j = i := Option.some.inj hset
      simp only [echoOps] at hm
      split at hm
      · exact absurd hm (hpair _)
      · exact hm
    | _ => cases hset
  · refine Echo.Missing.back_runOps h hj hf (fun op hop => ?_) hm
    have hof := of_echoOps hop
    refine ⟨?_, ?_, ?_, ?_⟩
    · rintro o' r rfl
      exact he o' r hof
    · rintro b rfl
      exact hset hof
    · rintro b rfl
      exact hset hof
    · rintro j r rfl
      exact Bool.false_ne_true (hof.symm.trans hc)

/-- While the reference was already missing, the call that will stop the input has not come to its
end, or goes on to its last part. -/
theorem Hal.Owed.kept {e : Event α} {o : OutId} {i : InId} (hO : s.Owed) (hI : s.streams.Ok)
    (h : s.echo.Ok) (h1 : s.streams.One) (ht : step s e = some t) (hs : s.echo.Missing o i)
    (hm : t.echo.Missing o i) : .outForce ∈ t.calls ∨ .outWrite o true ∈ t.calls := by
  rcases hO o i hs with hc | hc
  · refine .inl (calls_kept hI hc (fun he => ?_) ht)
    cases e with
    | outWriteForce =>
      -- it stops the input
      obtain ⟨-, x, hx, hr, -⟩ := hs
      rw [echo_step h hI.inOrder.inputOpen ht, echoOps, h1.activeInput hx hr] at hm
      exact Echo.not_missing_stopInput _ o i hm
    | _ => cases he
  · by_cases he : e.ends = some (.outWrite o true)
    · left
      cases e with
      | outWriteData o' force ok =>
        cases he
        obtain ⟨-, -, rfl⟩ := step_some ht
        exact List.mem_cons_self
      | _ => cases he
    · exact .inr (calls_kept hI hc he ht)

theorem Hal.Owed.step {e : Event α} (hO : s.Owed) (h : s.echo.Ok) (hj : s.echo.Joined)
    (hI : s.streams.Ok) (h1 : s.streams.One) (hc : e.created = true) (ht : step s e = some t) :
    t.Owed := by
  intro o i hm
  by_cases he : ∃ o' r, e = .outWrite o' r
  · obtain ⟨o', ready, rfl⟩ := he
    have hte : t.echo = s.echo.startOutput o' ready := echo_step h hI.inOrder.inputOpen ht
    obtain ⟨hg, -, rfl⟩ := step_some ht
    obtain ⟨out, hout⟩ := Option.isSome_iff_exists.mp hg
    have hk := echo_output s hout
    cases hs : out.standby with
    | false =>
      refine hO.kept hI h h1 ht ?_ hm
      rw [hte, Echo.startOutput, hk, OmapStreamOut.echoes, hs] at hm
      exact hm
    | true =>
      rw [OmapStreamOut.echoes, hs] at hk
      have hin := Echo.input_startOutput s.echo o' ready
      obtain ⟨⟨r, hr⟩, x, hx, hrun, -, hv, -⟩ := hm
      rw [hte, hin.2] at hx
      rw [hte, Echo.startOutput, hk] at hr
      have hr : Function.update s.echo.output o' _ o = some (true, r) := hr
      rw [Function.update_apply] at hr
      split at hr
      · next hoo =>
        cases hr
        have hva : s.clearTrace.voiceInputActive = true :=
          voiceInputActive_iff.mpr ⟨i, x, h1.activeInput hx hrun, hx, hv⟩
        have hw := outWrite_force (s := s.clearTrace) h hout hs hva
        right
        subst hoo
        show Call.outWrite o true ∈ (act (.outWrite o true) s.clearTrace).calls
        simp only [act, hw]
        exact List.mem_cons_self
      · next hoo => exact absurd (h1.output_inj hr (echo_output s hout)) hoo
  · exact hO.kept hI h h1 ht (missing_step h hj hI h1 hc (fun o r hw => he ⟨o, r, hw⟩) ht hm) hm

theorem joined_owed_run (h0 : adevOpen name alloc mixer = .ok s₀)
    (h : Run step oneStreamCreated s₀ s) : s.echo.Joined ∧ s.Owed := by
  refine h.invariant_of (I := fun s => s.echo.Joined ∧ s.Owed)
    (J := fun u => Run step oneStream s₀ u) (fun u hu => hu.mono fun _ _ he => he.1) ?_
    fun u e t hu hI he ht => ?_
  · obtain ⟨m, -, rfl⟩ := adevOpen_ok h0
    have hn : ∀ o, (openDevice m : Hal α).echo.output o = none := by
      intro o
      have hd : (openDevice m : Hal α).echo = (callocDevice m : Hal α).echo :=
        echo_selectOutputDevice _
      rw [hd]
      rfl
    refine ⟨⟨fun o r ho => ?_, fun o r ho => ?_⟩, fun o i hm => ?_⟩
    · rw [hn] at ho
      cases ho
    · rw [hn] at ho
      cases ho
    · obtain ⟨r, hr⟩ := hm.output
      rw [hn] at hr
      cases hr
  · have hO := echo_ok h0 (run_soleHolder h0 hu) fun _ _ _ _ he => he
    have hS := streams_ok h0 hu.reach
    have h1 := streams_one h0 hu
    exact ⟨hI.1.step hO hS h1 ht, hI.2.step hO hI.1 hS h1 he.2 ht⟩

/-- Between calls a running input that needs an echo reference for voice communication shares it
with the device and the running output. -/
theorem reference_shared (h0 : adevOpen name alloc mixer = .ok s₀)
    (h : Run step oneStreamCreated s₀ s) (hq : s.calls = []) {o : OutId} {out : OmapStreamOut}
    {i : InId} {inp : OmapStreamIn α} (ho : s.outs o = some out) (hi : s.ins i = some inp)
    (hor : out.standby = false) (hir : inp.standby = false) (hn : inp.needEchoReference = true)
    (hv : inp.source = audioSourceVoiceCommunication) :
    ∃ e, inp.echoReference = some e ∧ s.echoReference = some e ∧ out.echoReference = some e := by
  have hr : Run step oneStream s₀ s := h.mono fun _ _ he => he.1
  have hO := echo_ok h0 (run_soleHolder h0 hr) fun _ _ _ _ he => he
  obtain ⟨hj, hw⟩ := joined_owed_run h0 h
  have hko : s.echo.output o = some (true, out.echoReference) := by
    rw [echo_output s ho, OmapStreamOut.echoes, hor]
    rfl
  have hki := echo_input s hi
  have hout : out.echoReference = s.echoReference := hj.reference o _ hko
  have hne : inp.echoReference ≠ none := by
    intro hnone
    have hm : s.echo.Missing o i := ⟨⟨_, hko⟩, _, hki, by simp [OmapStreamIn.echoes, hir], hn, hv, hnone⟩
    have hc := hw o i hm
    rw [hq] at hc
    rcases hc with hc | hc <;> cases hc
  obtain ⟨e, he⟩ := Option.ne_none_iff_exists'.mp hne
  have hin : inp.echoReference = s.echoReference := (hO.input i _ hki).resolve_left hne
  exact ⟨e, he, hin ▸ he, by rw [hout, ← hin, he]⟩

end

theorem reference_shared_captureThenPlay : ∃ s : Hal Nat, ∃ out inp,
    exec step captureThenPlay (openDevice fun _ => none) = some s ∧
    s.outs 0 = some out ∧ s.ins 0 = some inp ∧
    ∃ e, inp.echoReference = some e ∧ s.echoReference = some e ∧ out.echoReference = some e := by
  have hs : (exec step captureThenPlay (openDevice fun _ => none)).map (fun s => (s.calls,
      (s.outs 0).map (·.standby),
      (s.ins 0).map fun inp => (inp.standby, inp.needEchoReference, inp.source))) =
      some ([], some false, some (false, true, audioSourceVoiceCommunication)) := by decide +kernel
  obtain ⟨s, hs, hp⟩ := Option.map_eq_some_iff.mp hs
  simp only [Prod.mk.injEq] at hp
  obtain ⟨hq, hout, hinp⟩ := hp
  obtain ⟨out, ho, hor⟩ := Option.map_eq_some_iff.mp hout
  obtain ⟨inp, hi, hx⟩ := Option.map_eq_some_iff.mp hinp
  simp only [Prod.mk.injEq] at hx
  exact ⟨s, out, inp, hs, ho, hi, reference_shared (adevOpen_some _)
    (Run.of_exec hs captureThenPlay_along) hq ho hi hor hx.1 hx.2.1 hx.2.2⟩

end P970.Audio
