import Mathlib.Data.List.GetD
import P970.Audio.Keeping
import P970.Audio.Routing

/-!
# The effects of an input stream

`in->preprocessors` holds the effects in its first `in->num_preprocessors` slots.
`Hal.tunings` is what of each input stream only its opening, its parameters and
its effects set.
-/

namespace P970.Audio

structure Tuning where
  source : BitVec 32
  need : Bool
  preprocessors : List (Option Effect)
  num : Nat

section
variable {α : Type}

def OmapStreamIn.tuning (inp : OmapStreamIn α) : Tuning :=
  ⟨inp.source, inp.needEchoReference, inp.preprocessors, inp.numPreprocessors⟩

def Hal.tunings (s : Hal α) : InId → Option Tuning := fun i => (s.ins i).map (·.tuning)

variable (s : Hal α)

/-! ## What leaves them alone -/

theorem tunings_modIn (i : InId) (f : OmapStreamIn α → OmapStreamIn α) : (s.modIn i f).tunings =
    Function.update s.tunings i ((s.ins i).map fun inp => (f inp).tuning) :=
  s.map_modIn (·.tuning) i f

omit s in
theorem frame_tunings :
    Frame (fun inp inp' => inp'.tuning = inp.tuning) (fun s t : Hal α => t.tunings = s.tunings) :=
  frame_part (·.tuning) (fun _ => rfl) fun _ _ => rfl

/-- The event sets the tuning of an input stream. -/
def Event.tunes : Event α → Bool
  | .openInputStream .. | .closeInputStream _ => true
  | e => e.configures

omit s in
theorem tunings_act [Zero α] (s : Hal α) {e : Event α} (he : e.tunes = false) :
    (act e s).tunings = s.tunings := by
  cases e with
  | openOutputStream o d a r =>
    exact adevOpenOutputStream_frame Hal.tunings (fun _ _ => rfl) o d a r s
  | closeOutputStream o => exact frame_tunings.outStandby s o
  | openInputStream | closeInputStream | inSetParameters | inAddAudioEffect
  | inRemoveAudioEffect => cases he
  | outWriteData o force ok => exact frame_tunings.outWriteData s (fun _ _ _ => rfl) o ok
  | inRead i n ready created =>
    refine Eq.trans ?_ (frame_tunings.inRead s (fun _ _ _ _ _ _ => rfl) i (fun _ => rfl) ready created)
    simp only [act]
    split <;> rfl
  | inReadData i n dst script =>
    exact frame_tunings.inReadData s (fun _ _ => rfl) i n dst script
  | _ => exact frame_tunings.act s rfl rfl

theorem tunings_freeInput (i : InId) :
    (freeInput i s).tunings = Function.update s.tunings i none :=
  Hal.map_update _ s.ins i none

theorem tunings_adevOpenInputStream (i : InId) (devices : Devices) (config : AudioConfig)
    (env : OpenEnv α) : (adevOpenInputStream i devices config env s).2.tunings = s.tunings ∨
    (adevOpenInputStream i devices config env s).2.tunings =
      Function.update s.tunings i (some (newInput devices config env.mic).tuning) := by
  rcases adevOpenInputStream_cases i devices config env s with ⟨-, h⟩ | h
  · exact .inl (by rw [h])
  · right
    rw [h]
    exact Hal.map_update _ s.ins i _

end

/-! ## The loop of `in_remove_audio_effect` -/

theorem take_drop_succ {i n : Nat} {l : List (Option Effect)} (h : i < l.length) :
    (l.drop i).take (n + 1) = l.getD i none :: (l.drop (i + 1)).take n := by
  rw [List.drop_eq_getElem_cons h, List.take_succ_cons, List.getD_eq_getElem _ _ h]

/-- Once the effect is found, the slots from `i` on move down by one. -/
theorem removeEffect_found (effect : Effect) (n : Nat) {i : Nat} {l : List (Option Effect)}
    (hi : 1 ≤ i) (hn : i + n ≤ l.length) :
    ∃ l', removeEffect effect i n true l = (true, l') ∧
      l'.length = l.length ∧
      l'.take (i - 1 + n) = l.take (i - 1) ++ (l.drop i).take n := by
  induction n generalizing i l with
  | zero => exact ⟨l, rfl, rfl, by simp⟩
  | succ n ih =>
    have hlt : i < l.length := by omega
    obtain ⟨l', h, hlen, htake⟩ :=
      ih (i := i + 1) (l := l.set (i - 1) (l.getD i none)) (by omega)
        (by rw [List.length_set]; omega)
    refine ⟨l', h, hlen.trans List.length_set, ?_⟩
    have hset : (l.set (i - 1) (l.getD i none)).take i =
        l.take (i - 1) ++ [l.getD i none] := by
      obtain ⟨j, rfl⟩ : ∃ j, i = j + 1 := ⟨i - 1, by omega⟩
      rw [List.take_add_one, Nat.add_sub_cancel, List.take_set_of_le (Nat.le_refl _),
        List.getElem?_set_self (by omega)]
      rfl
    have hdrop : (l.set (i - 1) (l.getD i none)).drop (i + 1) = l.drop (i + 1) :=
      List.drop_set_of_lt (by omega)
    rw [show i - 1 + (n + 1) = i + 1 - 1 + n by omega, htake, Nat.add_sub_cancel, hset, hdrop,
      take_drop_succ hlt, List.append_assoc]
    rfl

/-- The loop deletes the first occurrence of the effect in the `n` slots from `i` on, or changes
nothing when there is none. -/
theorem removeEffect_spec (effect : Effect) (n : Nat) {i : Nat} {l : List (Option Effect)}
    (hn : i + n ≤ l.length) :
    if some effect ∈ (l.drop i).take n then
      ∃ l', removeEffect effect i n false l = (true, l') ∧
        l'.length = l.length ∧
        l'.take (i + n - 1) = l.take i ++ ((l.drop i).take n).erase (some effect)
    else removeEffect effect i n false l = (false, l) := by
  induction n generalizing i with
  | zero => simp [removeEffect]
  | succ n ih =>
    have hlt : i < l.length := by omega
    rw [take_drop_succ hlt]
    by_cases he : l.getD i none = some effect
    · obtain ⟨l', h, hlen, htake⟩ :=
        removeEffect_found effect n (i := i + 1) (l := l.set i none) (by omega)
          (by rw [List.length_set]; omega)
      rw [if_pos (by rw [he]; exact List.mem_cons_self)]
      refine ⟨l', ?_, hlen.trans List.length_set, ?_⟩
      · rw [removeEffect, if_neg Bool.false_ne_true, if_pos he, h]
      · rw [Nat.add_sub_cancel, List.take_set_of_le (Nat.le_refl _),
          List.drop_set_of_lt (Nat.lt_succ_self _)] at htake
        rw [he, List.erase_cons_head, ← htake]
        rfl
    · have hne : some effect ≠ l.getD i none := fun h => he h.symm
      have h := ih (i := i + 1) (by omega)
      rw [removeEffect, if_neg Bool.false_ne_true, if_neg he]
      simp only [List.mem_cons, hne, false_or]
      split at h
      · next hm =>
        obtain ⟨l', h, hlen, htake⟩ := h
        rw [if_pos hm]
        refine ⟨l', h, hlen, ?_⟩
        rw [show i + (n + 1) - 1 = i + 1 + n - 1 by omega, htake,
          List.erase_cons_tail (by simpa using he), List.take_add_one,
          List.getElem?_eq_getElem hlt, List.append_assoc, List.getD_eq_getElem _ _ hlt]
        rfl
      · next hm => rwa [if_neg hm]

/-! ## What the two entry points do -/

/-- The slots that count. -/
def Tuning.slots (T : Tuning) : List (Option Effect) := T.preprocessors.take T.num

def Tuning.effects (T : Tuning) : List Effect := T.slots.filterMap id

def Tuning.add (effect : Effect) (T : Tuning) : Tuning :=
  { T with
    need := effect.aec || T.need
    preprocessors := T.preprocessors.set T.num (some effect)
    num := T.num + 1 }

/-- `in_remove_audio_effect` of an effect it finds, up to `get_descriptor`. -/
def Tuning.remove (effect : Effect) (T : Tuning) : Tuning :=
  { T with
    preprocessors := (removeEffect effect 0 T.num false T.preprocessors).2
    num := T.num - 1 }

section
variable {α : Type} (s : Hal α) {i : InId} {T : Tuning}

theorem tunings_effectChanged (i : InId) (effect : Effect) (need : Bool) :
    (effectChanged i effect need s).tunings = Function.update s.tunings i
      ((s.tunings i).map fun T => { T with need := if effect.aec then need else T.need }) := by
  unfold effectChanged
  split
  · refine (frame_tunings.doInputStandby _ i).trans ?_
    rw [tunings_modIn, Hal.tunings, Option.map_map]
    rfl
  · rw [Option.map_id', Function.update_eq_self]

theorem tunings_addEffect (h : s.tunings i = some T) (effect : Effect) (desc : Int) :
    if maxPreprocessors ≤ T.num then
      (addEffect i effect desc s).1 = -enosys ∧ (addEffect i effect desc s).2.tunings = s.tunings
    else if desc ≠ 0 then
      (addEffect i effect desc s).1 = desc ∧ (addEffect i effect desc s).2.tunings = s.tunings
    else (addEffect i effect desc s).1 = 0 ∧
      (addEffect i effect desc s).2.tunings = Function.update s.tunings i (some (T.add effect)) := by
  obtain ⟨inp, hi, rfl⟩ := Option.map_eq_some_iff.mp h
  unfold addEffect
  rw [hi]
  simp only
  by_cases hn : maxPreprocessors ≤ inp.numPreprocessors
  · simp only [if_pos hn, if_pos (show maxPreprocessors ≤ inp.tuning.num from hn), and_self]
  · rw [if_neg hn, if_neg (show ¬ maxPreprocessors ≤ inp.tuning.num from hn)]
    split
    · exact ⟨rfl, rfl⟩
    · refine ⟨rfl, ?_⟩
      rw [tunings_effectChanged, appendEffect, tunings_modIn, hi]
      simp only [Option.map_some, Function.update_self, Function.update_idem]
      cases he : effect.aec <;> simp [Tuning.add, OmapStreamIn.tuning, he]

theorem tunings_dropEffect (h : s.tunings i = some T) (hl : T.num ≤ T.preprocessors.length)
    (effect : Effect) (desc : Int) :
    if some effect ∉ T.slots then
      (dropEffect i effect desc s).1 ≠ 0 ∧ (dropEffect i effect desc s).2.tunings = s.tunings
    else (dropEffect i effect desc s).1 = desc ∧
      (dropEffect i effect desc s).2.tunings = Function.update s.tunings i (some
        { T.remove effect with need := if desc = 0 ∧ effect.aec then false else T.need }) := by
  obtain ⟨inp, hi, rfl⟩ := Option.map_eq_some_iff.mp h
  have hr := removeEffect_spec effect inp.numPreprocessors (i := 0) (l := inp.preprocessors)
    (by rw [Nat.zero_add]; exact hl)
  rw [List.drop_zero, Nat.zero_add, List.take_zero, List.nil_append] at hr
  unfold dropEffect
  rw [hi]
  simp only
  by_cases hm : some effect ∈ inp.tuning.slots
  · obtain ⟨slots', he, -, -⟩ := (if_pos hm ▸ hr :)
    have hn : inp.numPreprocessors ≠ 0 := by
      intro h0
      rw [Tuning.slots, show inp.tuning.num = 0 from h0, List.take_zero] at hm
      cases hm
    rw [if_neg (not_not.mpr hm), if_neg hn, he, if_neg Bool.true_eq_false_eq_False]
    have hs : (storeEffects i slots' s).tunings =
        Function.update s.tunings i (some (inp.tuning.remove effect)) := by
      rw [storeEffects, tunings_modIn, hi, Tuning.remove]
      simp only [OmapStreamIn.tuning, he, Option.map_some]
    split
    · next hd =>
      refine ⟨rfl, hs.trans ?_⟩
      rw [if_neg fun h => hd h.1]
      rfl
    · next hd =>
      refine ⟨(not_not.mp hd).symm, ?_⟩
      rw [tunings_effectChanged, hs]
      simp only [Function.update_self, Function.update_idem, Option.map_some, not_not.mp hd, true_and]
      rfl
  · have he : _ = _ := (if_neg hm ▸ hr :)
    rw [if_pos hm]
    split
    · exact ⟨(by decide : (-enosys : Int) ≠ 0), rfl⟩
    · rw [he, if_pos rfl]
      exact ⟨einval_ne_zero, rfl⟩

end

/-! ## The list of effects -/

/-- The slots that count hold the effects of the list. -/
structure Tuning.Lists (T : Tuning) (L : List Effect) : Prop where
  length : T.preprocessors.length = maxPreprocessors
  le : T.num ≤ maxPreprocessors
  slots : T.slots = L.map some

/-- An effect of the list cancels echo. -/
def cancels (L : List Effect) : Bool := L.any (·.aec)

section
variable {T : Tuning} {L : List Effect}

theorem Tuning.Lists.effects (h : T.Lists L) : T.effects = L := by
  rw [Tuning.effects, h.slots, List.filterMap_map]
  exact List.filterMap_some

theorem Tuning.Lists.mem (h : T.Lists L) (effect : Effect) : some effect ∈ T.slots ↔ effect ∈ L := by
  rw [h.slots]
  simp

theorem Tuning.Lists.add (h : T.Lists L) (effect : Effect) (hn : T.num < maxPreprocessors) :
    (T.add effect).Lists (L ++ [effect]) where
  length := List.length_set.trans h.length
  le := hn
  slots := by
    have hs := h.slots
    have hl : T.num < T.preprocessors.length := by rw [h.length]; exact hn
    rw [Tuning.slots] at hs
    rw [Tuning.slots, Tuning.add]
    simp only
    rw [List.take_add_one, List.take_set_of_le (Nat.le_refl _), List.getElem?_set_self hl, hs,
      List.map_append]
    rfl

theorem Tuning.Lists.remove (h : T.Lists L) {effect : Effect} (hm : effect ∈ L) :
    (T.remove effect).Lists (L.erase effect) := by
  have hs := removeEffect_spec effect T.num (i := 0) (l := T.preprocessors)
    (by rw [Nat.zero_add, h.length]; exact h.le)
  rw [List.drop_zero, Nat.zero_add, List.take_zero, List.nil_append] at hs
  obtain ⟨slots', he, hl, ht⟩ := (if_pos ((h.mem effect).mpr hm) ▸ hs :)
  refine ⟨?_, (Nat.sub_le ..).trans h.le, ?_⟩
  · rw [Tuning.remove]
    simp only [he]
    exact hl.trans h.length
  · rw [Tuning.slots, Tuning.remove]
    simp only [he]
    rw [ht, show T.preprocessors.take T.num = L.map some from h.slots]
    exact (List.map_erase (Option.some_injective _) L).symm

/-- Without the effect removed, whether the list cancels echo. -/
theorem cancels_erase {effect : Effect} (hm : effect ∈ L) :
    cancels L = (effect.aec || cancels (L.erase effect)) := by
  rw [cancels, (List.perm_cons_erase hm).any_eq]
  rfl

end

/-! ## Every sequence of calls -/

section
variable {α : Type}

/-- What adding or removing an effect returns; 0 for every other event. -/
def effectStatus (s : Hal α) : Event α → Int
  | .inAddAudioEffect i effect desc => (inAddAudioEffect i effect desc s).1
  | .inRemoveAudioEffect i effect desc => (inRemoveAudioEffect i effect desc s).1
  | _ => 0

/-- The lists of effects after an event: an add that succeeds appends, a remove that succeeds
deletes the first occurrence. -/
def listed (s : Hal α) (e : Event α) (L : InId → List Effect) : InId → List Effect :=
  match e with
  | .openInputStream i .. => Function.update L i []
  | .inAddAudioEffect i effect _ =>
    if effectStatus s e = 0 then Function.update L i (L i ++ [effect]) else L
  | .inRemoveAudioEffect i effect _ =>
    if effectStatus s e = 0 then Function.update L i ((L i).erase effect) else L
  | _ => L

/-- Every open input stream has the effects of its list, and needs an echo reference exactly when
one of them cancels echo. -/
structure Hal.Mirrors (s : Hal α) (L : InId → List Effect) : Prop where
  lists : ∀ i T, s.tunings i = some T → T.Lists (L i)
  need : ∀ i T, s.tunings i = some T → T.need = cancels (L i)

/-- The lists and `need_echo_reference` are the same. -/
def SameEffects (s t : Hal α) : Prop :=
  ∀ i, (t.tunings i).map (fun T => (T.slots, T.need)) = (s.tunings i).map fun T => (T.slots, T.need)

/-- The event does not remove an effect whose `get_descriptor` then fails, nor one of several that
cancel echo. -/
def removable (s : Hal α) : Event α → Prop
  | .inRemoveAudioEffect i effect desc =>
    match s.tunings i with
    | some T => effect ∈ T.effects →
        desc = 0 ∧ (effect.aec = true → cancels (T.effects.erase effect) = false)
    | none => True
  | _ => True

instance (s : Hal α) (e : Event α) : Decidable (removable s e) := by
  unfold removable
  split
  · split <;> infer_instance
  · infer_instance

end

section
variable {α : Type} [Zero α] {s t : Hal α} {L : InId → List Effect}

/-- The lists are right at the start and after every event, and no call that fails changes one. -/
def MirrorsAlong : List (Event α) → Hal α → (InId → List Effect) → Prop
  | [], s, L => s.Mirrors L
  | e :: es, s, L => s.Mirrors L ∧ ∀ t ∈ step s e,
      (effectStatus s e ≠ 0 → SameEffects s t) ∧ MirrorsAlong es t (listed s e L)

omit [Zero α] in
theorem Hal.Mirrors.of_eq (h : s.Mirrors L) (ht : t.tunings = s.tunings) : t.Mirrors L where
  lists i T hT := h.lists i T (ht ▸ hT)
  need i T hT := h.need i T (ht ▸ hT)

omit [Zero α] in
/-- One stream changes, and its list with it. -/
theorem Hal.Mirrors.update (h : s.Mirrors L) {i : InId} {x : Option Tuning} {l : List Effect}
    (ht : t.tunings = Function.update s.tunings i x)
    (hT : ∀ T, x = some T → T.Lists l ∧ T.need = cancels l) :
    t.Mirrors (Function.update L i l) := by
  have key : ∀ j T, t.tunings j = some T →
      T.Lists (Function.update L i l j) ∧ T.need = cancels (Function.update L i l j) := by
    intro j T hj
    rw [ht] at hj
    by_cases hji : j = i
    · subst hji
      rw [Function.update_self] at hj ⊢
      exact hT T hj
    · rw [Function.update_of_ne hji] at hj ⊢
      exact ⟨h.lists j T hj, h.need j T hj⟩
  exact ⟨fun j T hj => (key j T hj).1, fun j T hj => (key j T hj).2⟩

end

section
variable {α : Type} (s : Hal α)

/-- `in_set_parameters` sets the source and leaves the effects alone. -/
theorem tunings_setInputParameters {i : InId} {inp : OmapStreamIn α} (hi : s.ins i = some inp)
    (kvpairs : KvPairs) : (setInputParameters i kvpairs s).tunings = Function.update s.tunings i
      (some { inp.tuning with source := (inputParameters kvpairs inp).1.source }) := by
  have hf : ∀ {β : Type} (f : OmapStreamIn α → β), (∀ inp v, f { inp with source := v } = f inp) →
      (∀ inp v, f { inp with device := v } = f inp) → f (inputParameters kvpairs inp).1 = f inp :=
    fun f h1 h2 => inputParameters_frame f h1 h2 kvpairs inp
  have ht : (inputParameters kvpairs inp).1.tuning =
      { inp.tuning with source := (inputParameters kvpairs inp).1.source } := by
    have h1 := hf (·.needEchoReference) (fun _ _ => rfl) (fun _ _ => rfl)
    have h2 := hf (·.preprocessors) (fun _ _ => rfl) (fun _ _ => rfl)
    have h3 := hf (·.numPreprocessors) (fun _ _ => rfl) (fun _ _ => rfl)
    simp only [OmapStreamIn.tuning, h1, h2, h3]
  unfold setInputParameters
  rw [hi]
  simp only
  split
  · refine (frame_tunings.doInputStandby _ i).trans ?_
    rw [tunings_modIn, hi, Option.map_some, ht]
  · rw [tunings_modIn, hi, Option.map_some, ht]

end

section
variable {α : Type} [Zero α] {s t : Hal α} {L : InId → List Effect}

/-- The step of an event that edits no list. -/
theorem Hal.Mirrors.step_other (h : s.Mirrors L) {e : Event α} (ht : t = (act e s.clearTrace).clearTrace)
    (hg : guard s e) (ha : ∀ i x d, e ≠ .inAddAudioEffect i x d)
    (hr : ∀ i x d, e ≠ .inRemoveAudioEffect i x d) : t.Mirrors (listed s e L) := by
  have htun : t.tunings = (act e s.clearTrace).tunings := by rw [ht]; rfl
  cases e with
  | openInputStream i d c env =>
    rcases tunings_adevOpenInputStream s.clearTrace i d c env with h' | h'
    · have hn : s.tunings i = none := by
        rw [Hal.tunings, Option.isNone_iff_eq_none.mp hg, Option.map_none]
      refine h.update (x := none) ?_ fun T hT => by cases hT
      rw [htun, ← hn, Function.update_eq_self]
      exact h'
    · refine h.update (htun.trans h') ?_
      rintro T ⟨⟩
      exact ⟨⟨List.length_replicate, Nat.zero_le _, rfl⟩, rfl⟩
  | closeInputStream i =>
    have hc : t.tunings = Function.update s.tunings i none := by
      rw [htun]
      exact (tunings_freeInput _ i).trans
        (congrArg (fun f => Function.update f i none) (frame_tunings.inStandby s.clearTrace i))
    have hu := h.update (l := L i) hc fun T hT => by cases hT
    rwa [Function.update_eq_self] at hu
  | inSetParameters i kv =>
    obtain ⟨inp, hi⟩ := Option.isSome_iff_exists.mp hg
    have hT : s.tunings i = some inp.tuning := by rw [Hal.tunings, hi, Option.map_some]
    have hl := h.lists i _ hT
    have hs := tunings_setInputParameters (s.clearTrace.lockBoth (.inp i)) hi kv
    have hu := h.update (l := L i) (htun.trans hs) (by
      rintro T ⟨⟩
      exact ⟨⟨hl.length, hl.le, hl.slots⟩, (h.need i _ hT :)⟩)
    rwa [Function.update_eq_self] at hu
  | inAddAudioEffect i x d => exact absurd rfl (ha i x d)
  | inRemoveAudioEffect i x d => exact absurd rfl (hr i x d)
  | _ => exact h.of_eq (htun.trans (tunings_act _ rfl))

theorem Hal.Mirrors.step_add (h : s.Mirrors L) {i : InId} {x : Effect} {d : Int}
    (ht : t = (act (.inAddAudioEffect i x d) s.clearTrace).clearTrace) (hg : (s.ins i).isSome) :
    (effectStatus s (.inAddAudioEffect i x d) ≠ 0 → SameEffects s t) ∧
      t.Mirrors (listed s (.inAddAudioEffect i x d) L) := by
  obtain ⟨inp, hi⟩ := Option.isSome_iff_exists.mp hg
  have hT : s.tunings i = some inp.tuning := by rw [Hal.tunings, hi, Option.map_some]
  have hs := tunings_addEffect (s.clearTrace.lockBoth (.inp i)) hT x d
  have hst : effectStatus s (.inAddAudioEffect i x d) =
      (addEffect i x d (s.clearTrace.lockBoth (.inp i))).1 := (ret_addEffect_clearTrace i x d).symm
  have htun : t.tunings = (addEffect i x d (s.clearTrace.lockBoth (.inp i))).2.tunings := by
    rw [ht]; rfl
  simp only [listed, hst]
  have hsame : t.tunings = s.tunings → SameEffects s t := fun h j => by rw [h]
  split at hs
  · have he : (addEffect i x d (s.clearTrace.lockBoth (.inp i))).1 ≠ 0 := by
      rw [hs.1]
      decide
    rw [if_neg he]
    exact ⟨fun _ => hsame (htun.trans hs.2), h.of_eq (htun.trans hs.2)⟩
  · next hn =>
    split at hs
    · next hd =>
      rw [if_neg (by rw [hs.1]; exact hd)]
      exact ⟨fun _ => hsame (htun.trans hs.2), h.of_eq (htun.trans hs.2)⟩
    · rw [if_pos hs.1]
      refine ⟨fun hne => absurd hs.1 hne, h.update (htun.trans hs.2) ?_⟩
      rintro T ⟨⟩
      refine ⟨(h.lists i _ hT).add x (Nat.lt_of_not_le hn), ?_⟩
      have hneed := h.need i _ hT
      simp only [Tuning.add, cancels] at hneed ⊢
      rw [List.any_append, hneed, Bool.or_comm]
      simp

theorem Hal.Mirrors.step_remove (h : s.Mirrors L) {i : InId} {x : Effect} {d : Int}
    (ht : t = (act (.inRemoveAudioEffect i x d) s.clearTrace).clearTrace) (hg : (s.ins i).isSome) :
    removable s (.inRemoveAudioEffect i x d) ↔
      (effectStatus s (.inRemoveAudioEffect i x d) ≠ 0 → SameEffects s t) ∧
        t.Mirrors (listed s (.inRemoveAudioEffect i x d) L) := by
  obtain ⟨inp, hi⟩ := Option.isSome_iff_exists.mp hg
  have hT : s.tunings i = some inp.tuning := by rw [Hal.tunings, hi, Option.map_some]
  have hl := h.lists i _ hT
  have hneed := h.need i _ hT
  have hs := tunings_dropEffect (s.clearTrace.lockBoth (.inp i)) hT
    (by rw [hl.length]; exact hl.le) x d
  have hst : effectStatus s (.inRemoveAudioEffect i x d) =
      (dropEffect i x d (s.clearTrace.lockBoth (.inp i))).1 :=
    (ret_removeEffect_clearTrace i x d).symm
  have htun : t.tunings = (dropEffect i x d (s.clearTrace.lockBoth (.inp i))).2.tunings := by
    rw [ht]; rfl
  simp only [listed, hst, removable, hT, hl.effects]
  simp only [hl.mem] at hs
  split at hs
  · next hm =>
    rw [if_neg hs.1]
    have hsame : SameEffects s t := fun j => by rw [htun, hs.2]; rfl
    exact ⟨fun _ => ⟨fun _ => hsame, h.of_eq (htun.trans hs.2)⟩, fun _ hx => absurd hx hm⟩
  · next hm =>
    have hm := not_not.mp hm
    obtain ⟨hret, hs⟩ := hs
    rw [hret]
    have ht' := htun.trans hs
    have hti : t.tunings i = some { inp.tuning.remove x with
        need := if d = 0 ∧ x.aec then false else inp.tuning.need } := by
      rw [ht', Function.update_self]
    by_cases hd : d = 0
    · subst hd
      simp only [ne_eq, not_true_eq_false, false_imp_iff, true_and, if_true, hm, true_imp_iff]
      constructor
      · intro hc
        refine h.update ht' ?_
        rintro T ⟨⟩
        have hrem := hl.remove hm
        refine ⟨⟨hrem.length, hrem.le, hrem.slots⟩, ?_⟩
        show (if (0 : Int) = 0 ∧ x.aec = true then false else inp.tuning.need) = _
        by_cases hx : x.aec = true
        · rw [if_pos ⟨rfl, hx⟩, hc hx]
        · rw [if_neg fun h => hx h.2, hneed, cancels_erase hm, Bool.eq_false_iff.mpr hx,
            Bool.false_or]
      · intro hmir hx
        have hn := hmir.need i _ hti
        rw [Function.update_self] at hn
        rw [← hn]
        exact if_pos ⟨rfl, hx⟩
    · -- the list is one shorter although the call fails
      have hne : ¬ SameEffects s t := by
        intro hsame
        have hj := hsame i
        rw [hti, hT, Option.map_some, Option.map_some, Option.some.injEq, Prod.mk.injEq] at hj
        have hlen := congrArg List.length hj.1
        have hr := (hl.remove hm).slots
        rw [hl.slots, show Tuning.slots { inp.tuning.remove x with
            need := if d = 0 ∧ x.aec then false else inp.tuning.need } =
              (L i |>.erase x).map some from hr, List.length_map, List.length_map,
          List.length_erase_of_mem hm] at hlen
        have := List.length_pos_of_mem hm
        omega
      simp only [hd, false_and, imp_false, hm, not_true_eq_false, ne_eq, not_false_eq_true, hne]

/-- One event keeps the lists right exactly when it is `removable`. -/
theorem Hal.Mirrors.step_iff (h : s.Mirrors L) {e : Event α} (ht : step s e = some t) :
    removable s e ↔ (effectStatus s e ≠ 0 → SameEffects s t) ∧ t.Mirrors (listed s e L) := by
  obtain ⟨hg, -, ht⟩ := step_some ht
  by_cases ha : ∃ i x d, e = .inAddAudioEffect i x d
  · obtain ⟨i, x, d, rfl⟩ := ha
    exact iff_of_true trivial (h.step_add ht hg)
  by_cases hr : ∃ i x d, e = .inRemoveAudioEffect i x d
  · obtain ⟨i, x, d, rfl⟩ := hr
    exact h.step_remove ht hg
  have hm := h.step_other ht hg (fun i x d he => ha ⟨i, x, d, he⟩) fun i x d he => hr ⟨i, x, d, he⟩
  cases e with
  | inAddAudioEffect i x d => exact absurd ⟨i, x, d, rfl⟩ ha
  | inRemoveAudioEffect i x d => exact absurd ⟨i, x, d, rfl⟩ hr
  | _ => exact iff_of_true trivial ⟨fun hne => absurd rfl hne, hm⟩

theorem Hal.Mirrors.along_iff (h : s.Mirrors L) {es : List (Event α)} (he : exec step es s = some t) :
    MirrorsAlong es s L ↔ OkAlong step removable es s := by
  induction es generalizing s L with
  | nil => exact iff_of_true h trivial
  | cons e es ih =>
    obtain ⟨u, hu, he⟩ := Option.bind_eq_some_iff.mp he
    have hs := h.step_iff hu
    simp only [MirrorsAlong, OkAlong, hu, Option.mem_some_iff, forall_eq']
    constructor
    · rintro ⟨-, hne, hm⟩
      have hmir : u.Mirrors (listed s e L) := by
        cases es with
        | nil => exact hm
        | cons => exact hm.1
      exact ⟨hs.mpr ⟨hne, hmir⟩, (ih hmir he).mp hm⟩
    · rintro ⟨hok, hm⟩
      obtain ⟨hne, hmir⟩ := hs.mp hok
      exact ⟨h, hne, (ih hmir he).mpr hm⟩

/-- In every run from `adev_open` the lists are right all along exactly when every remove is
`removable`. -/
theorem effects_listed_iff {name : String} {alloc : Bool} {mixer : Option Mixer} {s₀ : Hal α}
    (h0 : adevOpen name alloc mixer = .ok s₀) {es : List (Event α)} {s : Hal α}
    (h : exec step es s₀ = some s) :
    MirrorsAlong es s₀ (fun _ => []) ↔ OkAlong step removable es s₀ := by
  obtain ⟨m, -, rfl⟩ := adevOpen_ok h0
  have hn : (openDevice m : Hal α).tunings = fun _ => none :=
    frame_tunings.other (stock_selectOutputDevice _)
  refine Hal.Mirrors.along_iff ⟨fun i T hT => ?_, fun i T hT => ?_⟩ h
  · rw [hn] at hT
    cases hT
  · rw [hn] at hT
    cases hT

end

/-- An echo canceller and a noise suppressor are added, and the canceller is removed. -/
def addAndRemove : List (Event Nat) :=
  [.openInputStream 0 audioDeviceInBuiltinMic ⟨48000, 1, 1⟩ ⟨true, true, true, id⟩,
    .inAddAudioEffect 0 ⟨0, true⟩ 0, .inAddAudioEffect 0 ⟨1, false⟩ 0,
    .inRemoveAudioEffect 0 ⟨0, true⟩ 0]

theorem effects_listed_iff_addAndRemove : ∃ s : Hal Nat,
    exec step addAndRemove (openDevice fun _ => none) = some s ∧
    MirrorsAlong addAndRemove (openDevice fun _ => none) fun _ => [] := by
  have hs : (exec step addAndRemove (openDevice fun _ => none)).isSome := rfl
  obtain ⟨s, hs⟩ := Option.isSome_iff_exists.mp hs
  exact ⟨s, hs, (effects_listed_iff (adevOpen_some _) hs).mpr (by decide +kernel)⟩

/-- With two echo cancellers, removing one forgets that the other needs the echo reference; and an
effect whose `get_descriptor` fails is gone although the call returns an error. -/
theorem effects_forgotten :
    ((exec step [.openInputStream 0 audioDeviceInBuiltinMic ⟨48000, 1, 1⟩ ⟨true, true, true, id⟩,
        .inAddAudioEffect 0 ⟨0, true⟩ 0, .inAddAudioEffect 0 ⟨1, true⟩ 0,
        .inRemoveAudioEffect 0 ⟨0, true⟩ 0] (openDevice fun _ => none : Hal Nat)).bind
      fun s => (s.tunings 0).map fun T => (T.slots, T.need)) = some ([some ⟨1, true⟩], false) ∧
    ∃ s : Hal Nat, exec step [.openInputStream 0 audioDeviceInBuiltinMic ⟨48000, 1, 1⟩
        ⟨true, true, true, id⟩, .inAddAudioEffect 0 ⟨0, true⟩ 0]
        (openDevice fun _ => none) = some s ∧
      (s.tunings 0).map (fun T => (T.slots, T.need)) = some ([some ⟨0, true⟩], true) ∧
      effectStatus s (.inRemoveAudioEffect 0 ⟨0, true⟩ (-einval)) = -einval ∧
      ((step s (.inRemoveAudioEffect 0 ⟨0, true⟩ (-einval))).bind fun t =>
        (t.tunings 0).map fun T => (T.slots, T.need)) = some ([], true) := by
  refine ⟨by decide +kernel, _, rfl, by decide +kernel, by decide +kernel, by decide +kernel⟩

end P970.Audio
