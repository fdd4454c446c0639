import Mathlib.Tactic.Common

/-!
# Runs of a partial step function

`step s e` is the state after event `e`, or `none` when `e` cannot happen in
`s`. `Run step ok s₀ s`: `s` is reached from `s₀` by steps that each met `ok`
in the state they started from, so `Run step (fun _ _ => True)` is plain
reachability (`Reach`). Invariants are proved once per step (`Run.invariant`),
possibly relative to facts already known of every state of the run
(`Run.invariant_of`).
-/

namespace P970

section
variable {S E : Type*} (step : S → E → Option S)

inductive Run (ok : S → E → Prop) (s₀ : S) : S → Prop where
  | refl : Run ok s₀ s₀
  | snoc {s t : S} {e : E} : Run ok s₀ s → ok s e → step s e = some t → Run ok s₀ t

/-- Reachability, with no condition on the steps. -/
abbrev Reach : S → S → Prop := Run step fun _ _ => True

/-- The state after a list of events, when each can happen in turn. -/
def exec : List E → S → Option S
  | [], s => some s
  | e :: es, s => (step s e).bind (exec es)

/-- Every event of the list meets `ok` in the state it starts from. -/
def OkAlong (ok : S → E → Prop) : List E → S → Prop
  | [], _ => True
  | e :: es, s => ok s e ∧ ∀ t ∈ step s e, OkAlong ok es t

instance decidableOkAlong {ok : S → E → Prop} [∀ s e, Decidable (ok s e)] :
    ∀ es s, Decidable (OkAlong step ok es s)
  | [], _ => isTrue trivial
  | e :: es, s =>
    have : ∀ t, Decidable (OkAlong step ok es t) := decidableOkAlong es
    inferInstanceAs (Decidable (ok s e ∧ ∀ t ∈ step s e, OkAlong step ok es t))

end

section
variable {S E : Type*} {step : S → E → Option S} {ok ok' : S → E → Prop} {s₀ s t : S}

theorem Run.trans (h : Run step ok s₀ s) (h' : Run step ok s t) : Run step ok s₀ t := by
  induction h' with
  | refl => exact h
  | snoc _ hok hs ih => exact .snoc ih hok hs

theorem Run.mono (hok : ∀ s e, ok s e → ok' s e) (h : Run step ok s₀ s) : Run step ok' s₀ s := by
  induction h with
  | refl => exact .refl
  | snoc _ ho hs ih => exact .snoc ih (hok _ _ ho) hs

theorem Run.reach (h : Run step ok s₀ s) : Reach step s₀ s := h.mono fun _ _ _ => trivial

/-- What a part of a state does along a run, when every step is one of the part's. -/
theorem Run.part {S' E' : Type*} {step' : S' → E' → Option S'} {ok₁ : S' → E' → Prop} {x₀ x : S'}
    (f : S' → S) (g : E' → E) (hf : ∀ x e y, step' x e = some y → step (f x) (g e) = some (f y))
    (h : Run step' ok₁ x₀ x) : Reach step (f x₀) (f x) := by
  induction h with
  | refl => exact .refl
  | snoc _ _ hs ih => exact .snoc ih trivial (hf _ _ _ hs)

/-- A predicate that holds at the start and is kept by every step holds along the run. -/
theorem Run.invariant {I : S → Prop} (h : Run step ok s₀ s) (h0 : I s₀)
    (hs : ∀ s e t, I s → ok s e → step s e = some t → I t) : I s := by
  induction h with
  | refl => exact h0
  | snoc _ ho hst ih => exact hs _ _ _ ih ho hst

/-- As `Run.invariant`, with a fact `J` already known of every state of the run. -/
theorem Run.invariant_of {I J : S → Prop} (h : Run step ok s₀ s)
    (hJ : ∀ s, Run step ok s₀ s → J s) (h0 : I s₀)
    (hs : ∀ s e t, J s → I s → ok s e → step s e = some t → I t) : I s := by
  induction h with
  | refl => exact h0
  | snoc hr ho hst ih => exact hs _ _ _ (hJ _ hr) ih ho hst

theorem Run.of_exec : ∀ {es : List E} {s : S}, exec step es s = some t → OkAlong step ok es s →
    Run step ok s t
  | [], s, h, _ => by
    simp only [exec, Option.some.injEq] at h
    subst h
    exact .refl
  | e :: es, s, h, ho => by
    obtain ⟨u, hu, h⟩ := Option.bind_eq_some_iff.mp h
    exact (Run.snoc .refl ho.1 hu).trans (Run.of_exec h (ho.2 u hu))

theorem okAlong_true : ∀ {es : List E} {s : S}, OkAlong step (fun _ _ => True) es s
  | [], _ => trivial
  | _ :: _, _ => ⟨trivial, fun _ _ => okAlong_true⟩

theorem Reach.of_exec {es : List E} (h : exec step es s = some t) : Reach step s t :=
  Run.of_exec h okAlong_true

end

end P970
