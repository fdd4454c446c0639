import Mathlib.Logic.Function.Basic
import Mathlib.Tactic.Common

/-!
# Keyed writes

A list of writes to named registers, performed in order and abandoned at the
first register that is missing (`writeAll`). `effect k ws` is what the writes do
to register `k` alone; with every register present, `writeAll` is `effect`
register by register.

Registers have a shape that writes keep. A write that `FixesAt σ` leaves every
register of shape `σ` at one value, whatever it held. A register `Holds` the
writes when performing them again would not change it: for writes that fix it,
performing them makes it hold, and two registers that hold are equal.

`lastWrites` is what writes of whole values leave behind, and `fill` what copying
leaves where some of the values are missing.
-/

namespace P970

section
variable {K V : Type} [DecidableEq K]

def writeAll : List (K × (V → V)) → (K → Option V) → (K → Option V)
  | [], m => m
  | (k, f) :: ws, m =>
    match m k with
    | none => m
    | some v => writeAll ws (Function.update m k (some (f v)))

def effect (k : K) : List (K × (V → V)) → V → V
  | [], v => v
  | (j, f) :: ws, v => effect k ws (if j = k then f v else v)

/-- Performing the writes again leaves `v` as it is. -/
def Holds (k : K) (ws : List (K × (V → V))) (v : V) : Prop := effect k ws v = v

theorem effect_append (k : K) (xs ys : List (K × (V → V))) (v : V) :
    effect k (xs ++ ys) v = effect k ys (effect k xs v) := by
  induction xs generalizing v with
  | nil => rfl
  | cons w xs ih => exact ih _

theorem effect_of_not_mem {k : K} {ws : List (K × (V → V))} (h : k ∉ ws.map Prod.fst) (v : V) :
    effect k ws v = v := by
  induction ws with
  | nil => rfl
  | cons w ws ih =>
    simp only [List.map_cons, List.mem_cons, not_or] at h
    rw [effect, if_neg (Ne.symm h.1), ih h.2]

theorem writeAll_apply {ws : List (K × (V → V))} {m : K → Option V}
    (hm : ∀ k ∈ ws.map Prod.fst, m k ≠ none) (k : K) :
    writeAll ws m k = (m k).map (effect k ws) := by
  induction ws generalizing m with
  | nil => cases hk : m k <;> simp [writeAll, effect, hk]
  | cons w ws ih =>
    obtain ⟨j, f⟩ := w
    obtain ⟨v, hv⟩ := Option.ne_none_iff_exists'.mp (hm j (by simp))
    simp only [writeAll, hv]
    rw [ih]
    · by_cases hk : k = j
      · subst hk; simp [hv, effect]
      · rw [Function.update_of_ne hk]
        congr 1
        funext x
        rw [effect, if_neg (Ne.symm hk)]
    · intro i hi
      by_cases hij : i = j
      · subst hij; simp
      · rw [Function.update_of_ne hij]
        exact hm i (List.mem_cons_of_mem _ hi)

/-! ## Writes that fix a register -/

variable {Sh : Type} (shape : V → Sh)

def Keeps (f : V → V) : Prop := ∀ v, shape (f v) = shape v

def FixesAt (σ : Sh) (f : V → V) : Prop := ∀ v w, shape v = σ → shape w = σ → f v = f w

variable {shape} {k : K} {ws : List (K × (V → V))} {σ : Sh} {v w : V}

theorem effect_keeps (h : ∀ x ∈ ws, Keeps shape x.2) : Keeps shape (effect k ws) := by
  intro v
  induction ws generalizing v with
  | nil => rfl
  | cons x ws ih =>
    rw [effect, ih fun y hy => h y (List.mem_cons_of_mem _ hy)]
    split
    · exact h x (by simp) v
    · rfl

/-- One fixing write to `k` makes the whole list fix it. -/
theorem effect_fixes (h : ∀ x ∈ ws, Keeps shape x.2) {x : K × (V → V)} (hx : x ∈ ws)
    (hk : x.1 = k) (hf : FixesAt shape σ x.2) : FixesAt shape σ (effect k ws) := by
  intro v w hv hw
  induction ws generalizing v w with
  | nil => cases hx
  | cons y ws ih =>
    have hy := h y (by simp)
    have hws : ∀ z ∈ ws, Keeps shape z.2 := fun z hz => h z (List.mem_cons_of_mem _ hz)
    rw [effect, effect]
    rcases List.mem_cons.mp hx with rfl | hx
    · rw [if_pos hk, if_pos hk, hf v w hv hw]
    · refine ih hws hx _ _ ?_ ?_
      · split
        · rw [hy v, hv]
        · exact hv
      · split
        · rw [hy w, hw]
        · exact hw

theorem holds_effect (h : ∀ x ∈ ws, Keeps shape x.2) (hf : FixesAt shape σ (effect k ws))
    (hv : shape v = σ) : Holds k ws (effect k ws v) :=
  hf _ _ ((effect_keeps h v).trans hv) hv

theorem Holds.eq (hf : FixesAt shape σ (effect k ws)) (hv : shape v = σ) (hw : shape w = σ)
    (h : Holds k ws v) (h' : Holds k ws w) : v = w := by
  rw [← h, ← h', hf v w hv hw]

end

/-! ## Writes of values -/

section
variable {K V : Type} [DecidableEq K]

/-- The last value written to each key. -/
def lastWrites (ws : List (K × V)) (m : K → V) (k : K) : V := (ws.reverse.lookup k).getD (m k)

@[simp] theorem lastWrites_nil (m : K → V) : lastWrites [] m = m := rfl

theorem lastWrites_append (xs ys : List (K × V)) (m : K → V) :
    lastWrites (xs ++ ys) m = lastWrites ys (lastWrites xs m) := by
  funext k
  rw [lastWrites, List.reverse_append, List.lookup_append, Option.getD_or]
  rfl

theorem lastWrites_single (k : K) (v : V) (m : K → V) :
    lastWrites [(k, v)] m = Function.update m k v := by
  funext j
  by_cases h : j = k
  · subst h
    rw [Function.update_self]
    simp [lastWrites]
  · rw [Function.update_of_ne h]
    have hb : (j == k) = false := beq_eq_false_iff_ne.mpr h
    simp [lastWrites, List.lookup_cons, hb]

end

/-! ## Copies -/

section
variable {ι K V : Type} [DecidableEq K] (key : ι → K) (value : ι → Option V)

/-- Each of `is` puts its value at its key; one without a value leaves what is there. -/
def fill (m : K → Option V) (is : List ι) : K → Option V :=
  is.foldl (fun m i =>
    match value i with
    | some v => Function.update m (key i) (some v)
    | none => m) m

variable (m : K → Option V) (is : List ι)

theorem fill_cons (i : ι) : fill key value m (i :: is) = fill key value
    (match value i with
      | some v => Function.update m (key i) (some v)
      | none => m) is := rfl

variable {key}

theorem fill_apply [DecidableEq ι] (hkey : Function.Injective key) (i : ι) : fill key value m is (key i) =
    if i ∈ is then (value i).or (m (key i)) else m (key i) := by
  induction is generalizing m with
  | nil => rfl
  | cons j is ih =>
    rw [fill_cons, ih]
    by_cases hij : i = j
    · subst hij
      rw [if_pos List.mem_cons_self]
      cases value i with
      | none => simp
      | some v => simp
    · have hne : key i ≠ key j := fun h => hij (hkey h)
      have hmem : i ∈ j :: is ↔ i ∈ is := by simp [hij]
      cases value j <;> simp only [hmem, Function.update_of_ne hne]

end

end P970
