import Mathlib.Data.List.Basic
import Mathlib.Data.List.Sublists
import Mathlib.Data.List.Range

/-!
# Feeds

A source delivers the items `src 0`, `src 1`, … in turn. A feed has read the
source up to a position and holds some items back. `Passes src p xs q`: the feed
`p` has become `q` and passed on `xs`, each item once and in order, first what it
held and then what the source delivered; items may be dropped on the way. What is
passed on along such steps is therefore a subsequence of the source
(`InOrder.passes`), and nothing older than what was held is in it
(`Passes.forall_mem`).
-/

namespace P970

structure Feed (α : Type) where
  held : List α
  pos : Nat

section
variable {α : Type} {src : Nat → α} {p q r : Feed α} {xs ys : List α}

/-- What the source delivers between two positions. -/
def delivered (src : Nat → α) (m n : Nat) : List α := (List.range' m (n - m)).map src

structure Passes (src : Nat → α) (p : Feed α) (xs : List α) (q : Feed α) : Prop where
  pos : p.pos ≤ q.pos
  sublist : (xs ++ q.held).Sublist (p.held ++ delivered src p.pos q.pos)

/-- What was passed on and what is held is a subsequence of what was read. -/
def InOrder (src : Nat → α) (out : List α) (p : Feed α) : Prop :=
  (out ++ p.held).Sublist ((List.range p.pos).map src)

theorem delivered_self (src : Nat → α) (m : Nat) : delivered src m m = [] := by
  simp [delivered]

theorem delivered_append (src : Nat → α) {l m n : Nat} (hlm : l ≤ m) (hmn : m ≤ n) :
    delivered src l m ++ delivered src m n = delivered src l n := by
  have h := List.range'_append_1 (s := l) (m := m - l) (n := n - m)
  rw [Nat.add_sub_cancel' hlm, show m - l + (n - m) = n - l by omega] at h
  rw [delivered, delivered, delivered, ← List.map_append, h]

theorem range_delivered {m n : Nat} (h : m ≤ n) :
    (List.range m).map src ++ delivered src m n = (List.range n).map src := by
  have h0 := delivered_append src (Nat.zero_le m) h
  simpa [delivered, List.range_eq_range'] using h0

theorem mem_delivered {m n : Nat} {x : α} (h : x ∈ delivered src m n) : ∃ k, m ≤ k ∧ x = src k := by
  obtain ⟨k, hk, rfl⟩ := List.mem_map.mp h
  rw [List.mem_range'_1] at hk
  exact ⟨k, hk.1, rfl⟩

theorem Passes.refl (src : Nat → α) (p : Feed α) : Passes src p [] p :=
  ⟨Nat.le_refl _, by simp [delivered_self]⟩

theorem Passes.trans (h : Passes src p xs q) (h' : Passes src q ys r) :
    Passes src p (xs ++ ys) r := by
  refine ⟨h.pos.trans h'.pos, ?_⟩
  have h1 : (xs ++ (ys ++ r.held)).Sublist (xs ++ (q.held ++ delivered src q.pos r.pos)) :=
    (List.Sublist.refl xs).append h'.sublist
  have h2 : (xs ++ q.held ++ delivered src q.pos r.pos).Sublist
      (p.held ++ delivered src p.pos q.pos ++ delivered src q.pos r.pos) :=
    h.sublist.append (List.Sublist.refl _)
  rw [← List.append_assoc] at h1
  rw [← List.append_assoc] at h1
  rw [List.append_assoc p.held, delivered_append src h.pos h'.pos] at h2
  exact h1.trans h2

/-- Held items are passed on, from the first on, or dropped. -/
theorem Passes.of_sublist {held : List α} {pos : Nat} (h : (xs ++ ys).Sublist held) :
    Passes src ⟨held, pos⟩ xs ⟨ys, pos⟩ :=
  ⟨Nat.le_refl _, by simpa [delivered_self] using h⟩

/-- The source delivers. -/
theorem Passes.of_delivered (src : Nat → α) (held : List α) {m n : Nat} (h : m ≤ n) :
    Passes src ⟨held, m⟩ [] ⟨held ++ delivered src m n, n⟩ :=
  ⟨h, List.Sublist.refl _⟩

/-- A feed in front of which more items are held. -/
theorem Passes.behind {hp hq : List α} {m n : Nat} (h : Passes src ⟨hp, m⟩ xs ⟨hq, n⟩)
    (front : List α) :
    Passes src ⟨front ++ hp, m⟩ [] ⟨front ++ xs ++ hq, n⟩ := by
  refine ⟨h.pos, ?_⟩
  simp only [List.nil_append, List.append_assoc]
  exact (List.Sublist.refl front).append h.sublist

theorem Passes.forall_mem {P : α → Prop} (h : Passes src p xs q) (hp : ∀ x ∈ p.held, P x)
    (hs : ∀ k, p.pos ≤ k → P (src k)) : ∀ x ∈ xs ++ q.held, P x := by
  intro x hx
  rcases List.mem_append.mp (h.sublist.subset hx) with hx | hx
  · exact hp x hx
  · obtain ⟨k, hk, rfl⟩ := mem_delivered hx
    exact hs k hk

theorem InOrder.passes {out : List α} (ho : InOrder src out p) (h : Passes src p xs q) :
    InOrder src (out ++ xs) q := by
  have h1 : (out ++ (xs ++ q.held)).Sublist (out ++ (p.held ++ delivered src p.pos q.pos)) :=
    (List.Sublist.refl out).append h.sublist
  have h2 : (out ++ p.held ++ delivered src p.pos q.pos).Sublist
      ((List.range p.pos).map src ++ delivered src p.pos q.pos) :=
    List.Sublist.append ho (List.Sublist.refl _)
  rw [range_delivered h.pos] at h2
  rw [← List.append_assoc, ← List.append_assoc] at h1
  exact h1.trans h2

/-- What is held need not be in order with what was passed on. -/
theorem InOrder.of_nil {out : List α} {pos : Nat} {held : List α}
    (h : InOrder src out ⟨held, pos⟩) : InOrder src out ⟨[], pos⟩ := by
  refine List.Sublist.trans ?_ h
  simp

end

end P970
