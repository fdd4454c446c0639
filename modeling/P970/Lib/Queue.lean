import Mathlib.Data.List.Basic

/-!
# Queues

`Moves q came went q'`: the queue `q` has become `q'` while the items `came` were
put in behind and the items `went` taken out in front, each once and in order.
Such changes compose (`Moves.trans`), and what went out of a queue that was empty
is a prefix of what came in (`Moves.prefix_of_nil`).
-/

namespace P970

section
variable {α : Type*} {q q' q'' came came' went went' : List α}

def Moves (q came went q' : List α) : Prop := q ++ came = went ++ q'

theorem Moves.refl (q : List α) : Moves q [] [] q := by simp [Moves]

theorem Moves.put (q came : List α) : Moves q came [] (q ++ came) := by simp [Moves]

theorem Moves.take (q : List α) (n : Nat) : Moves q [] (q.take n) (q.drop n) := by
  rw [Moves, List.append_nil, List.take_append_drop]

theorem Moves.trans (h : Moves q came went q') (h' : Moves q' came' went' q'') :
    Moves q (came ++ came') (went ++ went') q'' := by
  calc q ++ (came ++ came') = q ++ came ++ came' := (List.append_assoc ..).symm
    _ = went ++ (q' ++ came') := by rw [h, List.append_assoc]
    _ = went ++ went' ++ q'' := by rw [h', List.append_assoc]

theorem Moves.prefix_of_nil (h : Moves [] came went q') : went <+: came := ⟨q', h.symm⟩

end

end P970
