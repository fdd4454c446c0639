import Mathlib.Data.List.Induction
import P970.Lib.Run
import P970.Lib.Writes

/-!
# Actions on triggers

The language of `init`. A property that is set puts the actions it triggers at the
tail of a queue, unless they are already on it; an action is taken off the queue and
its commands are run one at a time, and properties may be set between any two of
them. A command gives a property, or another place such as a file or a service, a
value, which may be read from a property only then.

Once nothing is left to run, the registers that the last action wrote hold what its
commands now say (`settles`), and a register that is only given literal values holds
the last one of all the actions that ran (`fixed_eq`).
-/

namespace P970.Init

/-- A place `r`, or the property of a name. -/
inductive Reg (R P : Type) where
  | place (r : R)
  | prop (name : P)
  deriving DecidableEq, Repr

inductive Value (P V : Type) where
  | lit (v : V)
  | prop (name : P)
  deriving DecidableEq, Repr

structure Command (R P V : Type) where
  target : Reg R P
  value : Value P V
  deriving DecidableEq, Repr

/-- The commands of each action, and the actions that a value of a property triggers. -/
structure Script (α R P V : Type) where
  commands : α → List (Command R P V)
  triggered : P → V → List α

/-- The action that runs has the commands `current` left; `ran` are all that were taken off the
queue. -/
structure Machine (α R P V : Type) where
  regs : Reg R P → V
  queue : List α
  current : List (Command R P V)
  ran : List α

inductive Event (P V : Type) where
  | set (name : P) (v : V)
  | next
  deriving DecidableEq, Repr

section
variable {α R P V : Type}

def Value.eval (regs : Reg R P → V) : Value P V → V
  | .lit v => v
  | .prop name => regs (.prop name)

def Machine.start (regs : Reg R P → V) : Machine α R P V := ⟨regs, [], [], []⟩

def Machine.Idle (m : Machine α R P V) : Prop := m.queue = [] ∧ m.current = []

variable (S : Script α R P V)

/-- No command triggers an action, or gives a property a value that a command reads. -/
structure Script.Flat : Prop where
  quiet : ∀ a, ∀ c ∈ S.commands a, ∀ name, c.target = .prop name → ∀ v, S.triggered name v = []
  apart : ∀ a b, ∀ c ∈ S.commands a, ∀ d ∈ S.commands b, ∀ name, d.value = .prop name →
    c.target ≠ .prop name

/-- A register that is no property, and that commands give literal values only. -/
structure Script.Fixed (r : Reg R P) : Prop where
  ne_prop : ∀ name, r ≠ .prop name
  lit : ∀ a, ∀ c ∈ S.commands a, c.target = r → ∃ v, c.value = .lit v

end

/-! ## What was run -/

section
variable {α R P V : Type} [DecidableEq R] [DecidableEq P] (S : Script α R P V)

/-- What the last command for a register gives it. -/
def lastValue (cs : List (Command R P V)) (r : Reg R P) : Option (Value P V) :=
  (cs.reverse.find? (·.target = r)).map Command.value

/-- What commands write, as far as it is literal. -/
def written (start : Reg R P → V) (cs : List (Command R P V)) : List (Reg R P × V) :=
  cs.map fun c => (c.target, c.value.eval start)

theorem lastValue_append_single (cs : List (Command R P V)) (c : Command R P V) (r : Reg R P) :
    lastValue (cs ++ [c]) r = if c.target = r then some c.value else lastValue cs r := by
  rw [lastValue, List.reverse_append, List.reverse_singleton, List.singleton_append,
    List.find?_cons]
  by_cases h : c.target = r <;> simp [h, lastValue]

theorem lookup_written (start : Reg R P → V) (cs : List (Command R P V)) (r : Reg R P) :
    (written start cs).reverse.lookup r = (lastValue cs r).map (·.eval start) := by
  rw [written, lastValue, ← List.map_reverse]
  induction cs.reverse with
  | nil => rfl
  | cons c l ih =>
    rw [List.map_cons, List.lookup_cons, List.find?_cons, ih]
    by_cases h : c.target = r
    · simp [h]
    · have hb : (r == c.target) = false := beq_eq_false_iff_ne.mpr (Ne.symm h)
      simp [h, hb]

/-- What actions leave in a register: what the last one that writes it does. -/
theorem lastWrites_written (start : Reg R P → V) (ran : List α) (r : Reg R P) :
    lastWrites (written start (ran.flatMap S.commands)) start r =
      (ran.reverse.findSome? fun a => (lastValue (S.commands a) r).map (·.eval start)).getD
        (start r) := by
  rw [lastWrites]
  congr 1
  induction ran using List.reverseRecOn with
  | nil => rfl
  | append_singleton ran a ih =>
    rw [List.reverse_append, List.reverse_singleton, List.singleton_append, List.findSome?_cons,
      ← ih, ← lookup_written, written, List.flatMap_append, List.flatMap_singleton, List.map_append,
      List.reverse_append, List.lookup_append]
    rw [← written, ← written]
    cases (written start (S.commands a)).reverse.lookup r <;> rfl

/-- The commands that were run, and what they left. -/
structure Machine.Traced (start : Reg R P → V) (m : Machine α R P V) : Prop where
  trace : ∃ done, done ++ m.current = m.ran.flatMap S.commands ∧
    ∀ r, S.Fixed r → m.regs r = lastWrites (written start done) start r
  /-- With nothing waiting, the last action has seen no other values than there are now. -/
  fresh : m.queue = [] → ∀ ran a, m.ran = ran ++ [a] → ∃ did, did ++ m.current = S.commands a ∧
    ∀ r v, lastValue did r = some v → m.regs r = v.eval m.regs

variable {S} {m : Machine α R P V} {start : Reg R P → V}

theorem Machine.Traced.current (h : m.Traced S start) : ∀ c ∈ m.current, ∃ a, c ∈ S.commands a := by
  intro c hc
  obtain ⟨done, hdone, -⟩ := h.trace
  obtain ⟨a, -, ha⟩ := List.mem_flatMap.mp (hdone ▸ List.mem_append_right done hc)
  exact ⟨a, ha⟩

theorem traced_start : (Machine.start start).Traced S start where
  trace := ⟨[], rfl, fun _ _ => rfl⟩
  fresh _ ran a h := by cases ran <;> cases h

end

/-! ## Steps -/

def enqueue {α : Type} [DecidableEq α] (queue : List α) (a : α) : List α :=
  if a ∈ queue then queue else queue ++ [a]

section
variable {α R P V : Type} [DecidableEq α] [DecidableEq R] [DecidableEq P] (S : Script α R P V)

def Machine.put (m : Machine α R P V) (r : Reg R P) (v : V) : Machine α R P V :=
  { m with
    regs := Function.update m.regs r v
    queue := match r with
      | .prop name => (S.triggered name v).foldl enqueue m.queue
      | _ => m.queue }

/-- A property is set, or the next command is run or the next action taken off the queue. -/
def step (m : Machine α R P V) : Event P V → Option (Machine α R P V)
  | .set name v => some (m.put S (.prop name) v)
  | .next =>
    match m.current, m.queue with
    | c :: cs, _ => some { m.put S c.target (c.value.eval m.regs) with current := cs }
    | [], a :: queue =>
      some { m with queue := queue, current := S.commands a, ran := m.ran ++ [a] }
    | [], [] => none

section
variable {S} {m t : Machine α R P V} {e : Event P V}

theorem foldl_enqueue_ne_nil {l q : List α} (h : l ≠ [] ∨ q ≠ []) : l.foldl enqueue q ≠ [] := by
  induction l generalizing q with
  | nil => exact h.resolve_left fun hl => hl rfl
  | cons a l ih =>
    refine ih (.inr ?_)
    unfold enqueue
    split
    · next hmem => exact List.ne_nil_of_mem hmem
    · exact List.append_ne_nil_of_right_ne_nil q (List.cons_ne_nil a [])

theorem step_cases (hS : S.Flat) (hm : ∀ c ∈ m.current, ∃ a, c ∈ S.commands a)
    (h : step S m e = some t) :
    (∃ name v, e = .set name v ∧ t = m.put S (.prop name) v) ∨
    (∃ c cs, e = .next ∧ m.current = c :: cs ∧ t = { m with
      regs := Function.update m.regs c.target (c.value.eval m.regs), current := cs }) ∨
    (∃ a queue, e = .next ∧ m.current = [] ∧ m.queue = a :: queue ∧ t = { m with
      queue := queue, current := S.commands a, ran := m.ran ++ [a] }) := by
  cases e with
  | set name v => exact .inl ⟨name, v, rfl, (Option.some.inj h).symm⟩
  | next =>
    cases hcur : m.current with
    | cons c cs =>
      have ht : t = { m.put S c.target (c.value.eval m.regs) with current := cs } := by
        simp only [step, hcur] at h
        exact (Option.some.inj h).symm
      obtain ⟨a, ha⟩ := hm c (hcur ▸ List.mem_cons_self)
      -- the command triggers nothing
      have hqueue : (m.put S c.target (c.value.eval m.regs)).queue = m.queue := by
        unfold Machine.put
        split
        · next name hname => rw [hS.quiet a c ha name hname]; rfl
        · rfl
      refine .inr (.inl ⟨c, cs, rfl, rfl, ht.trans ?_⟩)
      exact congrArg (fun queue => Machine.mk _ queue cs m.ran) hqueue
    | nil =>
      cases hq : m.queue with
      | nil => simp [step, hcur, hq] at h
      | cons a queue =>
        refine .inr (.inr ⟨a, queue, rfl, rfl, rfl, ?_⟩)
        simp only [step, hcur, hq] at h
        exact (Option.some.inj h).symm

/-- What runs next is what was first on the queue. -/
theorem line_next (hS : S.Flat) (hm : ∀ c ∈ m.current, ∃ a, c ∈ S.commands a)
    (h : step S m .next = some t) : t.ran ++ t.queue = m.ran ++ m.queue := by
  rcases step_cases hS hm h with ⟨name, v, he, -⟩ | ⟨c, cs, -, -, rfl⟩ | ⟨a, queue, -, -, hq, rfl⟩
  · cases he
  · rfl
  · rw [hq, List.append_assoc]
    rfl

end

/-! ## Runs -/

/-- Every property that is set triggers something. -/
def Heard (_ : Machine α R P V) : Event P V → Prop
  | .set name v => S.triggered name v ≠ []
  | .next => True

section
variable {S} {m t : Machine α R P V} {e : Event P V} {start : Reg R P → V}

theorem traced_step (hS : S.Flat) (h : m.Traced S start) (ho : Heard S m e)
    (ht : step S m e = some t) : t.Traced S start := by
  obtain ⟨done, hdone, hfixed⟩ := h.trace
  rcases step_cases hS h.current ht with ⟨name, v, rfl, rfl⟩ | ⟨c, cs, rfl, hcur, rfl⟩ |
    ⟨a, queue, rfl, hcur, hq, rfl⟩
  · refine ⟨⟨done, hdone, fun r hr => ?_⟩, fun hnil => ?_⟩
    · exact (Function.update_of_ne (hr.ne_prop name) _ _).trans (hfixed r hr)
    · exact absurd hnil (foldl_enqueue_ne_nil (.inl ho))
  · obtain ⟨b, hb⟩ := h.current c (hcur ▸ List.mem_cons_self)
    refine ⟨⟨done ++ [c], ?_, fun r hr => ?_⟩, fun hnil ran a hran => ?_⟩
    · rw [← hdone, hcur, List.append_assoc]
      rfl
    · show Function.update m.regs c.target (c.value.eval m.regs) r = _
      rw [written, List.map_append, List.map_singleton, lastWrites_append, lastWrites_single]
      by_cases hcr : r = c.target
      · subst hcr
        obtain ⟨v, hv⟩ := hr.lit b c hb rfl
        rw [Function.update_self, Function.update_self, hv]
        rfl
      · rw [Function.update_of_ne hcr, Function.update_of_ne hcr]
        exact hfixed r hr
    · obtain ⟨did, hdid, hlast⟩ := h.fresh hnil ran a hran
      refine ⟨did ++ [c], by rw [← hdid, hcur, List.append_assoc]; rfl, fun r v hv => ?_⟩
      -- the command leaves every value that is read as it is
      have heval : ∀ d ∈ S.commands a,
          d.value.eval (Function.update m.regs c.target (c.value.eval m.regs)) =
            d.value.eval m.regs := by
        intro d hd
        cases hval : d.value with
        | lit v => rfl
        | prop name => exact Function.update_of_ne (hS.apart b a c hb d hd name hval).symm _ _
      have hca : c ∈ S.commands a := hdid ▸ List.mem_append_right did (hcur ▸ List.mem_cons_self)
      rw [lastValue_append_single] at hv
      by_cases hcr : c.target = r
      · rw [if_pos hcr] at hv
        obtain rfl : c.value = v := Option.some.inj hv
        rw [heval c hca, ← hcr]
        exact Function.update_self ..
      · rw [if_neg hcr] at hv
        obtain ⟨d, hfind, rfl⟩ := Option.map_eq_some_iff.mp hv
        have hd : d ∈ S.commands a :=
          hdid ▸ List.mem_append_left _ (List.mem_reverse.mp (List.mem_of_find?_eq_some hfind))
        rw [heval d hd, ← hlast r d.value hv]
        exact Function.update_of_ne (Ne.symm hcr) _ _
  · rw [hcur, List.append_nil] at hdone
    refine ⟨⟨done, ?_, hfixed⟩, fun _ ran b hran => ⟨[], ?_, fun r v hv => by cases hv⟩⟩
    · rw [List.flatMap_append, ← hdone, List.flatMap_singleton]
    · obtain ⟨-, hab⟩ := List.append_inj' hran rfl
      rw [(List.cons.inj hab).1]
      rfl

/-- What the last action wrote, once nothing is left to run. -/
theorem settles (hS : S.Flat) (h : Run (step S) (Heard S) (Machine.start start) m) (hidle : m.Idle)
    {ran : List α} {a : α} (hran : m.ran = ran ++ [a]) {r : Reg R P} {v : Value P V}
    (hv : lastValue (S.commands a) r = some v) : m.regs r = v.eval m.regs := by
  have htraced := h.invariant traced_start fun _ _ _ hi ho hs => traced_step hS hi ho hs
  obtain ⟨did, hdid, hlast⟩ := htraced.fresh hidle.1 ran a hran
  rw [hidle.2, List.append_nil] at hdid
  exact hlast r v (hdid ▸ hv)

/-- What the last action that writes a register left in it, where only literal values are. -/
theorem fixed_eq (hS : S.Flat) (h : Run (step S) (Heard S) (Machine.start start) m) (hidle : m.Idle)
    {r : Reg R P} (hr : S.Fixed r) : m.regs r =
      (m.ran.reverse.findSome? fun a => (lastValue (S.commands a) r).map (·.eval start)).getD
        (start r) := by
  have htraced := h.invariant traced_start fun _ _ _ hi ho hs => traced_step hS hi ho hs
  obtain ⟨done, hdone, hfixed⟩ := htraced.trace
  rw [hidle.2, List.append_nil] at hdone
  rw [← lastWrites_written, ← hdone]
  exact hfixed r hr

end

end

end P970.Init
