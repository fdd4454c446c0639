import P970.Ril.Nitz

/-!
# Texts that cannot be read

Two texts are split and two numbers are parsed before the only exception that is
caught. A text that none of them throws for is `Readable`; with any other the
exception leaves `processUnsolicited` before the time of receipt is read
(`handled_iff`), and ends a run of messages (`processUnsolicitedNitz_run_iff`).
-/

namespace P970.Ril

open Java
open P970.Words (Fits)

/-- A number that is an `int`. -/
def IsInt (D : Digits) (s : JString) : Prop := ∃ x, D.Reads s x ∧ Fits x

/-- There is a comma, then a sign before the next one, and an `int` after the sign; and there is an
`int` after the second comma, unless nothing but commas follows it. -/
def Readable (D : Digits) (s : JString) : Prop :=
  ∃ date item rest hour quarters more,
    s.splitOnP isComma = date :: item :: rest ∧ item.splitOnP isSign = hour :: quarters :: more ∧
    IsInt D quarters ∧
    ((∀ y ∈ rest, y = []) ∨ ∃ extra rest', rest = extra :: rest' ∧ IsInt D extra)

variable {D : Digits} {R : Runtime}

theorem isInt_iff {s : JString} : IsInt D s ↔ ∃ k, D.parseInt s = .ok k := by
  constructor
  · rintro ⟨x, hx, hf⟩
    refine ⟨Int32.ofInt x, ?_⟩
    rw [Digits.parseInt_of_reads hx, Digits.inRange, if_pos hf]
  · rintro ⟨k, hk⟩
    exact ⟨k.toInt, Digits.reads_of_parseInt hk, k.le_toInt, k.toInt_lt⟩

theorem IsInt.ne_nil {s : JString} (h : IsInt D s) : s ≠ [] := by
  obtain ⟨x, hx, -⟩ := h
  exact hx.ne_nil

theorem isInt_zero : IsInt D (lit "0") :=
  ⟨0, D.reads_figures (l := [0]) (by decide), by decide⟩

/-! ## The response -/

theorem extra_isInt_iff {p : UInt16 → Bool} {s x y : JString} {rest : List JString}
    (h : s.splitOnP p = x :: y :: rest) :
    IsInt D ((split p s)[2]?.getD (lit "0")) ↔
      (∀ y ∈ rest, y = []) ∨ ∃ extra rest', rest = extra :: rest' ∧ IsInt D extra := by
  cases hthird : (split p s)[2]? with
  | none =>
    refine iff_of_true isInt_zero (.inl fun z hz => ?_)
    by_contra hne
    cases rest with
    | nil => cases hz
    | cons extra rest =>
      have hsome := (split_third h).mpr ⟨rfl, z, hz, hne⟩
      rw [hthird] at hsome
      cases hsome
  | some extra =>
    obtain ⟨hhead, z, hz, hne⟩ := (split_third h).mp hthird
    obtain ⟨rest', rfl⟩ := List.head?_eq_some_iff.mp hhead
    constructor
    · exact fun hint => .inr ⟨extra, rest', rfl, hint⟩
    · rintro (hall | ⟨extra', rest'', he, hint⟩)
      · exact absurd (hall z hz) hne
      · cases he
        exact hint

theorem responseNitz_some_isOk_iff {s : JString} :
    (∃ r, responseNitz R (some s) = .ok r) ↔ Readable R.digits s := by
  constructor
  · rintro ⟨r, h⟩
    obtain ⟨item, date, hour, quarters, tzoffset, dst, hitem, hdate, hhour, hquarters, htz, hdst, -⟩ :=
      responseNitz_eq_ok.mp h
    obtain ⟨rest, hs⟩ := pieces_of_split hdate hitem
    obtain ⟨more, hi⟩ := pieces_of_split hhour hquarters
    exact ⟨date, item, rest, hour, quarters, more, hs, hi, isInt_iff.mpr ⟨tzoffset, htz⟩,
      (extra_isInt_iff hs).mp (isInt_iff.mpr ⟨dst, hdst⟩)⟩
  · rintro ⟨date, item, rest, hour, quarters, more, hs, hi, hquarters, hextra⟩
    obtain ⟨tzoffset, htz⟩ := isInt_iff.mp hquarters
    obtain ⟨dst, hdst⟩ := isInt_iff.mp ((extra_isInt_iff hs).mpr hextra)
    obtain ⟨hdate, hitem⟩ := split_pieces hs ⟨item, List.mem_cons_self, ne_nil_of_pieces hi⟩
    obtain ⟨hhour, hq⟩ := split_pieces hi ⟨quarters, List.mem_cons_self, hquarters.ne_nil⟩
    exact ⟨_, responseNitz_eq_ok.mpr
      ⟨item, date, hour, quarters, tzoffset, dst, hitem, hdate, hhour, hq, htz, hdst, rfl⟩⟩

/-- There is a response exactly to a text that can be read. -/
theorem responseNitz_isOk_iff {data : Option JString} :
    (∃ r, responseNitz R data = .ok r) ↔ ∃ s, data = some s ∧ Readable R.digits s := by
  cases data with
  | none =>
    rw [responseNitz_none]
    exact ⟨fun ⟨_, h⟩ => (by cases h), fun ⟨_, h, _⟩ => (by cases h)⟩
  | some s =>
    rw [responseNitz_some_isOk_iff]
    exact ⟨fun h => ⟨s, rfl, h⟩, fun ⟨_, hs, h⟩ => by cases hs; exact h⟩

theorem processUnsolicitedNitz_eq {ril : LgeInfineon} {p : NitzParcel} {ret : JString}
    (h : responseNitz R p.data = .ok ret) :
    processUnsolicitedNitz R ril p = .ok (ril.received (ret, p.receiveTime)) := by
  rw [processUnsolicitedNitz, h]
  rfl

/-- The receiver deals with all of the messages of a run exactly when it can read each. -/
theorem processUnsolicitedNitz_run_iff (R : Runtime) (ril : LgeInfineon) (l : List NitzParcel) :
    (∃ ril', l.foldlM (processUnsolicitedNitz R) ril = .ok ril') ↔
      ∀ p ∈ l, ∃ s, p.data = some s ∧ Readable R.digits s := by
  induction l generalizing ril with
  | nil => exact iff_of_true ⟨ril, rfl⟩ fun p hp => (by cases hp)
  | cons p l ih =>
    rw [List.forall_mem_cons, List.foldlM_cons, ← responseNitz_isOk_iff]
    constructor
    · rintro ⟨ril', h⟩
      obtain ⟨next, hnext, hrest⟩ := Outcome.bind_eq_ok.mp h
      obtain ⟨ret, hret, -⟩ := Outcome.bind_eq_ok.mp hnext
      exact ⟨⟨ret, hret⟩, (ih next).mp ⟨ril', hrest⟩⟩
    · rintro ⟨⟨ret, hret⟩, hl⟩
      obtain ⟨ril', hrest⟩ := (ih (ril.received (ret, p.receiveTime))).mpr hl
      exact ⟨ril', Outcome.bind_eq_ok.mpr ⟨_, processUnsolicitedNitz_eq hret, hrest⟩⟩

/-- The message is dealt with: the response goes on with the time of receipt. -/
def Handled (R : Runtime) (ril : LgeInfineon) (p : NitzParcel) : Prop :=
  ∃ ret, responseNitz R p.data = .ok ret ∧
    processUnsolicitedNitz R ril p = .ok (ril.received (ret, p.receiveTime))

/-- A message is dealt with exactly when it has a text and this can be read. -/
theorem handled_iff (R : Runtime) (ril : LgeInfineon) (p : NitzParcel) :
    Handled R ril p ↔ ∃ s, p.data = some s ∧ Readable R.digits s := by
  rw [← responseNitz_isOk_iff]
  constructor
  · rintro ⟨ret, hret, -⟩
    exact ⟨ret, hret⟩
  · rintro ⟨ret, hret⟩
    exact ⟨ret, hret, processUnsolicitedNitz_eq hret⟩

/-- The zone of UTC. -/
def utc : Zone := ⟨fun _ => 0, fun _ => 0⟩

/-- A time without its zone throws. -/
theorem responseNitz_no_sign :
    responseNitz ⟨Digits.ascii, .ofZone utc⟩ (some (lit "12/11/06,19:00:15")) =
      .error .arrayIndexOutOfBounds := by rfl

end P970.Ril
