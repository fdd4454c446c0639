import P970.Ril.Nitz

/-!
# The time in UTC

The response to a well-formed text is worked out in the default time zone: the
text is read with one offset of the zone, and the result is printed with
another. It is the time in UTC exactly when these are the same
(`utc_iff_no_jump`).
-/

namespace P970.Ril

open Java Gregorian
open P970.Printf (printInt)
open P970.Words (Fits)

/-- A text of the network: a date and a time, their distance from UTC of at most a day in quarters
of an hour, and the number for the daylight-saving time, which is zero when it is missing. -/
structure NitzTime (R : Runtime) where
  written : Written
  time : DateTime
  writes : written.Writes (R.dateFormat.century written) time
  negative : Bool
  quarters : List (Fin 10)
  quarters_ne_nil : quarters ≠ []
  quarters_le : numeral quarters ≤ 96
  dst : Option JString
  dstNumber : Int
  dst_reads : R.digits.Reads (dst.getD (lit "0")) dstNumber

namespace NitzTime

variable {R : Runtime} (n : NitzTime R)

def sign : UInt16 := if n.negative then unit '-' else unit '+'

/-- The second piece of the text. -/
def item : JString := n.written.time ++ n.sign :: figures n.quarters

def text : JString := n.written.date ++ unit ',' :: (n.item ++
  match n.dst with
  | none => []
  | some s => unit ',' :: s)

/-- The quarters of an hour with their sign. -/
def q : Int := if n.negative then -numeral n.quarters else numeral n.quarters

/-- The instant, in milliseconds, whose date and time is printed. -/
def utcInstant : Int :=
  1000 * n.time.seconds - (R.dateFormat.zone.wall (1000 * n.time.seconds)).toInt - 900000 * n.q

/-- By how much the offset at that instant is another than that which the text is read with. -/
def jump : Int := (R.dateFormat.zone.offset n.utcInstant).toInt -
  (R.dateFormat.zone.wall (1000 * n.time.seconds)).toInt

end NitzTime

/-- A number with its sign, also when it is positive. -/
def withSign (x : Int) : JString := (if x < 0 then [] else lit "+") ++ (printInt x).map unit

/-- The response is the date and time `n.q` quarters of an hour before that of the text, and `n.q`
and the number for the daylight-saving time. -/
def IsUtc {R : Runtime} (n : NitzTime R) (r : Method JString) : Prop :=
  ∃ t : DateTime, t.seconds + 900 * n.q = n.time.seconds ∧
    r = .ok (dateTimeText t ++ withSign n.q ++ lit "," ++ (printInt n.dstNumber).map unit)

/-! ## The pieces -/

theorem isComma_figures (l : List (Fin 10)) : ∀ c ∈ figures l, isComma c = false :=
  fun _ h => beq_of_mem_figures h (.inl (by decide))

theorem isSign_figures (l : List (Fin 10)) : ∀ c ∈ figures l, isSign c = false := by
  intro c h
  rw [isSign, beq_of_mem_figures h (.inl (by decide)), beq_of_mem_figures h (.inl (by decide))]
  rfl

theorem isLineTerminator_figures (l : List (Fin 10)) :
    ∀ c ∈ figures l, isLineTerminator c = false := by
  intro c h
  rw [isLineTerminator, beq_of_mem_figures h (.inl (by decide)),
    beq_of_mem_figures h (.inl (by decide)), beq_of_mem_figures h (.inr (by decide)),
    beq_of_mem_figures h (.inr (by decide)), beq_of_mem_figures h (.inr (by decide))]
  rfl

theorem isComma_reads {D : Digits} {s : JString} {x : Int} (h : D.Reads s x) :
    ∀ c ∈ s, isComma c = false := by
  intro c hc
  by_contra hcomma
  obtain rfl : c = unit ',' := eq_of_beq (Bool.not_eq_false _ ▸ hcomma)
  rcases h.digit_or_sign hc with ⟨d, hd⟩ | h | h
  · rw [D.digit_ascii _ (by decide), if_neg (by decide)] at hd
    cases hd
  · cases h
  · cases h

/-- What ends in a character and figures. -/
theorem matchesMinus_append {front s : JString} {c : UInt16} (hne : s ≠ [])
    (hs : ∀ {x}, x ∈ s → unit '0' ≤ x ∧ x ≤ unit '9') (hc : isFigure c = false)
    (hfront : ∀ x ∈ front, isLineTerminator x = false) :
    matchesMinus (front ++ c :: s) = (c == unit '-') := by
  have hrev : ∀ x ∈ s.reverse, isFigure x = true := fun x hx => by
    obtain ⟨h0, h9⟩ := hs (List.mem_reverse.mp hx)
    rw [isFigure, decide_eq_true h0, decide_eq_true h9]
    rfl
  have hspan : (front ++ c :: s).reverse.span isFigure = (s.reverse, c :: front.reverse) := by
    rw [List.span_eq_takeWhile_dropWhile, List.reverse_append, List.reverse_cons,
      List.append_assoc, List.takeWhile_append_of_pos hrev, List.dropWhile_append_of_pos hrev,
      List.singleton_append, List.takeWhile_cons_of_neg (by rw [hc]; decide),
      List.dropWhile_cons_of_neg (by rw [hc]; decide), List.append_nil]
  have hall : (front.reverse.all fun c => !isLineTerminator c) = true := by
    refine List.all_eq_true.mpr fun x hx => ?_
    rw [hfront x (List.mem_reverse.mp hx)]
    rfl
  unfold matchesMinus
  rw [hspan]
  cases hs : s.reverse with
  | nil => exact absurd (List.reverse_eq_nil_iff.mp hs) hne
  | cons x xs =>
    show (c == unit '-' && _) = _
    rw [hall, Bool.and_true]

namespace NitzTime

variable {R : Runtime} (n : NitzTime R)

theorem sign_eq : n.sign = unit '-' ∨ n.sign = unit '+' := by
  unfold sign
  split
  · exact .inl rfl
  · exact .inr rfl

theorem isComma_item : ∀ c ∈ n.item, isComma c = false := by
  have hsign : isComma n.sign = false := by
    rcases n.sign_eq with h | h <;> rw [h] <;> rfl
  simp only [item, List.forall_mem_append, List.forall_mem_cons]
  exact ⟨Written.forall_time isComma_figures rfl, hsign, isComma_figures _⟩

theorem splitOnP_item : n.item.splitOnP isSign = [n.written.time, figures n.quarters] := by
  have hsign : isSign n.sign = true := by
    rcases n.sign_eq with h | h <;> rw [h] <;> rfl
  unfold item
  rw [List.splitOnP_append_cons_of_forall_mem (Written.forall_time isSign_figures rfl) _ hsign,
    List.splitOnP_eq_singleton (isSign_figures _)]

theorem splitOnP_text : n.text.splitOnP isComma = n.written.date :: n.item :: n.dst.toList := by
  have hreads := n.dst_reads
  unfold text
  rw [List.splitOnP_append_cons_of_forall_mem (Written.forall_date isComma_figures rfl) _ rfl]
  cases hdst : n.dst with
  | none =>
    rw [List.append_nil, List.splitOnP_eq_singleton n.isComma_item]
    rfl
  | some s =>
    rw [hdst] at hreads
    rw [List.splitOnP_append_cons_of_forall_mem n.isComma_item _ rfl,
      List.splitOnP_eq_singleton (isComma_reads (s := s) hreads)]
    rfl

theorem item_ne_nil : n.item ≠ [] := ne_nil_of_pieces n.splitOnP_item

theorem figures_ne_nil : figures n.quarters ≠ [] := by
  rw [figures, ne_eq, List.map_eq_nil_iff]
  exact n.quarters_ne_nil

/-- The third piece is the number for the daylight-saving time. -/
theorem split_dst : (split isComma n.text)[2]?.getD (lit "0") = n.dst.getD (lit "0") := by
  have hthird := fun z => split_third n.splitOnP_text (z := z)
  cases hdst : n.dst with
  | none =>
    rw [hdst] at hthird
    cases h : (split isComma n.text)[2]? with
    | none => rfl
    | some z => cases ((hthird z).mp h).1
  | some s =>
    have hreads := n.dst_reads
    rw [hdst] at hthird hreads
    rw [(hthird s).mpr ⟨rfl, s, List.mem_singleton_self s, hreads.ne_nil⟩]

theorem matchesMinus_item : matchesMinus n.item = n.negative := by
  have hterm := Written.forall_time (w := n.written) isLineTerminator_figures rfl
  rw [item]
  rcases hneg : n.negative with _ | _
  · have hsign : n.sign = unit '+' := by rw [sign, hneg]; rfl
    rw [hsign, matchesMinus_append n.figures_ne_nil mem_figures rfl hterm]
    rfl
  · have hsign : n.sign = unit '-' := by rw [sign, hneg]; rfl
    rw [hsign, matchesMinus_append n.figures_ne_nil mem_figures rfl hterm]
    rfl

/-! ## The numbers -/

/-- The time zone as it is computed. -/
def tzoffset : Int32 :=
  if n.negative then Int32.ofInt (numeral n.quarters) * -1 else Int32.ofInt (numeral n.quarters)

theorem q_bounds : -96 ≤ n.q ∧ n.q ≤ 96 := by
  have h := n.quarters_le
  unfold q
  split <;> omega

theorem toInt_tzoffset : n.tzoffset.toInt = n.q := by
  have h := n.quarters_le
  have hn : (Int32.ofInt (numeral n.quarters)).toInt = numeral n.quarters :=
    Int32.toInt_ofInt_of_le (by omega) (by omega)
  unfold tzoffset q
  split
  · rw [Int32.toInt_mul, hn]
    show ((numeral n.quarters : Int) * -1).bmod (2 ^ 32) = _
    rw [Int.bmod_eq_of_le_mul_two (by norm_num; omega) (by norm_num; omega)]
    omega
  · exact hn

theorem toInt_offset : (n.tzoffset * 15 * 60 * 1000).toInt = 900000 * n.q := by
  obtain ⟨h0, h1⟩ := n.q_bounds
  have h15 : (15 : Int32).toInt = 15 := rfl
  have h60 : (60 : Int32).toInt = 60 := rfl
  have h1000 : (1000 : Int32).toInt = 1000 := rfl
  simp only [Int32.toInt_mul, n.toInt_tzoffset, h15, h60, h1000]
  rw [Int.bmod_eq_of_le_mul_two (x := n.q * 15) (by norm_num; omega) (by norm_num; omega),
    Int.bmod_eq_of_le_mul_two (x := n.q * 15 * 60) (by norm_num; omega) (by norm_num; omega),
    Int.bmod_eq_of_le_mul_two (by norm_num; omega) (by norm_num; omega)]
  omega

end NitzTime

theorem signed_eq (k : Int32) : signed k = withSign k.toInt := by
  unfold signed withSign printed
  simp only [Int32.lt_iff_toInt_lt]
  rfl

/-! ## The response -/

section
variable {R : Runtime} (n : NitzTime R)

theorem convert_text : convert R (n.written.date ++ lit "," ++ n.written.time) n.tzoffset =
    R.dateFormat.format n.utcInstant := by
  have htext : n.written.date ++ lit "," ++ n.written.time =
      n.written.date ++ unit ',' :: n.written.time := List.append_assoc ..
  unfold convert NitzTime.utcInstant
  rw [htext, R.dateFormat.parse_written _ _ n.writes]
  simp only [n.toInt_offset]

/-- The response, whose last part may not be an `int`. -/
theorem responseNitz_text : responseNitz R (some n.text) = (Digits.inRange n.dstNumber >>= fun dst =>
    .ok (R.dateFormat.format n.utcInstant ++ withSign n.q ++ lit "," ++ printed dst)) := by
  obtain ⟨hdate, hitem⟩ := split_pieces n.splitOnP_text ⟨n.item, List.mem_cons_self, n.item_ne_nil⟩
  obtain ⟨htime, hquarters⟩ := split_pieces n.splitOnP_item
    ⟨figures n.quarters, List.mem_cons_self, n.figures_ne_nil⟩
  have hle := n.quarters_le
  have hparse : R.digits.parseInt (figures n.quarters) = .ok (Int32.ofInt (numeral n.quarters)) := by
    rw [Digits.parseInt_of_reads (R.digits.reads_figures n.quarters_ne_nil), Digits.inRange,
      if_pos ⟨by omega, by omega⟩]
  have htz : (if n.negative = true then Int32.ofInt (numeral n.quarters) * -1
      else Int32.ofInt (numeral n.quarters)) = n.tzoffset := rfl
  unfold responseNitz
  simp only [index_eq_ok.mpr hitem, index_eq_ok.mpr hdate, index_eq_ok.mpr htime,
    index_eq_ok.mpr hquarters, Outcome.ok_bind, hparse, parcelextra_eq, n.split_dst,
    Digits.parseInt_of_reads n.dst_reads, n.matchesMinus_item, htz, convert_text n, signed_eq,
    n.toInt_tzoffset]

/-- The date and time that is printed. -/
theorem format_utcInstant : R.dateFormat.format n.utcInstant =
    dateTimeText (DateTime.ofSeconds (n.time.seconds - 900 * n.q + n.jump / 1000)) := by
  have h : n.utcInstant + (R.dateFormat.zone.offset n.utcInstant).toInt =
      n.jump + (n.time.seconds - 900 * n.q) * 1000 := by
    unfold NitzTime.jump
    rw [NitzTime.utcInstant]
    omega
  rw [SimpleDateFormat.format, h, Int.add_mul_ediv_right _ _ (by decide), Int.add_comm]

/-- A text that is the right one to the second is the only one within a year. -/
theorem dateTimeText_eq_iff {t : DateTime} {x : Int} (ht : t.seconds + 900 * n.q = n.time.seconds)
    (hx : -31000000 ≤ x ∧ x ≤ 31000000) :
    dateTimeText (DateTime.ofSeconds (n.time.seconds - 900 * n.q + x)) = dateTimeText t ↔ x = 0 := by
  have hsec := DateTime.seconds_ofSeconds (n.time.seconds - 900 * n.q + x)
  constructor
  · intro h
    obtain ⟨hmonth, hday, hs⟩ := dateTimeText_inj h
    have heq := DateTime.eq_of_near hmonth hday hs (by omega) (by omega)
    rw [heq] at hsec
    omega
  · rintro rfl
    rw [show t = DateTime.ofSeconds (n.time.seconds - 900 * n.q + 0) from
      DateTime.seconds_inj (by omega)]

theorem jump_bounds : -2 ^ 32 ≤ n.jump ∧ n.jump ≤ 2 ^ 32 := by
  have h1 := (R.dateFormat.zone.offset n.utcInstant).le_toInt
  have h2 := (R.dateFormat.zone.offset n.utcInstant).toInt_lt
  have h3 := (R.dateFormat.zone.wall (1000 * n.time.seconds)).le_toInt
  have h4 := (R.dateFormat.zone.wall (1000 * n.time.seconds)).toInt_lt
  unfold NitzTime.jump
  omega

end

/-- The response is the time in UTC exactly when the offset at the instant that is printed is the
one that the text is read with, to the second, and the last number is an `int`. -/
theorem utc_iff_no_jump (R : Runtime) (n : NitzTime R) :
    IsUtc n (responseNitz R (some n.text)) ↔ Fits n.dstNumber ∧ 0 ≤ n.jump ∧ n.jump < 1000 := by
  obtain ⟨h0, h1⟩ := jump_bounds n
  rw [responseNitz_text]
  by_cases hf : Fits n.dstNumber
  · have hdst : printed (Int32.ofInt n.dstNumber) = (printInt n.dstNumber).map unit := by
      rw [printed, Int32.toInt_ofInt_of_le hf.1 hf.2]
    rw [Digits.inRange, if_pos hf, Outcome.ok_bind, hdst, format_utcInstant]
    have hzero : (0 ≤ n.jump ∧ n.jump < 1000) ↔ n.jump / 1000 = 0 := by omega
    rw [hzero, and_iff_right hf]
    constructor
    · rintro ⟨t, ht, h⟩
      apply (dateTimeText_eq_iff n ht (by omega)).mp
      simpa only [Except.ok.injEq, List.append_assoc, List.append_cancel_right_eq] using h
    · intro hj
      refine ⟨DateTime.ofSeconds (n.time.seconds - 900 * n.q), ?_, ?_⟩
      · rw [DateTime.seconds_ofSeconds]
        omega
      · rw [hj, Int.add_zero]
  · refine iff_of_false ?_ fun h => hf h.1
    rintro ⟨t, -, h⟩
    rw [Digits.inRange, if_neg hf] at h
    cases h

/-! ## A change of the clocks -/

/-- Central European time around 25 March 2012, 1 o'clock in UTC, when the clocks were put on from
2 to 3 o'clock. -/
def centralEurope : Zone where
  wall time := if time < 1332644400000 then 3600000 else 7200000
  offset time := if time < 1332637200000 then 3600000 else 7200000

def inCentralEurope : Runtime := ⟨Digits.ascii, .ofZone centralEurope⟩

/-- Half an hour after the change. -/
def afterChange : NitzTime inCentralEurope where
  written := ⟨[1, 2], [0, 3], [2, 5], [0, 3], [3, 0], [0, 0], .inl rfl, by decide⟩
  time := ⟨⟨2012, 3, 25, by decide, by decide, ⟨31, rfl, by decide⟩⟩, 3, 30, 0, by decide,
    by decide, by decide⟩
  writes := ⟨rfl, rfl, rfl, rfl, rfl, rfl⟩
  negative := false
  quarters := [8]
  quarters_ne_nil := by decide
  quarters_le := by decide
  dst := some (lit "1")
  dstNumber := 1
  dst_reads := Digits.ascii.reads_figures (l := [1]) (by decide)

/-- It is half past one in UTC, and not half past twelve. -/
theorem utc_after_change :
    afterChange.text = lit "12/03/25,03:30:00+8,1" ∧
      responseNitz inCentralEurope (some afterChange.text) = .ok (lit "12/03/25,00:30:00+8,1") ∧
      ¬ IsUtc afterChange (responseNitz inCentralEurope (some afterChange.text)) := by
  have hresponse : responseNitz inCentralEurope (some afterChange.text) =
      .ok (lit "12/03/25,00:30:00+8,1") := by rfl
  refine ⟨by rfl, hresponse, ?_⟩
  rw [hresponse]
  rintro ⟨t, ht, h⟩
  have hsec : afterChange.time.seconds = 1332646200 := by rfl
  have hq : afterChange.q = 8 := by rfl
  obtain rfl : t = DateTime.ofSeconds 1332639000 := by
    apply DateTime.seconds_inj
    rw [DateTime.seconds_ofSeconds]
    omega
  have htext : dateTimeText (DateTime.ofSeconds 1332639000) = lit "12/03/25,01:30:00" := by rfl
  rw [htext, hq] at h
  exact absurd h (by decide)

end P970.Ril
