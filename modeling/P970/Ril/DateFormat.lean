import P970.Lib.Gregorian
import P970.Lib.JavaText

/-!
# `SimpleDateFormat`

The formatter of the pattern `yy/MM/dd,HH:mm:ss` maps between local times and
instants in the default time zone, where a local time is a date and time of the
Gregorian calendar. What it prints tells the month, the day and the time of day
(`dateTimeText_inj`).
-/

namespace P970.Ril

open Java Gregorian

/-- The default time zone, in milliseconds: the offset that a local time is taken to have and the
offset that is in force at an instant. -/
structure Zone where
  wall : Int → Int32
  offset : Int → Int32

/-- A date and a time in figures, the year with two or four. -/
structure Written where
  year : List (Fin 10)
  month : List (Fin 10)
  day : List (Fin 10)
  hour : List (Fin 10)
  minute : List (Fin 10)
  second : List (Fin 10)
  year_length : year.length = 2 ∨ year.length = 4
  ne_nil : ∀ l ∈ [month, day, hour, minute, second], l ≠ []

namespace Written

variable (w : Written)

def date : JString :=
  figures w.year ++ unit '/' :: figures w.month ++ unit '/' :: figures w.day

def time : JString :=
  figures w.hour ++ unit ':' :: figures w.minute ++ unit ':' :: figures w.second

section
variable {w : Written} {P : UInt16 → Prop} (hf : ∀ (l : List (Fin 10)), ∀ c ∈ figures l, P c)
include hf

theorem forall_date (hs : P (unit '/')) : ∀ c ∈ w.date, P c := by
  simp only [date, List.forall_mem_append, List.forall_mem_cons]
  exact ⟨⟨hf _, hs, hf _⟩, hs, hf _⟩

theorem forall_time (hs : P (unit ':')) : ∀ c ∈ w.time, P c := by
  simp only [time, List.forall_mem_append, List.forall_mem_cons]
  exact ⟨⟨hf _, hs, hf _⟩, hs, hf _⟩

end

/-- `w` stands for `t`, where a year of two figures is in the century `century`. -/
structure Writes (century : Int) (t : DateTime) : Prop where
  year : t.date.year = numeral w.year + if w.year.length = 2 then 100 * century else 0
  month : t.date.month = numeral w.month
  day : t.date.day = numeral w.day
  hour : t.hour = numeral w.hour
  minute : t.minute = numeral w.minute
  second : t.second = numeral w.second

end Written

/-! ## Formatting -/

/-- Two figures. -/
def two (n : Nat) : JString := [figure (n / 10 % 10), figure (n % 10)]

/-- The year before the year 1 is 1 BC. -/
def yearOfEra (y : Int) : Nat := if 0 < y then y.toNat else (1 - y).toNat

def dateTimeText (t : DateTime) : JString :=
  two (yearOfEra t.date.year) ++ unit '/' :: two t.date.month ++ unit '/' :: two t.date.day ++
    unit ',' :: two t.hour ++ unit ':' :: two t.minute ++ unit ':' :: two t.second

/-- `new SimpleDateFormat("yy/MM/dd,HH:mm:ss")`. A year of two figures is put near the present, in
the century that `century` tells; `parse` returns the time of a date and time that is well written,
and may or may not make something of any other text. -/
structure SimpleDateFormat where
  zone : Zone
  century : Written → Int
  parse : JString → Option Int
  parse_written : ∀ (w : Written) (t : DateTime), w.Writes (century w) t →
    parse (w.date ++ unit ',' :: w.time) =
      some (1000 * t.seconds - (zone.wall (1000 * t.seconds)).toInt)

/-- `format(new Date(when))`. -/
def SimpleDateFormat.format (F : SimpleDateFormat) (time : Int) : JString :=
  dateTimeText (DateTime.ofSeconds ((time + (F.zone.offset time).toInt) / 1000))

/-! ## What is printed -/

theorem figure_inj {a b : Nat} (ha : a < 10) (hb : b < 10) (h : figure a = figure b) : a = b := by
  have h := congrArg UInt16.toNat h
  rw [figure_toNat ha, figure_toNat hb] at h
  omega

theorem two_inj {a b : Nat} (ha : a < 100) (hb : b < 100) (h : two a = two b) : a = b := by
  obtain ⟨h1, h⟩ := List.cons.inj h
  obtain ⟨h2, -⟩ := List.cons.inj h
  have h1 := figure_inj (by omega) (by omega) h1
  have h2 := figure_inj (by omega) (by omega) h2
  omega

theorem two_append_inj {a b : Nat} {s t : JString} (h : two a ++ s = two b ++ t) :
    two a = two b ∧ s = t :=
  List.append_inj h rfl

theorem month_lt (d : Date) : d.month < 100 := by
  obtain ⟨len, hlen, -⟩ := d.day_le
  have hlt := (List.getElem?_eq_some_iff.mp hlen).1
  have : (monthLengths d.year).length = 12 := rfl
  omega

theorem day_lt (d : Date) : d.day < 100 := by
  obtain ⟨len, hlen, hle⟩ := d.day_le
  have hall : ∀ len ∈ monthLengths d.year, len ≤ 31 := by
    unfold monthLengths
    split <;> decide
  have := hall len (List.mem_of_getElem? hlen)
  omega

theorem dateTimeText_inj {t u : DateTime} (h : dateTimeText t = dateTimeText u) :
    t.date.month = u.date.month ∧ t.date.day = u.date.day ∧ t.secondOfDay = u.secondOfDay := by
  have h1 := t.hour_lt
  have h2 := t.minute_lt
  have h3 := t.second_lt
  have h4 := u.hour_lt
  have h5 := u.minute_lt
  have h6 := u.second_lt
  simp only [dateTimeText, List.append_assoc, List.cons_append] at h
  obtain ⟨-, h⟩ := two_append_inj h
  obtain ⟨hmonth, h⟩ := two_append_inj (List.cons.inj h).2
  obtain ⟨hday, h⟩ := two_append_inj (List.cons.inj h).2
  obtain ⟨hhour, h⟩ := two_append_inj (List.cons.inj h).2
  obtain ⟨hminute, h⟩ := two_append_inj (List.cons.inj h).2
  have hsecond := two_inj (by omega) (by omega) (List.cons.inj h).2
  have hhour := two_inj (by omega) (by omega) hhour
  have hminute := two_inj (by omega) (by omega) hminute
  refine ⟨two_inj (month_lt _) (month_lt _) hmonth, two_inj (day_lt _) (day_lt _) hday, ?_⟩
  rw [DateTime.secondOfDay, DateTime.secondOfDay, hhour, hminute, hsecond]

/-! ## A formatter of any zone -/

def isDelimiter (c : UInt16) : Bool := c == unit '/' || c == unit ',' || c == unit ':'

theorem isDelimiter_figures {l : List (Fin 10)} {c : UInt16} (h : c ∈ figures l) :
    isDelimiter c = false := by
  rw [isDelimiter, beq_of_mem_figures h (.inl (by decide)), beq_of_mem_figures h (.inl (by decide)),
    beq_of_mem_figures h (.inr (by decide))]
  rfl

/-- The time of numbers in the places of a date and time. -/
def rawSeconds (year : Int) (month day hour minute second : Nat) : Int :=
  (yearStart year + (((monthLengths year).take (month - 1)).sum + (day - 1) : Nat) - epoch) * 86400 +
    (hour * 3600 + minute * 60 + second : Nat)

/-- Six numbers between delimiters, of this century. -/
def readSeconds (s : JString) : Option Int :=
  match s.splitOnP isDelimiter with
  | [year, month, day, hour, minute, second] => do
    let y ← Digits.ascii.value year
    let mo ← Digits.ascii.value month
    let d ← Digits.ascii.value day
    let h ← Digits.ascii.value hour
    let mi ← Digits.ascii.value minute
    let se ← Digits.ascii.value second
    some (rawSeconds (y + if year.length = 2 then 100 * 20 else 0) mo d h mi se)
  | _ => none

theorem readSeconds_written {w : Written} {t : DateTime} (h : w.Writes 20 t) :
    readSeconds (w.date ++ unit ',' :: w.time) = some t.seconds := by
  have hfirst : ∀ (l : List (Fin 10)) (c : UInt16) (s : JString), isDelimiter c = true →
      (figures l ++ c :: s).splitOnP isDelimiter = figures l :: s.splitOnP isDelimiter :=
    fun l c s hc => List.splitOnP_append_cons_of_forall_mem (fun _ hx => isDelimiter_figures hx) c hc s
  have hlast : ∀ l, (figures l).splitOnP isDelimiter = [figures l] :=
    fun l => List.splitOnP_eq_singleton fun _ hx => isDelimiter_figures hx
  have hsplit : (w.date ++ unit ',' :: w.time).splitOnP isDelimiter = [figures w.year,
      figures w.month, figures w.day, figures w.hour, figures w.minute, figures w.second] := by
    simp only [Written.date, Written.time, List.append_assoc, List.cons_append]
    rw [hfirst _ _ _ rfl, hfirst _ _ _ rfl, hfirst _ _ _ rfl, hfirst _ _ _ rfl, hfirst _ _ _ rfl,
      hlast]
  have hlen : (figures w.year).length = w.year.length := List.length_map ..
  unfold readSeconds
  rw [hsplit]
  simp only [Digits.value_figures, Option.bind_eq_bind, Option.bind_some, hlen, ← h.year, ← h.month,
    ← h.day, ← h.hour, ← h.minute, ← h.second]
  rfl

/-- The formatter of a zone in this century. -/
def SimpleDateFormat.ofZone (zone : Zone) : SimpleDateFormat where
  zone := zone
  century _ := 20
  parse s := (readSeconds s).map fun seconds =>
    1000 * seconds - (zone.wall (1000 * seconds)).toInt
  parse_written w t h := by rw [readSeconds_written h, Option.map_some]

end P970.Ril
