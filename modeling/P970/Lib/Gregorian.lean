import Mathlib.Algebra.GroupWithZero.Nat
import Mathlib.Data.List.TakeDrop
import Mathlib.Tactic.Common

/-!
# The Gregorian calendar

Days are numbered from 1 January of the year 0, and seconds from 1 January 1970.
A date and a time of day are a number of seconds and back (`seconds_ofSeconds`,
`seconds_inj`).
-/

namespace P970.Gregorian

/-! ## Blocks one after the other -/

/-- The block that the `n`th place is in, and the place in the block. -/
def locate : List Nat → Nat → Nat × Nat
  | [], n => (0, n)
  | len :: lens, n =>
    if n < len then (0, n) else ((locate lens (n - len)).1 + 1, (locate lens (n - len)).2)

theorem locate_spec {lens : List Nat} {n : Nat} (h : n < lens.sum) :
    ∃ len, lens[(locate lens n).1]? = some len ∧ (locate lens n).2 < len ∧
      (lens.take (locate lens n).1).sum + (locate lens n).2 = n := by
  induction lens generalizing n with
  | nil => cases h
  | cons len lens ih =>
    unfold locate
    by_cases hn : n < len
    · rw [if_pos hn]
      exact ⟨len, rfl, hn, by simp⟩
    · rw [if_neg hn]
      rw [List.sum_cons] at h
      obtain ⟨len', hlen, hlt, hsum⟩ := ih (n := n - len) (by omega)
      refine ⟨len', by rw [List.getElem?_cons_succ, hlen], hlt, ?_⟩
      rw [List.take_succ_cons, List.sum_cons]
      omega

theorem locate_eq {lens : List Nat} {i r len : Nat} (h : lens[i]? = some len) (hr : r < len) :
    locate lens ((lens.take i).sum + r) = (i, r) := by
  induction lens generalizing i with
  | nil => cases h
  | cons l lens ih =>
    unfold locate
    cases i with
    | zero =>
      cases h
      rw [List.take_zero, List.sum_nil, Nat.zero_add, if_pos hr]
    | succ i =>
      rw [List.getElem?_cons_succ] at h
      rw [List.take_succ_cons, List.sum_cons, if_neg (by omega)]
      rw [show l + (lens.take i).sum + r - l = (lens.take i).sum + r by omega, ih h]

theorem sum_take_add_lt {lens : List Nat} {i len : Nat} (h : lens[i]? = some len) :
    (lens.take i).sum + len ≤ lens.sum := by
  induction lens generalizing i with
  | nil => cases h
  | cons l lens ih =>
    cases i with
    | zero =>
      cases h
      simp
    | succ i =>
      have := ih h
      rw [List.take_succ_cons, List.sum_cons, List.sum_cons]
      omega

/-! ## Years -/

/-- The year has a 29 February. -/
def Leap (y : Int) : Prop := y % 4 = 0 ∧ (y % 100 ≠ 0 ∨ y % 400 = 0)

instance (y : Int) : Decidable (Leap y) := inferInstanceAs (Decidable (_ ∧ _))

def monthLengths (y : Int) : List Nat :=
  [31, if Leap y then 29 else 28, 31, 30, 31, 30, 31, 31, 30, 31, 30, 31]

/-- The number of 1 January. -/
def yearStart (y : Int) : Int := 365 * y + (y + 3) / 4 - (y + 99) / 100 + (y + 399) / 400

theorem yearStart_succ (y : Int) : yearStart (y + 1) = yearStart y + (monthLengths y).sum := by
  unfold yearStart monthLengths
  split
  · next h =>
    unfold Leap at h
    simp only [List.sum_cons, List.sum_nil]
    omega
  · next h =>
    unfold Leap at h
    simp only [List.sum_cons, List.sum_nil]
    omega

/-- A year has 365.2425 days. -/
theorem yearStart_bounds (y : Int) :
    146097 * y - 396 ≤ 400 * yearStart y ∧ 400 * yearStart y ≤ 146097 * y + 699 := by
  unfold yearStart
  omega

/-- The months of two years differ by at most a day. -/
theorem sum_take_le (y y' : Int) (i : Nat) :
    ((monthLengths y).take i).sum ≤ ((monthLengths y').take i).sum + 1 := by
  match i with
  | 0 => exact Nat.zero_le _
  | 1 => exact Nat.le_succ _
  | i + 2 =>
    simp only [monthLengths, List.take_succ_cons, List.sum_cons]
    split <;> split <;> omega

theorem length_year (y : Int) : 365 ≤ (monthLengths y).sum ∧ (monthLengths y).sum ≤ 366 := by
  unfold monthLengths
  split <;> decide

theorem yearStart_add_le {y y' : Int} (h : y < y') : yearStart y + (monthLengths y).sum ≤ yearStart y' := by
  have h1 := yearStart_bounds (y + 1)
  have h2 := yearStart_bounds y'
  rw [← yearStart_succ]
  by_cases he : y' = y + 1
  · exact Int.le_of_eq (congrArg yearStart he.symm)
  · omega

/-- The year of a day. -/
def yearOf (n : Int) : Int :=
  let y := 400 * n / 146097
  if yearStart (y + 1) ≤ n then y + 1 else if yearStart y ≤ n then y else y - 1

theorem yearOf_spec (n : Int) : yearStart (yearOf n) ≤ n ∧
    n < yearStart (yearOf n) + (monthLengths (yearOf n)).sum := by
  have h0 := yearStart_bounds (400 * n / 146097 - 1)
  have h2 := yearStart_bounds (400 * n / 146097 + 2)
  rw [← yearStart_succ]
  unfold yearOf
  by_cases h : yearStart (400 * n / 146097 + 1) ≤ n
  · rw [if_pos h]
    refine ⟨h, ?_⟩
    rw [Int.add_assoc]
    show n < yearStart (400 * n / 146097 + 2)
    omega
  rw [if_neg h]
  by_cases h' : yearStart (400 * n / 146097) ≤ n
  · rw [if_pos h']
    exact ⟨h', by omega⟩
  · rw [if_neg h', Int.sub_add_cancel]
    exact ⟨by omega, by omega⟩

/-! ## Dates -/

/-- A date that exists. -/
@[ext] structure Date where
  year : Int
  month : Nat
  day : Nat
  month_pos : 1 ≤ month
  day_pos : 1 ≤ day
  day_le : ∃ len, (monthLengths year)[month - 1]? = some len ∧ day ≤ len

/-- The place of the date in its year. -/
def Date.yearDay (d : Date) : Nat := ((monthLengths d.year).take (d.month - 1)).sum + (d.day - 1)

def Date.dayNumber (d : Date) : Int := yearStart d.year + d.yearDay

theorem Date.yearDay_lt (d : Date) : d.yearDay < (monthLengths d.year).sum := by
  obtain ⟨len, hlen, hle⟩ := d.day_le
  have hpos := d.day_pos
  have hsum := sum_take_add_lt hlen
  unfold yearDay
  omega

theorem Date.locate_yearDay (d : Date) :
    locate (monthLengths d.year) d.yearDay = (d.month - 1, d.day - 1) := by
  obtain ⟨len, hlen, hle⟩ := d.day_le
  have hpos := d.day_pos
  exact locate_eq hlen (by omega)

theorem Date.dayNumber_inj {d e : Date} (h : d.dayNumber = e.dayNumber) : d = e := by
  have hd := d.yearDay_lt
  have he := e.yearDay_lt
  unfold dayNumber at h
  have hy : d.year = e.year := by
    rcases Int.lt_trichotomy d.year e.year with hlt | heq | hlt
    · have := yearStart_add_le hlt
      omega
    · exact heq
    · have := yearStart_add_le hlt
      omega
  have hyd : d.yearDay = e.yearDay := by
    rw [hy] at h
    omega
  have hloc := d.locate_yearDay
  rw [hy, hyd, e.locate_yearDay] at hloc
  obtain ⟨hm, hday⟩ := Prod.mk.inj hloc
  have h1 := d.month_pos
  have h2 := e.month_pos
  have h3 := d.day_pos
  have h4 := e.day_pos
  exact Date.ext hy (by omega) (by omega)

theorem locate_yearOf (n : Int) :
    ∃ len, (monthLengths (yearOf n))[(locate (monthLengths (yearOf n))
        (n - yearStart (yearOf n)).toNat).1]? = some len ∧
      (locate (monthLengths (yearOf n)) (n - yearStart (yearOf n)).toNat).2 < len ∧
      ((monthLengths (yearOf n)).take (locate (monthLengths (yearOf n))
          (n - yearStart (yearOf n)).toNat).1).sum +
        (locate (monthLengths (yearOf n)) (n - yearStart (yearOf n)).toNat).2 =
        (n - yearStart (yearOf n)).toNat := by
  obtain ⟨h0, h1⟩ := yearOf_spec n
  exact locate_spec (by omega)

/-- The date of a day. -/
def ofDayNumber (n : Int) : Date where
  year := yearOf n
  month := (locate (monthLengths (yearOf n)) (n - yearStart (yearOf n)).toNat).1 + 1
  day := (locate (monthLengths (yearOf n)) (n - yearStart (yearOf n)).toNat).2 + 1
  month_pos := Nat.succ_pos _
  day_pos := Nat.succ_pos _
  day_le := by
    obtain ⟨len, hlen, hlt, -⟩ := locate_yearOf n
    exact ⟨len, hlen, hlt⟩

theorem dayNumber_ofDayNumber (n : Int) : (ofDayNumber n).dayNumber = n := by
  obtain ⟨len, -, -, hsum⟩ := locate_yearOf n
  obtain ⟨h0, -⟩ := yearOf_spec n
  unfold Date.dayNumber Date.yearDay ofDayNumber
  simp only [Nat.add_sub_cancel]
  rw [hsum]
  omega

/-- The same day of two years is about a year apart. -/
theorem Date.dayNumber_lt_of_year_lt {d e : Date} (hm : d.month = e.month) (hd : d.day = e.day)
    (hy : d.year < e.year) : d.dayNumber + 364 ≤ e.dayNumber := by
  have hstart := yearStart_add_le hy
  have hlen := length_year d.year
  have hday : d.yearDay ≤ e.yearDay + 1 := by
    have := sum_take_le d.year e.year (e.month - 1)
    unfold yearDay
    rw [hm, hd]
    omega
  unfold dayNumber
  omega

/-! ## Dates with a time -/

/-- A date and a time of day. -/
@[ext] structure DateTime where
  date : Date
  hour : Nat
  minute : Nat
  second : Nat
  hour_lt : hour < 24
  minute_lt : minute < 60
  second_lt : second < 60

/-- The number of 1 January 1970. -/
def epoch : Int := 719528

namespace DateTime

def secondOfDay (t : DateTime) : Nat := t.hour * 3600 + t.minute * 60 + t.second

def seconds (t : DateTime) : Int := (t.date.dayNumber - epoch) * 86400 + t.secondOfDay

theorem secondOfDay_lt (t : DateTime) : t.secondOfDay < 86400 := by
  have h1 := t.hour_lt
  have h2 := t.minute_lt
  have h3 := t.second_lt
  unfold secondOfDay
  omega

theorem seconds_inj {t u : DateTime} (h : t.seconds = u.seconds) : t = u := by
  have ht := t.secondOfDay_lt
  have hu := u.secondOfDay_lt
  unfold seconds at h
  have hdate : t.date = u.date := Date.dayNumber_inj (by omega)
  have hsec : t.secondOfDay = u.secondOfDay := by
    rw [hdate] at h
    omega
  have h1 := t.minute_lt
  have h2 := t.second_lt
  have h3 := u.minute_lt
  have h4 := u.second_lt
  unfold secondOfDay at hsec
  exact DateTime.ext hdate (by omega) (by omega) (by omega)

/-- The date and time of a number of seconds. -/
def ofSeconds (n : Int) : DateTime where
  date := ofDayNumber (n / 86400 + epoch)
  hour := (n % 86400).toNat / 3600
  minute := (n % 86400).toNat / 60 % 60
  second := (n % 86400).toNat % 60
  hour_lt := by omega
  minute_lt := by omega
  second_lt := by omega

theorem seconds_ofSeconds (n : Int) : (ofSeconds n).seconds = n := by
  unfold seconds secondOfDay
  simp only [ofSeconds, dayNumber_ofDayNumber]
  omega

/-- Two dates and times that differ in the year at most are equal or almost a year apart. -/
theorem eq_of_near {t u : DateTime} (hmonth : t.date.month = u.date.month)
    (hday : t.date.day = u.date.day) (hsec : t.secondOfDay = u.secondOfDay)
    (h1 : t.seconds < u.seconds + 364 * 86400) (h2 : u.seconds < t.seconds + 364 * 86400) :
    t = u := by
  unfold seconds at h1 h2
  have hyear : t.date.year = u.date.year := by
    rcases Int.lt_trichotomy t.date.year u.date.year with hlt | heq | hlt
    · have := Date.dayNumber_lt_of_year_lt hmonth hday hlt
      omega
    · exact heq
    · have := Date.dayNumber_lt_of_year_lt hmonth.symm hday.symm hlt
      omega
  apply seconds_inj
  rw [seconds, seconds, Date.ext hyear hmonth hday, hsec]

end DateTime

end P970.Gregorian
