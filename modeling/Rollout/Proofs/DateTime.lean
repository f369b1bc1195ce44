import Mathlib.Tactic.IntervalCases
import Rollout.DateTime

/-!
# Times that are read

A time that is read is one of the calendar, whatever text or number it was read from; and the text that
is written for it is read as that very time.

* `DateTime.digits?_padded` : a number of digits is read back from them;
* `DateTime.ofText?_text` : a time is read back from its text;
* `DateTime.valid_ofInstant` : an instant within the range is a time of the calendar;
* `DateTime.valid_of_ofText?`, `DateTime.valid_of_ofSeconds?`, `DateTime.valid_of_ofDouble?` : so is
  every time that is read.
-/

set_option autoImplicit false

namespace Rollout.DateTime

/-! ## Digits -/

theorem digit?_of_isDigit {c : Char} (h : c.isDigit = true) :
    digit? c = some (c.toNat - '0'.toNat) := by rw [digit?, if_pos h]

/-- Digits are read as the number that they write. -/
theorem digits?_append (rest : List Char) : ∀ ds : List Char, (∀ c ∈ ds, c.isDigit = true) →
    digits? ds.length (ds ++ rest) = some (Numeral.value ds, rest)
  | [], _ => rfl
  | c :: ds, h => by
    have hvalue : Numeral.value (c :: ds)
        = (c.toNat - '0'.toNat) * Nat.pow 10 ds.length + Numeral.value ds := by
      have := @Nat.ofDigitChars_eq_ofDigitChars_zero ds (c.toNat - '0'.toNat)
      rw [Nat.mul_comm] at this
      simpa [Numeral.value, Nat.ofDigitChars_eq_foldl] using this
    rw [List.length_cons, List.cons_append, digits?, digit?_of_isDigit (h c List.mem_cons_self),
      digits?_append rest ds fun c hc => h c (List.mem_cons_of_mem _ hc), hvalue]

variable {w n : Nat}

theorem length_padded (hw : 0 < w) (h : n < 10 ^ w) : (padded w n).length = w := by
  have := (Nat.length_toDigits_le_iff (by decide) hw).mpr h
  simp only [padded, List.length_append, List.length_replicate]
  omega

theorem isDigit_padded : ∀ c ∈ padded w n, c.isDigit = true := by
  intro c hc
  rcases List.mem_append.mp hc with hc | hc
  · rw [(List.mem_replicate.mp hc).2]
    rfl
  · exact Nat.isDigit_of_mem_toDigits (by decide) (by decide) hc

theorem value_padded (w n : Nat) : Numeral.value (padded w n) = n := by
  have hvalue : ∀ ds, Numeral.value ds = Nat.ofDigitChars 10 ds 0 := fun ds => rfl
  rw [hvalue, padded, Nat.ofDigitChars_append, Nat.ofDigitChars_replicate_zero, Nat.mul_zero,
    Nat.ofDigitChars_ten_toDigits]

/-- **A number is read back from its digits.** -/
theorem digits?_padded (hw : 0 < w) (h : n < 10 ^ w) (rest : List Char) :
    digits? w (padded w n ++ rest) = some (n, rest) := by
  have := digits?_append rest (padded w n) isDigit_padded
  rwa [length_padded hw h, value_padded] at this

/-- Two digits, with what is needed of a number below one hundred. -/
theorem digits?_two (h : n < 100) (rest : List Char) :
    digits? 2 (padded 2 n ++ rest) = some (n, rest) := digits?_padded (by decide) h rest

/-- Digits end where something else follows. -/
theorem span_padded {rest : List Char} (hrest : ∀ c ∈ rest.head?, c.isDigit = false) :
    (padded w n ++ rest).takeWhile Char.isDigit = padded w n ∧
      (padded w n ++ rest).dropWhile Char.isDigit = rest := by
  rw [List.takeWhile_append_of_pos isDigit_padded, List.dropWhile_append_of_pos isDigit_padded]
  cases rest with
  | nil => simp
  | cons c cs => simp [hrest c rfl]

theorem after?_cons (c : Char) (rest : List Char) : after? c (c :: rest) = some rest := by
  rw [after?, if_pos rfl]

/-! ## The text of a time -/

variable {d : DateTime}

theorem readDate?_dateText (h : d.Valid) (rest : List Char) :
    readDate? (d.dateText ++ rest) = some ((d.year, d.month, d.day), rest) := by
  obtain ⟨_, hyear, _, hmonth, _, hday, _⟩ := h
  have hday : d.day < 100 := by
    have : daysIn d.year d.month ≤ 31 := by
      unfold daysIn
      split
      · split <;> omega
      · split <;> omega
    omega
  have h4 : ∀ rest, digits? 4 (padded 4 d.year ++ rest) = some (d.year, rest) :=
    digits?_padded (by decide) (by omega)
  simp only [readDate?, dateText, List.append_assoc, List.cons_append, h4, after?_cons,
    digits?_two (show d.month < 100 by omega), digits?_two hday, Option.bind_eq_bind,
    Option.bind_some]

/-- What follows the digits of a second: nothing, or an offset. -/
def Offset (cs : List Char) : Prop := ∀ c ∈ cs.head?, c = 'Z' ∨ c = '+' ∨ c = '-'

theorem offset_offsetText (offset : Option Int) : Offset ((offset.map offsetText).getD []) := by
  cases offset with
  | none => simp [Offset]
  | some m =>
    simp only [Offset, Option.map_some, Option.getD_some, offsetText]
    split
    · simp
    · split <;> simp

theorem readFraction?_fractionText (h : d.Valid) {rest : List Char} (hrest : Offset rest) :
    readFraction? (d.fractionText ++ rest) = some (d.microsecond, rest) := by
  obtain ⟨_, _, _, _, _, _, _, _, _, hmicro, _⟩ := h
  have hstop : ∀ c ∈ rest.head?, c.isDigit = false ∧ c ≠ '.' ∧ c ≠ ',' := by
    intro c hc
    rcases hrest c hc with rfl | rfl | rfl <;> decide
  by_cases hzero : d.microsecond = 0
  · rw [fractionText, if_pos hzero, List.nil_append, hzero]
    cases rest with
    | nil => rfl
    | cons c cs =>
      obtain ⟨_, hpoint, hcomma⟩ := hstop c rfl
      rw [readFraction?, if_neg (by simp [hpoint, hcomma])]
  · have hlength : (padded 6 d.microsecond).length = 6 := length_padded (by decide) hmicro
    obtain ⟨htake, hdrop⟩ := span_padded (w := 6) (n := d.microsecond) fun c hc => (hstop c hc).1
    have hsome : (padded 6 d.microsecond).isEmpty = false := by
      rw [List.isEmpty_eq_false_iff_exists_mem]
      exact List.exists_mem_of_length_pos (by omega)
    have hfraction : fractionOf (padded 6 d.microsecond) = d.microsecond := by
      rw [fractionOf, List.take_of_length_le (by omega), hlength]
      simpa using value_padded 6 d.microsecond
    rw [fractionText, if_neg hzero, List.cons_append, readFraction?, if_pos (.inl rfl)]
    simp only [htake, hdrop, hsome, hfraction, Bool.false_eq_true, if_false]

/-- Hours and minutes behind a sign. -/
theorem readOffset?_sign {c : Char} (hc : c = '+' ∨ c = '-') {n : Nat} (h : n < 1440) :
    readOffset? (c :: padded 2 (n / 60) ++ ':' :: padded 2 (n % 60))
      = some (some (Double.signed (c != '+') n)) := by
  have hhours := digits?_two (show n / 60 < 100 by omega) (':' :: padded 2 (n % 60))
  have hminutes := digits?_two (show n % 60 < 100 by omega) []
  rw [List.append_nil] at hminutes
  have hzone : ¬ (c = 'Z' ∨ c = 'z') := by rcases hc with rfl | rfl <;> decide
  have hsign : c = '+' ∨ c = '-' ∨ c = '\u2212' := hc.imp_right .inl
  rw [List.cons_append, readOffset?, if_neg hzone, if_pos hsign, hhours]
  simp only [after?_cons, Option.getD_some, hminutes]
  rw [if_pos (by omega), show n / 60 * 60 + n % 60 = n by omega]

theorem readOffset?_offsetText {offset : Option Int} (h : ∀ m ∈ offset, m.natAbs < 1440) :
    readOffset? ((offset.map offsetText).getD []) = some offset := by
  cases offset with
  | none => rfl
  | some m =>
    simp only [Option.map_some, Option.getD_some, offsetText]
    by_cases hzero : m = 0
    · rw [if_pos hzero, hzero]
      rfl
    · by_cases hneg : m < 0
      · have hsigned : Double.signed ('-' != '+') m.natAbs = -(m.natAbs : Int) := rfl
        rw [if_neg hzero, if_pos hneg, readOffset?_sign (.inr rfl) (h m rfl), hsigned,
          show -(m.natAbs : Int) = m by omega]
      · have hsigned : Double.signed ('+' != '+') m.natAbs = (m.natAbs : Int) := rfl
        rw [if_neg hzero, if_neg hneg, readOffset?_sign (.inl rfl) (h m rfl), hsigned,
          show (m.natAbs : Int) = m by omega]

theorem readTime?_text (h : d.Valid) :
    readTime? (d.year, d.month, d.day)
      (d.secondText ++ d.fractionText ++ (d.offset.map offsetText).getD []) = some d := by
  obtain ⟨_, _, _, _, _, _, hhour, hminute, hsecond, _, hoffset⟩ := id h
  have hseconds : readSeconds? (':' :: (padded 2 d.second ++ (d.fractionText ++
      (d.offset.map offsetText).getD [])))
        = some ((d.second, d.microsecond), (d.offset.map offsetText).getD []) := by
    simp only [readSeconds?, after?_cons, digits?_two (show d.second < 100 by omega),
      readFraction?_fractionText h (offset_offsetText d.offset), Option.map_some]
  simp only [readTime?, secondText, minuteText, List.append_assoc, List.cons_append,
    digits?_two (show d.hour < 100 by omega), digits?_two (show d.minute < 100 by omega), after?_cons,
    hseconds, readOffset?_offsetText hoffset, Option.bind_eq_bind, Option.bind_some]
  rw [if_pos h]

/-- **A time is read back from its text.** -/
theorem ofText?_text (h : d.Valid) : ofText? d.text = some d := by
  have hcalendar : ofCalendar? d.chars = some d := by
    have hdate := readDate?_dateText h ('T' :: (d.secondText ++ d.fractionText ++
      (d.offset.map offsetText).getD []))
    rw [ofCalendar?, chars]
    simp only [List.append_assoc, List.cons_append] at hdate ⊢
    rw [hdate]
    simp only [true_or, if_true]
    have htime := readTime?_text h
    simpa only [List.append_assoc] using htime
  rw [ofText?, text, String.toList_ofList, hcalendar]

/-! ## The calendar

The days of four centuries, from the first of March on, fall into centuries, periods of four years, years
and days.  What is left over goes to the last part of each: the last century has one day more, and so
has the last year of a period, unless it ends a century without a leap day. -/

/-- A day of four centuries: the century, the period of four years, the year in it, and the day of the
year. -/
structure Parts (dayOfEra c p y d : Nat) : Prop where
  eq : dayOfEra = 36524 * c + 1461 * p + 365 * y + d
  century : c ≤ 3
  period : p ≤ 24
  year : y ≤ 3
  day : d ≤ 365
  last : d = 365 → y = 3 ∧ (p = 24 → c = 3)

theorem exists_parts {dayOfEra : Nat} (h : dayOfEra < 146097) :
    ∃ c p y d, Parts dayOfEra c p y d := by
  obtain ⟨c, hc⟩ : ∃ c, c = min (dayOfEra / 36524) 3 := ⟨_, rfl⟩
  obtain ⟨inCentury, hcentury⟩ : ∃ n, n = dayOfEra - 36524 * c := ⟨_, rfl⟩
  obtain ⟨inPeriod, hperiod⟩ : ∃ n, n = inCentury % 1461 := ⟨_, rfl⟩
  obtain ⟨y, hy⟩ : ∃ y, y = min (inPeriod / 365) 3 := ⟨_, rfl⟩
  exact ⟨c, inCentury / 1461, y, inPeriod - 365 * y, by omega, by omega, by omega, by omega, by omega,
    by omega⟩

section

variable {dayOfEra c p y d : Nat} (h : Parts dayOfEra c p y d)

include h

/-- The year of a day, counted from the first of the four centuries. -/
theorem Parts.yearOfEra :
    (dayOfEra - dayOfEra / 1460 + dayOfEra / 36524 - dayOfEra / 146096) / 365
      = 100 * c + 4 * p + y := by
  obtain ⟨heq, hcentury, hperiod, hyear, hday, hlast⟩ := h
  -- only the last day of all is one too many for its century
  have hcenturies : dayOfEra / 36524 = c + dayOfEra / 146096 := by
    rcases Nat.lt_or_ge (1461 * p + 365 * y + d) 36524 with hin | hout
    · have hnot : dayOfEra / 146096 = 0 := by omega
      omega
    · obtain ⟨rfl, hcentury⟩ : y = 3 ∧ (p = 24 → c = 3) := hlast (by omega)
      obtain rfl : p = 24 := by omega
      obtain rfl : c = 3 := hcentury rfl
      obtain rfl : d = 365 := by omega
      rw [heq]
  -- every fourth year but those that end a century without a leap day has 366 days
  have hperiods : dayOfEra / 1460 = 25 * c + p ∧ 24 * c + p + 365 * y + d < 1460 ∨
      dayOfEra / 1460 = 25 * c + p + 1 ∧ 1460 ≤ 24 * c + p + 365 * y + d := by omega
  omega

/-- The day of the year, counted from the first of March. -/
theorem Parts.dayOfYear :
    dayOfEra - (365 * (100 * c + 4 * p + y) + (100 * c + 4 * p + y) / 4 - (100 * c + 4 * p + y) / 100)
      = d := by
  obtain ⟨rfl, hcentury, hperiod, hyear, hday, hlast⟩ := h
  omega

end

/-- The month of a day of the year that is counted from the first of March. -/
def monthOf (d : Nat) : Nat :=
  if (5 * d + 2) / 153 < 10 then (5 * d + 2) / 153 + 3 else (5 * d + 2) / 153 - 9

/-- The day of the month of a day of the year that is counted from the first of March. -/
def dayOf (d : Nat) : Nat := d - (153 * ((5 * d + 2) / 153) + 2) / 5 + 1

/-- The days of a year are days of its months: all of them if it ends with a leap day. -/
theorem dayOf_le : ∀ d < 366, 1 ≤ dayOf d ∧ 1 ≤ monthOf d ∧ monthOf d ≤ 12 ∧
    dayOf d ≤ daysIn 4 (monthOf d) ∧ (d < 365 → dayOf d ≤ daysIn 1 (monthOf d)) := by
  decide +kernel

theorem daysIn_common_le (year month : Nat) : daysIn 1 month ≤ daysIn year month := by
  have hcommon : isLeap 1 = false := rfl
  unfold daysIn
  rw [hcommon]
  split
  · cases isLeap year <;> decide
  · exact Nat.le_refl _

theorem daysIn_of_isLeap {year : Nat} (h : isLeap year = true) (month : Nat) :
    daysIn year month = daysIn 4 month := by
  have hleap : isLeap 4 = true := rfl
  rw [daysIn, daysIn, h, hleap]

theorem ofDays_eq {days : Int} {era dayOfEra c p y d : Nat} (h : Parts dayOfEra c p y d)
    (hdays : days + 719468 = 146097 * era + dayOfEra) :
    ofDays days
      = (100 * c + 4 * p + y + 400 * era + (if monthOf d ≤ 2 then 1 else 0), monthOf d, dayOf d) := by
  have hlt : dayOfEra < 146097 := by
    obtain ⟨rfl, hcentury, hperiod, hyear, hday, hlast⟩ := h
    omega
  have hera : Int.fdiv (days + 719468) 146097 = era := by
    rw [Int.fdiv_eq_ediv_of_nonneg _ (by decide)]
    omega
  have hday : (days + 719468 - era * 146097).toNat = dayOfEra := by omega
  simp only [ofDays, hera, hday, h.yearOfEra, h.dayOfYear, Prod.mk.injEq]
  refine ⟨?_, rfl, rfl⟩
  rw [← monthOf]
  split <;> omega

/-- A year has 366 days only if it ends with a leap day. -/
theorem Parts.isLeap {dayOfEra c p y d : Nat} (h : Parts dayOfEra c p y d) (hd : d = 365)
    (era : Nat) : isLeap (100 * c + 4 * p + y + 400 * era + 1) = true := by
  obtain ⟨_, hcentury, hperiod, hyear, _, hlast⟩ := h
  obtain ⟨hy, hc⟩ := hlast hd
  simp only [DateTime.isLeap, Bool.and_eq_true, Bool.or_eq_true, decide_eq_true_eq, bne_iff_ne]
  omega

theorem monthOf_le_two_iff : ∀ d < 366, monthOf d ≤ 2 ↔ 306 ≤ d := by decide +kernel

/-- A day within the range is a date of the calendar. -/
theorem valid_ofDays {days : Int} (hfirst : -719162 ≤ days) (hlast : days ≤ 2932896) :
    1 ≤ (ofDays days).1 ∧ (ofDays days).1 ≤ 9999 ∧ 1 ≤ (ofDays days).2.1 ∧ (ofDays days).2.1 ≤ 12 ∧
      1 ≤ (ofDays days).2.2 ∧ (ofDays days).2.2 ≤ daysIn (ofDays days).1 (ofDays days).2.1 := by
  obtain ⟨n, hn⟩ : ∃ n : Nat, days + 719468 = n := ⟨(days + 719468).toNat, by omega⟩
  obtain ⟨c, p, y, d, hparts⟩ := exists_parts (show n % 146097 < 146097 from Nat.mod_lt _ (by decide))
  have hdays : days + 719468 = 146097 * ((n / 146097 : Nat) : Int) + ((n % 146097 : Nat) : Int) := by
    omega
  rw [ofDays_eq hparts hdays]
  have hd : d < 366 := Nat.lt_succ_of_le hparts.day
  obtain ⟨hday, hmonth, hmonth', hleap, hcommon⟩ := dayOf_le d hd
  have hyear := monthOf_le_two_iff d hd
  refine ⟨?_, ?_, hmonth, hmonth', hday, ?_⟩
  · have heq := hparts.eq
    split <;> omega
  · obtain ⟨heq, hcentury, hperiod, hy, _, _⟩ := hparts
    split <;> omega
  · rcases Nat.lt_or_ge d 365 with hlt | hge
    · exact (hcommon hlt).trans (daysIn_common_le _ _)
    · obtain rfl : d = 365 := by omega
      rw [if_pos (by decide), daysIn_of_isLeap (hparts.isLeap rfl _)]
      exact hleap

/-- **An instant within the range is a time of the calendar.** -/
theorem valid_ofInstant {seconds : Int} {microsecond : Nat} (hfirst : secondsRange.1 ≤ seconds)
    (hlast : seconds ≤ secondsRange.2) (hmicro : microsecond < 1000000) :
    (ofInstant seconds microsecond).Valid := by
  have hdays : Int.fdiv seconds 86400 = seconds / 86400 := Int.fdiv_eq_ediv_of_nonneg _ (by decide)
  simp only [secondsRange] at hfirst hlast
  obtain ⟨hyear, hyear', hmonth, hmonth', hday, hday'⟩ :=
    valid_ofDays (show -719162 ≤ seconds / 86400 by omega) (by omega)
  simp only [ofInstant, hdays]
  refine ⟨hyear, hyear', hmonth, hmonth', hday, hday', ?_, ?_, ?_, hmicro, ?_⟩
  · show (seconds - seconds / 86400 * 86400).toNat / 3600 < 24
    omega
  · show (seconds - seconds / 86400 * 86400).toNat % 3600 / 60 < 60
    omega
  · exact Nat.mod_lt _ (by decide)
  · rintro m ⟨⟩
    decide

/-! ## Whatever is read -/

theorem valid_of_ofMicroseconds? {total : Int} (h : ofMicroseconds? total = some d) : d.Valid := by
  have hseconds : Int.fdiv total 1000000 = total / 1000000 :=
    Int.fdiv_eq_ediv_of_nonneg _ (by decide)
  simp only [ofMicroseconds?, hseconds] at h
  split at h
  · rename_i hrange
    cases h
    exact valid_ofInstant hrange.1 hrange.2 (by omega)
  · cases h

theorem valid_of_ofSeconds? {n : Int} (h : ofSeconds? n = some d) : d.Valid :=
  valid_of_ofMicroseconds? h

theorem valid_of_ofDouble? {x : Double} (h : ofDouble? x = some d) : d.Valid := by
  unfold ofDouble? at h
  split at h
  · exact valid_of_ofMicroseconds? h
  · cases h

theorem valid_of_readTime? {date : Nat × Nat × Nat} {cs : List Char}
    (h : readTime? date cs = some d) : d.Valid := by
  simp only [readTime?, Option.bind_eq_bind, Option.bind_eq_some_iff] at h
  obtain ⟨_, _, _, _, _, _, _, _, _, _, h⟩ := h
  split at h
  · rename_i hvalid
    cases h
    exact hvalid
  · cases h

theorem valid_of_ofCalendar? {cs : List Char} (h : ofCalendar? cs = some d) : d.Valid := by
  unfold ofCalendar? at h
  split at h
  · cases h
  · simp only at h
    split at h
    · rename_i hvalid
      cases h
      exact hvalid
    · cases h
  · split at h
    · exact valid_of_readTime? h
    · cases h

theorem valid_of_ofNumber? {cs : List Char} (h : ofNumber? cs = some d) : d.Valid := by
  unfold ofNumber? at h
  simp only at h
  split at h
  · exact valid_of_ofSeconds? h
  · obtain ⟨x, _, hx⟩ := Option.bind_eq_some_iff.mp h
    exact valid_of_ofDouble? hx

/-- **A time that is read from a text is one of the calendar.** -/
theorem valid_of_ofText? {s : String} (h : ofText? s = some d) : d.Valid := by
  unfold ofText? at h
  split at h
  · rename_i hcalendar
    cases h
    exact valid_of_ofCalendar? hcalendar
  · exact valid_of_ofNumber? h

end Rollout.DateTime
