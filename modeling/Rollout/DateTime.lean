import Rollout.Number.Numeral

/-!
# Dates and times

A point in time as a record holds it: a calendar date, a time of day to the microsecond, and the
offset from UTC in minutes if the record gives one.

* `DateTime.text` : ISO 8601, with a fraction only when it is not zero and `Z` for UTC;
* `DateTime.ofText?` : reads a date, or a date and a time, or a number of Unix seconds;
* `DateTime.ofSeconds?` : the UTC time so many seconds after the epoch.
-/

set_option autoImplicit false

namespace Rollout

/-- A date and time of day, with the offset from UTC in minutes if known. -/
structure DateTime where
  year : Nat
  month : Nat
  day : Nat
  hour : Nat := 0
  minute : Nat := 0
  second : Nat := 0
  microsecond : Nat := 0
  offset : Option Int := none
deriving DecidableEq, Repr, Inhabited

namespace DateTime

/-! ## Writing -/

/-- The decimal digits of a number, at least `width` of them. -/
def padded (width n : Nat) : List Char :=
  let ds := Nat.toDigits 10 n
  List.replicate (width - ds.length) '0' ++ ds

/-- The offset from UTC. -/
def offsetText (minutes : Int) : List Char :=
  if minutes = 0 then ['Z']
  else
    (if minutes < 0 then '-' else '+')
      :: padded 2 (minutes.natAbs / 60) ++ ':' :: padded 2 (minutes.natAbs % 60)

/-- The date. -/
def dateText (d : DateTime) : List Char :=
  padded 4 d.year ++ '-' :: padded 2 d.month ++ '-' :: padded 2 d.day

/-- The time of day to the minute. -/
def minuteText (d : DateTime) : List Char := padded 2 d.hour ++ ':' :: padded 2 d.minute

/-- The time of day to the second. -/
def secondText (d : DateTime) : List Char := minuteText d ++ ':' :: padded 2 d.second

/-- The fraction of a second, if it is not zero. -/
def fractionText (d : DateTime) : List Char :=
  if d.microsecond = 0 then [] else '.' :: padded 6 d.microsecond

/-- The time in ISO 8601. -/
def chars (d : DateTime) : List Char :=
  dateText d ++ 'T' :: secondText d ++ fractionText d ++ (d.offset.map offsetText).getD []

/-- The time in ISO 8601. -/
def text (d : DateTime) : String := String.ofList d.chars

/-- The date as reports show it, with no zeros in front of the year. -/
def plainDate (d : DateTime) : List Char :=
  padded 1 d.year ++ '-' :: padded 2 d.month ++ '-' :: padded 2 d.day

/-- The date and the time to the minute, as tables show them. -/
def toMinute (d : DateTime) : String := String.ofList (plainDate d ++ ' ' :: minuteText d)

/-- The date and the time to the second, as reports show them. -/
def toSecond (d : DateTime) : String := String.ofList (plainDate d ++ ' ' :: secondText d)

/-! ## The calendar -/

/-- Whether a year has a 29th of February. -/
def isLeap (year : Nat) : Bool := year % 4 = 0 && (year % 100 != 0 || year % 400 = 0)

/-- The number of days of a month. -/
def daysIn (year month : Nat) : Nat :=
  if month = 2 then (if isLeap year then 29 else 28)
  else if month = 4 ∨ month = 6 ∨ month = 9 ∨ month = 11 then 30
  else 31

/-- A date of the calendar and a time of the day. -/
def Valid (d : DateTime) : Prop :=
  1 ≤ d.year ∧ d.year ≤ 9999 ∧ 1 ≤ d.month ∧ d.month ≤ 12 ∧ 1 ≤ d.day ∧ d.day ≤ daysIn d.year d.month
    ∧ d.hour < 24 ∧ d.minute < 60 ∧ d.second < 60 ∧ d.microsecond < 1000000
    ∧ ∀ m ∈ d.offset, m.natAbs < 1440

instance (d : DateTime) : Decidable d.Valid := by unfold Valid; infer_instance

/-- The date so many days after the first of January 1970. -/
def ofDays (days : Int) : Nat × Nat × Nat :=
  -- count from the first of March 0000, so that a leap day ends its year
  let z := days + 719468
  let era := Int.fdiv z 146097
  let dayOfEra := (z - era * 146097).toNat
  let yearOfEra :=
    (dayOfEra - dayOfEra / 1460 + dayOfEra / 36524 - dayOfEra / 146096) / 365
  let dayOfYear := dayOfEra - (365 * yearOfEra + yearOfEra / 4 - yearOfEra / 100)
  let shifted := (5 * dayOfYear + 2) / 153
  let day := dayOfYear - (153 * shifted + 2) / 5 + 1
  let month := if shifted < 10 then shifted + 3 else shifted - 9
  let year := (yearOfEra : Int) + era * 400 + (if month ≤ 2 then 1 else 0)
  (year.toNat, month, day)

/-- The UTC time so many seconds and microseconds after the epoch. -/
def ofInstant (seconds : Int) (microsecond : Nat) : DateTime :=
  let days := Int.fdiv seconds 86400
  let rest := (seconds - days * 86400).toNat
  let (year, month, day) := ofDays days
  { year, month, day, hour := rest / 3600, minute := rest % 3600 / 60, second := rest % 60,
    microsecond, offset := some 0 }

/-- The largest number that counts seconds; a larger one counts milliseconds. -/
def secondsLimit : Nat := 20000000000

/-- The first and the last second that a number may stand for: the years 1 to 9999. -/
def secondsRange : Int × Int := (-62135596800, 253402300799)

/-- The UTC time of an instant in microseconds since the epoch, within the range. -/
def ofMicroseconds? (total : Int) : Option DateTime :=
  let seconds := Int.fdiv total 1000000
  if secondsRange.1 ≤ seconds ∧ seconds ≤ secondsRange.2 then
    some (ofInstant seconds (total - seconds * 1000000).toNat)
  else none

/-- The UTC time that a whole number stands for. -/
def ofSeconds? (n : Int) : Option DateTime :=
  ofMicroseconds? (n * if n.natAbs ≤ secondsLimit then 1000000 else 1000)

/-- A number of units, each so many microseconds long, in microseconds.  Only the fraction of a unit
is rounded, as a double at every step. -/
def microseconds (negative : Bool) (m : Nat) (q : Int) (unit : Nat) : Int :=
  let den := Nat.pow 2 (-q).toNat
  let num := Double.signed negative (m * Nat.pow 2 q.toNat)
  let whole := Int.fdiv num den
  let fraction := Double.ofRatio false (num - whole * den).toNat den
  whole * unit + (fraction.timesNat unit).roundUp

/-- The UTC time that a double stands for. -/
def ofDouble? : Double → Option DateTime
  | .finite negative m q =>
    let countsSeconds := m * Nat.pow 2 q.toNat ≤ secondsLimit * Nat.pow 2 (-q).toNat
    ofMicroseconds? (microseconds negative m q (if countsSeconds then 1000000 else 1000))
  | _ => none

/-! ## Reading -/

/-- The value of a decimal digit. -/
def digit? (c : Char) : Option Nat := if c.isDigit then some (c.toNat - '0'.toNat) else none

/-- A number of exactly so many digits in front of a text, and the rest of it. -/
def digits? : Nat → List Char → Option (Nat × List Char)
  | 0, cs => some (0, cs)
  | _ + 1, [] => none
  | n + 1, c :: cs =>
    match digit? c, digits? n cs with
    | some d, some (m, rest) => some (d * Nat.pow 10 n + m, rest)
    | _, _ => none

/-- The text after a given character. -/
def after? (c : Char) : List Char → Option (List Char)
  | [] => none
  | d :: rest => if d = c then some rest else none

/-- A date in front of a text, and the rest of it. -/
def readDate? (cs : List Char) : Option ((Nat × Nat × Nat) × List Char) := do
  let (year, cs) ← digits? 4 cs
  let cs ← after? '-' cs
  let (month, cs) ← digits? 2 cs
  let cs ← after? '-' cs
  let (day, cs) ← digits? 2 cs
  some ((year, month, day), cs)

/-- The microseconds of a fraction: digits after the sixth are dropped. -/
def fractionOf (ds : List Char) : Nat :=
  Numeral.value (ds.take 6 ++ List.replicate (6 - ds.length) '0')

/-- A fraction of a second in front of a text, if there is one, and the rest of it. -/
def readFraction? : List Char → Option (Nat × List Char)
  | [] => some (0, [])
  | c :: cs =>
    if c = '.' ∨ c = ',' then
      let ds := cs.takeWhile Char.isDigit
      if ds.isEmpty then none else some (fractionOf ds, cs.dropWhile Char.isDigit)
    else some (0, c :: cs)

/-- Seconds in front of a text, if there are any, and the rest of it. -/
def readSeconds? (cs : List Char) : Option ((Nat × Nat) × List Char) :=
  match after? ':' cs with
  | none => some ((0, 0), cs)
  | some cs =>
    match digits? 2 cs with
    | none => none
    | some (second, cs) => (readFraction? cs).map fun (micro, rest) => ((second, micro), rest)

/-- An offset from UTC that is a whole text, if there is one. -/
def readOffset? : List Char → Option (Option Int)
  | [] => some none
  | c :: cs =>
    if c = 'Z' ∨ c = 'z' then (if cs.isEmpty then some (some 0) else none)
    else if c = '+' ∨ c = '-' ∨ c = '\u2212' then
      match digits? 2 cs with
      | none => none
      | some (hours, rest) =>
        match digits? 2 ((after? ':' rest).getD rest) with
        | some (minutes, []) =>
          if minutes < 60 then
            some (some (Double.signed (c != '+') (hours * 60 + minutes)))
          else none
        | _ => none
    else none

/-- A time of day and an offset that are a whole text, on a given date. -/
def readTime? (date : Nat × Nat × Nat) (cs : List Char) : Option DateTime := do
  let (hour, cs) ← digits? 2 cs
  let cs ← after? ':' cs
  let (minute, cs) ← digits? 2 cs
  let ((second, microsecond), cs) ← readSeconds? cs
  let offset ← readOffset? cs
  let d : DateTime :=
    ⟨date.1, date.2.1, date.2.2, hour, minute, second, microsecond, offset⟩
  if d.Valid then some d else none

/-- A date, or a date and a time. -/
def ofCalendar? (cs : List Char) : Option DateTime :=
  match readDate? cs with
  | none => none
  | some ((year, month, day), []) =>
    let d : DateTime := { year, month, day }
    if d.Valid then some d else none
  | some (date, c :: cs) =>
    if c = 'T' ∨ c = 't' ∨ c = ' ' ∨ c = '_' then readTime? date cs else none

/-- The UTC time that a number written in a text stands for. -/
def ofNumber? (cs : List Char) : Option DateTime :=
  let (negative, ds) := Numeral.sign cs
  if Numeral.isDigits ds then ofSeconds? (Double.signed negative (Numeral.value ds))
  else (Numeral.decimal? cs).bind ofDouble?

/-- Reads a date, a date and a time, or a number of seconds. -/
def ofText? (s : String) : Option DateTime :=
  match ofCalendar? s.toList with
  | some d => some d
  | none => ofNumber? s.toList

end DateTime

end Rollout
