import SqlPreview.Text.Letter

/-!
# Dates and times

The proleptic Gregorian calendar, times of day down to the nanosecond, and instants on the
universal time line. A leap second is the last second of a minute with a fraction of one or more.
-/

namespace SqlPreview

/-- A day of the calendar. -/
structure Date where
  year : Int
  month : Nat
  day : Nat
deriving DecidableEq, Repr

/-- A time of day: whole seconds since midnight, and nanoseconds, which reach `10 ^ 9` and more
only in a leap second. -/
structure TimeOfDay where
  second : Nat
  nano : Nat
deriving DecidableEq, Repr

/-- A day and a time of day, without a place on the time line. -/
structure DateTime where
  date : Date
  time : TimeOfDay
deriving DecidableEq, Repr

/-- A point of the time line, as the date and time that universal time shows. -/
structure Instant where
  utc : DateTime
deriving DecidableEq, Repr

namespace Date

def isLeapYear (year : Int) : Bool := year % 4 == 0 && (year % 100 != 0 || year % 400 == 0)

def daysInMonth (year : Int) (month : Nat) : Nat :=
  match month with
  | 2 => if isLeapYear year then 29 else 28
  | 4 | 6 | 9 | 11 => 30
  | _ => 31

/-- The first and the last year of the calendar. -/
def minYear : Int := -262143

def maxYear : Int := 262142

/-- The day with this year, month and day of the month, if there is one. -/
def of? (year : Int) (month day : Nat) : Option Date :=
  if minYear ≤ year && year ≤ maxYear && 1 ≤ month && month ≤ 12 && 1 ≤ day &&
      day ≤ daysInMonth year month then
    some ⟨year, month, day⟩
  else none

/-- Days since the first of March of year zero of the era that begins a multiple of 400 years. -/
def dayOfEra (yearOfEra : Nat) (month day : Nat) : Nat :=
  let monthFromMarch := (month + 9) % 12
  yearOfEra * 365 + yearOfEra / 4 - yearOfEra / 100 + (153 * monthFromMarch + 2) / 5 + day - 1

/-- Days since 1970-01-01. -/
def toDays (d : Date) : Int :=
  let year := if d.month ≤ 2 then d.year - 1 else d.year
  let era := year / 400
  era * 146097 + dayOfEra (year % 400).toNat d.month d.day - 719468

/-- The day so many days after 1970-01-01. -/
def ofDays (days : Int) : Date :=
  let shifted := days + 719468
  let era := shifted / 146097
  let dayOfEra := (shifted % 146097).toNat
  let yearOfEra := (dayOfEra - dayOfEra / 1460 + dayOfEra / 36524 - dayOfEra / 146096) / 365
  let dayOfYear := dayOfEra - (365 * yearOfEra + yearOfEra / 4 - yearOfEra / 100)
  let monthFromMarch := (5 * dayOfYear + 2) / 153
  let day := dayOfYear - (153 * monthFromMarch + 2) / 5 + 1
  let month := if monthFromMarch < 10 then monthFromMarch + 3 else monthFromMarch - 9
  let year := era * 400 + yearOfEra + (if month ≤ 2 then 1 else 0)
  ⟨year, month, day⟩

def compare (a b : Date) : Ordering :=
  (Ord.compare a.year b.year).then ((Ord.compare a.month b.month).then (Ord.compare a.day b.day))

/-- A year: four digits, or a sign and at least four where four do not suffice. -/
def yearChars (year : Int) : List Char :=
  if 0 ≤ year && year ≤ 9999 then Text.paddedDigits 4 year.toNat
  else (if year < 0 then '-' else '+') :: Text.paddedDigits 4 year.natAbs

def chars (d : Date) : List Char :=
  yearChars d.year ++ '-' :: Text.paddedDigits 2 d.month ++ '-' :: Text.paddedDigits 2 d.day

end Date

namespace TimeOfDay

def midnight : TimeOfDay := ⟨0, 0⟩

/-- The time with these fields, where second 60 is a leap second. -/
def of? (hour minute second nano : Nat) : Option TimeOfDay :=
  if hour < 24 && minute < 60 && second ≤ 60 && nano < 1000000000 then
    let base := hour * 3600 + minute * 60
    if second = 60 then some ⟨base + 59, 1000000000 + nano⟩ else some ⟨base + second, nano⟩
  else none

def compare (a b : TimeOfDay) : Ordering :=
  (Ord.compare a.second b.second).then (Ord.compare a.nano b.nano)

/-- Hours, minutes and seconds. -/
def chars (t : TimeOfDay) : List Char :=
  Text.paddedDigits 2 (t.second / 3600) ++ ':' :: Text.paddedDigits 2 (t.second / 60 % 60) ++
    ':' :: Text.paddedDigits 2 (t.second % 60 + t.nano / 1000000000)

end TimeOfDay

namespace DateTime

def compare (a b : DateTime) : Ordering :=
  (Date.compare a.date b.date).then (TimeOfDay.compare a.time b.time)

def chars (t : DateTime) : List Char := t.date.chars ++ 'T' :: t.time.chars

/-- The date and time so many seconds later; the fraction of the second stays. -/
def addSeconds (t : DateTime) (seconds : Int) : DateTime :=
  let total := t.date.toDays * 86400 + t.time.second + seconds
  ⟨Date.ofDays (total / 86400), (total % 86400).toNat, t.time.nano⟩

end DateTime

namespace Instant

/-- The instant so many milliseconds after the start of 1970, if the calendar reaches it. -/
def ofMillis? (millis : Int) : Option Instant :=
  let seconds := millis / 1000
  let date := Date.ofDays (seconds / 86400)
  if Date.minYear ≤ date.year && date.year ≤ Date.maxYear then
    some ⟨⟨date, (seconds % 86400).toNat, (millis % 1000).toNat * 1000000⟩⟩
  else none

def compare (a b : Instant) : Ordering := DateTime.compare a.utc b.utc

/-- Universal time to the second. -/
def chars (t : Instant) : List Char := t.utc.chars ++ ['Z']

end Instant

example : Date.ofDays 0 = ⟨1970, 1, 1⟩ := by decide
example : (Date.mk 2024 2 29).toDays = 19782 := by decide
example : Date.ofDays (Date.mk (-1) 12 31).toDays = ⟨-1, 12, 31⟩ := by decide

end SqlPreview
