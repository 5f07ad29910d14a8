/-!
# Dates

Dates of the Gregorian calendar, extended to all years from -262143 to 262142. The day number
counts the days from 1 January of year 1, a Monday, which has the number 1.
-/

namespace GridQuery

def isLeapYear (y : Int) : Bool := y % 4 == 0 && (y % 100 != 0 || y % 400 == 0)

def daysInMonth (y : Int) (m : Nat) : Nat :=
  match m with
  | 2 => if isLeapYear y then 29 else 28
  | 4 | 6 | 9 | 11 => 30
  | _ => 31

namespace Date

def minYear : Int := -262143

def maxYear : Int := 262142

/-- The year lies in the range of years, the month in the year and the day in the month. -/
def Valid (year : Int) (month day : Nat) : Prop :=
  (minYear ≤ year ∧ year ≤ maxYear) ∧ (1 ≤ month ∧ month ≤ 12) ∧
    (1 ≤ day ∧ day ≤ daysInMonth year month)

instance (year : Int) (month day : Nat) : Decidable (Valid year month day) := by
  unfold Valid; infer_instance

end Date

/-- A date of the calendar. -/
structure Date where
  year : Int
  month : Nat
  day : Nat
  valid : Date.Valid year month day
deriving DecidableEq

namespace Date

def of? (year : Int) (month day : Nat) : Option Date :=
  if h : Valid year month day then some ⟨year, month, day, h⟩ else none

/-! ## Counting days -/

/-- The days of the year before the month. -/
def daysBeforeMonth (y : Int) (m : Nat) : Nat :=
  (List.range (m - 1)).foldl (fun n i => n + daysInMonth y (i + 1)) 0

/-- The place of the day in its year, from 1. -/
def dayOfYear (d : Date) : Nat := daysBeforeMonth d.year d.month + d.day

/-- The days from the start of the calendar to the start of the year. -/
def daysBeforeYear (y : Int) : Int :=
  let n := y - 1
  365 * n + n / 4 - n / 100 + n / 400

def dayNumber (d : Date) : Int := daysBeforeYear d.year + d.dayOfYear

/-- The days since the last Monday. -/
def daysFromMonday (d : Date) : Nat := ((d.dayNumber - 1) % 7).toNat

/-- The days since the last Sunday. -/
def daysFromSunday (d : Date) : Nat := (d.dayNumber % 7).toNat

/-! ## Neighbours -/

/-- The day after. -/
def next? (d : Date) : Option Date :=
  match of? d.year d.month (d.day + 1) with
  | some n => some n
  | none =>
    match of? d.year (d.month + 1) 1 with
    | some n => some n
    | none => of? (d.year + 1) 1 1

/-- The day before. -/
def prev? (d : Date) : Option Date :=
  if 1 < d.day then of? d.year d.month (d.day - 1)
  else if 1 < d.month then of? d.year (d.month - 1) (daysInMonth d.year (d.month - 1))
  else of? (d.year - 1) 12 31

/-! ## Weeks -/

/-- The number of days in the year. -/
def yearLength (y : Int) : Nat := if isLeapYear y then 366 else 365

/-- The Thursday that decides which year a week belongs to, as a place in the date's year:
0 and less in the year before, more than the year's length in the year after. -/
def weekThursday (d : Date) : Int := (d.dayOfYear : Int) - d.daysFromMonday + 3

/-- The year of the week, where weeks start on Monday and belong to the year of their
Thursday. -/
def weekYear (d : Date) : Int :=
  if d.weekThursday < 1 then d.year - 1
  else if (yearLength d.year : Int) < d.weekThursday then d.year + 1
  else d.year

/-- The number of the week in its year, from 1. -/
def weekOfYear (d : Date) : Nat :=
  let t := d.weekThursday
  let t :=
    if t < 1 then t + yearLength (d.year - 1)
    else if (yearLength d.year : Int) < t then t - yearLength d.year
    else t
  ((t - 1) / 7 + 1).toNat

/-- The number of the week when the first Sunday of the year starts week 1. -/
def sundayWeek (d : Date) : Nat := (d.dayOfYear + 6 - d.daysFromSunday) / 7

/-- The number of the week when the first Monday of the year starts week 1. -/
def mondayWeek (d : Date) : Nat := (d.dayOfYear + 6 - d.daysFromMonday) / 7

/-! ## Text -/

/-- The digits of a number, with zeros in front up to a width. -/
def padded (width n : Nat) : List Char :=
  let ds := Nat.toDigits 10 n
  List.replicate (width - ds.length) '0' ++ ds

/-- Four digits; outside the years 0 to 9999 a sign and at least four digits. -/
def yearChars (y : Int) : List Char :=
  if 0 ≤ y ∧ y ≤ 9999 then padded 4 y.toNat
  else (if y < 0 then '-' else '+') :: padded 4 y.natAbs

/-- Year, month and day with hyphens. -/
def chars (d : Date) : List Char :=
  yearChars d.year ++ '-' :: padded 2 d.month ++ '-' :: padded 2 d.day

def text (d : Date) : String := String.ofList d.chars

end Date

end GridQuery
