import GridQuery.Calendar.Date

/-!
# Times of day and datetimes

A time of day has whole seconds and nanoseconds. A billion nanoseconds and more belong to a
leap second, which lengthens the second before it and is shown as second 60.
-/

namespace GridQuery

/-- A time of day: seconds since midnight and nanoseconds. -/
structure TimeOfDay where
  second : Fin 86400
  nano : Fin 2000000000
deriving DecidableEq

namespace TimeOfDay

def midnight : TimeOfDay := ⟨0, 0⟩

/-- The time with the given hour, minute, second and nanosecond. Second 60 is a leap second. -/
def of? (hour minute second nano : Nat) : Option TimeOfDay :=
  if h : hour < 24 ∧ minute < 60 ∧ second ≤ 60 ∧ nano < 1000000000 then
    some ⟨⟨hour * 3600 + minute * 60 + min second 59, by omega⟩,
      ⟨nano + if second = 60 then 1000000000 else 0, by split <;> omega⟩⟩
  else none

def hour (t : TimeOfDay) : Nat := t.second / 3600

def minute (t : TimeOfDay) : Nat := t.second.val / 60 % 60

/-- The second as shown: 60 in a leap second. -/
def shownSecond (t : TimeOfDay) : Nat :=
  t.second.val % 60 + if t.nano.val < 1000000000 then 0 else 1

/-- The fraction of the second, in nanoseconds. -/
def fraction (t : TimeOfDay) : Nat := t.nano.val % 1000000000

/-- Three, six or nine digits behind a point, the fewest that are exact; nothing for a whole
second. -/
def fractionChars (n : Nat) : List Char :=
  if n = 0 then []
  else if n % 1000000 = 0 then '.' :: Date.padded 3 (n / 1000000)
  else if n % 1000 = 0 then '.' :: Date.padded 6 (n / 1000)
  else '.' :: Date.padded 9 n

/-- Hour, minute and second with colons, and the fraction. -/
def chars (t : TimeOfDay) : List Char :=
  Date.padded 2 t.hour ++ ':' :: Date.padded 2 t.minute ++ ':' :: Date.padded 2 t.shownSecond ++
    fractionChars t.fraction

end TimeOfDay

/-- A date and a time of day. -/
structure DateTime where
  date : Date
  time : TimeOfDay
deriving DecidableEq

namespace DateTime

def atMidnight (d : Date) : DateTime := ⟨d, .midnight⟩

/-- Date and time with a space between them. -/
def chars (t : DateTime) : List Char := t.date.chars ++ ' ' :: t.time.chars

def text (t : DateTime) : String := String.ofList t.chars

/-- The datetime `minutes` earlier, for less than a day in either direction. -/
def minus? (t : DateTime) (minutes : Int) : Option DateTime :=
  let s : Int := t.time.second.val - minutes * 60
  let at? (d : Option Date) (s : Int) : Option DateTime :=
    if h : s.toNat < 86400 then d.map fun d => ⟨d, ⟨s.toNat, h⟩, t.time.nano⟩ else none
  if s < 0 then at? t.date.prev? (s + 86400)
  else if 86400 ≤ s then at? t.date.next? (s - 86400)
  else at? (some t.date) s

/-- The seconds since the start of 1970. -/
def timestamp (t : DateTime) : Int := (t.date.dayNumber - 719163) * 86400 + t.time.second.val

/-- Without what is smaller than a microsecond. -/
def wholeMicros (t : DateTime) : DateTime :=
  { t with time := { t.time with
      nano := ⟨t.time.nano.val / 1000 * 1000, by have := t.time.nano.isLt; omega⟩ } }

end DateTime

end GridQuery
