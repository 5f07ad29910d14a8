import GridQuery.Calendar.Time

/-!
# Datetime formats

A format is a text in which a percent sign and a letter stand for a part of a datetime.
`DateFormat.ofText?` reads the directives and fails on an unknown one; `DateFormat.render?` writes
a datetime. Directives for a zone are known but cannot be written, as a datetime has none.
-/

namespace GridQuery

/-- How a number is filled up to its width. -/
inductive Padding where
  | none
  | zeros
  | blanks
deriving DecidableEq, Repr

/-- A number taken from a datetime. -/
inductive NumericPart where
  | year | century | yearOfCentury
  | weekYear | weekYearOfCentury
  | quarter | month | day
  | sundayWeek | mondayWeek | weekOfYear
  | daysFromSunday | weekday | dayOfYear
  | hour | hour12 | minute | second | nanosecond
  | timestamp
deriving DecidableEq, Repr

/-- A word or a fraction taken from a datetime. -/
inductive FixedPart where
  | shortMonth | longMonth | shortWeekday | longWeekday
  | lowerHalf | upperHalf
  /-- A point and as few of three, six or nine digits as are exact; nothing for zero. -/
  | fraction
  | fractionDigits (point : Bool) (count : Nat)
deriving DecidableEq, Repr

/-- A directive or a character of a format. -/
inductive FormatItem where
  | char (c : Char)
  | number (part : NumericPart) (padding : Padding)
  | fixed (part : FixedPart)
  /-- Anything about the zone. -/
  | zone
deriving DecidableEq, Repr

/-- A format that was read without fault. -/
structure DateFormat where
  items : List FormatItem
deriving DecidableEq, Repr

namespace DateFormat

/-! ## Reading -/

def zeros (p : NumericPart) : List FormatItem := [.number p .zeros]

def plain (p : NumericPart) : List FormatItem := [.number p .none]

def blanks (p : NumericPart) : List FormatItem := [.number p .blanks]

def slashDate : List FormatItem :=
  zeros .month ++ .char '/' :: zeros .day ++ .char '/' :: zeros .yearOfCentury

def clock : List FormatItem :=
  zeros .hour ++ .char ':' :: zeros .minute ++ .char ':' :: zeros .second

/-- The items a directive of one letter stands for. -/
def directive? : Char → Option (List FormatItem)
  | 'A' => some [.fixed .longWeekday]
  | 'B' => some [.fixed .longMonth]
  | 'C' => some (zeros .century)
  | 'D' => some slashDate
  | 'F' => some (zeros .year ++ .char '-' :: zeros .month ++ .char '-' :: zeros .day)
  | 'G' => some (zeros .weekYear)
  | 'H' => some (zeros .hour)
  | 'I' => some (zeros .hour12)
  | 'M' => some (zeros .minute)
  | 'P' => some [.fixed .lowerHalf]
  | 'R' => some (zeros .hour ++ .char ':' :: zeros .minute)
  | 'S' => some (zeros .second)
  | 'T' => some clock
  | 'U' => some (zeros .sundayWeek)
  | 'V' => some (zeros .weekOfYear)
  | 'W' => some (zeros .mondayWeek)
  | 'X' => some clock
  | 'Y' => some (zeros .year)
  | 'Z' => some [.zone]
  | 'a' => some [.fixed .shortWeekday]
  | 'b' => some [.fixed .shortMonth]
  | 'c' =>
    some (.fixed .shortWeekday :: .char ' ' :: .fixed .shortMonth :: .char ' ' ::
      blanks .day ++ .char ' ' :: clock ++ .char ' ' :: zeros .year)
  | 'd' => some (zeros .day)
  | 'e' => some (blanks .day)
  | 'f' => some (zeros .nanosecond)
  | 'g' => some (zeros .weekYearOfCentury)
  | 'h' => some [.fixed .shortMonth]
  | 'j' => some (zeros .dayOfYear)
  | 'k' => some (blanks .hour)
  | 'l' => some (blanks .hour12)
  | 'm' => some (zeros .month)
  | 'n' => some [.char '\n']
  | 'p' => some [.fixed .upperHalf]
  | 'q' => some (plain .quarter)
  | 'r' =>
    some (zeros .hour12 ++ .char ':' :: zeros .minute ++ .char ':' :: zeros .second ++
      [.char ' ', .fixed .upperHalf])
  | 's' => some (plain .timestamp)
  | 't' => some [.char '\t']
  | 'u' => some (plain .weekday)
  | 'v' =>
    some (blanks .day ++ .char '-' :: .fixed .shortMonth :: .char '-' :: zeros .year)
  | 'w' => some (plain .daysFromSunday)
  | 'x' => some slashDate
  | 'y' => some (zeros .yearOfCentury)
  | 'z' => some [.zone]
  | '+' => some [.zone]
  | '%' => some [.char '%']
  | _ => none

/-- A directive with its own padding, which must be that of a single number. -/
def padded? (p : Padding) (c : Char) : Option (List FormatItem) :=
  match directive? c with
  | some [.number part _] => some [.number part p]
  | _ => none

/-- The items of a format from left to right. -/
def readItems : List Char → Option (List FormatItem)
  | [] => some []
  | '%' :: '-' :: c :: cs => do return (← padded? .none c) ++ (← readItems cs)
  | '%' :: '0' :: c :: cs => do return (← padded? .zeros c) ++ (← readItems cs)
  | '%' :: '_' :: c :: cs => do return (← padded? .blanks c) ++ (← readItems cs)
  | '%' :: '#' :: 'z' :: cs => (readItems cs).map (.zone :: ·)
  | '%' :: ':' :: ':' :: ':' :: 'z' :: cs => (readItems cs).map (.zone :: ·)
  | '%' :: ':' :: ':' :: 'z' :: cs => (readItems cs).map (.zone :: ·)
  | '%' :: ':' :: 'z' :: cs => (readItems cs).map (.zone :: ·)
  | '%' :: '.' :: 'f' :: cs => (readItems cs).map (.fixed .fraction :: ·)
  | '%' :: '.' :: '3' :: 'f' :: cs => (readItems cs).map (.fixed (.fractionDigits true 3) :: ·)
  | '%' :: '.' :: '6' :: 'f' :: cs => (readItems cs).map (.fixed (.fractionDigits true 6) :: ·)
  | '%' :: '.' :: '9' :: 'f' :: cs => (readItems cs).map (.fixed (.fractionDigits true 9) :: ·)
  | '%' :: '3' :: 'f' :: cs => (readItems cs).map (.fixed (.fractionDigits false 3) :: ·)
  | '%' :: '6' :: 'f' :: cs => (readItems cs).map (.fixed (.fractionDigits false 6) :: ·)
  | '%' :: '9' :: 'f' :: cs => (readItems cs).map (.fixed (.fractionDigits false 9) :: ·)
  | '%' :: c :: cs => do return (← directive? c) ++ (← readItems cs)
  | ['%'] => none
  | c :: cs => (readItems cs).map (.char c :: ·)

def ofText? (s : String) : Option DateFormat := (readItems s.toList).map (⟨·⟩)

/-! ## Writing -/

def monthNames : List String :=
  ["January", "February", "March", "April", "May", "June", "July", "August", "September",
    "October", "November", "December"]

def weekdayNames : List String :=
  ["Monday", "Tuesday", "Wednesday", "Thursday", "Friday", "Saturday", "Sunday"]

def nameAt (names : List String) (i : Nat) : List Char := (names.getD i "").toList

/-- A number of two digits; the tens of a greater one go on beyond the digit 9. -/
def twoDigits (p : Padding) (n : Nat) : List Char :=
  let ones := Char.ofNat ('0'.toNat + n % 10)
  match n / 10, p with
  | 0, .none => [ones]
  | 0, .blanks => [' ', ones]
  | tens, _ => [Char.ofNat ('0'.toNat + tens), ones]

/-- An integer filled up to `width` characters, its sign among them. -/
def filled (p : Padding) (width : Nat) (showPlus : Bool) (n : Int) : List Char :=
  let sign := if n < 0 then ['-'] else if showPlus then ['+'] else []
  let ds := Nat.toDigits 10 n.natAbs
  let gap := width - (sign.length + ds.length)
  match p with
  | .none => sign ++ ds
  | .zeros => sign ++ List.replicate gap '0' ++ ds
  | .blanks => List.replicate gap ' ' ++ sign ++ ds

/-- Four digits at least, with a sign outside the years 0 to 9999. -/
def yearNumber (p : Padding) (y : Int) : List Char :=
  if 0 ≤ y ∧ y ≤ 9999 then filled p 4 false y else filled p 5 true y

def hour12 (t : TimeOfDay) : Nat := if t.hour % 12 = 0 then 12 else t.hour % 12

def numberChars (t : DateTime) (p : Padding) : NumericPart → List Char
  | .year => yearNumber p t.date.year
  -- a century is kept in eight bits
  | .century => twoDigits p (t.date.year / 100 % 256).toNat
  | .yearOfCentury => twoDigits p (t.date.year % 100).toNat
  | .weekYear => yearNumber p t.date.weekYear
  | .weekYearOfCentury => twoDigits p (t.date.weekYear % 100).toNat
  | .quarter => Nat.toDigits 10 ((t.date.month - 1) / 3 + 1)
  | .month => twoDigits p t.date.month
  | .day => twoDigits p t.date.day
  | .sundayWeek => twoDigits p t.date.sundayWeek
  | .mondayWeek => twoDigits p t.date.mondayWeek
  | .weekOfYear => twoDigits p t.date.weekOfYear
  | .daysFromSunday => Nat.toDigits 10 t.date.daysFromSunday
  | .weekday => Nat.toDigits 10 (t.date.daysFromMonday + 1)
  | .dayOfYear => filled p 3 false t.date.dayOfYear
  | .hour => twoDigits p t.time.hour
  | .hour12 => twoDigits p (hour12 t.time)
  | .minute => twoDigits p t.time.minute
  | .second => twoDigits p t.time.shownSecond
  | .nanosecond => filled p 9 false t.time.fraction
  | .timestamp => filled p 9 false t.timestamp

def fixedChars (t : DateTime) : FixedPart → List Char
  | .shortMonth => (nameAt monthNames (t.date.month - 1)).take 3
  | .longMonth => nameAt monthNames (t.date.month - 1)
  | .shortWeekday => (nameAt weekdayNames t.date.daysFromMonday).take 3
  | .longWeekday => nameAt weekdayNames t.date.daysFromMonday
  | .lowerHalf => (if t.time.hour < 12 then "am" else "pm").toList
  | .upperHalf => (if t.time.hour < 12 then "AM" else "PM").toList
  | .fraction => TimeOfDay.fractionChars t.time.fraction
  | .fractionDigits point count =>
    (if point then ['.'] else []) ++ Date.padded count (t.time.fraction / Nat.pow 10 (9 - count))

/-- The characters of an item; none for a zone. -/
def itemChars? (t : DateTime) : FormatItem → Option (List Char)
  | .char c => some [c]
  | .number part p => some (numberChars t p part)
  | .fixed part => some (fixedChars t part)
  | .zone => none

/-- A datetime in the format, unless the format asks for its zone. -/
def render? (f : DateFormat) (t : DateTime) : Option String :=
  (f.items.mapM (itemChars? t)).map fun parts => String.ofList parts.flatten

/-- The format asks for the zone. -/
def asksZone (f : DateFormat) : Bool := f.items.contains .zone

end DateFormat

end GridQuery
