import GridQuery.Calendar.Time
import GridQuery.Text.Blank

/-!
# Reading dates and datetimes

Three ways to write a datetime are tried in turn: a timestamp with a zone, which is converted
to universal time; date and time with blanks or a `T` between them; and a date alone, meaning
its midnight. A cell of a database may also carry a zone without minutes.
-/

namespace GridQuery.Calendar

open Text

/-! ## Parts -/

/-- One to `width` digits. -/
def readDigits (width : Nat) (cs : List Char) : Option (Nat × List Char) :=
  let ds := (cs.take width).takeWhile Char.isDigit
  if ds.isEmpty then none
  else some (ds.foldl (fun n c => n * 10 + (c.toNat - '0'.toNat)) 0, cs.drop ds.length)

/-- Exactly `width` digits. -/
def readExactly (width : Nat) (cs : List Char) : Option (Nat × List Char) :=
  if (cs.take width).length = width ∧ (cs.take width).all Char.isDigit then readDigits width cs
  else none

def readChar (c : Char) : List Char → Option (List Char)
  | d :: cs => if c = d then some cs else none
  | [] => none

/-- A year, behind blanks: four digits at most, or a sign and any number of digits. -/
def readYear (cs : List Char) : Option (Int × List Char) :=
  match dropBlanks cs with
  | '-' :: cs => (readDigits cs.length cs).map fun r => (-(r.1 : Int), r.2)
  | '+' :: cs => (readDigits cs.length cs).map fun r => ((r.1 : Int), r.2)
  | cs => (readDigits 4 cs).map fun r => ((r.1 : Int), r.2)

/-- One or two digits behind blanks. -/
def readPair (cs : List Char) : Option (Nat × List Char) := readDigits 2 (dropBlanks cs)

/-- The digits of a fraction as nanoseconds; digits after the ninth are dropped. -/
def readNanos (cs : List Char) : Option (Nat × List Char) :=
  (readDigits 9 cs).map fun r =>
    let used := cs.length - r.2.length
    (r.1 * Nat.pow 10 (9 - used), r.2.dropWhile Char.isDigit)

/-- A point with the digits of a fraction, or nothing. -/
def readFraction : List Char → Option (Nat × List Char)
  | '.' :: cs => readNanos cs
  | cs => some (0, cs)

/-- Year, month and day with hyphens. -/
def readDateParts (cs : List Char) : Option (Date × List Char) := do
  let (y, cs) ← readYear cs
  let cs ← readChar '-' cs
  let (m, cs) ← readPair cs
  let cs ← readChar '-' cs
  let (d, cs) ← readPair cs
  let date ← Date.of? y m d
  return (date, cs)

/-- Hour, minute, second and a fraction. -/
def readTimeParts (cs : List Char) : Option (TimeOfDay × List Char) := do
  let (h, cs) ← readPair cs
  let cs ← readChar ':' cs
  let (m, cs) ← readPair cs
  let cs ← readChar ':' cs
  let (s, cs) ← readPair cs
  let (n, cs) ← readFraction cs
  let time ← TimeOfDay.of? h m s n
  return (time, cs)

/-! ## Zones -/

/-- Two digits below sixty. -/
def readMinutes (cs : List Char) : Option (Nat × List Char) := do
  let (m, cs) ← readExactly 2 cs
  if m < 60 then some (m, cs) else none

/-- The sign of a zone; a minus sign may be typographic. -/
def readSign : List Char → Option (Bool × List Char)
  | '+' :: cs => some (false, cs)
  | '-' :: cs => some (true, cs)
  | '\u2212' :: cs => some (true, cs)
  | _ => none

/-- The distance from universal time in minutes, less than a day. -/
def offsetOf (negative : Bool) (hours minutes : Nat) : Option Int :=
  if hours < 24 then
    let n : Int := hours * 60 + minutes
    some (if negative then -n else n)
  else none

/-- A zone with a colon between hours and minutes, or `Z`. -/
def readStrictZone : List Char → Option (Int × List Char)
  | 'Z' :: cs => some (0, cs)
  | 'z' :: cs => some (0, cs)
  | cs => do
    let (negative, cs) ← readSign cs
    let (h, cs) ← readExactly 2 cs
    let cs ← readChar ':' cs
    let (m, cs) ← readMinutes cs
    let offset ← offsetOf negative h m
    return (offset, cs)

/-- A zone behind blanks, where the minutes may be absent and are set off by colons, blanks or
nothing. -/
def readLooseZone (cs : List Char) : Option (Int × List Char) :=
  match dropBlanks cs with
  | 'Z' :: cs => some (0, cs)
  | 'z' :: cs => some (0, cs)
  | cs => do
    let (negative, cs) ← readSign cs
    let (h, cs) ← readExactly 2 cs
    let cs := cs.dropWhile fun c => c == ':' || isBlank c
    let (m, cs) ← if cs.isEmpty then some (0, cs) else readMinutes cs
    let offset ← offsetOf negative h m
    return (offset, cs)

/-! ## Whole texts -/

/-- The value, if nothing follows it. -/
def complete {α : Type} : α × List Char → Option α
  | (a, []) => some a
  | _ => none

/-- A timestamp with all its digits and a zone, in universal time. -/
def readTimestamp (cs : List Char) : Option DateTime := do
  let (y, cs) ← readExactly 4 cs
  let cs ← readChar '-' cs
  let (m, cs) ← readExactly 2 cs
  let cs ← readChar '-' cs
  let (d, cs) ← readExactly 2 cs
  let cs ← match cs with
    | 'T' :: cs => some cs
    | 't' :: cs => some cs
    | ' ' :: cs => some cs
    | _ => none
  let (h, cs) ← readExactly 2 cs
  let cs ← readChar ':' cs
  let (min, cs) ← readExactly 2 cs
  let cs ← readChar ':' cs
  let (s, cs) ← readExactly 2 cs
  let (n, cs) ← readFraction cs
  let offset ← complete (← readStrictZone cs)
  let date ← Date.of? y m d
  let time ← TimeOfDay.of? h min s n
  DateTime.minus? ⟨date, time⟩ offset

/-- Date and time with blanks between them, or with none. -/
def readSpaced (cs : List Char) : Option DateTime := do
  let (date, cs) ← readDateParts cs
  let time ← complete (← readTimeParts (dropBlanks cs))
  return ⟨date, time⟩

/-- Date and time with a `T` between them. -/
def readJoined (cs : List Char) : Option DateTime := do
  let (date, cs) ← readDateParts cs
  let cs ← readChar 'T' cs
  let time ← complete (← readTimeParts cs)
  return ⟨date, time⟩

/-- Date, time and a loose zone, in universal time. -/
def readZoned (cs : List Char) : Option DateTime := do
  let (date, cs) ← readDateParts cs
  let (time, cs) ← readTimeParts (dropBlanks cs)
  let offset ← complete (← readLooseZone cs)
  DateTime.minus? ⟨date, time⟩ offset

/-- A date alone. -/
def readDateChars (cs : List Char) : Option Date := (readDateParts cs).bind complete

/-- A datetime in the first of the ways that fits. -/
def readDateTimeChars (cs : List Char) : Option DateTime :=
  readTimestamp cs <|> readSpaced cs <|> readJoined cs <|>
    (readDateChars cs).map DateTime.atMidnight

/-- The date that a text shows, blanks around it ignored. -/
def readDate (s : String) : Option Date := readDateChars (trimChars s.toList)

/-- The datetime that a text shows, blanks around it ignored. -/
def readDateTime (s : String) : Option DateTime := readDateTimeChars (trimChars s.toList)

/-- The datetime that a cell shows: as in a search term, or with a loose zone. -/
def readCell (s : String) : Option DateTime :=
  readDateTime s <|> readZoned (trimChars s.toList)

end GridQuery.Calendar
