/-!
# Durations as text

A duration is shown in milliseconds below one second, and in seconds with as many decimal
places as it needs from there on.
-/

namespace GridQuery.Text

/-- The text of a duration in milliseconds. -/
def duration (ms : Nat) : String :=
  if ms = 0 then "0ns"
  else if ms < 1000 then toString ms ++ "ms"
  else
    let digits := Nat.toDigits 10 (1000 + ms % 1000) |>.drop 1
    let places := (digits.reverse.dropWhile (· == '0')).reverse
    toString (ms / 1000) ++ (if places.isEmpty then "" else "." ++ String.ofList places) ++ "s"

end GridQuery.Text
