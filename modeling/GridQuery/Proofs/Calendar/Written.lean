import GridQuery.Calendar.Read
import GridQuery.Proofs.Calendar.DayNumber
import GridQuery.Proofs.Number.Integer
import GridQuery.Proofs.Text.Trim
import Mathlib.Algebra.Ring.Nat

/-!
# Dates and times as they are written

A date, a time of day and a zone are read back from their text, whatever stands behind it as long as
it does not go on with a digit or a point. Numbers are filled up to a width with zeros, so what
carries every step is that a number of no more digits than its width is written with just as many.

A leap second is shown as second 60 at the end of a minute. Anywhere else it is shown as the second
behind it, which it can then not be told from: this second is what is read back
(`TimeOfDay.settled`).

Main results: `Calendar.readDateParts_chars`, `Calendar.readTimeParts_chars` and
`Calendar.readStrictZone_zoneText`.
-/

namespace GridQuery

/-! ## Padded numbers -/

namespace Date

theorem digits_padded (width n : Nat) : Digits (padded width n) := by
  refine ⟨List.append_ne_nil_of_right_ne_nil _ Nat.toDigits_ne_nil, fun c hc => ?_⟩
  rcases List.mem_append.1 hc with hzero | hdigit
  · rw [List.eq_of_mem_replicate hzero]
    rfl
  · exact Nat.isDigit_of_mem_toDigits (by decide) (by decide) hdigit

theorem ofDigitChars_padded (width n : Nat) : Nat.ofDigitChars 10 (padded width n) 0 = n := by
  rw [padded, Nat.ofDigitChars_append, Nat.ofDigitChars_replicate_zero, Nat.mul_zero,
    Nat.ofDigitChars_ten_toDigits]

theorem length_padded {width n : Nat} (hwidth : 0 < width) (h : n < 10 ^ width) :
    (padded width n).length = width := by
  have hle := (Nat.length_toDigits_le_iff (b := 10) (by decide) hwidth).2 h
  rw [padded, List.length_append, List.length_replicate]
  omega

end Date

namespace Calendar

open Text

/-! ## Digits -/

variable {ds rest : List Char} {width n : Nat}

theorem readDigits_append (width : Nat) (hds : Digits ds) (hlength : ds.length ≤ width)
    (hend : ds.length = width ∨ EndsDigits rest) :
    readDigits width (ds ++ rest) = some (Nat.ofDigitChars 10 ds 0, rest) := by
  have hnone : (rest.take (width - ds.length)).takeWhile Char.isDigit = [] := by
    rcases hend with rfl | hrest
    · rw [Nat.sub_self]
      rfl
    · exact hrest.takeWhile_take _
  have htake : ((ds ++ rest).take width).takeWhile Char.isDigit = ds := by
    rw [List.take_append, List.take_of_length_le hlength, List.takeWhile_append_of_pos hds.2, hnone,
      List.append_nil]
  simp only [readDigits, htake]
  rw [if_neg (by simpa using hds.1), foldl_digits, List.drop_left]

theorem readDigits_padded (hwidth : 0 < width) (hn : n < 10 ^ width) (rest : List Char) :
    readDigits width (Date.padded width n ++ rest) = some (n, rest) := by
  have hlength := Date.length_padded hwidth hn
  rw [readDigits_append width (Date.digits_padded width n) (Nat.le_of_eq hlength) (.inl hlength),
    Date.ofDigitChars_padded]

theorem readExactly_padded (width : Nat) (hwidth : 0 < width) (hn : n < 10 ^ width)
    (rest : List Char) :
    readExactly width (Date.padded width n ++ rest) = some (n, rest) := by
  have htake : (Date.padded width n ++ rest).take width = Date.padded width n :=
    List.take_left' (Date.length_padded hwidth hn)
  rw [readExactly, htake, readDigits_padded hwidth hn]
  refine if_pos ⟨Date.length_padded hwidth hn, ?_⟩
  exact List.all_eq_true.2 (Date.digits_padded width n).2

/-- No blanks are passed over before a digit. -/
theorem dropBlanks_digits (hds : Digits ds) (rest : List Char) :
    dropBlanks (ds ++ rest) = ds ++ rest := by
  obtain ⟨c, ds, rfl⟩ := List.exists_cons_of_ne_nil hds.1
  refine dropBlanks_eq_self fun x hx => ?_
  cases hx
  exact isBlank_of_isDigit (hds.2 c List.mem_cons_self)

theorem readPair_padded (hn : n < 100) (rest : List Char) :
    readPair (Date.padded 2 n ++ rest) = some (n, rest) := by
  rw [readPair, dropBlanks_digits (Date.digits_padded 2 n), readDigits_padded (by decide) hn]

theorem readChar_self (c : Char) (rest : List Char) : readChar c (c :: rest) = some rest :=
  if_pos rfl

/-! ## Dates -/

theorem readYear_minus (cs : List Char) :
    readYear ('-' :: cs) = (readDigits cs.length cs).map fun r => (-(r.1 : Int), r.2) := rfl

theorem readYear_plus (cs : List Char) :
    readYear ('+' :: cs) = (readDigits cs.length cs).map fun r => ((r.1 : Int), r.2) := rfl

theorem readYear_digits (hds : Digits ds) (rest : List Char) :
    readYear (ds ++ rest) = (readDigits 4 (ds ++ rest)).map fun r => ((r.1 : Int), r.2) := by
  rw [readYear, dropBlanks_digits hds]
  obtain ⟨c, ds, rfl⟩ := List.exists_cons_of_ne_nil hds.1
  have hc : c.isDigit = true := hds.2 c List.mem_cons_self
  split
  · rename_i h
    cases h
    cases hc
  · rename_i h
    cases h
    cases hc
  · rfl

theorem readYear_yearChars (y : Int) (hrest : EndsDigits rest) :
    readYear (Date.yearChars y ++ rest) = some (y, rest) := by
  unfold Date.yearChars
  split
  · rename_i hy
    have hn : y.toNat < 10 ^ 4 := by omega
    rw [readYear_digits (Date.digits_padded _ _), readDigits_padded (by decide) hn, Option.map_some,
      Int.toNat_of_nonneg hy.1]
  · rename_i hy
    have hread := readDigits_append (Date.padded 4 y.natAbs ++ rest).length
      (Date.digits_padded 4 y.natAbs) (by simp) (.inr hrest)
    rw [Date.ofDigitChars_padded] at hread
    by_cases hneg : y < 0
    · have hy : -(y.natAbs : Int) = y := by omega
      rw [if_pos hneg, List.cons_append, readYear_minus, hread, Option.map_some, hy]
    · have hy : (y.natAbs : Int) = y := by omega
      rw [if_neg hneg, List.cons_append, readYear_plus, hread, Option.map_some, hy]

/-- **A date is read back from its text.** -/
theorem readDateParts_chars (d : Date) (rest : List Char) :
    readDateParts (d.chars ++ rest) = some (d, rest) := by
  obtain ⟨-, ⟨-, hmonth⟩, -, hday⟩ := d.valid
  have hdays := (daysInMonth_bounds d.year d.month).2
  have hhyphen (cs : List Char) : EndsDigits ('-' :: cs) := by
    rintro c ⟨⟩
    rfl
  simp only [readDateParts, Date.chars, List.append_assoc, List.cons_append,
    readYear_yearChars d.year (hhyphen _), Option.bind_eq_bind, Option.bind_some, readChar_self]
  rw [readPair_padded (by omega), Option.bind_some, readChar_self, Option.bind_some,
    readPair_padded (by omega), Option.bind_some, d.of?_self, Option.bind_some]
  rfl

/-! ## Times of day -/

/-- The text goes on neither with a digit nor with a fraction. -/
def EndsSecond (rest : List Char) : Prop := ∀ c ∈ rest.head?, c.isDigit = false ∧ c ≠ '.'

theorem EndsSecond.digits (h : EndsSecond rest) : EndsDigits rest := fun c hc => (h c hc).1

theorem readNanos_padded (hwidth : 0 < width ∧ width ≤ 9) (hn : n < 10 ^ width)
    (hrest : EndsDigits rest) :
    readNanos (Date.padded width n ++ rest) = some (n * 10 ^ (9 - width), rest) := by
  have hlength := Date.length_padded hwidth.1 hn
  have hread := readDigits_append 9 (Date.digits_padded width n) (by omega) (.inr hrest)
  have hused : (Date.padded width n ++ rest).length - rest.length = width := by
    rw [List.length_append, hlength]
    omega
  rw [Date.ofDigitChars_padded] at hread
  simp only [readNanos, hread, Option.map_some, hused, hrest.dropWhile_eq]
  rfl

theorem readFraction_point (cs : List Char) : readFraction ('.' :: cs) = readNanos cs := rfl

theorem readFraction_of_ends (hrest : EndsSecond rest) : readFraction rest = some (0, rest) := by
  unfold readFraction
  split
  · exact absurd rfl (hrest '.' rfl).2
  · rfl

/-- The text of a fraction of a second in nanoseconds: nothing, or a point and up to nine digits. -/
inductive FractionText : List Char → Nat → Prop
  | whole : FractionText [] 0
  | digits {width k : Nat} (hwidth : 0 < width ∧ width ≤ 9) (hk : k < 10 ^ width) :
      FractionText ('.' :: Date.padded width k) (k * 10 ^ (9 - width))

/-- The fraction of a datetime is one of its texts. -/
theorem fractionText_fractionChars (hn : n < 1000000000) :
    FractionText (TimeOfDay.fractionChars n) n := by
  unfold TimeOfDay.fractionChars
  split
  · rename_i hzero
    rw [hzero]
    exact .whole
  · split
    · rename_i hmillis
      have h := @FractionText.digits 3 (n / 1000000) (by decide) (by omega)
      have hvalue : n / 1000000 * 10 ^ (9 - 3) = n := by omega
      rwa [hvalue] at h
    · split
      · rename_i hmicros
        have h := @FractionText.digits 6 (n / 1000) (by decide) (by omega)
        have hvalue : n / 1000 * 10 ^ (9 - 6) = n := by omega
        rwa [hvalue] at h
      · have h := @FractionText.digits 9 n (by decide) (by omega)
        rwa [Nat.sub_self, Nat.pow_zero, Nat.mul_one] at h

/-- **A fraction is read back from each of its texts.** -/
theorem readFraction_text {fraction : List Char} (h : FractionText fraction n)
    (hrest : EndsSecond rest) : readFraction (fraction ++ rest) = some (n, rest) := by
  cases h with
  | whole => exact readFraction_of_ends hrest
  | digits hwidth hk =>
    rw [List.cons_append, readFraction_point, readNanos_padded hwidth hk hrest.digits]

end Calendar

namespace TimeOfDay

/-- The time of day that is shown: a leap second elsewhere than at the end of a minute is shown as
the second behind it. -/
def settled (t : TimeOfDay) : TimeOfDay :=
  if h : t.nano.val < 1000000000 ∨ t.second.val % 60 = 59 then t
  else
    ⟨⟨t.second.val + 1, by have := t.second.isLt; omega⟩,
      ⟨t.nano.val - 1000000000, by have := t.nano.isLt; omega⟩⟩

theorem settled_eq_self_iff {t : TimeOfDay} :
    t.settled = t ↔ (1000000000 ≤ t.nano.val → t.second.val % 60 = 59) := by
  unfold settled
  split
  · simp only [true_iff]
    omega
  · rename_i h
    refine iff_of_false (fun heq => ?_) (by omega)
    have hsecond := congrArg (fun u => u.second.val) heq
    simp only at hsecond
    omega

theorem eq_of_val {t u : TimeOfDay} (hsecond : t.second.val = u.second.val)
    (hnano : t.nano.val = u.nano.val) : t = u := by
  obtain ⟨s, n⟩ := t
  obtain ⟨r, m⟩ := u
  have hs : s = r := Fin.ext hsecond
  have hn : n = m := Fin.ext hnano
  rw [hs, hn]

theorem hour_lt (t : TimeOfDay) : t.hour < 100 := by
  have := t.second.isLt
  unfold hour
  omega

theorem minute_lt (t : TimeOfDay) : t.minute < 100 := by
  unfold minute
  omega

theorem shownSecond_lt (t : TimeOfDay) : t.shownSecond < 100 := by
  unfold shownSecond
  split <;> omega

theorem fraction_lt (t : TimeOfDay) : t.fraction < 1000000000 := Nat.mod_lt _ (by decide)

/-- The time with the shown parts is the one that is shown. -/
theorem of?_shown (t : TimeOfDay) :
    of? t.hour t.minute t.shownSecond t.fraction = some t.settled := by
  have hsecond := t.second.isLt
  have hnano := t.nano.isLt
  have hhour : t.hour = t.second.val / 3600 := rfl
  have hminute : t.minute = t.second.val / 60 % 60 := rfl
  have hshown : t.shownSecond = t.second.val % 60 + if t.nano.val < 1000000000 then 0 else 1 := rfl
  have hfraction : t.fraction = t.nano.val % 1000000000 := rfl
  have hparts : t.hour < 24 ∧ t.minute < 60 ∧ t.shownSecond ≤ 60 ∧ t.fraction < 1000000000 := by
    split at hshown <;> omega
  rw [of?, dif_pos hparts]
  -- A leap second is shown as the sixtieth only at the end of a minute; elsewhere it is the second
  -- behind it that is shown.
  by_cases h : t.nano.val < 1000000000 ∨ t.second.val % 60 = 59
  · rw [settled, dif_pos h]
    refine congrArg some (eq_of_val ?_ ?_)
    · show t.hour * 3600 + t.minute * 60 + min t.shownSecond 59 = t.second.val
      split at hshown <;> omega
    · show t.fraction + (if t.shownSecond = 60 then 1000000000 else 0) = t.nano.val
      split at hshown <;> split <;> omega
  · rw [settled, dif_neg h]
    refine congrArg some (eq_of_val ?_ ?_)
    · show t.hour * 3600 + t.minute * 60 + min t.shownSecond 59 = t.second.val + 1
      split at hshown <;> omega
    · show t.fraction + (if t.shownSecond = 60 then 1000000000 else 0) = t.nano.val - 1000000000
      split at hshown <;> split <;> omega

/-- Hour, minute and second with colons. -/
def clockChars (t : TimeOfDay) : List Char :=
  Date.padded 2 t.hour ++ ':' :: Date.padded 2 t.minute ++ ':' :: Date.padded 2 t.shownSecond

theorem chars_eq (t : TimeOfDay) : t.chars = t.clockChars ++ fractionChars t.fraction := rfl

end TimeOfDay

namespace Calendar

/-- **A time of day is read back from its text as it is shown,** with any text of its fraction. -/
theorem readTimeParts_clock (t : TimeOfDay) {fraction : List Char}
    (hfraction : FractionText fraction t.fraction) (hrest : EndsSecond rest) :
    readTimeParts (t.clockChars ++ fraction ++ rest) = some (t.settled, rest) := by
  simp only [readTimeParts, TimeOfDay.clockChars, List.append_assoc, List.cons_append,
    readPair_padded t.hour_lt, Option.bind_eq_bind, Option.bind_some, readChar_self]
  rw [readPair_padded t.minute_lt, Option.bind_some, readChar_self, Option.bind_some,
    readPair_padded t.shownSecond_lt, Option.bind_some, readFraction_text hfraction hrest,
    Option.bind_some, t.of?_shown, Option.bind_some]
  rfl

theorem readTimeParts_chars (t : TimeOfDay) (hrest : EndsSecond rest) :
    readTimeParts (t.chars ++ rest) = some (t.settled, rest) :=
  readTimeParts_clock t (fractionText_fractionChars t.fraction_lt) hrest

/-! ## Zones -/

/-- The text of a zone, and how many minutes it is ahead of universal time. -/
inductive ZoneText : List Char → Int → Prop
  | universal : ZoneText ['Z'] 0
  | ahead {h m : Nat} (hh : h < 24) (hm : m < 60) :
      ZoneText ('+' :: Date.padded 2 h ++ ':' :: Date.padded 2 m) (h * 60 + m)
  | behind {h m : Nat} (hh : h < 24) (hm : m < 60) :
      ZoneText ('-' :: Date.padded 2 h ++ ':' :: Date.padded 2 m) (-(h * 60 + m))

theorem ZoneText.endsSecond {cs : List Char} {offset : Int} (h : ZoneText cs offset) :
    EndsSecond cs := by
  cases h <;>
  · rintro c ⟨⟩
    decide

theorem ZoneText.bounds {cs : List Char} {offset : Int} (h : ZoneText cs offset) :
    -1440 < offset ∧ offset < 1440 := by
  cases h <;> omega

/-- What a zone says behind its sign. -/
theorem readStrictZone_sign (negative : Bool) (cs : List Char) :
    readStrictZone ((if negative then '-' else '+') :: cs) =
      (readExactly 2 cs).bind fun hours => (readChar ':' hours.2).bind fun cs =>
        (readMinutes cs).bind fun minutes =>
          (offsetOf negative hours.1 minutes.1).bind fun offset => some (offset, minutes.2) := by
  cases negative <;> rfl

theorem readStrictZone_signed {h m : Nat} (hh : h < 24) (hm : m < 60) (negative : Bool) :
    readStrictZone ((if negative then '-' else '+') :: Date.padded 2 h ++ ':' :: Date.padded 2 m) =
      some (if negative then -(h * 60 + m : Int) else h * 60 + m, []) := by
  have hminute : readMinutes (Date.padded 2 m) = some (m, []) := by
    have hread := readExactly_padded 2 (by decide) (n := m) (by omega) []
    rw [List.append_nil] at hread
    simp [readMinutes, hread, hm]
  rw [List.cons_append, readStrictZone_sign, readExactly_padded 2 (by decide) (by omega),
    Option.bind_some, readChar_self, Option.bind_some, hminute]
  simp only [Option.bind_some, offsetOf, hh, if_true]

/-- **A zone is read from its text.** -/
theorem readStrictZone_zoneText {cs : List Char} {offset : Int} (h : ZoneText cs offset) :
    readStrictZone cs = some (offset, []) := by
  cases h with
  | universal => rfl
  | ahead hh hm => exact readStrictZone_signed hh hm false
  | behind hh hm => exact readStrictZone_signed hh hm true

end Calendar

end GridQuery
