import GridQuery.Proofs.Calendar.Written

/-!
# The forms of a datetime

A search term is tried as a timestamp with a zone, as a date and a time with blanks between them, as
the two with a `T` between them, and as a date alone. All four begin with the parts of a date, but
no text has two of the forms: what stands behind the date tells them apart, and a timestamp differs
from a date with a time in its zone, which is never empty. So the order in which they are tried does
not matter.

Main results: `Calendar.forms_exclusive` and `Calendar.readDateTimeChars_of_form`.
-/

namespace GridQuery

namespace Calendar

open Text

variable {cs rest : List Char} {t : DateTime}

/-! ## Timestamps -/

/-- What stands behind the separator of a timestamp: a time with all its digits, and a zone. -/
def readClock (y : Int) (m d : Nat) (cs : List Char) : Option DateTime := do
  let (h, cs) ← readExactly 2 cs
  let cs ← readChar ':' cs
  let (min, cs) ← readExactly 2 cs
  let cs ← readChar ':' cs
  let (s, cs) ← readExactly 2 cs
  let (n, cs) ← readFraction cs
  let offset ← complete (← readStrictZone cs)
  let date ← Date.of? y m d
  let time ← TimeOfDay.of? h min s n
  DateTime.minus? ⟨date, time⟩ offset

theorem readTimestamp_eq (cs : List Char) : readTimestamp cs = (do
    let (y, cs) ← readExactly 4 cs
    let cs ← readChar '-' cs
    let (m, cs) ← readExactly 2 cs
    let cs ← readChar '-' cs
    let (d, cs) ← readExactly 2 cs
    match cs with
    | 'T' :: cs => readClock y m d cs
    | 't' :: cs => readClock y m d cs
    | ' ' :: cs => readClock y m d cs
    | _ => none) := rfl

/-- What begins with exactly so many digits begins with a digit. -/
theorem dropBlanks_of_readExactly {width n : Nat} (h : readExactly width cs = some (n, rest)) :
    dropBlanks cs = cs ∧ readDigits width cs = some (n, rest) ∧
      ∀ c ∈ cs.head?, c.isDigit = true := by
  unfold readExactly at h
  split at h
  · rename_i hdigits
    have hhead : ∀ c ∈ cs.head?, c.isDigit = true := by
      intro c hc
      cases cs with
      | nil => cases hc
      | cons x cs =>
        cases hc
        cases width with
        | zero => simp [readDigits] at h
        | succ width => exact List.all_eq_true.1 hdigits.2 _ (by simp)
    exact ⟨dropBlanks_eq_self fun c hc => isBlank_of_isDigit (hhead c hc), h, hhead⟩
  · cases h

theorem readPair_of_readExactly {n : Nat} (h : readExactly 2 cs = some (n, rest)) :
    readPair cs = some (n, rest) := by
  obtain ⟨hdrop, hread, -⟩ := dropBlanks_of_readExactly h
  rw [readPair, hdrop, hread]

theorem readYear_of_readExactly {n : Nat} (h : readExactly 4 cs = some (n, rest)) :
    readYear cs = some ((n : Int), rest) := by
  obtain ⟨hdrop, hread, hhead⟩ := dropBlanks_of_readExactly h
  unfold readYear
  rw [hdrop]
  split
  · exact absurd (hhead '-' rfl) (by decide)
  · exact absurd (hhead '+' rfl) (by decide)
  · rw [hread, Option.map_some]

theorem readStrictZone_nil : readStrictZone [] = none := rfl

/-- Behind the separator there are the parts of a time, and a zone behind them. -/
theorem parts_of_readClock {y : Int} {m d : Nat} (h : readClock y m d cs = some t) :
    ∃ date time zone, Date.of? y m d = some date ∧ dropBlanks cs = cs ∧
      readTimeParts cs = some (time, zone) ∧ zone ≠ [] := by
  simp only [readClock, Option.bind_eq_bind, Option.bind_eq_some_iff] at h
  obtain ⟨⟨hour, cs₁⟩, hhour, cs₂, hc₁, ⟨minute, cs₃⟩, hminute, cs₄, hc₃, ⟨second, cs₅⟩, hsecond,
    ⟨nano, zone⟩, hnano, ⟨offset, cs₇⟩, hzone, -, -, date, hdate, time, htime, -⟩ := h
  simp only at hc₁ hc₃ hnano hzone hdate htime
  refine ⟨date, time, zone, hdate, (dropBlanks_of_readExactly hhour).1, ?_, ?_⟩
  · simp [readTimeParts, readPair_of_readExactly hhour, hc₁, readPair_of_readExactly hminute, hc₃,
      readPair_of_readExactly hsecond, hnano, htime]
  · rintro rfl
    rw [readStrictZone_nil] at hzone
    cases hzone

/-- A timestamp is the parts of a date and of a time with a separator, and a zone behind them. -/
theorem parts_of_readTimestamp (h : readTimestamp cs = some t) :
    ∃ date sep time rest zone, readDateParts cs = some (date, sep :: rest) ∧
      (sep = 'T' ∨ sep = 't' ∨ sep = ' ') ∧ dropBlanks rest = rest ∧
      readTimeParts rest = some (time, zone) ∧ zone ≠ [] := by
  simp only [readTimestamp_eq, Option.bind_eq_bind, Option.bind_eq_some_iff] at h
  obtain ⟨⟨y, cs₁⟩, hyear, cs₂, hc₁, ⟨m, cs₃⟩, hmonth, cs₄, hc₃, ⟨d, cs₅⟩, hday, h⟩ := h
  simp only at hc₁ hc₃ h
  have hparts {date : Date} (hdate : Date.of? y m d = some date) :
      readDateParts cs = some (date, cs₅) := by
    simp [readDateParts, readYear_of_readExactly hyear, hc₁, readPair_of_readExactly hmonth, hc₃,
      readPair_of_readExactly hday, hdate]
  split at h
  · obtain ⟨date, time, zone, hdate, hrest⟩ := parts_of_readClock h
    exact ⟨date, _, time, _, zone, hparts hdate, .inl rfl, hrest⟩
  · obtain ⟨date, time, zone, hdate, hrest⟩ := parts_of_readClock h
    exact ⟨date, _, time, _, zone, hparts hdate, .inr (.inl rfl), hrest⟩
  · obtain ⟨date, time, zone, hdate, hrest⟩ := parts_of_readClock h
    exact ⟨date, _, time, _, zone, hparts hdate, .inr (.inr rfl), hrest⟩
  · cases h

/-! ## The other forms -/

theorem readChar_eq_some_iff {c : Char} {behind : List Char} :
    readChar c behind = some rest ↔ behind = c :: rest := by
  cases behind with
  | nil => simp [readChar]
  | cons x behind =>
    simp only [readChar, Option.ite_none_right_eq_some, Option.some.injEq, List.cons.injEq]
    exact and_congr_left fun _ => eq_comm

theorem complete_eq_some_iff {α : Type} {r : α × List Char} {a : α} :
    complete r = some a ↔ r = (a, []) := by
  obtain ⟨b, cs⟩ := r
  cases cs <;> simp [complete]

theorem parts_of_readSpaced (h : readSpaced cs = some t) :
    ∃ date rest time, readDateParts cs = some (date, rest) ∧
      readTimeParts (dropBlanks rest) = some (time, []) := by
  simp only [readSpaced, Option.bind_eq_bind, Option.bind_eq_some_iff, complete_eq_some_iff] at h
  obtain ⟨⟨date, rest⟩, hdate, r, htime, time, rfl, -⟩ := h
  exact ⟨date, rest, time, hdate, htime⟩

theorem parts_of_readJoined (h : readJoined cs = some t) :
    ∃ date rest time, readDateParts cs = some (date, 'T' :: rest) ∧
      readTimeParts rest = some (time, []) := by
  simp only [readJoined, Option.bind_eq_bind, Option.bind_eq_some_iff, complete_eq_some_iff] at h
  obtain ⟨⟨date, behind⟩, hdate, rest, hchar, r, htime, time, rfl, -⟩ := h
  cases readChar_eq_some_iff.1 hchar
  exact ⟨date, rest, time, hdate, htime⟩

theorem parts_of_readDateChars {d : Date} (h : readDateChars cs = some d) :
    readDateParts cs = some (d, []) := by
  rw [readDateChars, Option.bind_eq_some_iff] at h
  obtain ⟨r, hread, hcomplete⟩ := h
  rw [hread, complete_eq_some_iff.1 hcomplete]

/-- A time begins with a digit, behind blanks. -/
theorem readTimeParts_eq_none (h : EndsDigits (dropBlanks cs)) : readTimeParts cs = none := by
  have hpair : readPair cs = none := by
    simp [readPair, readDigits, h.takeWhile_take]
  simp [readTimeParts, hpair]

/-! ## No text has two forms -/

/-- The ways in which a datetime is written, in the order in which they are tried. -/
def forms : List (List Char → Option DateTime) :=
  [readTimestamp, readSpaced, readJoined, fun cs => (readDateChars cs).map .atMidnight]

theorem readDateTimeChars_eq (cs : List Char) : readDateTimeChars cs = forms.findSome? (· cs) := by
  simp only [readDateTimeChars, forms, List.findSome?_cons, List.findSome?_nil]
  cases readTimestamp cs <;> cases readSpaced cs <;> cases readJoined cs <;>
    cases readDateChars cs <;> rfl

/-- No text is read in the second way and in the first. -/
def Excludes (f g : List Char → Option DateTime) : Prop :=
  ∀ cs t, g cs = some t → f cs = none

theorem Excludes.of_ne {f g : List Char → Option DateTime}
    (h : ∀ {cs t u}, g cs = some t → f cs ≠ some u) : Excludes f g :=
  fun _ _ hg => Option.eq_none_iff_forall_ne_some.2 fun _ => h hg

theorem readTimestamp_excludes_readSpaced : Excludes readTimestamp readSpaced := by
  refine .of_ne fun hspaced hstamp => ?_
  obtain ⟨date, behind, time, hdate, htime⟩ := parts_of_readSpaced hspaced
  obtain ⟨date', sep, time', rest, zone, hdate', hsep, hdrop, htime', hzone⟩ :=
    parts_of_readTimestamp hstamp
  rw [hdate'] at hdate
  cases hdate
  rcases hsep with rfl | rfl | rfl
  · rw [readTimeParts_eq_none (by rintro c ⟨⟩; rfl)] at htime
    cases htime
  · rw [readTimeParts_eq_none (by rintro c ⟨⟩; rfl)] at htime
    cases htime
  · have hblank : dropBlanks (' ' :: rest) = rest := hdrop
    rw [hblank, htime'] at htime
    cases htime
    exact hzone rfl

theorem readTimestamp_excludes_readJoined : Excludes readTimestamp readJoined := by
  refine .of_ne fun hjoined hstamp => ?_
  obtain ⟨date, rest, time, hdate, htime⟩ := parts_of_readJoined hjoined
  obtain ⟨date', sep, time', rest', zone, hdate', -, -, htime', hzone⟩ :=
    parts_of_readTimestamp hstamp
  rw [hdate'] at hdate
  cases hdate
  rw [htime'] at htime
  cases htime
  exact hzone rfl

theorem readSpaced_excludes_readJoined : Excludes readSpaced readJoined := by
  refine .of_ne fun hjoined hspaced => ?_
  obtain ⟨date, rest, time, hdate, -⟩ := parts_of_readJoined hjoined
  obtain ⟨date', behind, time', hdate', htime'⟩ := parts_of_readSpaced hspaced
  rw [hdate'] at hdate
  cases hdate
  rw [readTimeParts_eq_none (by rintro c ⟨⟩; rfl)] at htime'
  cases htime'

/-- A date alone has nothing behind it. -/
theorem parts_of_date (h : (readDateChars cs).map .atMidnight = some t) :
    ∃ date, readDateParts cs = some (date, []) := by
  obtain ⟨date, hdate, -⟩ := Option.map_eq_some_iff.1 h
  exact ⟨date, parts_of_readDateChars hdate⟩

theorem readTimestamp_excludes_date :
    Excludes readTimestamp fun cs => (readDateChars cs).map .atMidnight := by
  refine .of_ne fun hdate hstamp => ?_
  obtain ⟨date, hdate⟩ := parts_of_date hdate
  obtain ⟨date', sep, time, rest, zone, hdate', -⟩ := parts_of_readTimestamp hstamp
  rw [hdate'] at hdate
  cases hdate

theorem readSpaced_excludes_date :
    Excludes readSpaced fun cs => (readDateChars cs).map .atMidnight := by
  refine .of_ne fun hdate hspaced => ?_
  obtain ⟨date, hdate⟩ := parts_of_date hdate
  obtain ⟨date', behind, time, hdate', htime⟩ := parts_of_readSpaced hspaced
  rw [hdate'] at hdate
  cases hdate
  rw [readTimeParts_eq_none (by rintro c ⟨⟩)] at htime
  cases htime

theorem readJoined_excludes_date :
    Excludes readJoined fun cs => (readDateChars cs).map .atMidnight := by
  refine .of_ne fun hdate hjoined => ?_
  obtain ⟨date, hdate⟩ := parts_of_date hdate
  obtain ⟨date', rest, time, hdate', -⟩ := parts_of_readJoined hjoined
  rw [hdate'] at hdate
  cases hdate

/-- **No text is read in two of the ways.** -/
theorem forms_exclusive : forms.Pairwise Excludes := by
  simp only [forms, List.pairwise_cons, List.forall_mem_cons, List.not_mem_nil, false_implies,
    implies_true, List.Pairwise.nil, and_true]
  exact ⟨⟨readTimestamp_excludes_readSpaced, readTimestamp_excludes_readJoined,
    readTimestamp_excludes_date⟩, ⟨readSpaced_excludes_readJoined, readSpaced_excludes_date⟩,
    readJoined_excludes_date⟩

/-- Of ways that exclude each other the first one that reads a text is the only one. -/
theorem findSome?_of_excludes {fs : List (List Char → Option DateTime)} (hfs : fs.Pairwise Excludes)
    {f : List Char → Option DateTime} (hf : f ∈ fs) (h : f cs = some t) :
    fs.findSome? (· cs) = some t := by
  induction hfs with
  | nil => cases hf
  | cons hfirst _ ih =>
    rcases List.mem_cons.1 hf with rfl | hf
    · rw [List.findSome?_cons, h]
    · rw [List.findSome?_cons, hfirst f hf cs t h]
      exact ih hf

/-- What is written in one of the ways is read in this way. -/
theorem readDateTimeChars_of_form {f : List Char → Option DateTime} (hf : f ∈ forms)
    (h : f cs = some t) : readDateTimeChars cs = some t := by
  rw [readDateTimeChars_eq]
  exact findSome?_of_excludes forms_exclusive hf h

end Calendar
end GridQuery
