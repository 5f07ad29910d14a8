import GridQuery.Proofs.Calendar.Cascade

/-!
# Datetimes read back from their text

A date, a datetime and a timestamp with a zone are read back from their text, whatever blanks
surround it. Each is written in one of the forms of a datetime, and what is written in one form is
read in this form; what is left is that nothing in these texts but the separator is blank.

Main result: `Calendar.readDateTime_written`.
-/

namespace GridQuery

open Text

namespace DateTime

/-- Date and time with the character between them. -/
def charsWith (sep : Char) (t : DateTime) : List Char := t.date.chars ++ sep :: t.time.chars

/-- The datetime with the time that is shown. -/
def settled (t : DateTime) : DateTime := { t with time := t.time.settled }

theorem settled_eq_self_iff {t : DateTime} :
    t.settled = t ↔ (1000000000 ≤ t.time.nano.val → t.time.second.val % 60 = 59) := by
  rw [← TimeOfDay.settled_eq_self_iff]
  exact ⟨congrArg DateTime.time, fun h => congrArg (DateTime.mk t.date) h⟩

end DateTime

/-! ## Texts without blanks -/

theorem Date.isBlank_padded {width n : Nat} {c : Char} (h : c ∈ padded width n) :
    isBlank c = false :=
  isBlank_of_isDigit ((digits_padded width n).2 c h)

theorem Date.isBlank_yearChars {y : Int} {c : Char} (h : c ∈ yearChars y) : isBlank c = false := by
  unfold yearChars at h
  split at h
  · exact isBlank_padded h
  · rcases List.mem_cons.1 h with rfl | h
    · split <;> rfl
    · exact isBlank_padded h

theorem Date.isBlank_chars {d : Date} {c : Char} (h : c ∈ d.chars) : isBlank c = false := by
  simp only [chars, List.append_assoc, List.cons_append, List.mem_append, List.mem_cons] at h
  rcases h with h | rfl | h | rfl | h
  · exact isBlank_yearChars h
  · rfl
  · exact isBlank_padded h
  · rfl
  · exact isBlank_padded h

theorem Calendar.FractionText.isBlank {fraction : List Char} {n : Nat}
    (h : FractionText fraction n) {c : Char} (hc : c ∈ fraction) : isBlank c = false := by
  cases h with
  | whole => cases hc
  | digits =>
    rcases List.mem_cons.1 hc with rfl | hc
    · rfl
    · exact Date.isBlank_padded hc

theorem TimeOfDay.isBlank_clockChars {t : TimeOfDay} {c : Char} (h : c ∈ t.clockChars) :
    isBlank c = false := by
  simp only [clockChars, List.append_assoc, List.cons_append, List.mem_append, List.mem_cons] at h
  rcases h with h | rfl | h | rfl | h
  · exact Date.isBlank_padded h
  · rfl
  · exact Date.isBlank_padded h
  · rfl
  · exact Date.isBlank_padded h

theorem TimeOfDay.isBlank_chars {t : TimeOfDay} {c : Char} (h : c ∈ t.chars) :
    isBlank c = false := by
  rw [chars_eq] at h
  rcases List.mem_append.1 h with h | h
  · exact isBlank_clockChars h
  · exact (Calendar.fractionText_fractionChars t.fraction_lt).isBlank h

namespace Calendar

variable {before after : List Char} {sep : Char}

theorem ZoneText.isBlank {zone : List Char} {offset : Int} (h : ZoneText zone offset) {c : Char}
    (hc : c ∈ zone) : isBlank c = false := by
  have hsigned {sign : Char} (hsign : Text.isBlank sign = false) {h m : Nat}
      (hc : c ∈ sign :: Date.padded 2 h ++ ':' :: Date.padded 2 m) : Text.isBlank c = false := by
    simp only [List.cons_append, List.mem_append, List.mem_cons] at hc
    rcases hc with rfl | hc | rfl | hc
    · exact hsign
    · exact Date.isBlank_padded hc
    · rfl
    · exact Date.isBlank_padded hc
  cases h with
  | universal =>
    cases List.mem_singleton.1 hc
    rfl
  | ahead => exact hsigned rfl hc
  | behind => exact hsigned rfl hc

/-- The separator is the only character of a datetime that may be blank. -/
theorem tight_withDate (d : Date) {time : List Char} (hne : time ≠ [])
    (htime : ∀ c ∈ time, isBlank c = false) : Tight (d.chars ++ sep :: time) := by
  have hdate : d.chars ≠ [] := by simp [Date.chars]
  constructor
  · intro c hc
    rw [List.head?_append_of_ne_nil _ hdate] at hc
    exact Date.isBlank_chars (List.mem_of_head? hc)
  · intro c hc
    have hsplit : d.chars ++ sep :: time = (d.chars ++ [sep]) ++ time := by simp
    rw [hsplit, List.getLast?_append_of_ne_nil _ hne] at hc
    exact htime c (List.mem_of_getLast? hc)

theorem tight_charsWith (t : DateTime) {zone : List Char} (hzone : ∀ c ∈ zone, isBlank c = false) :
    Tight (t.charsWith sep ++ zone) := by
  have htime : t.time.chars ++ zone ≠ [] := by simp [TimeOfDay.chars]
  rw [DateTime.charsWith, List.append_assoc, List.cons_append]
  refine tight_withDate t.date htime fun c hc => ?_
  rcases List.mem_append.1 hc with h | h
  · exact TimeOfDay.isBlank_chars h
  · exact hzone c h

/-! ## The forms that are written -/

theorem endsSecond_nil : EndsSecond [] := by
  rintro c ⟨⟩

theorem readDateChars_chars (d : Date) : readDateChars d.chars = some d := by
  have hread := readDateParts_chars d []
  rw [List.append_nil] at hread
  rw [readDateChars, hread]
  rfl

theorem readTimeParts_alone (t : TimeOfDay) : readTimeParts t.chars = some (t.settled, []) := by
  have hread := readTimeParts_chars t endsSecond_nil
  rwa [List.append_nil] at hread

theorem dropBlanks_timeChars (t : TimeOfDay) : dropBlanks t.chars = t.chars :=
  dropBlanks_eq_self fun _ hc => TimeOfDay.isBlank_chars (List.mem_of_head? hc)

theorem readSpaced_chars (t : DateTime) : readSpaced (t.charsWith ' ') = some t.settled := by
  have hdrop : dropBlanks (' ' :: t.time.chars) = t.time.chars := dropBlanks_timeChars t.time
  simp only [readSpaced, DateTime.charsWith, readDateParts_chars, Option.bind_eq_bind,
    Option.bind_some, hdrop, readTimeParts_alone]
  rfl

theorem readJoined_chars (t : DateTime) : readJoined (t.charsWith 'T') = some t.settled := by
  simp only [readJoined, DateTime.charsWith, readDateParts_chars, Option.bind_eq_bind,
    Option.bind_some, readChar_self, readTimeParts_alone]
  rfl

/-- Behind the separator the time and the zone are read, and the zone is taken away. -/
theorem readClock_clock (t : DateTime) {fraction zone : List Char}
    (hfraction : FractionText fraction t.time.fraction) (hzone : EndsSecond zone) :
    readClock t.date.year t.date.month t.date.day (t.time.clockChars ++ fraction ++ zone) =
      ((readStrictZone zone).bind complete).bind t.settled.minus? := by
  simp only [readClock, TimeOfDay.clockChars, List.append_assoc, List.cons_append]
  simp only [readExactly_padded 2 (by decide) t.time.hour_lt,
    readExactly_padded 2 (by decide) t.time.minute_lt,
    readExactly_padded 2 (by decide) t.time.shownSecond_lt, readChar_self, Option.bind_eq_bind,
    Option.bind_some, readFraction_text hfraction hzone, t.date.of?_self, t.time.of?_shown,
    Option.bind_assoc]
  rfl

/-- Behind the date of a timestamp its clock is read. -/
theorem readTimestamp_behind (d : Date) (hyear : 0 ≤ d.year ∧ d.year ≤ 9999)
    (hsep : sep = 'T' ∨ sep = 't' ∨ sep = ' ') (rest : List Char) :
    readTimestamp (d.chars ++ sep :: rest) = readClock d.year d.month d.day rest := by
  obtain ⟨-, ⟨-, hmonth⟩, -, hday⟩ := d.valid
  have hdays := (daysInMonth_bounds d.year d.month).2
  have hn : d.year.toNat < 10 ^ 4 := by omega
  have hcast : (d.year.toNat : Int) = d.year := Int.toNat_of_nonneg hyear.1
  simp only [readTimestamp_eq, Date.chars, Date.yearChars, if_pos hyear, List.append_assoc,
    List.cons_append]
  simp only [readExactly_padded 4 (by decide) hn, readChar_self, Option.bind_eq_bind,
    Option.bind_some, readExactly_padded 2 (by decide) (n := d.month) (by omega),
    readExactly_padded 2 (by decide) (n := d.day) (by omega), hcast]
  rcases hsep with rfl | rfl | rfl <;> rfl

/-- **A timestamp is read as the time it shows less its zone,** with any text of its fraction. -/
theorem readTimestamp_clock (t : DateTime) (hyear : 0 ≤ t.date.year ∧ t.date.year ≤ 9999)
    (hsep : sep = 'T' ∨ sep = 't' ∨ sep = ' ') {fraction zone : List Char} {offset : Int}
    (hfraction : FractionText fraction t.time.fraction) (hzone : ZoneText zone offset) :
    readTimestamp (t.date.chars ++ sep :: (t.time.clockChars ++ fraction ++ zone)) =
      t.settled.minus? offset := by
  rw [readTimestamp_behind t.date hyear hsep, readClock_clock t hfraction hzone.endsSecond,
    readStrictZone_zoneText hzone]
  rfl

theorem readTimestamp_chars (t : DateTime) (hyear : 0 ≤ t.date.year ∧ t.date.year ≤ 9999)
    (hsep : sep = 'T' ∨ sep = 't' ∨ sep = ' ') {zone : List Char} {offset : Int}
    (hzone : ZoneText zone offset) :
    readTimestamp (t.charsWith sep ++ zone) = t.settled.minus? offset := by
  rw [DateTime.charsWith, List.append_assoc, List.cons_append, TimeOfDay.chars_eq]
  exact readTimestamp_clock t hyear hsep (fractionText_fractionChars t.time.fraction_lt) hzone

/-! ## Whole texts -/

theorem trim_between {cs : List Char} (hbefore : Blanks before) (hafter : Blanks after)
    (h : Tight cs) : trimChars (String.ofList (before ++ cs ++ after)).toList = cs := by
  rw [String.toList_ofList, trimChars_between hbefore hafter h]

theorem tight_dateChars (d : Date) : Tight d.chars := .of_forall fun _ => Date.isBlank_chars

theorem readDate_between (hbefore : Blanks before) (hafter : Blanks after) (d : Date) :
    readDate (.ofList (before ++ d.chars ++ after)) = some d := by
  rw [readDate, trim_between hbefore hafter (tight_dateChars d), readDateChars_chars]

theorem readDateTime_of_date (hbefore : Blanks before) (hafter : Blanks after) (d : Date) :
    readDateTime (.ofList (before ++ d.chars ++ after)) = some (.atMidnight d) := by
  rw [readDateTime, trim_between hbefore hafter (tight_dateChars d)]
  refine readDateTimeChars_of_form
    (f := fun cs => (readDateChars cs).map .atMidnight) (by simp [forms]) ?_
  simp only [readDateChars_chars, Option.map_some]

theorem readDateTime_of_parts (hbefore : Blanks before) (hafter : Blanks after) (t : DateTime)
    (hsep : sep = ' ' ∨ sep = 'T') :
    readDateTime (.ofList (before ++ t.charsWith sep ++ after)) = some t.settled := by
  have htight : Tight (t.charsWith sep) := by
    rw [← List.append_nil (t.charsWith sep)]
    exact tight_charsWith t (by simp)
  rw [readDateTime, trim_between hbefore hafter htight]
  rcases hsep with rfl | rfl
  · exact readDateTimeChars_of_form (by simp [forms]) (readSpaced_chars t)
  · exact readDateTimeChars_of_form (by simp [forms]) (readJoined_chars t)

/-- The time that a text shows less its zone, with the carries of the calendar. -/
theorem exists_settled_minus (t : DateTime) (hyear : 0 ≤ t.date.year ∧ t.date.year ≤ 9999)
    {offset : Int} (hoffset : -1440 < offset ∧ offset < 1440) :
    ∃ u, t.settled.minus? offset = some u ∧
      ∀ v : DateTime, v = u ↔ v.timestamp = t.settled.timestamp - offset * 60 ∧
        v.time.nano = t.settled.time.nano := by
  have hmin : Date.minYear < t.settled.date.year := Int.lt_of_lt_of_le (by decide) hyear.1
  have hmax : t.settled.date.year < Date.maxYear := Int.lt_of_le_of_lt hyear.2 (by decide)
  obtain ⟨u, hminus, htimestamp, hnano⟩ := DateTime.exists_minus hmin hmax hoffset
  refine ⟨u, hminus, fun v => ⟨?_, fun ⟨h, h'⟩ => ?_⟩⟩
  · rintro rfl
    exact ⟨htimestamp, hnano⟩
  · exact DateTime.eq_of_timestamp (h.trans htimestamp.symm) (h'.trans hnano.symm)

theorem readDateTime_of_timestamp (hbefore : Blanks before) (hafter : Blanks after) (t : DateTime)
    (hyear : 0 ≤ t.date.year ∧ t.date.year ≤ 9999) (hsep : sep = 'T' ∨ sep = 't' ∨ sep = ' ')
    {zone : List Char} {offset : Int} (hzone : ZoneText zone offset) :
    ∃ u, readDateTime (.ofList (before ++ (t.charsWith sep ++ zone) ++ after)) = some u ∧
      ∀ v : DateTime, v = u ↔ v.timestamp = t.settled.timestamp - offset * 60 ∧
        v.time.nano = t.settled.time.nano := by
  obtain ⟨u, hminus, hu⟩ := exists_settled_minus t hyear hzone.bounds
  refine ⟨u, ?_, hu⟩
  rw [readDateTime, trim_between hbefore hafter (tight_charsWith t fun _ => hzone.isBlank)]
  refine readDateTimeChars_of_form (f := readTimestamp) (by simp [forms]) ?_
  rw [readTimestamp_chars t hyear hsep hzone, hminus]

/-- **A date and a datetime are read back from their text,** whatever blanks surround it: a date as
itself and as its midnight, a datetime with a blank or a `T` in it as itself, and a timestamp as the
time it shows less its zone, with the carries of the calendar. A leap second elsewhere than at the
end of a minute is written as the second behind it, and read as this second. No text is taken by two
of the forms, so none is taken by an earlier one with another value. -/
theorem readDateTime_written {before after : List Char} (hbefore : Blanks before)
    (hafter : Blanks after) :
    (∀ d : Date, readDate (.ofList (before ++ d.chars ++ after)) = some d ∧
      readDateTime (.ofList (before ++ d.chars ++ after)) = some (.atMidnight d)) ∧
    (∀ (t : DateTime) (sep : Char), sep = ' ' ∨ sep = 'T' →
      readDateTime (.ofList (before ++ t.charsWith sep ++ after)) = some t.settled) ∧
    (∀ t : DateTime,
      t.settled = t ↔ (1000000000 ≤ t.time.nano.val → t.time.second.val % 60 = 59)) ∧
    (∀ (t : DateTime) (sep : Char) (zone : List Char) (offset : Int),
      0 ≤ t.date.year ∧ t.date.year ≤ 9999 → sep = 'T' ∨ sep = 't' ∨ sep = ' ' →
      ZoneText zone offset →
      ∃ u, readDateTime (.ofList (before ++ (t.charsWith sep ++ zone) ++ after)) = some u ∧
        ∀ v : DateTime, v = u ↔ v.timestamp = t.settled.timestamp - offset * 60 ∧
          v.time.nano = t.settled.time.nano) ∧
    (∀ cs, readDateTimeChars cs = forms.findSome? (· cs)) ∧ forms.Pairwise Excludes :=
  ⟨fun d => ⟨readDate_between hbefore hafter d, readDateTime_of_date hbefore hafter d⟩,
    fun t _ hsep => readDateTime_of_parts hbefore hafter t hsep,
    fun _ => DateTime.settled_eq_self_iff,
    fun t _ _ _ hyear hsep hzone => readDateTime_of_timestamp hbefore hafter t hyear hsep hzone,
    readDateTimeChars_eq, forms_exclusive⟩

/-- The leap second at the end of 2016, written with a `T` between blanks, is read as itself. -/
theorem readDateTime_written_leap :
    readDateTime (.ofList ([' '] ++ DateTime.charsWith 'T'
        ⟨⟨2016, 12, 31, by decide⟩, ⟨86399, 1500000000⟩⟩ ++ ['\n'])) =
      some ⟨⟨2016, 12, 31, by decide⟩, ⟨86399, 1500000000⟩⟩ := by
  have hwritten := @readDateTime_written [' '] ['\n'] (by decide) (by decide)
  have hsettled := (hwritten.2.2.1 ⟨⟨2016, 12, 31, by decide⟩, ⟨86399, 1500000000⟩⟩).2 (by decide)
  rw [hwritten.2.1 _ 'T' (.inr rfl), hsettled]

/-- The first minutes of the year 0, an hour ahead of universal time, are in the year before. -/
example :
    (readDateTime "0000-01-01T00:10:00+01:00").map DateTime.text = some "-0001-12-31 23:10:00" := by
  decide

end Calendar
end GridQuery
