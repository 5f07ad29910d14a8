import GridQuery.Proofs.Calendar.RoundTrip
import GridQuery.Proofs.View.Zone

/-!
# Dates in cells

A cell is read as a search term is, and only if it shows no datetime this way, as a date and a time
with a zone whose minutes may be left out. With its minutes the zone makes the text a timestamp;
without them it keeps the text from having any of the forms of a search term, since the time is not
all that stands behind the date. Either way the time that is shown is read less the zone.

Main results: `Calendar.readCell_printed` and `Transform.dates_in_cells`.
-/

namespace GridQuery

open Text

namespace Calendar

/-! ## Zones -/

/-- The text of a zone in a cell, and how many minutes it is ahead of universal time. The minutes
may be left out of whole hours. -/
inductive PrintedZone : List Char → Int → Prop
  | ahead {h : Nat} (hh : h < 24) : PrintedZone ('+' :: Date.padded 2 h) (h * 60)
  | behind {h : Nat} (hh : h < 24) : PrintedZone ('-' :: Date.padded 2 h) (-(h * 60))
  | aheadMinutes {h m : Nat} (hh : h < 24) (hm : m < 60) :
      PrintedZone ('+' :: Date.padded 2 h ++ ':' :: Date.padded 2 m) (h * 60 + m)
  | behindMinutes {h m : Nat} (hh : h < 24) (hm : m < 60) :
      PrintedZone ('-' :: Date.padded 2 h ++ ':' :: Date.padded 2 m) (-(h * 60 + m))

/-- Every offset of less than a day has a text. -/
theorem exists_printedZone {offset : Int} (h : -1440 < offset ∧ offset < 1440) :
    ∃ zone, PrintedZone zone offset := by
  have hhours : offset.natAbs / 60 < 24 := by omega
  have hminutes : offset.natAbs % 60 < 60 := Nat.mod_lt _ (by decide)
  by_cases hsign : 0 ≤ offset
  · have hzone := PrintedZone.aheadMinutes hhours hminutes
    have hoffset :
        ((offset.natAbs / 60 : Nat) * 60 + (offset.natAbs % 60 : Nat) : Int) = offset := by
      omega
    rw [hoffset] at hzone
    exact ⟨_, hzone⟩
  · have hzone := PrintedZone.behindMinutes hhours hminutes
    have hoffset :
        -((offset.natAbs / 60 : Nat) * 60 + (offset.natAbs % 60 : Nat) : Int) = offset := by
      omega
    rw [hoffset] at hzone
    exact ⟨_, hzone⟩

/-- Hours alone are no zone of a timestamp. -/
theorem readStrictZone_hours {h : Nat} (hh : h < 24) (negative : Bool) :
    readStrictZone ((if negative then '-' else '+') :: Date.padded 2 h) = none := by
  have hread := readExactly_padded 2 (by decide) (n := h) (by omega) []
  rw [List.append_nil] at hread
  rw [readStrictZone_sign, hread]
  rfl

/-- But they are the zone of a cell. -/
theorem readLooseZone_hours {h : Nat} (hh : h < 24) (negative : Bool) :
    readLooseZone ((if negative then '-' else '+') :: Date.padded 2 h) =
      some (if negative then -(h * 60 : Int) else h * 60, []) := by
  have hread := readExactly_padded 2 (by decide) (n := h) (by omega) []
  rw [List.append_nil] at hread
  have hbehind : readLooseZone ((if negative then '-' else '+') :: Date.padded 2 h) =
      (readExactly 2 (Date.padded 2 h)).bind fun hours =>
        let rest := hours.2.dropWhile fun c => c == ':' || isBlank c
        let zone := fun minutes : Nat × List Char =>
          (offsetOf negative hours.1 minutes.1).bind fun offset => some (offset, minutes.2)
        if rest.isEmpty then zone (0, rest) else (readMinutes rest).bind zone := by
    cases negative <;> rfl
  have hoffset : offsetOf negative h 0 =
      some (if negative then -(h * 60 : Int) else h * 60) := by
    simp [offsetOf, hh]
  rw [hbehind, hread, Option.bind_some]
  show (offsetOf negative h 0).bind (fun offset => some (offset, [])) = _
  rw [hoffset, Option.bind_some]

/-! ## Cells -/

/-- A datetime as a database writes it, with the texts of its fraction and of its zone. -/
def printedChars (t : DateTime) (fraction zone : List Char) : List Char :=
  t.date.chars ++ ' ' :: (t.time.clockChars ++ fraction ++ zone)

variable {t : DateTime} {fraction zone : List Char}

theorem readTimeParts_behind (hfraction : FractionText fraction t.time.fraction)
    (hzone : EndsSecond zone) :
    readTimeParts (dropBlanks (' ' :: (t.time.clockChars ++ fraction ++ zone))) =
      some (t.time.settled, zone) := by
  have hdrop : dropBlanks (t.time.clockChars ++ fraction ++ zone) =
      t.time.clockChars ++ fraction ++ zone := by
    refine dropBlanks_eq_self fun c hc => ?_
    have hclock : t.time.clockChars ≠ [] := by simp [TimeOfDay.clockChars]
    rw [List.append_assoc, List.head?_append_of_ne_nil _ hclock] at hc
    exact TimeOfDay.isBlank_clockChars (List.mem_of_head? hc)
  have hblank : dropBlanks (' ' :: (t.time.clockChars ++ fraction ++ zone)) =
      t.time.clockChars ++ fraction ++ zone := hdrop
  rw [hblank, readTimeParts_clock t.time hfraction hzone]

/-- With a zone that is none of a timestamp the text has none of the forms of a search term. -/
theorem readDateTimeChars_printed (hyear : 0 ≤ t.date.year ∧ t.date.year ≤ 9999)
    (hfraction : FractionText fraction t.time.fraction) (hzone : EndsSecond zone) (hne : zone ≠ [])
    (hloose : readStrictZone zone = none) :
    readDateTimeChars (printedChars t fraction zone) = none := by
  have hstamp : readTimestamp (printedChars t fraction zone) = none := by
    rw [printedChars, readTimestamp_behind t.date hyear (.inr (.inr rfl)),
      readClock_clock t hfraction hzone, hloose]
    rfl
  have hcomplete : complete (t.time.settled, zone) = none := by
    cases zone with
    | nil => exact absurd rfl hne
    | cons c zone => rfl
  have hspaced : readSpaced (printedChars t fraction zone) = none := by
    simp only [readSpaced, printedChars, readDateParts_chars, Option.bind_eq_bind, Option.bind_some,
      readTimeParts_behind hfraction hzone, hcomplete]
    rfl
  have hjoined : readJoined (printedChars t fraction zone) = none := by
    simp only [readJoined, printedChars, readDateParts_chars, Option.bind_eq_bind, Option.bind_some]
    rfl
  have hdate : readDateChars (printedChars t fraction zone) = none := by
    rw [readDateChars, printedChars, readDateParts_chars]
    rfl
  -- Each of the four forms of a search term fails: at the zone, at what is left, or at the blank.
  rw [readDateTimeChars, hstamp, hspaced, hjoined, hdate]
  rfl

theorem readZoned_printed {offset : Int} (hfraction : FractionText fraction t.time.fraction)
    (hzone : EndsSecond zone) (hloose : readLooseZone zone = some (offset, [])) :
    readZoned (printedChars t fraction zone) = t.settled.minus? offset := by
  simp only [readZoned, printedChars, readDateParts_chars, Option.bind_eq_bind, Option.bind_some,
    readTimeParts_behind hfraction hzone, hloose]
  rfl

theorem PrintedZone.isBlank {offset : Int} (h : PrintedZone zone offset) {c : Char}
    (hc : c ∈ zone) : isBlank c = false := by
  have hhours {sign : Char} (hsign : Text.isBlank sign = false) {h : Nat}
      (hc : c ∈ sign :: Date.padded 2 h) : Text.isBlank c = false := by
    rcases List.mem_cons.1 hc with rfl | hc
    · exact hsign
    · exact Date.isBlank_padded hc
  cases h with
  | ahead => exact hhours rfl hc
  | behind => exact hhours rfl hc
  | aheadMinutes hh hm => exact (ZoneText.ahead hh hm).isBlank hc
  | behindMinutes hh hm => exact (ZoneText.behind hh hm).isBlank hc

theorem PrintedZone.bounds {offset : Int} (h : PrintedZone zone offset) :
    -1440 < offset ∧ offset < 1440 := by
  cases h <;> omega

/-- The characters of a printed datetime are read as the time it shows less its zone: in the form of
a timestamp if the zone has minutes, and else in the form of cells alone. -/
theorem readCell_chars (hyear : 0 ≤ t.date.year ∧ t.date.year ≤ 9999)
    (hfraction : FractionText fraction t.time.fraction) {offset : Int}
    (hzone : PrintedZone zone offset) :
    (readDateTimeChars (printedChars t fraction zone) <|>
      readZoned (printedChars t fraction zone)) = t.settled.minus? offset := by
  obtain ⟨u, hminus, -⟩ := exists_settled_minus t hyear hzone.bounds
  have hstrict (hzone : ZoneText zone offset) :
      readDateTimeChars (printedChars t fraction zone) = some u := by
    refine readDateTimeChars_of_form (f := readTimestamp) (by simp [forms]) ?_
    rw [printedChars, readTimestamp_clock t hyear (.inr (.inr rfl)) hfraction hzone, hminus]
  have hloose (hends : EndsSecond zone) (hne : zone ≠ []) (hstrict : readStrictZone zone = none)
      (hloose : readLooseZone zone = some (offset, [])) :
      readDateTimeChars (printedChars t fraction zone) = none ∧
        readZoned (printedChars t fraction zone) = some u :=
    ⟨readDateTimeChars_printed hyear hfraction hends hne hstrict,
      (readZoned_printed hfraction hends hloose).trans hminus⟩
  -- A zone with minutes makes a timestamp; one without is left to the reader of cells.
  rw [hminus]
  cases hzone with
  | ahead hh =>
    obtain ⟨hnone, hread⟩ := hloose (by rintro c ⟨⟩; decide) (List.cons_ne_nil _ _)
      (readStrictZone_hours hh false) (readLooseZone_hours hh false)
    rw [hnone, hread]
    rfl
  | behind hh =>
    obtain ⟨hnone, hread⟩ := hloose (by rintro c ⟨⟩; decide) (List.cons_ne_nil _ _)
      (readStrictZone_hours hh true) (readLooseZone_hours hh true)
    rw [hnone, hread]
    rfl
  | aheadMinutes hh hm =>
    rw [hstrict (.ahead hh hm)]
    rfl
  | behindMinutes hh hm =>
    rw [hstrict (.behind hh hm)]
    rfl

/-- **A printed datetime is read as the time it shows less its zone,** with the carries of the
calendar. -/
theorem readCell_printed (hyear : 0 ≤ t.date.year ∧ t.date.year ≤ 9999)
    (hfraction : FractionText fraction t.time.fraction) {offset : Int}
    (hzone : PrintedZone zone offset) :
    ∃ u, readCell (.ofList (printedChars t fraction zone)) = some u ∧
      ∀ v : DateTime, v = u ↔ v.timestamp = t.settled.timestamp - offset * 60 ∧
        v.time.nano = t.settled.time.nano := by
  obtain ⟨u, hminus, hu⟩ := exists_settled_minus t hyear hzone.bounds
  have htight : Tight (printedChars t fraction zone) := by
    refine tight_withDate t.date (by simp [TimeOfDay.clockChars]) fun c hc => ?_
    rcases List.mem_append.1 hc with hc | hc
    · rcases List.mem_append.1 hc with hc | hc
      · exact TimeOfDay.isBlank_clockChars hc
      · exact hfraction.isBlank hc
    · exact hzone.isBlank hc
  refine ⟨u, ?_, hu⟩
  rw [readCell, readDateTime, String.toList_ofList, trimChars_eq_self htight,
    readCell_chars hyear hfraction hzone, hminus]

/-- What a search term shows a cell shows as well. -/
theorem readCell_of_readDateTime {s : String} {u : DateTime} (h : readDateTime s = some u) :
    readCell s = some u := by
  rw [readCell, h]
  rfl

end Calendar

/-! ## Formats -/

namespace Transform

variable {f : DateFormat}

theorem value_of_unreadable {s : String} (h : Calendar.readCell s = none) (row : Row) :
    (dateFormat f).toCellTransform (.string s) row = some (.string s) := by
  simp only [toCellTransform, onValue, onText, h, Option.map_some]

/-- A format that does not ask for the zone writes every datetime. -/
theorem value_of_readable (hzone : f.asksZone = false) {s : String} {dt : DateTime}
    (h : Calendar.readCell s = some dt) (row : Row) :
    ∃ w, f.render? dt = some w ∧
      (dateFormat f).toCellTransform (.string s) row = some (.string w) := by
  have hwritten : f.render? dt ≠ none := by
    rw [Ne, DateFormat.render?_eq_none, hzone]
    decide
  obtain ⟨w, hw⟩ := Option.ne_none_iff_exists'.1 hwritten
  exact ⟨w, hw, by simp only [toCellTransform, onValue, onText, h, hw, Option.map_some]⟩

theorem value_of_not_string {v : Json} (h : ∀ s, v ≠ .string s) (row : Row) :
    (dateFormat f).toCellTransform v row = some v := by
  cases v with
  | string s => exact absurd rfl (h s)
  | _ => rfl

/-- **A date format rewrites the cells that show a datetime, and no others.** A cell shows what a
search term shows, and besides every datetime of the years 0 to 9999 that is written with its
offset, whether or not the minutes of the offset are left out: this is the time that is written less
the offset. -/
theorem dates_in_cells {format : String} (hformat : DateFormat.ofText? format = some f)
    (hzone : f.asksZone = false) :
    ofEntry (.dateFormat format) = .ok (.dateFormat f) ∧
      (∀ row, (∀ s, Calendar.readCell s = none →
          (dateFormat f).toCellTransform (.string s) row = some (.string s)) ∧
        (∀ s dt, Calendar.readCell s = some dt → ∃ w, f.render? dt = some w ∧
          (dateFormat f).toCellTransform (.string s) row = some (.string w)) ∧
        ∀ v : Json, (∀ s, v ≠ .string s) → (dateFormat f).toCellTransform v row = some v) ∧
      (∀ s dt, Calendar.readDateTime s = some dt → Calendar.readCell s = some dt) ∧
      (∀ (t : DateTime) (fraction zone : List Char) (offset : Int),
        0 ≤ t.date.year ∧ t.date.year ≤ 9999 → Calendar.FractionText fraction t.time.fraction →
        Calendar.PrintedZone zone offset →
        ∃ u, Calendar.readCell (.ofList (Calendar.printedChars t fraction zone)) = some u ∧
          ∀ v : DateTime, v = u ↔ v.timestamp = t.settled.timestamp - offset * 60 ∧
            v.time.nano = t.settled.time.nano) ∧
      (∀ t : DateTime,
        t.settled = t ↔ (1000000000 ≤ t.time.nano.val → t.time.second.val % 60 = 59)) ∧
      ∀ offset : Int, -1440 < offset ∧ offset < 1440 →
        ∃ zone, Calendar.PrintedZone zone offset := by
  refine ⟨?_, fun row => ⟨fun s hs => value_of_unreadable hs row,
    fun s dt hs => value_of_readable hzone hs row, fun v hv => value_of_not_string hv row⟩,
    fun s dt => Calendar.readCell_of_readDateTime,
    fun t fraction zone offset hyear hfraction hzone =>
      Calendar.readCell_printed hyear hfraction hzone,
    fun t => DateTime.settled_eq_self_iff, fun offset => Calendar.exists_printedZone⟩
  simp only [ofEntry, hformat]

/-- The first minutes of the year 0 an hour ahead of universal time, with half a second, are in the
year before. -/
theorem dates_in_cells_border :
    ∃ f, DateFormat.ofText? "%F %T" = some f ∧ f.asksZone = false ∧
      (dateFormat f).toCellTransform (.string "0000-01-01 00:10:00.5+01") [] =
        some (.string "-0001-12-31 23:10:00") := by
  have hformat : (DateFormat.ofText? "%F %T").any (!·.asksZone) = true := by decide +kernel
  obtain ⟨f, hf, hplain⟩ := (Option.any_eq_true _ _).1 hformat
  have hzone : f.asksZone = false := by simpa using hplain
  obtain ⟨-, hcells, -, hprinted, -⟩ := dates_in_cells hf hzone
  have hfraction : Calendar.FractionText ['.', '5'] 500000000 :=
    @Calendar.FractionText.digits 1 5 (by decide) (by decide)
  have hhour : Calendar.PrintedZone ['+', '0', '1'] 60 := @Calendar.PrintedZone.ahead 1 (by decide)
  obtain ⟨u, hu, heq⟩ := hprinted ⟨⟨0, 1, 1, by decide⟩, ⟨600, 500000000⟩⟩ _ _ 60 (by decide)
    hfraction hhour
  obtain rfl : (⟨⟨-1, 12, 31, by decide⟩, ⟨83400, 500000000⟩⟩ : DateTime) = u :=
    (heq _).2 (by decide +kernel)
  obtain ⟨w, hw, hcell⟩ := (hcells []).2.1 _ _ hu
  have htext : String.ofList (Calendar.printedChars ⟨⟨0, 1, 1, by decide⟩, ⟨600, 500000000⟩⟩
      ['.', '5'] ['+', '0', '1']) = "0000-01-01 00:10:00.5+01" := by
    decide +kernel
  have hshown : (DateFormat.ofText? "%F %T").bind
      (·.render? ⟨⟨-1, 12, 31, by decide⟩, ⟨83400, 500000000⟩⟩) = some "-0001-12-31 23:10:00" := by
    decide +kernel
  rw [hf, Option.bind_some, hw] at hshown
  rw [htext, Option.some.inj hshown] at hcell
  exact ⟨f, hf, hzone, hcell⟩

end Transform

end GridQuery
