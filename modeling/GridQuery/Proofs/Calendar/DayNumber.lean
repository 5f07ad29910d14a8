import GridQuery.Calendar.Time

/-!
# Counting days and seconds

The day number counts days without a gap: the day after has the next number, across the ends of
months, leap months and years, and later days have greater ones. So a datetime is determined by its
seconds since a fixed midnight and the part of the second, and the datetime some minutes earlier is
the one with as many seconds less.

Main results: `Date.dayNumber_injective` and `DateTime.exists_minus`.
-/

namespace GridQuery

theorem daysInMonth_bounds (y : Int) (m : Nat) : 28 ≤ daysInMonth y m ∧ daysInMonth y m ≤ 31 := by
  unfold daysInMonth
  split
  · split <;> omega
  all_goals omega

namespace Date

/-! ## Months and years -/

theorem daysBeforeMonth_one (y : Int) : daysBeforeMonth y 1 = 0 := rfl

theorem daysBeforeMonth_succ (y : Int) {m : Nat} (h : 1 ≤ m) :
    daysBeforeMonth y (m + 1) = daysBeforeMonth y m + daysInMonth y m := by
  obtain ⟨k, rfl⟩ := Nat.exists_eq_add_of_le' h
  simp [daysBeforeMonth, List.range_succ]

theorem daysBeforeMonth_mono (y : Int) {m n : Nat} (hm : 1 ≤ m) (h : m ≤ n) :
    daysBeforeMonth y m ≤ daysBeforeMonth y n := by
  induction h with
  | refl => exact Nat.le_refl _
  | step hn ih =>
    rw [daysBeforeMonth_succ y (Nat.le_trans hm hn)]
    omega

/-- The months fill the year. -/
theorem daysBeforeMonth_thirteen (y : Int) : daysBeforeMonth y 13 = yearLength y := by
  have hsum : daysBeforeMonth y 13 = 337 + daysInMonth y 2 := by
    simp [daysBeforeMonth, List.range_succ, daysInMonth]
    omega
  rw [hsum, yearLength, daysInMonth]
  split <;> rfl

/-- The year after begins a year's length later. -/
theorem daysBeforeYear_succ (y : Int) :
    daysBeforeYear (y + 1) = daysBeforeYear y + yearLength y := by
  simp only [daysBeforeYear, yearLength, isLeapYear, Bool.and_eq_true, Bool.or_eq_true, beq_iff_eq,
    bne_iff_ne]
  split <;> omega

theorem daysBeforeYear_mono {y z : Int} (h : y ≤ z) : daysBeforeYear y ≤ daysBeforeYear z := by
  simp only [daysBeforeYear]
  omega

/-! ## Days -/

variable {d e : Date}

theorem eq_of_of? {y : Int} {m k : Nat} (h : of? y m k = some d) :
    d.year = y ∧ d.month = m ∧ d.day = k := by
  unfold of? at h
  split at h
  · cases h
    exact ⟨rfl, rfl, rfl⟩
  · cases h

theorem of?_of_valid {y : Int} {m k : Nat} (h : Valid y m k) : of? y m k = some ⟨y, m, k, h⟩ :=
  dif_pos h

theorem of?_self (d : Date) : of? d.year d.month d.day = some d := of?_of_valid d.valid

/-- A day lies within its month. -/
theorem dayOfYear_bounds (d : Date) :
    daysBeforeMonth d.year d.month < d.dayOfYear ∧
      d.dayOfYear ≤ daysBeforeMonth d.year (d.month + 1) := by
  obtain ⟨-, ⟨hmonth, -⟩, hday, hlast⟩ := d.valid
  rw [daysBeforeMonth_succ d.year hmonth, dayOfYear]
  omega

theorem dayOfYear_le (d : Date) : 1 ≤ d.dayOfYear ∧ d.dayOfYear ≤ yearLength d.year := by
  obtain ⟨-, ⟨hmonth, htwelve⟩, -, -⟩ := d.valid
  have hbounds := d.dayOfYear_bounds
  have hmono := daysBeforeMonth_mono d.year (m := d.month + 1) (n := 13) (by omega) (by omega)
  rw [daysBeforeMonth_thirteen] at hmono
  omega

/-- Later days have greater numbers. -/
theorem dayNumber_lt (h : d.year < e.year ∨
    d.year = e.year ∧ (d.month < e.month ∨ d.month = e.month ∧ d.day < e.day)) :
    d.dayNumber < e.dayNumber := by
  have hd := d.dayOfYear_le
  have he := e.dayOfYear_le
  unfold dayNumber
  rcases h with hyear | ⟨hyear, hmonth | ⟨hmonth, hday⟩⟩
  · have hmono := daysBeforeYear_mono (y := d.year + 1) (z := e.year) hyear
    rw [daysBeforeYear_succ] at hmono
    omega
  · have hmono := daysBeforeMonth_mono d.year (m := d.month + 1) (n := e.month) (by omega) hmonth
    have hdbounds := d.dayOfYear_bounds
    have hebounds := e.dayOfYear_bounds
    rw [← hyear] at hebounds ⊢
    omega
  · rw [dayOfYear, dayOfYear, hyear, hmonth]
    omega

/-- **A day is determined by its number.** -/
theorem dayNumber_injective : Function.Injective dayNumber := by
  intro d e h
  have hbefore : ¬ (d.year < e.year ∨
      d.year = e.year ∧ (d.month < e.month ∨ d.month = e.month ∧ d.day < e.day)) :=
    fun hlt => Int.ne_of_lt (dayNumber_lt hlt) h
  have hafter : ¬ (e.year < d.year ∨
      e.year = d.year ∧ (e.month < d.month ∨ e.month = d.month ∧ e.day < d.day)) :=
    fun hlt => Int.ne_of_lt (dayNumber_lt hlt) h.symm
  have hyear : d.year = e.year := by omega
  have hmonth : d.month = e.month := by omega
  have hday : d.day = e.day := by omega
  cases d
  cases e
  cases hyear
  cases hmonth
  cases hday
  rfl

/-! ## Neighbours -/

theorem dayNumber_prev? (h : d.prev? = some e) : e.dayNumber = d.dayNumber - 1 := by
  obtain ⟨-, ⟨hmonth, -⟩, hday, -⟩ := d.valid
  -- A day of the same month, the last one of the month before, or the last one of December.
  unfold prev? at h
  split at h
  · obtain ⟨hey, hem, hed⟩ := eq_of_of? h
    rw [dayNumber, dayNumber, dayOfYear, dayOfYear, hey, hem, hed]
    omega
  · split at h
    · obtain ⟨hey, hem, hed⟩ := eq_of_of? h
      have hsucc := daysBeforeMonth_succ d.year (m := d.month - 1) (by omega)
      rw [Nat.sub_add_cancel hmonth] at hsucc
      rw [dayNumber, dayNumber, dayOfYear, dayOfYear, hey, hem, hed]
      omega
    · obtain ⟨hey, hem, hed⟩ := eq_of_of? h
      have hsucc := daysBeforeYear_succ (d.year - 1)
      have hlast := daysBeforeMonth_succ (d.year - 1) (m := 12) (by omega)
      have hdecember : daysInMonth (d.year - 1) 12 = 31 := rfl
      have hjanuary : d.month = 1 := by omega
      rw [daysBeforeMonth_thirteen, hdecember] at hlast
      rw [Int.sub_add_cancel] at hsucc
      rw [dayNumber, dayNumber, dayOfYear, dayOfYear, hey, hem, hed, hjanuary, daysBeforeMonth_one]
      omega

theorem exists_prev? (h : minYear < d.year) : ∃ e, d.prev? = some e := by
  obtain ⟨⟨hmin, hmax⟩, ⟨hmonth, htwelve⟩, hday, hlast⟩ := d.valid
  have hdays := daysInMonth_bounds d.year (d.month - 1)
  have hdecember : daysInMonth (d.year - 1) 12 = 31 := rfl
  unfold prev?
  split
  · exact ⟨_, of?_of_valid ⟨⟨hmin, hmax⟩, ⟨hmonth, htwelve⟩, by omega, by omega⟩⟩
  · split
    · exact ⟨_, of?_of_valid ⟨⟨hmin, hmax⟩, ⟨by omega, by omega⟩, by omega, Nat.le_refl _⟩⟩
    · exact ⟨_, of?_of_valid ⟨⟨by omega, by omega⟩, ⟨by omega, by omega⟩, by omega, by omega⟩⟩

theorem not_valid_of_of? {y : Int} {m k : Nat} (h : of? y m k = none) : ¬ Valid y m k :=
  fun hvalid => nomatch (of?_of_valid hvalid).symm.trans h

/-- The day after is the next of the month, or the first of the next month, or the first of the
next year. -/
theorem next?_cases (h : d.next? = some e) :
    (e.year = d.year ∧ e.month = d.month ∧ e.day = d.day + 1) ∨
    (d.day = daysInMonth d.year d.month ∧ e.year = d.year ∧ e.month = d.month + 1 ∧ e.day = 1) ∨
    (d.day = daysInMonth d.year d.month ∧ d.month = 12 ∧ e.year = d.year + 1 ∧ e.month = 1 ∧
      e.day = 1) := by
  obtain ⟨hyear, hmonth, hday, hlast⟩ := d.valid
  -- Each attempt is made only when the one before it gave no date, so the month or year is full.
  unfold next? at h
  split at h
  · rename_i n hn
    cases h
    exact .inl (eq_of_of? hn)
  · rename_i hfull
    have hfull : d.day = daysInMonth d.year d.month :=
      Nat.le_antisymm hlast (Nat.le_of_not_lt fun hlt =>
        not_valid_of_of? hfull ⟨hyear, hmonth, by omega, hlt⟩)
    split at h
    · rename_i n hn
      cases h
      exact .inr (.inl ⟨hfull, eq_of_of? hn⟩)
    · rename_i hdecember
      have hdays := daysInMonth_bounds d.year (d.month + 1)
      have hdecember : d.month = 12 :=
        Nat.le_antisymm hmonth.2 (Nat.le_of_not_lt fun hlt =>
          not_valid_of_of? hdecember ⟨hyear, ⟨by omega, hlt⟩, by omega, by omega⟩)
      exact .inr (.inr ⟨hfull, hdecember, eq_of_of? h⟩)

theorem dayNumber_next? (h : d.next? = some e) : e.dayNumber = d.dayNumber + 1 := by
  obtain ⟨-, ⟨hmonth, -⟩, -⟩ := d.valid
  unfold dayNumber dayOfYear
  rcases next?_cases h with ⟨hey, hem, hed⟩ | ⟨hfull, hey, hem, hed⟩ |
    ⟨hfull, hdecember, hey, hem, hed⟩
  · rw [hey, hem, hed]
    omega
  · rw [hey, hem, hed, daysBeforeMonth_succ d.year hmonth]
    omega
  · have hlast := daysBeforeMonth_succ d.year (m := 12) (by omega)
    rw [daysBeforeMonth_thirteen] at hlast
    rw [hdecember] at hfull
    rw [hey, hem, hed, hdecember, daysBeforeYear_succ, daysBeforeMonth_one]
    omega

theorem exists_next? (h : d.year < maxYear) : ∃ e, d.next? = some e := by
  obtain ⟨hmin, -⟩ := d.valid.1
  have hdays := daysInMonth_bounds (d.year + 1) 1
  have hfirst : Valid (d.year + 1) 1 1 :=
    ⟨⟨by omega, by omega⟩, ⟨by omega, by omega⟩, by omega, by omega⟩
  unfold next?
  split
  · exact ⟨_, rfl⟩
  · split
    · exact ⟨_, rfl⟩
    · exact ⟨_, of?_of_valid hfirst⟩

end Date

/-! ## Seconds -/

namespace DateTime

variable {t u : DateTime}

/-- **A datetime is determined by its seconds and the part of the second.** -/
theorem eq_of_timestamp (h : t.timestamp = u.timestamp) (hnano : t.time.nano = u.time.nano) :
    t = u := by
  obtain ⟨d, ⟨s, n⟩⟩ := t
  obtain ⟨e, ⟨r, m⟩⟩ := u
  simp only [timestamp] at h hnano
  have hday : d.dayNumber = e.dayNumber := by omega
  have hsecond : s = r := Fin.ext (by omega)
  rw [Date.dayNumber_injective hday, hsecond, hnano]

/-- **Minutes are taken away as seconds are,** for less than a day in either direction and away from
the ends of the calendar. -/
theorem exists_minus (hmin : Date.minYear < t.date.year) (hmax : t.date.year < Date.maxYear)
    {minutes : Int} (hminutes : -1440 < minutes ∧ minutes < 1440) :
    ∃ u, t.minus? minutes = some u ∧ u.timestamp = t.timestamp - minutes * 60 ∧
      u.time.nano = t.time.nano := by
  have hsecond := t.time.second.isLt
  -- Less than a day is taken away: the time stays within the day or moves to a neighbouring one.
  unfold minus?
  simp only
  split
  · obtain ⟨e, he⟩ := Date.exists_prev? hmin
    have hnumber := Date.dayNumber_prev? he
    rw [dif_pos (by omega), he]
    refine ⟨_, rfl, ?_, rfl⟩
    simp only [timestamp]
    omega
  · split
    · obtain ⟨e, he⟩ := Date.exists_next? hmax
      have hnumber := Date.dayNumber_next? he
      rw [dif_pos (by omega), he]
      refine ⟨_, rfl, ?_, rfl⟩
      simp only [timestamp]
      omega
    · rw [dif_pos (by omega)]
      refine ⟨_, rfl, ?_, rfl⟩
      simp only [timestamp]
      omega

end DateTime

end GridQuery
