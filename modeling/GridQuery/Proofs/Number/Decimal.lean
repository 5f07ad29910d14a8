import GridQuery.Number.Decimal
import GridQuery.Proofs.Number.Integer
import GridQuery.Proofs.Number.Rounding

/-!
# What a decimal number's text is

A decimal number is written as digits with an optional point among or beside them, behind an
optional sign and before an optional exponent. Its text is read as the double that is nearest to the
number it denotes, if this double is finite. Where no power of ten is computed, the number is so far
below the least magnitude or beyond the greatest that no power is needed.

Main results: `Decimal.readChars?_eq_some_iff`, `Decimal.isNearest_toDouble` and
`Double.read?_eq_some_iff`.
-/

namespace GridQuery

/-! ## Texts -/

/-- The text of an exponent: nothing, or a letter and an integer. -/
inductive ExponentText : List Char → Int → Prop
  | absent : ExponentText [] 0
  | present {c : Char} {cs : List Char} {e : Int} (hc : c = 'e' ∨ c = 'E')
      (h : IntegerLiteral cs e) : ExponentText (c :: cs) e

/-- Digits with an optional point: the number that the digits are, and how many of them stand behind
the point. -/
inductive PointedDigits : List Char → Nat → Nat → Prop
  | whole {ws : List Char} (h : Digits ws) : PointedDigits ws (Nat.ofDigitChars 10 ws 0) 0
  | pointed {ws ps : List Char} (h : Digits (ws ++ ps)) :
      PointedDigits (ws ++ '.' :: ps) (Nat.ofDigitChars 10 (ws ++ ps) 0) ps.length

/-- A decimal number without its sign. -/
inductive UnsignedLiteral (negative : Bool) : List Char → Decimal → Prop
  | mk {ds es : List Char} {n places : Nat} {e : Int} (hds : PointedDigits ds n places)
      (hes : ExponentText es e) : UnsignedLiteral negative (ds ++ es) ⟨negative, n, e - places⟩

/-- The characters are a decimal number. -/
inductive DecimalLiteral : List Char → Decimal → Prop
  | bare {cs : List Char} {d : Decimal} (h : UnsignedLiteral false cs d) : DecimalLiteral cs d
  | plus {cs : List Char} {d : Decimal} (h : UnsignedLiteral false cs d) :
      DecimalLiteral ('+' :: cs) d
  | minus {cs : List Char} {d : Decimal} (h : UnsignedLiteral true cs d) :
      DecimalLiteral ('-' :: cs) d

/-! ## Texts by their beginning -/

namespace ExponentText

variable {c : Char} {cs : List Char} {e : Int}

theorem cons_iff (hc : c = 'e' ∨ c = 'E') : ExponentText (c :: cs) e ↔ IntegerLiteral cs e := by
  constructor
  · intro h
    cases h with
    | present _ h => exact h
  · exact .present hc

theorem head (h : ExponentText cs e) : ∀ c ∈ cs.head?, c = 'e' ∨ c = 'E' := by
  intro c hc
  cases h with
  | absent => cases hc
  | present h =>
    cases hc
    exact h

theorem endsDigits (h : ExponentText cs e) : EndsDigits cs := by
  intro c hc
  rcases h.head c hc with rfl | rfl <;> rfl

theorem ne_point (h : ExponentText cs e) (rest : List Char) : cs ≠ '.' :: rest := by
  rintro rfl
  exact absurd (h.head '.' rfl) (by decide)

end ExponentText

theorem UnsignedLiteral.head {negative : Bool} {cs : List Char} {d : Decimal}
    (h : UnsignedLiteral negative cs d) : ∀ c ∈ cs.head?, c.isDigit = true ∨ c = '.' := by
  obtain ⟨hds, -⟩ := h
  intro c hc
  cases hds with
  | whole hws =>
    rw [List.head?_append_of_ne_nil _ hws.1] at hc
    exact .inl (hws.2 c (List.mem_of_head? hc))
  | @pointed ws ps h =>
    cases ws with
    | nil =>
      cases hc
      exact .inr rfl
    | cons w ws =>
      cases hc
      exact .inl (h.2 c List.mem_cons_self)

theorem UnsignedLiteral.ne_sign {negative : Bool} {cs : List Char} {d : Decimal}
    (h : UnsignedLiteral negative cs d) {c : Char} (hc : c = '+' ∨ c = '-') (rest : List Char) :
    cs ≠ c :: rest := by
  rintro rfl
  rcases h.head c rfl with h | rfl
  · rcases hc with rfl | rfl <;> cases h
  · rcases hc with h | h <;> cases h

namespace Decimal

variable {cs : List Char} {e : Int} {d : Decimal} {negative : Bool}

theorem ofDigits_eq (ds : List Char) : ofDigits ds = Nat.ofDigitChars 10 ds 0 := foldl_digits ds 0

/-! ## Reading -/

theorem readExponent?_eq_some_iff : readExponent? cs = some e ↔ ExponentText cs e := by
  have hread (ds : List Char) (m : Int) :
      (if ds ≠ [] ∧ ds.all Char.isDigit = true then some m else none) = some e ↔
        Digits ds ∧ e = m := by
    rw [Option.ite_none_right_eq_some, Option.some.injEq, List.all_eq_true, eq_comm (a := m)]
    rfl
  cases cs with
  | nil =>
    constructor
    · rintro ⟨⟩
      exact .absent
    · rintro ⟨⟩
      rfl
  | cons c cs =>
    by_cases hc : c = 'e' ∨ c = 'E'
    -- Behind the letter stands an integer, with either sign or with none.
    · rw [ExponentText.cons_iff hc]
      unfold readExponent?
      simp only [if_pos hc]
      split
      · rw [hread, ofDigits_eq]
        exact IntegerLiteral.minus_iff.symm
      · rw [hread, ofDigits_eq]
        exact IntegerLiteral.plus_iff.symm
      · rename_i hminus hplus
        rw [hread, ofDigits_eq]
        exact (IntegerLiteral.bare_iff hplus hminus).symm
    · unfold readExponent?
      simp only [if_neg hc]
      refine iff_of_false (by simp) fun h => ?_
      cases h with
      | present h => exact hc h

theorem readUnsigned?_of_point {behind : List Char}
    (h : cs.dropWhile Char.isDigit = '.' :: behind) :
    readUnsigned? negative cs =
      if cs.takeWhile Char.isDigit = [] ∧ behind.takeWhile Char.isDigit = [] then none
      else (readExponent? (behind.dropWhile Char.isDigit)).map fun e =>
        ⟨negative, Nat.ofDigitChars 10 (cs.takeWhile Char.isDigit ++
          behind.takeWhile Char.isDigit) 0, e - (behind.takeWhile Char.isDigit).length⟩ := by
  rw [← ofDigits_eq]
  unfold readUnsigned?
  simp only [h]

theorem readUnsigned?_of_ne_point (h : ∀ behind, cs.dropWhile Char.isDigit ≠ '.' :: behind) :
    readUnsigned? negative cs =
      if cs.takeWhile Char.isDigit = [] then none
      else (readExponent? (cs.dropWhile Char.isDigit)).map fun e =>
        ⟨negative, Nat.ofDigitChars 10 (cs.takeWhile Char.isDigit) 0, e⟩ := by
  rw [← ofDigits_eq]
  unfold readUnsigned?
  simp

/-- What is read without a sign is written so. -/
theorem unsigned_of_read (h : readUnsigned? negative cs = some d) :
    UnsignedLiteral negative cs d := by
  have hcut (ds : List Char) : ds.takeWhile Char.isDigit ++ ds.dropWhile Char.isDigit = ds :=
    List.takeWhile_append_dropWhile
  have hdigits {ds : List Char} {c : Char} (hc : c ∈ ds.takeWhile Char.isDigit) :
      c.isDigit = true := List.mem_takeWhile_imp hc
  -- The point is the first character that is no digit, or there is none.
  by_cases hpoint : ∃ behind, cs.dropWhile Char.isDigit = '.' :: behind
  · obtain ⟨behind, hbehind⟩ := hpoint
    rw [readUnsigned?_of_point hbehind, Option.ite_none_left_eq_some] at h
    obtain ⟨hsome, h⟩ := h
    obtain ⟨e, he, rfl⟩ := Option.map_eq_some_iff.1 h
    have hds : Digits (cs.takeWhile Char.isDigit ++ behind.takeWhile Char.isDigit) :=
      ⟨fun hnil => hsome (List.append_eq_nil_iff.1 hnil),
        fun c hc => (List.mem_append.1 hc).elim hdigits hdigits⟩
    have hliteral : UnsignedLiteral negative _ _ :=
      .mk (.pointed hds) (readExponent?_eq_some_iff.1 he)
    rwa [List.append_assoc, List.cons_append, hcut, ← hbehind, hcut] at hliteral
  · have hne (behind : List Char) : cs.dropWhile Char.isDigit ≠ '.' :: behind :=
      fun hbehind => hpoint ⟨behind, hbehind⟩
    rw [readUnsigned?_of_ne_point hne, Option.ite_none_left_eq_some] at h
    obtain ⟨hsome, h⟩ := h
    obtain ⟨e, he, rfl⟩ := Option.map_eq_some_iff.1 h
    have hds : Digits (cs.takeWhile Char.isDigit) := ⟨hsome, fun _ => hdigits⟩
    have hliteral : UnsignedLiteral negative _ _ :=
      .mk (.whole hds) (readExponent?_eq_some_iff.1 he)
    rwa [hcut, Int.natCast_zero, Int.sub_zero] at hliteral

/-- What is written without a sign is read. -/
theorem readUnsigned?_of_unsigned (h : UnsignedLiteral negative cs d) :
    readUnsigned? negative cs = some d := by
  obtain ⟨hds, hes⟩ := h
  have hread := readExponent?_eq_some_iff.2 hes
  cases hds with
  | whole hws =>
    obtain ⟨htake, hdrop⟩ := hes.endsDigits.span_append hws.2
    rw [readUnsigned?_of_ne_point (by rw [hdrop]; exact hes.ne_point), htake, hdrop, hread,
      if_neg hws.1, Option.map_some, Int.natCast_zero, Int.sub_zero]
  | @pointed ws ps hds =>
    have hpoint (behind : List Char) : EndsDigits ('.' :: behind) := by
      rintro c ⟨⟩
      rfl
    obtain ⟨htake, hdrop⟩ :=
      (hpoint _).span_append fun c hc => hds.2 c (List.mem_append_left _ hc)
    obtain ⟨htake', hdrop'⟩ :=
      hes.endsDigits.span_append fun c hc => hds.2 c (List.mem_append_right _ hc)
    rw [List.append_assoc, List.cons_append, readUnsigned?_of_point hdrop, htake, htake', hdrop',
      hread, Option.map_some]
    exact if_neg fun h => hds.1 (List.append_eq_nil_iff.2 h)

theorem readUnsigned?_eq_some_iff :
    readUnsigned? negative cs = some d ↔ UnsignedLiteral negative cs d :=
  ⟨unsigned_of_read, readUnsigned?_of_unsigned⟩

/-- **What is read is a decimal number as it is written.** -/
theorem readChars?_eq_some_iff : readChars? cs = some d ↔ DecimalLiteral cs d := by
  unfold readChars?
  split
  · rw [readUnsigned?_eq_some_iff]
    constructor
    · exact .minus
    · intro h
      cases h with
      | bare h => exact absurd rfl (h.ne_sign (.inr rfl) _)
      | minus h => exact h
  · rw [readUnsigned?_eq_some_iff]
    constructor
    · exact .plus
    · intro h
      cases h with
      | bare h => exact absurd rfl (h.ne_sign (.inl rfl) _)
      | plus h => exact h
  · rename_i hminus hplus
    rw [readUnsigned?_eq_some_iff]
    constructor
    · exact .bare
    · intro h
      cases h with
      | bare h => exact h
      | plus => exact absurd rfl (hplus _)
      | minus => exact absurd rfl (hminus _)

/-! ## The nearest double -/

/-- The number without its sign. -/
def magnitude (d : Decimal) : ℚ := d.digits * 10 ^ d.exponent

theorem isNearest_ofDecimal (negative : Bool) (n : Nat) (e : ℤ) :
    Double.IsNearest (n * 10 ^ e) (Double.ofDecimal negative n e) := by
  unfold Double.ofDecimal
  split
  · rename_i he
    obtain ⟨k, rfl⟩ := Int.eq_ofNat_of_zero_le he
    have hnearest := Double.isNearest_ofRatio negative (n * 10 ^ k) Nat.one_pos
    rw [Nat.cast_one, div_one] at hnearest
    push_cast at hnearest
    rwa [zpow_natCast, Int.toNat_natCast]
  · rename_i he
    obtain ⟨k, hk⟩ := Int.eq_ofNat_of_zero_le (a := -e) (by omega)
    obtain rfl : e = -(k : ℤ) := by omega
    have hden : 0 < 10 ^ k := by positivity
    have hnearest := Double.isNearest_ofRatio negative n hden
    push_cast at hnearest
    rwa [zpow_neg, zpow_natCast, ← div_eq_mul_inv, neg_neg, Int.toNat_natCast]

/-- A number lies between the powers of ten that its digits count. -/
theorem digits_bounds {n : Nat} (hn : n ≠ 0) :
    10 ^ ((Nat.toDigits 10 n).length - 1) ≤ n ∧ n < 10 ^ (Nat.toDigits 10 n).length := by
  have hlength (k : Nat) (hk : 0 < k) : (Nat.toDigits 10 n).length ≤ k ↔ n < 10 ^ k :=
    Nat.length_toDigits_le_iff (by decide) hk
  have hpos : 0 < (Nat.toDigits 10 n).length := List.length_pos_of_ne_nil Nat.toDigits_ne_nil
  refine ⟨?_, (hlength _ hpos).1 (Nat.le_refl _)⟩
  by_contra hlt
  rcases Nat.eq_zero_or_pos ((Nat.toDigits 10 n).length - 1) with h | h
  · rw [h, Nat.pow_zero] at hlt
    omega
  · have hle := (hlength _ h).2 (Nat.lt_of_not_le hlt)
    omega

theorem magnitude_bounds (hd : d.digits ≠ 0) :
    (10 : ℚ) ^ ((Nat.toDigits 10 d.digits).length - 1 + d.exponent) ≤ d.magnitude ∧
      d.magnitude < (10 : ℚ) ^ ((Nat.toDigits 10 d.digits).length + d.exponent) := by
  have hpos : 0 < (Nat.toDigits 10 d.digits).length :=
    List.length_pos_of_ne_nil Nat.toDigits_ne_nil
  obtain ⟨hlow, hhigh⟩ := digits_bounds hd
  generalize (Nat.toDigits 10 d.digits).length = size at hpos hlow hhigh ⊢
  have hpower : (0 : ℚ) < 10 ^ d.exponent := zpow_pos (by norm_num) _
  have hcast : ((size : ℤ) - 1) = ((size - 1 : Nat) : ℤ) := by omega
  rw [hcast, zpow_add₀ (by norm_num), zpow_add₀ (by norm_num), zpow_natCast, zpow_natCast,
    magnitude]
  constructor
  · exact mul_le_mul_of_nonneg_right (by exact_mod_cast hlow) hpower.le
  · exact mul_lt_mul_of_pos_right (by exact_mod_cast hhigh) hpower

/-- Three binary digits are less than a decimal one. -/
theorem two_pow_lt_ten_pow {a k : Nat} (hk : k ≠ 0) (h : a ≤ 3 * k) : (2 : ℚ) ^ a < 10 ^ k :=
  calc (2 : ℚ) ^ a ≤ 2 ^ (3 * k) := pow_le_pow_right₀ (by norm_num) h
    _ = 8 ^ k := by
      rw [pow_mul]
      norm_num
    _ < 10 ^ k := pow_lt_pow_left₀ (by norm_num) (by norm_num) hk

/-- Twice a number with hundreds of zeros behind the point is below the least magnitude. -/
theorem lt_magnitudeAt_one {q : ℚ} (hq : q ≤ 10 ^ (-401 : ℤ)) : 2 * q < Double.magnitudeAt 1 := by
  have hone : Double.magnitudeAt 1 = (2 ^ 1074 : ℚ)⁻¹ := by
    rw [Double.magnitudeAt, if_pos (by norm_num), Nat.cast_one, one_mul, zpow_neg]
    rfl
  have hpowers : (2 : ℚ) ^ 1075 < 10 ^ 401 := two_pow_lt_ten_pow (by decide) (by decide)
  have htwo : (2 : ℚ) ^ 1075 = 2 * 2 ^ 1074 := pow_succ' 2 1074
  have hten : (10 : ℚ) ^ (-401 : ℤ) = (10 ^ 401 : ℚ)⁻¹ := by
    rw [zpow_neg]
    rfl
  rw [hone]
  rw [hten] at hq
  have hpos : (0 : ℚ) < 2 ^ 1074 := pow_pos (by norm_num) _
  have hpos' : (0 : ℚ) < 10 ^ 401 := pow_pos (by norm_num) _
  generalize (2 : ℚ) ^ 1074 = a at hpos htwo ⊢
  generalize (10 : ℚ) ^ 401 = b at hpos' hpowers hq
  generalize (2 : ℚ) ^ 1075 = c at hpowers htwo
  calc 2 * q ≤ 2 * b⁻¹ := by linarith
    _ < a⁻¹ := by
      rw [← div_eq_mul_inv, ← one_div, div_lt_div_iff₀ hpos' hpos]
      linarith

/-- A number of hundreds of digits is beyond the greatest magnitude. -/
theorem magnitudeAt_infinity_le {q : ℚ} (hq : 10 ^ (400 : ℤ) ≤ q) :
    Double.magnitudeAt Double.infinityRank ≤ q := by
  have hrank : Double.infinityRank = 2046 * 2 ^ 52 + 2 ^ 52 := by decide
  have hexp : ((2046 : Nat) : ℤ) - 1074 = (972 : Nat) := rfl
  have htop : Double.magnitudeAt Double.infinityRank = (2 : ℚ) ^ 1024 := by
    rw [hrank, Double.magnitudeAt_binade (by norm_num) (.inr (by norm_num)), hexp, zpow_natCast,
      Nat.cast_pow, Nat.cast_ofNat, ← pow_add]
  have hten : (10 : ℚ) ^ (400 : ℤ) = 10 ^ 400 := rfl
  rw [htop]
  exact (two_pow_lt_ten_pow (by decide) (by decide)).le.trans (hten ▸ hq)

theorem negative_toDouble (d : Decimal) : d.toDouble.negative = d.negative := by
  unfold toDouble Double.ofDecimal
  simp only
  split
  · rfl
  · split
    · rfl
    · split
      · rfl
      · split <;> rfl

/-- **The nearest double is found,** also where no power of ten is computed. -/
theorem isNearest_toDouble (d : Decimal) : Double.IsNearest d.magnitude d.toDouble := by
  have hpos : 0 ≤ d.magnitude := mul_nonneg (Nat.cast_nonneg _) (zpow_nonneg (by norm_num) _)
  -- Zero digits and exponents beyond all doubles are answered without a power of ten; the bounds of
  -- the magnitude show that the answer is the nearest double there too.
  have hzero (h : 2 * d.magnitude < Double.magnitudeAt 1) :
      Double.IsNearest d.magnitude (Double.zero d.negative) :=
    Double.isNearest_iff.2 ⟨Nat.zero_le _, fun _ _ => Double.nearer_zero hpos h⟩
  unfold toDouble
  simp only
  split
  · rename_i hd
    refine hzero ?_
    rw [magnitude, hd, Nat.cast_zero, zero_mul, mul_zero]
    exact Double.magnitudeAt_one_pos
  · rename_i hd
    obtain ⟨hlow, hhigh⟩ := magnitude_bounds hd
    have hmono {a b : ℤ} (h : a ≤ b) : (10 : ℚ) ^ a ≤ 10 ^ b :=
      zpow_le_zpow_right₀ (by norm_num) h
    split
    · rename_i hsmall
      exact hzero (lt_magnitudeAt_one (hhigh.le.trans (hmono (by omega))))
    · split
      · rename_i hlarge
        have htop := magnitudeAt_infinity_le ((hmono (by omega)).trans hlow)
        exact Double.isNearest_iff.2 ⟨Nat.le_refl _, fun s hs hne =>
          Double.nearer_infinity htop (Nat.lt_of_le_of_ne hs hne)⟩
      · exact isNearest_ofDecimal d.negative d.digits d.exponent

end Decimal

namespace Double

/-- The double is what the characters denote: they are a decimal number, the double is the nearest
to it and has its sign. -/
def Denoted (cs : List Char) (x : Double) : Prop :=
  ∃ d, DecimalLiteral cs d ∧ x.negative = d.negative ∧ IsNearest d.magnitude x

theorem eq_of_parts {x y : Double} (hnegative : x.negative = y.negative) (hrank : x.rank = y.rank) :
    x = y := by
  cases x
  cases y
  cases hnegative
  cases hrank
  rfl

/-- **What is read is the finite double that the text denotes.** -/
theorem read?_eq_some_iff {s : String} {x : Double} :
    read? s = some x ↔ Denoted s.toList x ∧ x.isFinite = true := by
  unfold read? Denoted
  simp only [← Decimal.readChars?_eq_some_iff]
  rw [Decimal.read?]
  cases Decimal.readChars? s.toList with
  | none => simp
  | some d =>
    have hnearest := d.isNearest_toDouble
    -- There is one nearest double of each sign, so what is denoted is what is computed.
    have heq : x.negative = d.negative ∧ IsNearest d.magnitude x ↔ d.toDouble = x := by
      constructor
      · rintro ⟨hnegative, hx⟩
        exact eq_of_parts (d.negative_toDouble.trans hnegative.symm) (hnearest.rank_unique hx)
      · rintro rfl
        exact ⟨d.negative_toDouble, hnearest⟩
    simp only [Option.some.injEq, exists_eq_left', heq, Option.ite_none_right_eq_some]
    constructor
    · rintro ⟨hfinite, rfl⟩
      exact ⟨rfl, hfinite⟩
    · rintro ⟨rfl, hfinite⟩
      exact ⟨hfinite, rfl⟩

end Double

end GridQuery
