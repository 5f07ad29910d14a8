import GridQuery.Number.Integer
import GridQuery.Proofs.Json.Literal
import GridQuery.Proofs.Text.Trim

/-!
# What an integer's text is

An integer is written as digits, or as a sign and digits, and its text is read as the integer if it
lies in the range. The digits are read from the left, and what carries the induction is that a value
which has left the range moves on away from zero and does not come back into it.

Main result: `IntegerRange.readChars_ok_iff`.
-/

namespace GridQuery

/-- One or more digits. -/
def Digits (ds : List Char) : Prop := ds ≠ [] ∧ ∀ c ∈ ds, c.isDigit = true

instance (ds : List Char) : Decidable (Digits ds) :=
  decidable_of_iff (ds ≠ [] ∧ ds.all Char.isDigit = true)
    (and_congr_right fun _ => List.all_eq_true)

theorem foldl_digits (ds : List Char) (n : Nat) :
    ds.foldl (fun n c => n * 10 + (c.toNat - '0'.toNat)) n = Nat.ofDigitChars 10 ds n := by
  rw [Nat.ofDigitChars_eq_foldl]
  simp only [Nat.mul_comm]

/-- The text does not begin with a digit. -/
def EndsDigits (rest : List Char) : Prop := ∀ c ∈ rest.head?, c.isDigit = false

namespace EndsDigits

variable {ds rest : List Char}

theorem takeWhile_take (h : EndsDigits rest) (n : Nat) :
    (rest.take n).takeWhile Char.isDigit = [] := by
  cases n with
  | zero => rfl
  | succ n =>
    cases rest with
    | nil => rfl
    | cons c rest => simp [h c rfl]

theorem takeWhile_eq (h : EndsDigits rest) : rest.takeWhile Char.isDigit = [] := by
  have hnone := h.takeWhile_take rest.length
  rwa [List.take_length] at hnone

theorem dropWhile_eq (h : EndsDigits rest) : rest.dropWhile Char.isDigit = rest := by
  cases rest with
  | nil => rfl
  | cons c rest => simp [h c rfl]

/-- Digits are told from what stands behind them. -/
theorem span_append (h : EndsDigits rest) (hds : ∀ c ∈ ds, c.isDigit = true) :
    (ds ++ rest).takeWhile Char.isDigit = ds ∧ (ds ++ rest).dropWhile Char.isDigit = rest := by
  rw [List.takeWhile_append_of_pos hds, List.dropWhile_append_of_pos hds, h.takeWhile_eq,
    h.dropWhile_eq, List.append_nil]
  exact ⟨rfl, rfl⟩

end EndsDigits

/-- The characters are an integer in decimal: digits, or a sign and digits. -/
inductive IntegerLiteral : List Char → Int → Prop
  | bare {ds : List Char} (h : Digits ds) : IntegerLiteral ds (Nat.ofDigitChars 10 ds 0)
  | plus {ds : List Char} (h : Digits ds) : IntegerLiteral ('+' :: ds) (Nat.ofDigitChars 10 ds 0)
  | minus {ds : List Char} (h : Digits ds) :
      IntegerLiteral ('-' :: ds) (-(Nat.ofDigitChars 10 ds 0 : Int))

namespace IntegerRange

variable {r : IntegerRange} {ds : List Char} {m : Int}

theorem readDigits_cons {c : Char} (negative : Bool) (n : Int) (hc : c.isDigit = true) :
    r.readDigits negative n (c :: ds) =
      let m := if negative then n * 10 - (c.toNat - '0'.toNat : Nat)
        else n * 10 + (c.toNat - '0'.toNat : Nat)
      if r.max < m then .error .tooLarge
      else if m < r.min then .error .tooSmall
      else r.readDigits negative m ds := by
  rw [readDigits, digitValue?, if_pos hc]

theorem readDigits_cons_of_not {c : Char} (negative : Bool) (n : Int) (hc : c.isDigit = false) :
    r.readDigits negative n (c :: ds) = .error .invalidDigit := by
  simp [readDigits, digitValue?, hc]

/-- Upwards: a value that leaves the range stays beyond it. -/
theorem readDigits_up_ok_iff (hmin : r.min ≤ 0) (k : Nat) (hk : (k : Int) ≤ r.max) :
    r.readDigits false k ds = .ok m ↔
      (∀ c ∈ ds, c.isDigit = true) ∧ m = Nat.ofDigitChars 10 ds k ∧ m ≤ r.max := by
  -- Induction on the digits, with the value `k` of those read; `k` stays within the range.
  induction ds generalizing k with
  | nil =>
    simp only [readDigits, Except.ok.injEq, Nat.ofDigitChars_nil, List.not_mem_nil,
      false_implies, implies_true, true_and]
    constructor
    · rintro rfl
      exact ⟨rfl, hk⟩
    · exact fun h => h.1.symm
  | cons c ds ih =>
    rw [List.forall_mem_cons, Nat.ofDigitChars_cons]
    cases hc : c.isDigit with
    | false => simp [readDigits_cons_of_not false _ hc]
    | true =>
      have hnext : (k : Int) * 10 + (c.toNat - '0'.toNat : Nat) =
          (10 * k + (c.toNat - '0'.toNat) : Nat) := by omega
      rw [readDigits_cons false _ hc]
      simp only [Bool.false_eq_true, if_false, hnext, true_and]
      by_cases hmax : r.max < (10 * k + (c.toNat - '0'.toNat) : Nat)
      · have hle := le_ofDigitChars ds (10 * k + (c.toNat - '0'.toNat))
        rw [if_pos hmax]
        refine iff_of_false (fun h => nomatch h) ?_
        rintro ⟨-, rfl, hm⟩
        omega
      · rw [if_neg hmax, if_neg (by omega)]
        exact ih _ (by omega)

/-- Downwards alike. -/
theorem readDigits_down_ok_iff (hmax : 0 ≤ r.max) (k : Nat) (hk : r.min ≤ -(k : Int)) :
    r.readDigits true (-(k : Int)) ds = .ok m ↔
      (∀ c ∈ ds, c.isDigit = true) ∧ m = -(Nat.ofDigitChars 10 ds k : Int) ∧ r.min ≤ m := by
  induction ds generalizing k with
  | nil =>
    simp only [readDigits, Except.ok.injEq, Nat.ofDigitChars_nil, List.not_mem_nil,
      false_implies, implies_true, true_and]
    constructor
    · rintro rfl
      exact ⟨rfl, hk⟩
    · exact fun h => h.1.symm
  | cons c ds ih =>
    rw [List.forall_mem_cons, Nat.ofDigitChars_cons]
    cases hc : c.isDigit with
    | false => simp [readDigits_cons_of_not true _ hc]
    | true =>
      have hnext : -(k : Int) * 10 - (c.toNat - '0'.toNat : Nat) =
          -((10 * k + (c.toNat - '0'.toNat) : Nat) : Int) := by omega
      rw [readDigits_cons true _ hc]
      simp only [if_true, hnext, true_and]
      rw [if_neg (by omega)]
      by_cases hmin : -((10 * k + (c.toNat - '0'.toNat) : Nat) : Int) < r.min
      · have hle := le_ofDigitChars ds (10 * k + (c.toNat - '0'.toNat))
        rw [if_pos hmin]
        refine iff_of_false (fun h => nomatch h) ?_
        rintro ⟨-, rfl, hm⟩
        omega
      · rw [if_neg hmin]
        exact ih _ (by omega)

theorem contains_iff {n : Int} : r.contains n = true ↔ r.min ≤ n ∧ n ≤ r.max := by
  rw [contains, Bool.and_eq_true, decide_eq_true_eq, decide_eq_true_eq]

end IntegerRange

namespace IntegerLiteral

variable {ds : List Char} {m : Int}

theorem plus_iff :
    IntegerLiteral ('+' :: ds) m ↔ Digits ds ∧ m = Nat.ofDigitChars 10 ds 0 := by
  constructor
  · intro h
    cases h with
    | bare h => exact absurd (h.2 '+' List.mem_cons_self) (by decide)
    | plus h => exact ⟨h, rfl⟩
  · rintro ⟨h, rfl⟩
    exact .plus h

theorem minus_iff :
    IntegerLiteral ('-' :: ds) m ↔ Digits ds ∧ m = -(Nat.ofDigitChars 10 ds 0 : Int) := by
  constructor
  · intro h
    cases h with
    | bare h => exact absurd (h.2 '-' List.mem_cons_self) (by decide)
    | minus h => exact ⟨h, rfl⟩
  · rintro ⟨h, rfl⟩
    exact .minus h

theorem bare_iff (hplus : ∀ cs, ds ≠ '+' :: cs) (hminus : ∀ cs, ds ≠ '-' :: cs) :
    IntegerLiteral ds m ↔ Digits ds ∧ m = Nat.ofDigitChars 10 ds 0 := by
  constructor
  · intro h
    cases h with
    | bare h => exact ⟨h, rfl⟩
    | plus => exact absurd rfl (hplus _)
    | minus => exact absurd rfl (hminus _)
  · rintro ⟨h, rfl⟩
    exact .bare h

end IntegerLiteral

namespace IntegerRange

variable {r : IntegerRange} {m : Int} {cs : List Char}

/-- **What is read is an integer in decimal that lies in the range.** A range without negative
numbers does not know the minus sign. -/
theorem readChars_ok_iff (hzero : r.contains 0 = true) :
    r.readChars cs = .ok m ↔
      IntegerLiteral cs m ∧ r.contains m = true ∧ (cs.head? = some '-' → r.min < 0) := by
  have hr := contains_iff.1 hzero
  have hup (ds : List Char) (hds : ds ≠ []) : r.readDigits false 0 ds = .ok m ↔
      (Digits ds ∧ m = Nat.ofDigitChars 10 ds 0) ∧ r.contains m = true := by
    have h := @readDigits_up_ok_iff r ds m hr.1 0 hr.2
    rw [Int.natCast_zero] at h
    rw [h, contains_iff, Digits, and_iff_right hds, and_assoc]
    refine and_congr_right fun _ => and_congr_right fun hm => ?_
    exact (and_iff_right (by omega)).symm
  have hdown (ds : List Char) (hds : ds ≠ []) : r.readDigits true 0 ds = .ok m ↔
      (Digits ds ∧ m = -(Nat.ofDigitChars 10 ds 0 : Int)) ∧ r.contains m = true := by
    have h := @readDigits_down_ok_iff r ds m hr.2 0 hr.1
    rw [Int.natCast_zero, Int.neg_zero] at h
    rw [h, contains_iff, Digits, and_iff_right hds, and_assoc]
    refine and_congr_right fun _ => and_congr_right fun hm => ?_
    exact (and_iff_left (by omega)).symm
  -- The reader's cases: no text, a lone sign, each sign with digits, and digits alone.
  unfold readChars
  split
  · have hnil : ¬ IntegerLiteral [] m := fun h => by
      cases h with
      | bare h => exact h.1 rfl
    simp [hnil]
  · simp [IntegerLiteral.plus_iff, Digits]
  · simp [IntegerLiteral.minus_iff, Digits]
  · rename_i ds hds
    rw [hup ds hds, IntegerLiteral.plus_iff]
    simp
  · rename_i ds hds
    rw [IntegerLiteral.minus_iff]
    by_cases hmin : r.min < 0
    · rw [if_pos hmin, hdown ds hds]
      simp [hmin]
    · simp [hmin]
  · rename_i hnil _ _ hplus hminus
    have hhead : cs.head? ≠ some '-' := fun h =>
      hminus _ (List.head?_eq_some_iff.1 h).choose_spec
    rw [hup cs hnil, IntegerLiteral.bare_iff hplus hminus]
    simp [hhead]

theorem read?_eq_some_iff (hzero : r.contains 0 = true) {s : String} :
    r.read? s = some m ↔
      IntegerLiteral s.toList m ∧ r.contains m = true ∧
        (s.toList.head? = some '-' → r.min < 0) := by
  rw [← readChars_ok_iff hzero, read?, read]
  cases r.readChars s.toList <;> simp [Except.toOption]

theorem signed64_read?_eq_some_iff {s : String} :
    signed64.read? s = some m ↔ IntegerLiteral s.toList m ∧ signed64.contains m = true := by
  have hmin : signed64.min < 0 := by decide
  rw [read?_eq_some_iff (by decide)]
  simp [hmin]

theorem unsigned64_read?_eq_some_iff {s : String} :
    unsigned64.read? s = some m ↔
      IntegerLiteral s.toList m ∧ unsigned64.contains m = true ∧ s.toList.head? ≠ some '-' := by
  have hmin : ¬ unsigned64.min < 0 := by decide
  rw [read?_eq_some_iff (by decide)]
  simp [hmin]

end IntegerRange

namespace IntegerLiteral

/-- No character of an integer's text is blank. -/
theorem not_blank {cs : List Char} {n : Int} (h : IntegerLiteral cs n) :
    ∀ c ∈ cs, Text.isBlank c = false := by
  cases h with
  | bare h => exact fun c hc => Text.isBlank_of_isDigit (h.2 c hc)
  | plus h =>
    exact List.forall_mem_cons.2 ⟨by decide, fun c hc => Text.isBlank_of_isDigit (h.2 c hc)⟩
  | minus h =>
    exact List.forall_mem_cons.2 ⟨by decide, fun c hc => Text.isBlank_of_isDigit (h.2 c hc)⟩

/-- A text denotes one integer. -/
theorem unique {cs : List Char} {n m : Int} (hn : IntegerLiteral cs n) (hm : IntegerLiteral cs m) :
    n = m := by
  cases hn with
  | bare h =>
    have hsign (c : Char) (hc : c.isDigit = false) (ds : List Char) : cs ≠ c :: ds := by
      rintro rfl
      rw [h.2 c List.mem_cons_self] at hc
      cases hc
    exact ((bare_iff (hsign '+' rfl) (hsign '-' rfl)).1 hm).2.symm
  | plus => exact (plus_iff.1 hm).2.symm
  | minus => exact (minus_iff.1 hm).2.symm

theorem ne_nil {cs : List Char} {n : Int} (h : IntegerLiteral cs n) : cs ≠ [] := by
  cases h with
  | bare h => exact h.1
  | plus => exact List.cons_ne_nil _ _
  | minus => exact List.cons_ne_nil _ _

/-- The decimal text of an integer. -/
theorem of_toString (n : Int) : IntegerLiteral (toString n).toList n := by
  have hdigits (m : Nat) : Digits (Nat.toDigits 10 m) :=
    ⟨Nat.toDigits_ne_nil, fun c hc => Nat.isDigit_of_mem_toDigits (by decide) (by decide) hc⟩
  have hvalue (m : Nat) : Nat.ofDigitChars 10 (Nat.toDigits 10 m) 0 = m :=
    Nat.ofDigitChars_ten_toDigits
  cases n with
  | ofNat m =>
    have hliteral := IntegerLiteral.bare (hdigits m)
    rw [hvalue] at hliteral
    exact toList_toString_ofNat m ▸ hliteral
  | negSucc m =>
    have hliteral := IntegerLiteral.minus (hdigits (m + 1))
    rw [hvalue] at hliteral
    exact toList_toString_negSucc m ▸ hliteral

end IntegerLiteral

end GridQuery
