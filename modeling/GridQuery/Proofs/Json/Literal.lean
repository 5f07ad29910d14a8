import GridQuery.Json.Document
import Mathlib.Data.List.DropRight

/-!
# Integers in documents

An integer is written as its decimal digits, behind a minus sign if it is negative. Where a
document has such a literal for a value, and the integer has sixty-four bits, with a sign or
without, the value is read as that very integer. The only exception is a negative zero, which is
not how an integer is written.

The digits are collected one by one, so the induction is on them; what carries it is that no
collected value exceeds the whole one, so that none is dropped.

Main result: `Document.readValue_integer`.
-/

namespace GridQuery

/-! ## Digits -/

theorem toDigits_head (n : Nat) (h : 0 < n) : (Nat.toDigits 10 n).head? ≠ some '0' := by
  induction n using Nat.strongRecOn with
  | ind n ih =>
    by_cases hn : n < 10
    · rw [Nat.toDigits_of_lt_base hn]
      have hall : ∀ m < 10, 0 < m → [Nat.digitChar m].head? ≠ some '0' := by decide
      exact hall n hn h
    · have hdiv : 0 < n / 10 := by omega
      rw [Nat.toDigits_of_base_le (by omega) (by omega), List.head?_append]
      have hhead := ih (n / 10) (by omega) hdiv
      cases hdigits : (Nat.toDigits 10 (n / 10)).head? with
      | none => exact absurd (List.head?_eq_none_iff.1 hdigits) Nat.toDigits_ne_nil
      | some c =>
        rw [hdigits] at hhead
        exact hhead

theorem le_ofDigitChars (ds : List Char) (n : Nat) : n ≤ Nat.ofDigitChars 10 ds n := by
  induction ds generalizing n with
  | nil => exact Nat.le_refl n
  | cons c ds ih =>
    rw [Nat.ofDigitChars_cons]
    exact Nat.le_trans (by omega) (ih _)

theorem toList_toString_ofNat (m : Nat) : (toString (Int.ofNat m)).toList = Nat.toDigits 10 m :=
  Nat.toList_repr

theorem toList_toString_negSucc (m : Nat) :
    (toString (Int.negSucc m)).toList = '-' :: Nat.toDigits 10 (m + 1) := by
  show ("-" ++ (m + 1).repr).toList = _
  rw [String.toList_append, Nat.toList_repr]
  rfl

namespace Document

/-- Digits are all collected as long as the whole value has sixty-four bits. -/
theorem extend_digits (ds : List Char) (v t : Nat)
    (h : Nat.ofDigitChars 10 ds v < 0x10000000000000000) :
    Significand.extend ⟨v, t, 0⟩ ds = ⟨Nat.ofDigitChars 10 ds v, t + ds.length, 0⟩ := by
  induction ds generalizing v t with
  | nil => rfl
  | cons c ds ih =>
    rw [Nat.ofDigitChars_cons] at h ⊢
    have hv : v * 10 + (c.toNat - '0'.toNat) < 0x10000000000000000 := by
      have hle := le_ofDigitChars ds (10 * v + (c.toNat - '0'.toNat))
      omega
    have hstep : Significand.extend ⟨v, t, 0⟩ (c :: ds) =
        Significand.extend ⟨10 * v + (c.toNat - '0'.toNat), t + 1, 0⟩ ds := by
      rw [Significand.extend, List.foldl_cons, if_pos ⟨rfl, hv⟩, Nat.mul_comm v]
      rfl
    rw [hstep, ih _ _ h, List.length_cons]
    congr 1
    omega

/-- The text does not go on with a number. -/
def EndsNumber (rest : List Char) : Prop :=
  ∀ c ∈ rest.head?, c.isDigit = false ∧ c ≠ '.' ∧ c ≠ 'e' ∧ c ≠ 'E'

theorem literalNumber_digits (negative : Bool) {m : Nat} (hm : m < 0x10000000000000000)
    (hmin : negative = true → 0 < m ∧ m ≤ 0x8000000000000000) :
    literalNumber negative (Nat.toDigits 10 m) none none =
      some (.int (if negative then -(m : Int) else m)) := by
  have hvalue : Nat.ofDigitChars 10 (Nat.toDigits 10 m) 0 = m := Nat.ofDigitChars_ten_toDigits
  have hextend := extend_digits (Nat.toDigits 10 m) 0 0 (by rw [hvalue]; exact hm)
  rw [hvalue] at hextend
  unfold literalNumber
  simp only [hextend, Option.isNone_none]
  refine if_pos ⟨trivial, trivial, trivial, ?_, ?_⟩
  · rintro ⟨hnegative, hzero⟩
    have hpos := (hmin hnegative).1
    omega
  · cases negative with
    | false => simp only [Bool.false_eq_true, if_false]; omega
    | true =>
      have hle := (hmin rfl).2
      simp only [if_true]
      omega

theorem takeWhile_digits (m : Nat) {rest : List Char} (hrest : EndsNumber rest) :
    (Nat.toDigits 10 m ++ rest).takeWhile Char.isDigit = Nat.toDigits 10 m ∧
      (Nat.toDigits 10 m ++ rest).dropWhile Char.isDigit = rest := by
  have hdigits : ∀ c ∈ Nat.toDigits 10 m, c.isDigit = true :=
    fun c hc => Nat.isDigit_of_mem_toDigits (by decide) (by decide) hc
  rw [List.takeWhile_append_of_pos hdigits, List.dropWhile_append_of_pos hdigits]
  cases rest with
  | nil => simp
  | cons c rest => simp [(hrest c rfl).1]

/-- The digits of a number are read as that number, with the sign that stands before them. -/
theorem numberLiteral_digits (negative : Bool) {m : Nat} {rest : List Char}
    (hm : m < 0x10000000000000000)
    (hmin : negative = true → 0 < m ∧ m ≤ 0x8000000000000000) (hrest : EndsNumber rest) :
    numberLiteral negative (Nat.toDigits 10 m ++ rest) =
      some (some (.int (if negative then -(m : Int) else m)), rest) := by
  obtain ⟨hwhole, hbehind⟩ := takeWhile_digits m hrest
  have hform : ¬ ((Nat.toDigits 10 m).isEmpty ∨
      (Nat.toDigits 10 m).head? = some '0' ∧ 1 < (Nat.toDigits 10 m).length) := by
    rintro (hempty | ⟨hhead, hlength⟩)
    · exact Nat.toDigits_ne_nil (List.isEmpty_iff.1 hempty)
    · rcases Nat.eq_zero_or_pos m with rfl | hpos
      · exact absurd hlength (by decide)
      · exact toDigits_head m hpos hhead
  unfold numberLiteral
  simp only [hwhole, hbehind, if_neg hform]
  cases rest with
  | nil => simp [literalNumber_digits negative hm hmin]
  | cons c rest =>
    obtain ⟨-, hpoint, he, hE⟩ := hrest c rfl
    simp [hpoint, he, hE, literalNumber_digits negative hm hmin]

/-- What begins with a digit is read as a number. -/
theorem readValue_digit (fuel : Nat) {c : Char} (cs : List Char) (hc : c.isDigit = true) :
    readValue (fuel + 1) (c :: cs) =
      token ((numberLiteral false (c :: cs)).map fun r => (.number r.1, r.2)) := by
  have hspace : isSpace c = false := by
    rw [← Bool.not_eq_true]
    intro h
    simp only [isSpace, Bool.or_eq_true, beq_iff_eq] at h
    rcases h with ((rfl | rfl) | rfl) | rfl <;> exact absurd hc (by decide)
  have hother : ∀ x, x.isDigit = false → c ≠ x := by
    rintro x hx rfl
    rw [hc] at hx
    cases hx
  have hdrop : dropSpace (c :: cs) = c :: cs := by simp [dropSpace, hspace]
  rw [readValue, hdrop]
  split
  all_goals rename_i h
  all_goals first
    | exact absurd (List.cons.inj h).1 (hother _ (by decide))
    | rfl

/-- Space before a value is passed over. -/
theorem readValue_dropSpace (fuel : Nat) (cs : List Char) :
    readValue (fuel + 1) (dropSpace cs) = readValue (fuel + 1) cs := by
  have htwice : dropSpace (dropSpace cs) = dropSpace cs := List.dropWhile_idempotent isSpace cs
  rw [readValue, readValue, htwice]

/-- **The literal of an integer is read as that integer,** wherever a value is read. -/
theorem readValue_integer (fuel : Nat) {n : Int} {cs rest : List Char}
    (hmin : -0x8000000000000000 ≤ n) (hmax : n < 0x10000000000000000)
    (hcs : dropSpace cs = (toString n).toList ++ rest) (hrest : EndsNumber rest) :
    readValue (fuel + 1) cs = (.number (some (.int n)), some rest) := by
  rw [← readValue_dropSpace, hcs]
  -- A digit begins the literal or a minus sign does, and the reader tells them apart by that.
  cases n with
  | ofNat m =>
    have hm : m < 0x10000000000000000 := Int.ofNat_lt.1 hmax
    have hliteral := numberLiteral_digits false hm (by simp) hrest
    obtain ⟨c, cs, hcs⟩ := List.exists_cons_of_ne_nil (Nat.toDigits_ne_nil (n := m) (b := 10))
    have hc : c.isDigit = true := Nat.isDigit_of_mem_toDigits (b := 10) (n := m) (by decide)
      (by decide) (hcs ▸ List.mem_cons_self)
    rw [toList_toString_ofNat]
    rw [hcs] at hliteral ⊢
    rw [List.cons_append, readValue_digit fuel _ hc, ← List.cons_append, hliteral]
    rfl
  | negSucc m =>
    have hliteral := numberLiteral_digits true (m := m + 1) (by omega) (by omega) hrest
    rw [toList_toString_negSucc]
    show token ((numberLiteral true (Nat.toDigits 10 (m + 1) ++ rest)).map _) = _
    rw [hliteral]
    rfl

end Document

end GridQuery
