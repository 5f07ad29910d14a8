import GridQuery.Grid.Cell
import GridQuery.Proofs.Number.Decimal

/-!
# What is read from a cell

A cell of an integer column is tried as an integer with a sign and then as one without. A minus sign
never leads above zero, so beyond the greatest integer with a sign the second reader knows all texts
of an integer, and the two together read every integer from the least one with a sign to the
greatest one without. What no reader knows stays the text it was.

Main result: `Json.cells_lose_nothing`.
-/

namespace GridQuery

/-- Behind a minus sign stands no positive number. -/
theorem IntegerLiteral.nonpos_of_minus {cs : List Char} {n : Int} (h : IntegerLiteral cs n)
    (hsign : cs.head? = some '-') : n ≤ 0 := by
  obtain ⟨ds, rfl⟩ := List.head?_eq_some_iff.1 hsign
  rw [(minus_iff.1 h).2]
  omega

namespace Json

variable {category : Category} {t : String} {n : Int}

/-! ## Integers -/

/-- **Every integer from the least with a sign to the greatest without is read as itself.** -/
theorem ofCell_eq_ofInt_iff :
    ofCell .integer (some t) = .ofInt n ↔
      IntegerLiteral t.toList n ∧ -2 ^ 63 ≤ n ∧ n < 2 ^ 64 := by
  have hsigned (m : Int) : IntegerRange.signed64.contains m = true ↔ -2 ^ 63 ≤ m ∧ m < 2 ^ 63 := by
    simp only [IntegerRange.contains_iff, IntegerRange.signed64]
    omega
  have hunsigned (m : Int) : IntegerRange.unsigned64.contains m = true ↔ 0 ≤ m ∧ m < 2 ^ 64 := by
    simp only [IntegerRange.contains_iff, IntegerRange.unsigned64]
    omega
  -- The reader with a sign is asked first and the one without only where that fails.
  simp only [ofCell, ofCellText]
  cases hread : IntegerRange.signed64.read? t with
  | some m =>
    obtain ⟨hliteral, hrange⟩ := IntegerRange.signed64_read?_eq_some_iff.1 hread
    rw [hsigned] at hrange
    simp only [ofInt, number.injEq, Number.int.injEq]
    constructor
    · rintro rfl
      exact ⟨hliteral, by omega⟩
    · intro h
      exact hliteral.unique h.1
  | none =>
    -- The text is no integer with a sign.
    have hbeyond (k : Int) (hk : IntegerLiteral t.toList k) : ¬ (-2 ^ 63 ≤ k ∧ k < 2 ^ 63) := by
      intro hrange
      rw [IntegerRange.signed64_read?_eq_some_iff.2 ⟨hk, (hsigned k).2 hrange⟩] at hread
      cases hread
    cases hread' : IntegerRange.unsigned64.read? t with
    | some m =>
      obtain ⟨hliteral, hrange, -⟩ := IntegerRange.unsigned64_read?_eq_some_iff.1 hread'
      rw [hunsigned] at hrange
      simp only [ofInt, number.injEq, Number.int.injEq]
      constructor
      · rintro rfl
        exact ⟨hliteral, by omega⟩
      · intro h
        exact hliteral.unique h.1
    | none =>
      refine iff_of_false nofun ?_
      rintro ⟨hliteral, hlow, hhigh⟩
      -- Neither reads the text, so an integer that it denotes lies outside both ranges.
      have hlarge : 2 ^ 63 ≤ n := by
        have hout := hbeyond n hliteral
        omega
      have hsign : t.toList.head? ≠ some '-' := by
        intro hsign
        have hnonpos := hliteral.nonpos_of_minus hsign
        omega
      have hrange : IntegerRange.unsigned64.contains n = true := by
        rw [hunsigned]
        omega
      rw [IntegerRange.unsigned64_read?_eq_some_iff.2 ⟨hliteral, hrange, hsign⟩] at hread'
      cases hread'

/-! ## All categories -/

/-- The texts of a truth value. -/
def truthTexts (b : Bool) : List String := if b then ["t", "true", "1"] else ["f", "false", "0"]

/-- A cell that is there becomes a number or a truth value that its category knows, or it stays the
text it was. -/
theorem ofCell_cases (category : Category) (t : String) :
    ofCell category (some t) = .string t ∨
      (category = .integer ∧ ∃ n, ofCell category (some t) = .ofInt n) ∨
      (category = .float ∧ ∃ x, ofCell category (some t) = .number (.double x)) ∨
      category = .boolean ∧ ∃ b, t ∈ truthTexts b ∧ ofCell category (some t) = .bool b := by
  -- Only the last three categories look at the text at all.
  cases category with
  | text | date | dateTime | unknown => exact .inl rfl
  | integer =>
    simp only [ofCell, ofCellText]
    cases IntegerRange.signed64.read? t with
    | some n => simp
    | none => cases IntegerRange.unsigned64.read? t <;> simp
  | float =>
    simp only [ofCell, ofCellText]
    cases Double.read? t <;> simp
  | boolean =>
    simp only [ofCell, ofCellText]
    by_cases htrue : t = "t" ∨ t = "true" ∨ t = "1"
    · simp [htrue, truthTexts]
    · by_cases hfalse : t = "f" ∨ t = "false" ∨ t = "0"
      · simp [htrue, hfalse, truthTexts]
      · simp [htrue, hfalse]

/-- What is shown as a string is the text of the cell. -/
theorem eq_some_of_ofCell {cell : Option String} {s : String}
    (h : ofCell category cell = .string s) : cell = some s := by
  cases cell with
  | none => cases h
  | some t =>
    rcases ofCell_cases category t with hc | ⟨-, n, hc⟩ | ⟨-, x, hc⟩ | ⟨-, b, -, hc⟩
    all_goals rw [hc] at h; cases h
    rfl

theorem ofCell_eq_null_iff {cell : Option String} : ofCell category cell = .null ↔ cell = none := by
  cases cell with
  | none => exact iff_of_true rfl rfl
  | some t =>
    refine iff_of_false ?_ nofun
    rcases ofCell_cases category t with hc | ⟨-, n, hc⟩ | ⟨-, x, hc⟩ | ⟨-, b, -, hc⟩
    all_goals rw [hc]; nofun

theorem ofCell_integer_iff {m : Number} :
    ofCell .integer (some t) = .number m ↔
      ∃ n, m = .int n ∧ IntegerLiteral t.toList n ∧ -2 ^ 63 ≤ n ∧ n < 2 ^ 64 := by
  constructor
  · intro h
    rcases ofCell_cases .integer t with hc | ⟨-, n, hc⟩ | ⟨hfloat, -⟩ | ⟨hboolean, -⟩
    · rw [hc] at h
      cases h
    · have hn := ofCell_eq_ofInt_iff.1 hc
      rw [hc] at h
      cases h
      exact ⟨n, rfl, hn⟩
    · cases hfloat
    · cases hboolean
  · rintro ⟨n, rfl, hn⟩
    exact ofCell_eq_ofInt_iff.2 hn

theorem ofCell_float_iff {m : Number} :
    ofCell .float (some t) = .number m ↔
      ∃ x, m = .double x ∧ x.Denoted t.toList ∧ x.isFinite = true := by
  simp only [← Double.read?_eq_some_iff, ofCell, ofCellText]
  cases Double.read? t with
  | none => simp
  | some x => simp [eq_comm]

/-- **A cell loses nothing.** What is shown as a string is the text of the cell, and null is shown
only where there is no cell. An integer column shows a number exactly for the texts of the integers
from the least with a sign to the greatest without, and it is that very integer; a column of doubles
shows one exactly for the texts that denote a finite double. A cell that is neither a number nor a
truth value of its category stays a string. -/
theorem cells_lose_nothing :
    (∀ category cell s, ofCell category cell = .string s → cell = some s) ∧
    (∀ category cell, ofCell category cell = .null ↔ cell = none) ∧
    (∀ t m, ofCell .integer (some t) = .number m ↔
      ∃ n, m = .int n ∧ IntegerLiteral t.toList n ∧ -2 ^ 63 ≤ n ∧ n < 2 ^ 64) ∧
    (∀ t m, ofCell .float (some t) = .number m ↔
      ∃ x, m = .double x ∧ x.Denoted t.toList ∧ x.isFinite = true) ∧
    ∀ category t, ofCell category (some t) = .string t ∨
      (category = .integer ∨ category = .float) ∧ (∃ m, ofCell category (some t) = .number m) ∨
      category = .boolean ∧ ∃ b, t ∈ truthTexts b ∧ ofCell category (some t) = .bool b := by
  refine ⟨fun _ _ _ => eq_some_of_ofCell, fun _ _ => ofCell_eq_null_iff,
    fun _ _ => ofCell_integer_iff, fun _ _ => ofCell_float_iff, fun category t => ?_⟩
  rcases ofCell_cases category t with hc | ⟨hinteger, n, hc⟩ | ⟨hfloat, x, hc⟩ | hboolean
  · exact .inl hc
  · exact .inr (.inl ⟨.inl hinteger, _, hc⟩)
  · exact .inr (.inl ⟨.inr hfloat, _, hc⟩)
  · exact .inr (.inr hboolean)

/-- The least and the greatest integer of a cell, the next one, a zero with a minus sign, and a
number beyond all doubles. -/
theorem cells_lose_nothing_borders :
    ofCell .integer (some "-9223372036854775808") = .number (.int (-9223372036854775808)) ∧
    ofCell .integer (some "18446744073709551615") = .number (.int 18446744073709551615) ∧
    ofCell .integer (some "18446744073709551616") = .string "18446744073709551616" ∧
    ofCell .integer (some "-000") = .number (.int 0) ∧
    ofCell .float (some "1e999") = .string "1e999" ∧ some "1e999" = some "1e999" := by
  obtain ⟨hstring, -, hinteger, -, -⟩ := cells_lose_nothing
  have hleast : Digits "9223372036854775808".toList := by decide
  have hgreatest : Digits "18446744073709551615".toList := by decide
  have hzero : Digits "000".toList := by decide
  have hinfinite : ofCell .float (some "1e999") = .string "1e999" := rfl
  exact ⟨(hinteger _ _).2 ⟨_, rfl, .minus hleast, by decide, by decide⟩,
    (hinteger _ _).2 ⟨_, rfl, .bare hgreatest, by decide, by decide⟩, rfl,
    (hinteger _ _).2 ⟨_, rfl, .minus hzero, by decide, by decide⟩, hinfinite,
    hstring .float _ _ hinfinite⟩

end Json

end GridQuery
