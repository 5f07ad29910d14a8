import GridQuery.Proofs.Grid.Decoded
import GridQuery.Proofs.Sql.Rendering
import GridQuery.Plan.Term

/-!
# Searching for an integer that is shown

A cell of an integer column is shown as an integer if its text is one of sixty-four bits, with a
sign or without. A search term is one only with a sign, but may have blanks around it. So an integer
that is shown is found under the text of its cell, and under its own decimal text, exactly up to the
greatest one with a sign; and a cell that is left as a string is a term exactly if it has blanks
around an integer.

Main result: `Predicate.shown_integer_searched`.
-/

namespace GridQuery

open Text

/-! ## Cells -/

/-- A cell that is left as a string is no integer with a sign. -/
theorem Json.not_literal_of_ofCell {t : String} (h : Json.ofCell .integer (some t) = .string t)
    (n : Int) : ¬ (IntegerLiteral t.toList n ∧ IntegerRange.signed64.contains n = true) := by
  rintro ⟨hliteral, hrange⟩
  have hbounds := IntegerRange.contains_iff.1 hrange
  simp only [IntegerRange.signed64] at hbounds
  rw [ofCell_eq_ofInt_iff.2 ⟨hliteral, by omega, by omega⟩] at h
  cases h

/-! ## Terms -/

namespace Predicate

/-- The column equals the integer: `column = placeholder` wherever it stands, with the integer for
its one value. -/
structure Equates (d : Dialect) (source : String) (n : Int) (p : Predicate) : Prop where
  sql : ∀ k, p.sqlFrom d k = d.escape source ++ " = " ++ d.placeholder (k + 1)
  values : p.values = [.int n]

theorem equates_equals (d : Dialect) (source : String) (n : Int) :
    Equates d source n (TermTest.predicate d source (.equals (.int n))) := by
  have hvalues : empty.values = [] := rfl
  constructor <;> simp [TermTest.predicate, hvalues]

variable {d : Dialect} {source term : String} {regex : Bool} {n : Int}

theorem ofTerm_integer (hterm : term.isEmpty = false) :
    ofTerm d source .integer term regex =
      match IntegerRange.signed64.read? (trim term) with
      | some n => .ok (TermTest.predicate d source (.equals (.int n)))
      | none => .error .unparsable := by
  simp only [ofTerm, TermTest.read, TermTest.readWith, hterm, Bool.false_eq_true, if_false,
    TermTest.valueOf?]
  cases IntegerRange.signed64.read? (trim term) <;> rfl

/-- What an integer's text asks of an integer column. -/
theorem ofTerm_literal (h : IntegerLiteral term.toList n) :
    ofTerm d source .integer term regex =
      if IntegerRange.signed64.contains n then
        .ok (TermTest.predicate d source (.equals (.int n)))
      else .error .unparsable := by
  have hterm : term.isEmpty = false := by
    rw [Bool.eq_false_iff, Ne, String.isEmpty_iff]
    rintro rfl
    exact h.ne_nil rfl
  have htrim : trim term = term := by
    rw [trim, trimChars_eq_self (.of_forall h.not_blank), String.ofList_toList]
  rw [ofTerm_integer hterm, htrim]
  cases hrange : IntegerRange.signed64.contains n with
  | true =>
    rw [IntegerRange.signed64_read?_eq_some_iff.2 ⟨h, hrange⟩]
    rfl
  | false =>
    have hnone : IntegerRange.signed64.read? term = none := by
      rw [Option.eq_none_iff_forall_not_mem]
      intro m hm
      obtain ⟨hliteral, hm⟩ := IntegerRange.signed64_read?_eq_some_iff.1 hm
      rw [h.unique hliteral, hm] at hrange
      cases hrange
    rw [hnone]
    rfl

/-- A term is an integer with a sign, with blanks around it. -/
def PaddedInteger (term : String) : Prop :=
  ∃ before cs after n, Blanks before ∧ Blanks after ∧ before ++ after ≠ [] ∧
    term.toList = before ++ cs ++ after ∧ IntegerLiteral cs n ∧
    IntegerRange.signed64.contains n = true

theorem ofTerm_padded_iff (hcell : Json.ofCell .integer (some term) = .string term) :
    (∃ p, ofTerm d source .integer term regex = .ok p) ↔ PaddedInteger term := by
  constructor
  · rintro ⟨p, hp⟩
    -- A term that is a literal itself would not have been left as a string by its cell.
    cases hterm : term.isEmpty with
    | true => simp [ofTerm, TermTest.read, TermTest.readWith, hterm, Except.map] at hp
    | false =>
      rw [ofTerm_integer hterm] at hp
      cases hread : IntegerRange.signed64.read? (trim term) with
      | none =>
        rw [hread] at hp
        cases hp
      | some n =>
        obtain ⟨hliteral, hrange⟩ := IntegerRange.signed64_read?_eq_some_iff.1 hread
        rw [trim, String.toList_ofList] at hliteral
        obtain ⟨before, after, hbefore, hafter, hcs⟩ := exists_trimChars term.toList
        refine ⟨before, _, after, n, hbefore, hafter, fun hnil => ?_, hcs, hliteral, hrange⟩
        obtain ⟨rfl, rfl⟩ := List.append_eq_nil_iff.1 hnil
        rw [List.nil_append, List.append_nil] at hcs
        exact Json.not_literal_of_ofCell hcell n ⟨hcs ▸ hliteral, hrange⟩
  · rintro ⟨before, cs, after, n, hbefore, hafter, -, hcs, hliteral, hrange⟩
    have htrim : trim term = String.ofList cs := by
      rw [trim, hcs, trimChars_between hbefore hafter (.of_forall hliteral.not_blank)]
    have hterm : term.isEmpty = false := by
      rw [Bool.eq_false_iff, Ne, String.isEmpty_iff]
      rintro rfl
      have hnil : before ++ cs ++ after = [] := hcs.symm
      simp [hliteral.ne_nil] at hnil
    have hread : IntegerRange.signed64.read? (String.ofList cs) = some n :=
      IntegerRange.signed64_read?_eq_some_iff.2 ⟨(String.toList_ofList).symm ▸ hliteral, hrange⟩
    rw [ofTerm_integer hterm, htrim, hread]
    exact ⟨_, rfl⟩

/-- **An integer that is shown can be searched for exactly if it has sixty-four bits with a sign.**
Then its cell's text and its own are found as that very integer; a greater one is no term. A cell
that is left as a string is a term exactly if it is an integer between blanks. -/
theorem shown_integer_searched (d : Dialect) (source t : String) (regex : Bool) :
    (∀ n, Json.ofCell .integer (some t) = .ofInt n → ∀ term ∈ [t, toString n],
      (n ≤ 0x7fffffffffffffff →
        ∃ p, ofTerm d source .integer term regex = .ok p ∧ Equates d source n p) ∧
      (0x7fffffffffffffff < n → ofTerm d source .integer term regex = .error .unparsable)) ∧
    (Json.ofCell .integer (some t) = .string t →
      ((∃ p, ofTerm d source .integer t regex = .ok p) ↔ PaddedInteger t)) := by
  refine ⟨fun n hcell term hterm => ?_, ofTerm_padded_iff⟩
  obtain ⟨hcell, hlow, -⟩ := Json.ofCell_eq_ofInt_iff.1 hcell
  have hliteral : IntegerLiteral term.toList n := by
    rcases List.mem_cons.1 hterm with rfl | hterm
    · exact hcell
    · rw [List.mem_singleton.1 hterm]
      exact .of_toString n
  have hmin : IntegerRange.signed64.min = -0x8000000000000000 := rfl
  have hmax : IntegerRange.signed64.max = 0x7fffffffffffffff := rfl
  -- Both texts are literals of the integer, so the sixty-four bits with a sign decide.
  rw [ofTerm_literal hliteral]
  constructor
  · intro hn
    rw [if_pos (IntegerRange.contains_iff.2 ⟨by omega, by omega⟩)]
    exact ⟨_, rfl, equates_equals d source n⟩
  · intro hn
    rw [if_neg]
    rw [IntegerRange.contains_iff]
    omega

/-- The greatest integer that is found, and a cell with a blank. -/
theorem shown_integer_searched_greatest :
    (∃ p, ofTerm .mysql "a" .integer "+9223372036854775807" false = .ok p ∧
      Equates .mysql "a" 9223372036854775807 p) ∧
    ofTerm .postgres "a" .integer "+9223372036854775808" false = .error .unparsable ∧
    (∃ p, ofTerm .postgres "a" .integer " 7" false = .ok p) := by
  obtain ⟨hgreatest, -⟩ := shown_integer_searched .mysql "a" "+9223372036854775807" false
  obtain ⟨hbeyond, -⟩ := shown_integer_searched .postgres "a" "+9223372036854775808" false
  obtain ⟨-, hblank⟩ := shown_integer_searched .postgres "a" " 7" false
  have hseven : Digits ['7'] := by decide
  refine ⟨(hgreatest 9223372036854775807 rfl _ (by decide)).1 (by decide),
    (hbeyond 9223372036854775808 rfl _ (by decide)).2 (by decide), (hblank rfl).2 ?_⟩
  exact ⟨[' '], ['7'], [], 7, by decide, by decide, by decide, by decide, .bare hseven,
    by decide⟩

/-- A column of integers without a sign shows an integer that is refused as a term. -/
theorem shown_integer_refused :
    Dialect.category .mysql "bigint(20) unsigned" = .integer ∧
      Json.ofCell .integer (some "9223372036854775808") = .ofInt 9223372036854775808 ∧
      ¬ ∃ p, ofTerm .mysql "a" .integer "9223372036854775808" false = .ok p := by
  refine ⟨by decide, rfl, ?_⟩
  rintro ⟨p, hp⟩
  have hrefused : ofTerm .mysql "a" .integer "9223372036854775808" false = .error .unparsable := rfl
  rw [hrefused] at hp
  cases hp

end Predicate

end GridQuery
