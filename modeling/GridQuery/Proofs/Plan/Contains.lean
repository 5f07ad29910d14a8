import GridQuery.Plan.Term
import Mathlib.Logic.Function.Basic

/-!
# Searching for a text as it is

A term that a text column must contain is bound as a pattern of LIKE: between two percent signs, and
with a backslash before every character that LIKE would not take as it is. What such a pattern
matches is read off the term character by character, so a backslash of the term can neither free a
wildcard behind it nor take one in front of it along.

Main result: `TermTest.contains_literally`.
-/

namespace GridQuery

/-! ## LIKE -/

/-- The characters match the whole pattern. A percent sign stands for any characters, an underscore
for any one, and a backslash makes the character behind it stand for itself. -/
inductive LikeChars : List Char → List Char → Prop
  | nil : LikeChars [] []
  | any {p cs : List Char} (skipped : List Char) (h : LikeChars p cs) :
      LikeChars ('%' :: p) (skipped ++ cs)
  | one {p cs : List Char} (c : Char) (h : LikeChars p cs) : LikeChars ('_' :: p) (c :: cs)
  | escaped {p cs : List Char} (c : Char) (h : LikeChars p cs) :
      LikeChars ('\\' :: c :: p) (c :: cs)
  | plain {p cs : List Char} {c : Char} (hc : c ≠ '%' ∧ c ≠ '_' ∧ c ≠ '\\')
      (h : LikeChars p cs) : LikeChars (c :: p) (c :: cs)

/-- The text matches the pattern. -/
def Like (pattern text : String) : Prop := LikeChars pattern.toList text.toList

namespace LikeChars

variable {p cs : List Char} {c : Char}

theorem nil_iff : LikeChars [] cs ↔ cs = [] := by
  constructor
  · intro h
    cases h
    rfl
  · rintro rfl
    exact .nil

theorem any_iff :
    LikeChars ('%' :: p) cs ↔ ∃ skipped rest, cs = skipped ++ rest ∧ LikeChars p rest := by
  constructor
  · intro h
    cases h with
    | any skipped h => exact ⟨skipped, _, rfl, h⟩
    | plain hc => exact absurd rfl hc.1
  · rintro ⟨skipped, rest, rfl, h⟩
    exact .any skipped h

theorem escaped_iff :
    LikeChars ('\\' :: c :: p) cs ↔ ∃ rest, cs = c :: rest ∧ LikeChars p rest := by
  constructor
  · intro h
    cases h with
    | escaped _ h => exact ⟨_, rfl, h⟩
    | plain hc => exact absurd rfl hc.2.2
  · rintro ⟨rest, rfl, h⟩
    exact .escaped c h

theorem plain_iff (hc : c ≠ '%' ∧ c ≠ '_' ∧ c ≠ '\\') :
    LikeChars (c :: p) cs ↔ ∃ rest, cs = c :: rest ∧ LikeChars p rest := by
  constructor
  · intro h
    cases h with
    | any => exact absurd rfl hc.1
    | one => exact absurd rfl hc.2.1
    | escaped => exact absurd rfl hc.2.2
    | plain _ h => exact ⟨_, rfl, h⟩
  · rintro ⟨rest, rfl, h⟩
    exact .plain hc h

/-- A percent sign at the end lets anything follow. -/
theorem any_nil (cs : List Char) : LikeChars ['%'] cs :=
  any_iff.2 ⟨cs, [], (List.append_nil cs).symm, .nil⟩

end LikeChars

/-! ## Escaped terms -/

namespace TermTest

/-- A character with a backslash before it where it needs one. -/
def literalChar (c : Char) : List Char :=
  if c = '\\' ∨ c = '%' ∨ c = '_' then ['\\', c] else [c]

theorem toList_escapeWildcards (term : String) :
    (escapeWildcards term).toList = term.toList.flatMap literalChar :=
  String.toList_ofList

/-- An escaped character matches itself and nothing else. -/
theorem like_literalChar {c : Char} {p cs : List Char} :
    LikeChars (literalChar c ++ p) cs ↔ ∃ rest, cs = c :: rest ∧ LikeChars p rest := by
  unfold literalChar
  split
  · exact LikeChars.escaped_iff
  · rename_i hc
    rw [not_or, not_or] at hc
    exact LikeChars.plain_iff ⟨hc.2.1, hc.2.2, hc.1⟩

/-- **Escaped characters match themselves,** whatever pattern stands behind them. -/
theorem like_literal (term : List Char) {p cs : List Char} :
    LikeChars (term.flatMap literalChar ++ p) cs ↔
      ∃ rest, cs = term ++ rest ∧ LikeChars p rest := by
  induction term generalizing cs with
  | nil => simp
  | cons c term ih =>
    rw [List.flatMap_cons, List.append_assoc, like_literalChar]
    constructor
    · rintro ⟨behind, rfl, h⟩
      obtain ⟨rest, rfl, hrest⟩ := ih.1 h
      exact ⟨rest, rfl, hrest⟩
    · rintro ⟨rest, rfl, hrest⟩
      exact ⟨term ++ rest, rfl, ih.2 ⟨rest, rfl, hrest⟩⟩

/-- On its own an escaped term matches the term alone. -/
theorem like_escapeWildcards {term text : String} :
    Like (escapeWildcards term) text ↔ text = term := by
  have hliteral : LikeChars (term.toList.flatMap literalChar ++ []) text.toList ↔
      ∃ rest, text.toList = term.toList ++ rest ∧ LikeChars [] rest := like_literal term.toList
  rw [List.append_nil] at hliteral
  rw [Like, toList_escapeWildcards, hliteral]
  constructor
  · rintro ⟨rest, htext, hrest⟩
    rw [LikeChars.nil_iff.1 hrest, List.append_nil] at htext
    exact String.toList_inj.1 htext
  · rintro rfl
    exact ⟨[], (List.append_nil _).symm, .nil⟩

theorem escapeWildcards_injective : Function.Injective escapeWildcards := by
  intro term term' h
  have hself : Like (escapeWildcards term) term := like_escapeWildcards.2 rfl
  rw [h] at hself
  exact like_escapeWildcards.1 hself

/-- Between percent signs it matches the texts that the term occurs in. -/
theorem like_contains {term text : String} :
    Like ("%" ++ escapeWildcards term ++ "%") text ↔
      ∃ before after, text = before ++ term ++ after := by
  have hpattern : ("%" ++ escapeWildcards term ++ "%").toList =
      '%' :: (term.toList.flatMap literalChar ++ ['%']) := by
    rw [String.toList_append, String.toList_append, toList_escapeWildcards]
    rfl
  rw [Like, hpattern, LikeChars.any_iff]
  constructor
  · rintro ⟨skipped, rest, htext, h⟩
    obtain ⟨behind, rfl, -⟩ := (like_literal term.toList).1 h
    refine ⟨String.ofList skipped, String.ofList behind, String.toList_inj.1 ?_⟩
    simpa using htext
  · rintro ⟨before, after, rfl⟩
    refine ⟨before.toList, term.toList ++ after.toList, by simp, ?_⟩
    exact (like_literal term.toList).2 ⟨after.toList, rfl, .any_nil _⟩

/-! ## Contains searches -/

theorem read_contains {term : String} (h : term.isEmpty = false) :
    read .text term false = .ok (.contains ("%" ++ escapeWildcards term ++ "%")) := by
  simp [read, readWith, h]

/-- **A text column is searched for the term as it is.** The pattern is the one value that the test
of a term binds, it matches exactly the texts in which the term occurs, and no two terms have the
same. -/
theorem contains_literally (d : Dialect) (source : String) :
    (∀ term : String, term.isEmpty = false →
      ∃ p, Predicate.ofTerm d source .text term false = .ok p ∧
        p.values = [.text ("%" ++ escapeWildcards term ++ "%")]) ∧
    (∀ term text : String, Like ("%" ++ escapeWildcards term ++ "%") text ↔
      ∃ before after, text = before ++ term ++ after) ∧
    Function.Injective escapeWildcards := by
  refine ⟨fun term hterm => ?_, fun term text => like_contains, escapeWildcards_injective⟩
  refine ⟨_, congrArg (Except.map (predicate d source)) (read_contains hterm), ?_⟩
  cases d <;> rfl

/-- A term with all three characters, one of them a backslash at its end. -/
theorem contains_literally_hostile :
    (∃ p, Predicate.ofTerm .mysql "a" .text "50%_\\" false = .ok p ∧
      p.values = [.text "%50\\%\\_\\\\%"]) ∧
    Like "%50\\%\\_\\\\%" "at 50%_\\b" ∧ ¬ Like "%50\\%\\_\\\\%" "at 50%xb" := by
  obtain ⟨hbound, hlike, -⟩ := contains_literally .mysql "a"
  have hpattern : "%" ++ escapeWildcards "50%_\\" ++ "%" = "%50\\%\\_\\\\%" := by decide
  refine ⟨hpattern ▸ hbound "50%_\\" (by decide), ?_, ?_⟩
  · exact hpattern ▸ (hlike "50%_\\" "at 50%_\\b").2 ⟨"at ", "b", by decide⟩
  · rw [← hpattern, hlike]
    rintro ⟨before, after, htext⟩
    have hmem : '_' ∈ "at 50%xb".toList := by
      rw [htext]
      simp
    exact absurd hmem (by decide)

end TermTest

end GridQuery
