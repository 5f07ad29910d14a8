import GridQuery.Proofs.Sql.Template

/-!
# The text of joined predicates

Predicates that are joined keep their texts and their order: each is written behind the values of
those before it, the separator stands between any two, and the parentheses around all of them. An
empty predicate is left out, and nothing is left if all are empty.

Main result: `Predicate.joins_group`.
-/

namespace GridQuery.Predicate

/-- The second is the first ones joined: their texts with the separator between any two, in
parentheses, and their values. Without any to join it is absent. -/
structure Joins (d : Dialect) (sep : String) (ps : List Predicate) (joined : Option Predicate) :
    Prop where
  absent : joined = none ↔ ps = []
  text : ∀ q ∈ joined, ∀ k, q.sqlFrom d k = "(" ++ sep.intercalate (texts d k ps) ++ ")"
  values : ∀ q ∈ joined, q.values = ps.flatMap Predicate.values

theorem sqlFrom_appendAll (d : Dialect) (k : Nat) (sep : String) (p : Predicate)
    (qs : List Predicate) :
    (appendAll sep p qs).sqlFrom d k = sep.intercalate (texts d k (p :: qs)) := by
  induction qs generalizing p with
  | nil => simp [appendAll, texts]
  | cons q qs ih =>
    show (appendAll sep ((p.push sep).append q) qs).sqlFrom d k = _
    rw [ih, texts, texts, texts, sqlFrom_append, sqlFrom_push, values_append, values_push,
      List.length_append, ← Nat.add_assoc, String.intercalate_cons_append,
      String.intercalate_cons_cons]

/-- **A group joins its members that are not empty.** -/
theorem joins_group (d : Dialect) (sep : String) (ps : List Predicate) :
    Joins d sep (ps.filter (!·.isEmpty)) (group sep ps) := by
  unfold group
  cases ps.filter (!·.isEmpty) with
  | nil => exact ⟨by simp, by simp, by simp⟩
  | cons p qs =>
    refine ⟨by simp, fun q hq k => ?_, fun q hq => ?_⟩
    · obtain rfl := Option.some.inj hq
      have hhead : texts d k ((empty.push "(").append p :: qs) =
          ("(" ++ p.sqlFrom d k) :: texts d (k + p.values.length) qs := by
        simp [texts]
      rw [sqlFrom_push, sqlFrom_appendAll, hhead, String.intercalate_cons_append]
      rfl
    · obtain rfl := Option.some.inj hq
      simp [values_appendAll]

end GridQuery.Predicate
