import GridQuery.Sql.Statement

/-!
# The text of a predicate

A predicate written into a statement takes its placeholders from the number of values that
the statement has already. `Predicate.sqlFrom` is that text as a function of the number alone,
so that one predicate can be compared across statements.

Main result: `Statement.sql_pushPredicate`.
-/

namespace GridQuery

/-- The text of pieces behind `k` values. -/
def Piece.sqlFrom (d : Dialect) : Nat → List Piece → String
  | _, [] => ""
  | k, .text sql :: ps => sql ++ sqlFrom d k ps
  | k, .bound _ :: ps => d.placeholder (k + 1) ++ sqlFrom d (k + 1) ps

namespace Predicate

/-- The text of a predicate behind `k` values. -/
def sqlFrom (d : Dialect) (k : Nat) (p : Predicate) : String := Piece.sqlFrom d k p.pieces

/-- The texts of predicates, each behind the values of those before it. -/
def texts (d : Dialect) : Nat → List Predicate → List String
  | _, [] => []
  | k, p :: ps => p.sqlFrom d k :: texts d (k + p.values.length) ps

/-! ## Building -/

theorem sqlFrom_pieces_append (d : Dialect) (k : Nat) (ps qs : List Piece) :
    Piece.sqlFrom d k (ps ++ qs) =
      Piece.sqlFrom d k ps ++ Piece.sqlFrom d (k + (ps.filterMap Piece.value?).length) qs := by
  induction ps generalizing k with
  | nil => simp [Piece.sqlFrom]
  | cons p ps ih =>
    cases p with
    | text sql =>
      simp [Piece.sqlFrom, Piece.value?, List.filterMap_cons, ih, String.append_assoc]
    | bound v =>
      have hk : k + 1 + (ps.filterMap Piece.value?).length =
          k + ((ps.filterMap Piece.value?).length + 1) := by omega
      simp [Piece.sqlFrom, Piece.value?, ih, String.append_assoc, hk]

theorem sqlFrom_pushText (d : Dialect) (k : Nat) (sql : String) (ps : List Piece) :
    Piece.sqlFrom d k (pushText sql ps) = Piece.sqlFrom d k ps ++ sql := by
  induction ps using pushText.induct generalizing k with
  | case1 => simp [pushText, Piece.sqlFrom]
  | case2 last => simp [pushText, Piece.sqlFrom]
  | case3 p rest h ih =>
    rw [pushText]
    · cases p <;> simp [Piece.sqlFrom, ih, String.append_assoc]
    · exact h

@[simp] theorem sqlFrom_empty (d : Dialect) (k : Nat) : empty.sqlFrom d k = "" := rfl

@[simp] theorem sqlFrom_push (d : Dialect) (k : Nat) (p : Predicate) (sql : String) :
    (p.push sql).sqlFrom d k = p.sqlFrom d k ++ sql :=
  sqlFrom_pushText d k sql p.pieces

@[simp] theorem sqlFrom_bind (d : Dialect) (k : Nat) (p : Predicate) (v : Value) :
    (p.bind v).sqlFrom d k = p.sqlFrom d k ++ d.placeholder (k + p.values.length + 1) := by
  rw [sqlFrom, bind, sqlFrom_pieces_append]
  simp [Piece.sqlFrom, sqlFrom, values]

@[simp] theorem sqlFrom_append (d : Dialect) (k : Nat) (p q : Predicate) :
    (p.append q).sqlFrom d k = p.sqlFrom d k ++ q.sqlFrom d (k + p.values.length) := by
  obtain ⟨qs⟩ := q
  simp only [append, sqlFrom]
  induction qs generalizing p with
  | nil => simp [Piece.sqlFrom]
  | cons x qs ih =>
    rw [List.foldl_cons, ih]
    cases x with
    | text sql =>
      have hp := sqlFrom_push d k p sql
      simp only [sqlFrom] at hp
      simp [pushPiece, Piece.sqlFrom, hp, String.append_assoc]
    | bound v =>
      have hp := sqlFrom_bind d k p v
      simp only [sqlFrom] at hp
      simp [pushPiece, Piece.sqlFrom, hp, String.append_assoc, Nat.add_assoc]

/-! ## Predicates that are not empty -/

theorem pushText_ne_nil (sql : String) (ps : List Piece) : pushText sql ps ≠ [] := by
  induction ps using pushText.induct with
  | case1 => simp [pushText]
  | case2 last => simp [pushText]
  | case3 p rest h _ =>
    rw [pushText]
    · exact List.cons_ne_nil _ _
    · exact h

@[simp] theorem isEmpty_push (p : Predicate) (sql : String) : (p.push sql).isEmpty = false := by
  simpa [isEmpty, push] using pushText_ne_nil sql p.pieces

@[simp] theorem isEmpty_bind (p : Predicate) (v : Value) : (p.bind v).isEmpty = false := by
  simp [isEmpty, bind]

theorem isEmpty_append {p : Predicate} (h : p.isEmpty = false) (q : Predicate) :
    (p.append q).isEmpty = false := by
  obtain ⟨qs⟩ := q
  simp only [append]
  induction qs generalizing p with
  | nil => exact h
  | cons x qs ih =>
    rw [List.foldl_cons]
    apply ih
    cases x with
    | text sql => exact isEmpty_push p sql
    | bound v => exact isEmpty_bind p v

theorem isEmpty_appendAll {p : Predicate} (h : p.isEmpty = false) (sql : String)
    (qs : List Predicate) : (appendAll sql p qs).isEmpty = false := by
  induction qs generalizing p with
  | nil => exact h
  | cons q qs ih => exact ih (isEmpty_append (isEmpty_push p sql) q)

/-- A conjunction at the head of another one dissolves into it. -/
theorem conjunction_conjunction (ps qs : List Predicate) :
    conjunction ((conjunction ps).toList ++ qs) = conjunction (ps ++ qs) := by
  unfold conjunction
  rw [List.filter_append, List.filter_append]
  cases h : ps.filter (!·.isEmpty) with
  | nil => simp
  | cons p ps' =>
    have hp : p.isEmpty = false := by
      have : p ∈ ps.filter (!·.isEmpty) := by rw [h]; exact List.mem_cons_self
      simpa using (List.mem_filter.1 this).2
    have hall : (appendAll " AND " p ps').isEmpty = false := isEmpty_appendAll hp _ ps'
    rw [Option.toList_some, List.filter_cons_of_pos (by simp [hall])]
    simp [appendAll]

end Predicate

/-! ## Statements -/

namespace Statement

@[simp] theorem sql_push (s : Statement) (sql : String) : (s.push sql).sql = s.sql ++ sql := rfl

@[simp] theorem sql_bind (s : Statement) (d : Dialect) (v : Value) :
    (s.bind d v).sql = s.sql ++ d.placeholder (s.values.length + 1) := rfl

/-- **A predicate adds its text behind the values that are there already.** -/
@[simp] theorem sql_pushPredicate (s : Statement) (d : Dialect) (p : Predicate) :
    (s.pushPredicate d p).sql = s.sql ++ p.sqlFrom d s.values.length := by
  obtain ⟨ps⟩ := p
  simp only [pushPredicate, Predicate.sqlFrom]
  induction ps generalizing s with
  | nil => simp [Piece.sqlFrom]
  | cons x ps ih =>
    rw [List.foldl_cons, ih]
    cases x <;> simp [pushPiece, Piece.sqlFrom, String.append_assoc]

end Statement

end GridQuery
