import GridQuery.Sql.Dialect

/-!
# Statements

A statement is its SQL text and the values for its placeholders, in order. It is built from
left to right, and each value takes the next placeholder.
-/

namespace GridQuery

structure Statement where
  sql : String
  values : List Value
deriving DecidableEq

namespace Statement

def empty : Statement := ⟨"", []⟩

/-- Appends text. -/
def push (s : Statement) (sql : String) : Statement := { s with sql := s.sql ++ sql }

/-- Appends the next placeholder and its value. -/
def bind (s : Statement) (d : Dialect) (v : Value) : Statement :=
  ⟨s.sql ++ d.placeholder (s.values.length + 1), s.values ++ [v]⟩

def pushPiece (d : Dialect) (s : Statement) : Piece → Statement
  | .text sql => s.push sql
  | .bound v => s.bind d v

/-- Appends a predicate. -/
def pushPredicate (s : Statement) (d : Dialect) (p : Predicate) : Statement :=
  p.pieces.foldl (pushPiece d) s

@[simp] theorem values_push (s : Statement) (sql : String) : (s.push sql).values = s.values := rfl

@[simp] theorem values_bind (s : Statement) (d : Dialect) (v : Value) :
    (s.bind d v).values = s.values ++ [v] := rfl

@[simp] theorem values_pushPredicate (s : Statement) (d : Dialect) (p : Predicate) :
    (s.pushPredicate d p).values = s.values ++ p.values := by
  obtain ⟨ps⟩ := p
  simp only [pushPredicate, Predicate.values]
  induction ps generalizing s with
  | nil => simp
  | cons x xs ih =>
    cases x <;> simp [pushPiece, ih, Piece.value?, List.filterMap_cons]

end Statement

/-- The predicate as a statement of its own. -/
def Predicate.render (p : Predicate) (d : Dialect) : Statement :=
  Statement.empty.pushPredicate d p

end GridQuery
