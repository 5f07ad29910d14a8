import GridQuery.Sql.Value

/-!
# Predicates

A predicate is SQL text with values bound at places in it. The places get their placeholders
only when the predicate is written into a statement (`GridQuery.Sql.Statement`), so one
predicate can stand in several statements.

`Predicate.all` and `Predicate.any` put their members into one pair of parentheses;
`Predicate.conjunction` joins what is grouped already.
-/

namespace GridQuery

/-- A stretch of text, or a bound value. -/
inductive Piece where
  | text (sql : String)
  | bound (v : Value)
deriving DecidableEq

/-- The bound value of a piece. -/
def Piece.value? : Piece → Option Value
  | .text _ => none
  | .bound v => some v

/-- A condition in SQL. -/
structure Predicate where
  pieces : List Piece
deriving DecidableEq

namespace Predicate

def empty : Predicate := ⟨[]⟩

/-! ## Building -/

/-- Appends text, to the last piece if that is text too. -/
def pushText (sql : String) : List Piece → List Piece
  | [] => [.text sql]
  | [.text last] => [.text (last ++ sql)]
  | p :: rest => p :: pushText sql rest

def push (p : Predicate) (sql : String) : Predicate := ⟨pushText sql p.pieces⟩

def bind (p : Predicate) (v : Value) : Predicate := ⟨p.pieces ++ [.bound v]⟩

def pushPiece (p : Predicate) : Piece → Predicate
  | .text sql => p.push sql
  | .bound v => p.bind v

/-- Appends another predicate. -/
def append (p q : Predicate) : Predicate := q.pieces.foldl pushPiece p

/-! ## Parts -/

def isEmpty (p : Predicate) : Bool := p.pieces.isEmpty

/-- The bound values in their order. -/
def values (p : Predicate) : List Value := p.pieces.filterMap Piece.value?

def samePiece : Piece → Piece → Bool
  | .text s, .text t => s == t
  | .bound v, .bound w => v.same w
  | _, _ => false

def samePieces : List Piece → List Piece → Bool
  | [], [] => true
  | p :: ps, q :: qs => samePiece p q && samePieces ps qs
  | _, _ => false

/-- Equality of predicates, where doubles are compared as numbers. -/
def same (p q : Predicate) : Bool := samePieces p.pieces q.pieces

theorem values_pushText (sql : String) (ps : List Piece) :
    (pushText sql ps).filterMap Piece.value? = ps.filterMap Piece.value? := by
  induction ps using pushText.induct with
  | case1 => rfl
  | case2 => rfl
  | case3 p rest h ih => simp [pushText, List.filterMap_cons, ih]

@[simp] theorem values_push (p : Predicate) (sql : String) : (p.push sql).values = p.values :=
  values_pushText sql p.pieces

@[simp] theorem values_bind (p : Predicate) (v : Value) : (p.bind v).values = p.values ++ [v] := by
  simp [values, bind, Piece.value?]

@[simp] theorem values_pushPiece (p : Predicate) (x : Piece) :
    (p.pushPiece x).values = p.values ++ x.value?.toList := by
  cases x <;> simp [pushPiece, Piece.value?]

@[simp] theorem values_append (p q : Predicate) : (p.append q).values = p.values ++ q.values := by
  unfold append
  generalize hq : q.pieces = xs
  have h : q.values = xs.filterMap Piece.value? := by rw [values, hq]
  rw [h]
  clear hq h
  induction xs generalizing p with
  | nil => simp
  | cons x xs ih => cases x <;> simp [ih, Piece.value?, List.filterMap_cons]

/-! ## Joining -/

/-- Appends the predicates, each behind a separator. -/
def appendAll (separator : String) (p : Predicate) (qs : List Predicate) : Predicate :=
  qs.foldl (fun p q => (p.push separator).append q) p

/-- The members that are not empty, joined within parentheses. -/
def group (separator : String) (ps : List Predicate) : Option Predicate :=
  match ps.filter (!·.isEmpty) with
  | [] => none
  | p :: qs => some ((appendAll separator ((empty.push "(").append p) qs).push ")")

/-- All of the predicates: `(a AND b)`. -/
def all (ps : List Predicate) : Option Predicate := group " AND " ps

/-- Any of the predicates: `(a OR b)`. -/
def any (ps : List Predicate) : Option Predicate := group " OR " ps

/-- The predicates that are not empty, joined by AND as they are. -/
def conjunction (ps : List Predicate) : Option Predicate :=
  match ps.filter (!·.isEmpty) with
  | [] => none
  | p :: qs => some (appendAll " AND " p qs)

end Predicate

end GridQuery
