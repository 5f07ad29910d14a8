import GridQuery.Engine.Failure
import GridQuery.Plan.Basic
import GridQuery.Grid.Column

/-!
# Backends

What the engine asks of a database: a sign of life, the columns of a table, and the page and
counts of a plan. A backend works on a world of its own, and its operations take time there;
an operation that runs out of the time it is given ends where it waits, and what it did before
stays done.
-/

namespace GridQuery

/-- A world with the time in milliseconds that is left, if time is limited. -/
structure Timed (σ : Type) where
  left : Option Nat
  world : σ

/-- An operation on a world of type `σ`, which may run out of time. -/
abbrev Action (σ : Type) := OptionT (StateM (Timed σ))

namespace Action

variable {σ α : Type}

/-- Lets time go by; it ends here if there is too little of it. -/
def wait (ms : Nat) : Action σ Unit := do
  let t ← get
  match t.left with
  | none => pure ()
  | some left => if left < ms then failure else set { t with left := some (left - ms) }

def world : Action σ σ := do return (← get).world

def update (f : σ → σ) : Action σ Unit := modify fun t => { t with world := f t.world }

/-- Runs an operation with the given time; no result if it ran out. -/
def runFor (a : Action σ α) (time : Option Nat) (w : σ) : Option α × σ :=
  let (r, t) := (OptionT.run a).run ⟨time, w⟩
  (r, t.world)

end Action

/-- The rows of a page and both counts. -/
structure PageRows where
  rows : List Row
  filtered : Nat
  total : Nat

/-- A database as the engine uses it. -/
structure Backend (σ : Type) where
  dialect : Dialect
  ping : Action σ (Except DatabaseError Unit)
  describe : String → Action σ (Except SchemaFailure Schema)
  fetchRows : Statement → List SelectedColumn → Action σ (Except DatabaseError (List Row))
  fetchCount : Statement → Action σ (Except DatabaseError Nat)
  fetchPage : Plan → Action σ (Except ExecutionFailure PageRows)

namespace Backend

variable {σ : Type}

/-- The three statements of a plan one after the other, up to the first that fails. -/
def pageInSequence
    (fetchRows : Statement → List SelectedColumn → Action σ (Except DatabaseError (List Row)))
    (fetchCount : Statement → Action σ (Except DatabaseError Nat)) (p : Plan) :
    Action σ (Except DatabaseError PageRows) := do
  match ← fetchRows p.data p.selected with
  | .error e => return .error e
  | .ok rows =>
    match ← fetchCount p.filteredCount with
    | .error e => return .error e
    | .ok filtered =>
      match ← fetchCount p.totalCount with
      | .error e => return .error e
      | .ok total => return .ok ⟨rows, filtered, total⟩

/-- A failure of one of a plan's statements. -/
def executionFailure (d : Dialect) (p : Plan) (e : DatabaseError) : ExecutionFailure :=
  ⟨d, p.table, e⟩

/-- The schema of the names and types that a catalog reports. A table without columns is none. -/
def schemaOf (d : Dialect) (table : String) (columns : List (String × String)) :
    Except SchemaFailure Schema :=
  if columns.isEmpty then .error (.tableNotFound d table)
  else .ok (columns.map fun c => ⟨c.1, c.2, d.category c.2⟩)

end Backend

end GridQuery
