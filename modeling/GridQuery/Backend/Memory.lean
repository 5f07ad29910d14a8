import GridQuery.Backend.Basic
import GridQuery.Engine.Service
import GridQuery.Grid.Cell
import GridQuery.Text.Find

/-!
# A database in memory

A stand-in for a database: tables that it describes, rows and counts that it gives for every
statement, a time that describing and reading rows take, and one operation that may fail. It
remembers what it was asked.
-/

namespace GridQuery

/-- What the stand-in answers, and what it was asked. -/
structure Memory where
  dialect : Dialect
  tables : List (String × Schema)
  rows : List (List (String × Option String))
  filtered : Nat
  total : Nat
  /-- Milliseconds. -/
  delay : Nat
  /-- The name of the operation that fails. -/
  failing : String
  describeCalls : Nat
  /-- The statements that were run, in their order. -/
  statements : List Statement

namespace Memory

/-- A stand-in that knows no table. -/
def ofDialect (d : Dialect) : Memory := ⟨d, [], [], 0, 0, 0, "", 0, []⟩

def refusal (operation : String) : DatabaseError := .protocol (operation ++ " refused")

/-- A row as it is given: the selected columns that it has. -/
def rowOf (selected : List SelectedColumn) (row : List (String × Option String)) : Row :=
  Members.ofList (selected.filterMap fun c =>
    (row.lookup c.source).map fun cell => (c.source, Json.ofCell c.category cell))

def record (st : Statement) (m : Memory) : Memory := { m with statements := m.statements ++ [st] }

def fetchRows (st : Statement) (selected : List SelectedColumn) :
    Action Memory (Except DatabaseError (List Row)) := do
  Action.update (record st)
  let m ← Action.world
  Action.wait m.delay
  return if m.failing = "rows" then .error (refusal "rows") else .ok (m.rows.map (rowOf selected))

/-- The statement has a WHERE. -/
def isRestricted (st : Statement) : Bool :=
  Text.containsText st.sql " WHERE "

def fetchCount (st : Statement) : Action Memory (Except DatabaseError Nat) := do
  Action.update (record st)
  let m ← Action.world
  return if m.failing = "count" then .error (refusal "count")
    else .ok (if isRestricted st then m.filtered else m.total)

def describe (table : String) : Action Memory (Except SchemaFailure Schema) := do
  Action.update fun m => { m with describeCalls := m.describeCalls + 1 }
  let m ← Action.world
  Action.wait m.delay
  return if m.failing = "describe" then .error (.catalog m.dialect table (refusal "describe"))
    else match m.tables.lookup table with
      | some schema => .ok schema
      | none => .error (.tableNotFound m.dialect table)

def ping : Action Memory (Except DatabaseError Unit) := do
  let m ← Action.world
  return if m.failing = "ping" then .error (refusal "ping") else .ok ()

def backend (d : Dialect) : Backend Memory where
  dialect := d
  ping := ping
  describe := describe
  fetchRows := fetchRows
  fetchCount := fetchCount
  fetchPage p := do
    return (← Backend.pageInSequence fetchRows fetchCount p).mapError (Backend.executionFailure d p)

/-- Several looks at one table that start together. Where describing takes no time, the first
is done before the second starts. -/
def describeTogether (s : Service Memory) (table : String) (n : Nat) :
    Serving Memory (List (Except EngineFailure Schema)) := do
  if (← get).world.delay = 0 then (List.replicate n table).mapM s.describe
  else s.describeTogether table n

end Memory

end GridQuery
