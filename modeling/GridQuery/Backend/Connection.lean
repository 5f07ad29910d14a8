import GridQuery.Backend.Basic
import GridQuery.Grid.Cell
import GridQuery.Text.Quoted

/-!
# Backends over a connection

A connection runs one statement at a time and answers with rows of cells. A cell is read as what is
wanted of it, and a cell that is not there, is empty, or is of another type ends the reading of the
whole result. The backend of a dialect asks for the catalog with the dialect's query, and reads a
page within one transaction, so that both counts fit the rows.
-/

namespace GridQuery

/-- A cell of a result. -/
inductive Cell where
  | null
  | text (s : String)
  | int (n : Int)
deriving DecidableEq, Repr

/-- The rows of a result. -/
structure ResultSet where
  rows : List (List Cell)
deriving DecidableEq, Repr

/-- What a cell may be read as. -/
inductive Target where
  | text
  | optionalText
  | integer
deriving DecidableEq, Repr

/-- Runs statements in a world of type `σ`. -/
structure Connection (σ : Type) where
  execute : Statement → σ → Except DatabaseError ResultSet × σ
  /-- What is said of a cell whose type is not the one it is read as. -/
  mismatch : Target → Cell → String

/-! ## Cells -/

namespace Cell

variable (mismatch : Target → Cell → String)

def unexpectedNull : String := "unexpected null; try decoding as an `Option`"

def asText : Cell → Except String String
  | .text s => .ok s
  | .null => .error unexpectedNull
  | .int n => .error (mismatch .text (.int n))

def asOptionalText : Cell → Except String (Option String)
  | .text s => .ok (some s)
  | .null => .ok none
  | .int n => .error (mismatch .optionalText (.int n))

def asInteger : Cell → Except String Int
  | .int n => .ok n
  | .null => .error unexpectedNull
  | .text s => .error (mismatch .integer (.text s))

end Cell

/-- Where a cell is looked for in a row: at a place, or under the name that the query gives to the
column at the place. -/
inductive Place where
  | at (index : Nat)
  | named (name : String) (index : Nat)

namespace Place

def index : Place → Nat
  | .at i => i
  | .named _ i => i

/-- How the place is called in a failure. -/
def label : Place → String
  | .at i => toString i
  | .named name _ => Text.quoted name

/-- The failure if a row of the width has no cell there. -/
def missing (width : Nat) : Place → DatabaseError
  | .at i => .noColumn width i
  | .named name _ => .noColumnNamed name

/-- Reads the cell of a row. -/
def decode {α : Type} (p : Place) (read : Cell → Except String α) (row : List Cell) :
    Except DatabaseError α :=
  match row[p.index]? with
  | none => .error (p.missing row.length)
  | some c => (read c).mapError (.undecoded p.label)

end Place

namespace ResultSet

variable (mismatch : Target → Cell → String)

/-- A row under the selected columns, whose values stand in their order. -/
def decodeRow (selected : List SelectedColumn) (row : List Cell) : Except DatabaseError Row := do
  let values ← selected.zipIdx.mapM fun (c, i) => do
    let text ← (Place.at i).decode (Cell.asOptionalText mismatch) row
    return (c.source, Json.ofCell c.category text)
  return Members.ofList values

def decodeRows (selected : List SelectedColumn) (r : ResultSet) : Except DatabaseError (List Row) :=
  r.rows.mapM (decodeRow mismatch selected)

/-- The count in the first cell; a negative one is none at all. -/
def decodeCount (r : ResultSet) : Except DatabaseError Nat :=
  match r.rows with
  | [] => .error .noRow
  | row :: _ => do
    let n ← (Place.at 0).decode (Cell.asInteger mismatch) row
    return n.toNat

/-- A name and a type as a catalog query reports them. -/
def decodeColumn (row : List Cell) : Except DatabaseError (String × String) := do
  let name ← (Place.named "column_name" 0).decode (Cell.asText mismatch) row
  let rawType ← (Place.named "column_type" 1).decode (Cell.asText mismatch) row
  return (name, rawType)

def decodeCatalog (r : ResultSet) : Except DatabaseError (List (String × String)) :=
  r.rows.mapM (decodeColumn mismatch)

end ResultSet

/-! ## Backends -/

namespace Connection

variable {σ : Type}

/-- Runs a statement. -/
def send (c : Connection σ) (st : Statement) : Action σ (Except DatabaseError ResultSet) := do
  let (r, w) := c.execute st (← Action.world)
  Action.update fun _ => w
  return r

/-- A statement without values. -/
def plain (sql : String) : Statement := ⟨sql, []⟩

def fetchRows (c : Connection σ) (st : Statement) (selected : List SelectedColumn) :
    Action σ (Except DatabaseError (List Row)) := do
  return (← c.send st).bind (ResultSet.decodeRows c.mismatch selected)

def fetchCount (c : Connection σ) (st : Statement) : Action σ (Except DatabaseError Nat) := do
  return (← c.send st).bind (ResultSet.decodeCount c.mismatch)

def describe (c : Connection σ) (d : Dialect) (table : String) :
    Action σ (Except SchemaFailure Schema) := do
  let answer ← c.send ⟨d.describeSql, [.text table]⟩
  match answer.bind (ResultSet.decodeCatalog c.mismatch) with
  | .error e => return .error (.catalog d table e)
  | .ok columns => return Backend.schemaOf d table columns

/-- What opens a transaction that reads from one snapshot. -/
def opening : Dialect → List String
  | .mysql => ["BEGIN"]
  | .postgres => ["BEGIN", "SET TRANSACTION ISOLATION LEVEL REPEATABLE READ, READ ONLY"]

/-- Runs statements without values up to the first that fails. -/
def sendAll (c : Connection σ) : List String → Action σ (Except DatabaseError Unit)
  | [] => return .ok ()
  | sql :: rest => do
    match ← c.send (plain sql) with
    | .error e => return .error e
    | .ok _ => c.sendAll rest

/-- The page of a plan within one transaction, up to the first step that fails. -/
def transaction (c : Connection σ) (d : Dialect) (p : Plan) :
    Action σ (Except DatabaseError PageRows) := do
  match ← c.sendAll (opening d) with
  | .error e => return .error e
  | .ok () =>
    match ← Backend.pageInSequence c.fetchRows c.fetchCount p with
    | .error e => return .error e
    | .ok page =>
      match ← c.sendAll ["COMMIT"] with
      | .error e => return .error e
      | .ok () => return .ok page

def backend (c : Connection σ) (d : Dialect) : Backend σ where
  dialect := d
  ping := do return (← c.send (plain "SELECT 1")).map fun _ => ()
  describe := c.describe d
  fetchRows := c.fetchRows
  fetchCount := c.fetchCount
  fetchPage p := do return (← c.transaction d p).mapError (Backend.executionFailure d p)

end Connection

end GridQuery
