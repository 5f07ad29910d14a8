import GridQuery.Backend.Connection
import GridQuery.Settings
import GridQuery.Text.Case
import GridQuery.Text.Find

/-!
# A scripted database

A database that answers from a script: the types of its tables' columns, one set of rows for
every query, two counts, and statements that fail. It keeps a log of the statements it ran.
-/

namespace GridQuery

/-- What logging in leads to. -/
inductive Login where
  | accepted
  | refused (text : String)
  /-- Nobody listens. -/
  | absent
  /-- There is no way to the place where somebody might listen. -/
  | cutOff
deriving DecidableEq, Repr

structure Script where
  dialect : Dialect
  tables : List (String × List (String × String))
  rows : List (List (Option String))
  filtered : Int
  total : Int
  /-- Pieces of statements with the text of the failure that they lead to. Behind a leading
  equals sign stands a whole statement. -/
  failures : List (String × String)
  login : Login
deriving DecidableEq, Repr

namespace Script

open Text

/-- A script with the log of the statements that were run. -/
structure Session where
  script : Script
  log : List Statement

/-- The statement is one that the entry speaks of. -/
def isMeant (sql : String) (entry : String) : Bool :=
  match entry.toList with
  | '=' :: whole => sql.toList == whole
  | _ => containsText sql entry

/-- The text of the first failure that a statement leads to. -/
def failure? (s : Script) (sql : String) : Option String :=
  (s.failures.find? fun f => isMeant sql f.1).map (·.2)

/-- The fault that a database of the dialect reports for a statement. -/
def reportedFault (d : Dialect) (text : String) : DatabaseError :=
  match d with
  | .mysql => .reported ("1105 (HY000): " ++ text)
  | .postgres => .reported text

def cellOf : Option String → Cell
  | some t => .text t
  | none => .null

/-- The columns of the table that the first value names. -/
def catalogRows (s : Script) (values : List Value) : List (List Cell) :=
  match values with
  | .text table :: _ => ((s.tables.lookup table).getD []).map fun c => [.text c.1, .text c.2]
  | _ => []

/-- The rows of a query, all as wide as the first one. -/
def dataRows (s : Script) : List (List Cell) :=
  let width := (s.rows.head?.map List.length).getD 1
  s.rows.map fun row => ((row ++ List.replicate width none).take width).map cellOf

/-- The result of a statement that does not fail. -/
def result (s : Script) (st : Statement) : ResultSet :=
  if containsText (asciiLower st.sql) "information_schema.columns" then
    ⟨s.catalogRows st.values⟩
  else if startsWith st.sql "SELECT COUNT(*)" then
    ⟨[[.int (if containsText st.sql " WHERE " then s.filtered else s.total)]]⟩
  else if st.sql = "SELECT 1" then ⟨[[.int 1]]⟩
  else if startsWith st.sql "SELECT " then ⟨s.dataRows⟩
  else ⟨[]⟩

/-- A value as it arrives: datetimes lose what is smaller than a microsecond. -/
def arrived : Value → Value
  | .dateTime t => .dateTime t.wholeMicros
  | v => v

def execute (st : Statement) (s : Session) : Except DatabaseError ResultSet × Session :=
  let st : Statement := ⟨st.sql, st.values.map arrived⟩
  (match s.script.failure? st.sql with
    | some text => .error (reportedFault s.script.dialect text)
    | none => .ok (s.script.result st),
    { s with log := s.log ++ [st] })

/-- The cells of a script are of the types they are read as. -/
def connection : Connection Session := ⟨execute, fun _ _ => "mismatched types"⟩

/-- Logs in, or says why not. -/
def connect (s : Script) : Except DatabaseError Session :=
  match s.login with
  | .accepted => .ok ⟨s, []⟩
  | .refused text =>
    .error (.reported (match s.dialect with
      | .mysql => "1045 (28000): " ++ text
      | .postgres => text))
  | .absent => .error (.unreachable "No such file or directory (os error 2)")
  | .cutOff => .error (.unreachable "Network is unreachable (os error 101)")

end Script

end GridQuery
