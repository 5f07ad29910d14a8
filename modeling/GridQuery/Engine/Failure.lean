import GridQuery.Grid.Request
import GridQuery.Sql.Dialect
import GridQuery.Text.Duration

/-!
# Failures

What can go wrong while a request is served, by cause. A problem with a single column is not
among these: it is a diagnostic, and the request goes on.
-/

namespace GridQuery

/-- A failure of the database or of the way to it. -/
inductive DatabaseError where
  /-- An answer that makes no sense. -/
  | protocol (text : String)
  /-- A fault that the database reports. -/
  | reported (text : String)
  /-- The database cannot be reached. -/
  | unreachable (reason : String)
  /-- The address of the database cannot be read. -/
  | badAddress (reason : String)
  /-- A column beyond the width of a row. -/
  | noColumn (width index : Nat)
  /-- No column has the name. -/
  | noColumnNamed (name : String)
  /-- A cell that is not what it is read as. -/
  | undecoded (column reason : String)
  /-- No row where one is needed. -/
  | noRow
deriving DecidableEq, Repr

namespace DatabaseError

def message : DatabaseError → String
  | .protocol text => "encountered unexpected or invalid data: " ++ text
  | .reported text => "error returned from database: " ++ text
  | .unreachable reason => "error communicating with database: " ++ reason
  | .badAddress reason => "error with configuration: " ++ reason
  | .noColumn width index =>
    "column index out of bounds: the len is " ++ toString width ++ ", but the index is " ++
      toString index
  | .noColumnNamed name => "no column found for name: " ++ name
  | .undecoded column reason => "error occurred while decoding column " ++ column ++ ": " ++ reason
  | .noRow => "no rows returned by a query that expected to return at least one row"

/-- What lies behind the failure, if its text says so. -/
def cause? : DatabaseError → Option String
  | .reported text => some text
  | .unreachable reason => some reason
  | .badAddress reason => some reason
  | .undecoded _ reason => some reason
  | _ => none

end DatabaseError

/-- Why the columns of a table are not known. -/
inductive SchemaFailure where
  | tableNotFound (d : Dialect) (table : String)
  | catalog (d : Dialect) (table : String) (e : DatabaseError)
deriving DecidableEq, Repr

def SchemaFailure.message : SchemaFailure → String
  | .tableNotFound d table =>
    "table '" ++ table ++ "' does not exist or has no visible columns (" ++ d.name ++ ")"
  | .catalog d table e =>
    "catalog query for table '" ++ table ++ "' failed (" ++ d.name ++ "): " ++ e.message

/-- A statement of a plan failed. -/
structure ExecutionFailure where
  dialect : Dialect
  table : String
  error : DatabaseError
deriving DecidableEq, Repr

def ExecutionFailure.message (f : ExecutionFailure) : String :=
  "query on table '" ++ f.table ++ "' failed (" ++ f.dialect.name ++ "): " ++ f.error.message

/-- Why a request fails. -/
inductive EngineFailure where
  | schema (f : SchemaFailure)
  | execution (f : ExecutionFailure)
  /-- The time in milliseconds went by. -/
  | timeout (d : Dialect) (table : String) (after : Nat)
  | invalidRequest (f : RequestFault)
deriving DecidableEq, Repr

def EngineFailure.message : EngineFailure → String
  | .schema f => f.message
  | .execution f => f.message
  | .timeout d table after =>
    "query on table '" ++ table ++ "' timed out after " ++ Text.duration after ++
      " (" ++ d.name ++ ")"
  | .invalidRequest f => f.message

end GridQuery
