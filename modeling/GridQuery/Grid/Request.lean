import GridQuery.Grid.Column
import GridQuery.Sql.Value
import GridQuery.Text.Blank
import GridQuery.Text.Case

/-!
# Requests

A request for a page of a table: what the client searches for and how it sorts, and the
conditions that the caller imposes beside that.
-/

namespace GridQuery

/-! ## Searching -/

/-- A search term for one exposed column. -/
structure ColumnSearch where
  exposed : String
  term : String
  regex : Bool
  /-- The client allows the column to be searched. -/
  allowed : Bool
deriving DecidableEq

/-- A search term for all columns. -/
structure GlobalSearch where
  term : String
  regex : Bool
deriving DecidableEq

structure Search where
  perColumn : List ColumnSearch
  overall : Option GlobalSearch
deriving DecidableEq

namespace Search

def empty : Search := ⟨[], none⟩

/-- No entry of the client forbids searching the column. -/
def allows (s : Search) (exposed : String) : Bool :=
  (s.perColumn.filter (·.exposed == exposed)).all (·.allowed)

end Search

/-! ## Sorting -/

inductive Direction where
  | asc
  | desc
deriving DecidableEq, Repr

namespace Direction

/-- The keyword in SQL. -/
def keyword : Direction → String
  | .asc => "ASC"
  | .desc => "DESC"

/-- The name in data. -/
def key : Direction → String
  | .asc => "asc"
  | .desc => "desc"

def ofText? (s : String) : Option Direction :=
  match Text.asciiLower (Text.trim s) with
  | "asc" => some .asc
  | "desc" => some .desc
  | _ => none

end Direction

structure SortKey where
  exposed : String
  direction : Direction
deriving DecidableEq, Repr

/-! ## Paging -/

/-- A stretch of the rows. -/
structure Page where
  offset : Nat
  limit : Nat
  limit_pos : 1 ≤ limit
deriving DecidableEq

namespace Page

/-- A limit of zero is raised to one. -/
def of (offset limit : Nat) : Page := ⟨offset, max limit 1, Nat.le_max_right _ _⟩

/-- The first ten rows. -/
def first : Page := of 0 10

end Page

/-! ## Conditions -/

inductive Comparison where
  | eq
  | ne
  | lt
  | le
  | gt
  | ge
  | isNull
  | isNotNull
deriving DecidableEq, Repr

namespace Comparison

/-- The operator in SQL. -/
def operator : Comparison → String
  | .eq => "="
  | .ne => "<>"
  | .lt => "<"
  | .le => "<="
  | .gt => ">"
  | .ge => ">="
  | .isNull => "IS NULL"
  | .isNotNull => "IS NOT NULL"

/-- The name in data. -/
def key : Comparison → String
  | .eq => "eq"
  | .ne => "ne"
  | .lt => "lt"
  | .le => "le"
  | .gt => "gt"
  | .ge => "ge"
  | .isNull => "is_null"
  | .isNotNull => "is_not_null"

def takesValue : Comparison → Bool
  | .isNull => false
  | .isNotNull => false
  | _ => true

/-- All comparisons, in the order in which they are named. -/
def every : List Comparison := [.eq, .ne, .lt, .le, .gt, .ge, .isNull, .isNotNull]

end Comparison

/-- A condition on a column of the table. -/
structure Condition where
  column : String
  comparison : Comparison
  value : Option Value
deriving DecidableEq

/-- The caller's conditions. -/
structure BaseConditions where
  /-- Restrict the page and the count of the rows found. -/
  result : List Condition
  /-- Restrict everything, the count of all rows included. -/
  all : List Condition
deriving DecidableEq

namespace BaseConditions

def none : BaseConditions := ⟨[], []⟩

def isEmpty (b : BaseConditions) : Bool := b.result.isEmpty && b.all.isEmpty

end BaseConditions

/-! ## Requests -/

structure Request where
  table : String
  columns : List Column
  search : Search
  order : List SortKey
  page : Page
  /-- A token of the client, given back as it is. -/
  draw : Json
  base : BaseConditions

/-- Why a request cannot be served. -/
inductive RequestFault where
  | blankTable
  | noColumns
  | repeatedName (exposed : String)
  | noKnownColumn (table : String)
  | missingValue (column : String)
deriving DecidableEq, Repr

namespace RequestFault

def reason : RequestFault → String
  | .blankTable => "table name must not be empty"
  | .noColumns => "at least one column descriptor is required"
  | .repeatedName n => "exposed name '" ++ n ++ "' is used by more than one column"
  | .noKnownColumn t => "none of the configured columns exist in table '" ++ t ++ "'"
  | .missingValue c => "condition on '" ++ c ++ "' requires a value"

def message (f : RequestFault) : String := "invalid request: " ++ f.reason

end RequestFault

/-- What can be said of a request without looking at the table. -/
def Request.check (r : Request) : Except RequestFault Unit :=
  if Text.allBlank r.table then .error .blankTable
  else if r.columns.isEmpty then .error .noColumns
  else match Column.repeatedName r.columns with
    | some n => .error (.repeatedName n)
    | none => .ok ()

end GridQuery
