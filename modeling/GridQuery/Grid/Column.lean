import GridQuery.Json.Basic
import GridQuery.Text.Quoted

/-!
# Columns of a view

A column of a view takes its values from a column of the table, the source, and shows them
under its exposed name.
-/

namespace GridQuery

/-- A row of a table: the values by source. -/
abbrev Row := Members

/-- A row of a response: the values by exposed name. -/
abbrev Record := Members

/-- What is made of a value before it is shown, given the value and its whole row. There is
no result when the value cannot be written in the wanted form. -/
abbrev CellTransform := Json → Row → Option Json

structure Column where
  source : String
  exposed : String
  sortable : Bool
  searchable : Bool
  transform : Option CellTransform

namespace Column

/-- The column as a message shows it; of a transform only its presence. -/
def shown (c : Column) : String :=
  let flag (b : Bool) := if b then "true" else "false"
  "ColumnDescriptor \x7b source: " ++ Text.quoted c.source ++ ", exposed: " ++
    Text.quoted c.exposed ++ ", sortable: " ++ flag c.sortable ++ ", searchable: " ++
    flag c.searchable ++ ", transform: " ++
    (if c.transform.isSome then "Some(" ++ Text.quoted "<fn>" ++ ")" else "None") ++ " \x7d"

/-- The first column with an exposed name. -/
def find? (columns : List Column) (exposed : String) : Option Column :=
  columns.find? (·.exposed == exposed)

/-- The first name that stands earlier in the list already. -/
def firstRepeated (seen : List String) : List String → Option String
  | [] => none
  | n :: ns => if seen.contains n then some n else firstRepeated (n :: seen) ns

/-- The first exposed name of more than one column. -/
def repeatedName (columns : List Column) : Option String :=
  firstRepeated [] (columns.map (·.exposed))

/-- The value of a row under a column, transformed. -/
def value (c : Column) (row : Row) : Option Json :=
  let raw := (row.get? c.source).getD .null
  match c.transform with
  | some f => f raw row
  | none => some raw

/-- The record of a row. -/
def record (columns : List Column) (row : Row) : Option Record :=
  (columns.mapM fun (c : Column) => (c.value row).map fun v => (c.exposed, v)).map Members.ofList

/-- The records of all rows, in their order. -/
def records (columns : List Column) (rows : List Row) : Option (List Record) :=
  rows.mapM (record columns)

end Column

end GridQuery
