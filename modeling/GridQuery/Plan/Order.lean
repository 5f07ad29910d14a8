import GridQuery.Grid.Diagnostic
import GridQuery.Grid.Request
import GridQuery.Sql.Dialect

/-!
# Orders

A sort key names an exposed column; the order of a statement names the column of the table,
behind the table's name, as the same name also stands for the column read as text.
-/

namespace GridQuery

/-- The source and direction of a sort key, or what is wrong with it. -/
def SortKey.resolve (columns : List Column) (schema : Schema) (k : SortKey) :
    Except Diagnostic (String × Direction) :=
  match Column.find? columns k.exposed with
  | none => .error ⟨k.exposed, .unknownColumn⟩
  | some c =>
    if !c.sortable then .error ⟨c.exposed, .notSortable⟩
    else if (schema.find? c.source).isNone then .error ⟨c.source, .missingSchemaColumn⟩
    else .ok (c.source, k.direction)

namespace Order

/-- The keys that can be sorted by, in their order. -/
def resolved (columns : List Column) (schema : Schema) (order : List SortKey) :
    List (String × Direction) :=
  order.filterMap fun k => (k.resolve columns schema).toOption

/-- The diagnostics of the other keys. -/
def findings (columns : List Column) (schema : Schema) (order : List SortKey) : List Diagnostic :=
  order.filterMap fun k =>
    match k.resolve columns schema with
    | .error d => some d
    | .ok _ => none

/-- A sort item in SQL. -/
def item (d : Dialect) (table : String) (k : String × Direction) : String :=
  d.escape table ++ "." ++ d.escape k.1 ++ " " ++ k.2.keyword

/-- The sort items of an order. -/
def items (d : Dialect) (table : String) (columns : List Column) (schema : Schema)
    (order : List SortKey) : List String :=
  (resolved columns schema order).map (item d table)

end Order

end GridQuery
