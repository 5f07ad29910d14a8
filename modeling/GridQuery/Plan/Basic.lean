import GridQuery.Plan.Filter
import GridQuery.Plan.Order
import GridQuery.Sql.Statement

/-!
# Plans

The three statements that serve a request: a page of rows, the count of the rows found, and
the count of all rows. The page and the first count share one WHERE, the second count has
only the caller's conditions on everything.
-/

namespace GridQuery

/-- A column of the select list. -/
structure SelectedColumn where
  source : String
  category : Category
deriving DecidableEq, Repr

structure Plan where
  table : String
  /-- The columns of the rows, in their order. -/
  selected : List SelectedColumn
  data : Statement
  filteredCount : Statement
  totalCount : Statement
deriving DecidableEq

namespace Condition

/-- The condition in SQL. -/
def predicate (d : Dialect) (c : Condition) : Except RequestFault Predicate :=
  let p := Predicate.empty.push (d.escape c.column) |>.push " " |>.push c.comparison.operator
  if c.comparison.takesValue then
    match c.value with
    | some v => .ok (p.push " " |>.bind v)
    | none => .error (.missingValue c.column)
  else .ok p

/-- All of the conditions. -/
def group (d : Dialect) (cs : List Condition) : Except RequestFault (Option Predicate) :=
  (cs.mapM (predicate d)).map Predicate.all

end Condition

namespace Plan

/-- The distinct sources that are in the schema, in the order of the columns. -/
def select (columns : List Column) (schema : Schema) : List SelectedColumn :=
  (columns.map (·.source)).eraseDups.filterMap fun s =>
    (schema.find? s).map fun c => ⟨c.source, c.category⟩

/-- The diagnostics of the sources that are not in the schema. -/
def selectFindings (columns : List Column) (schema : Schema) : List Diagnostic :=
  (columns.filter fun c => (schema.find? c.source).isNone).map fun c =>
    ⟨c.source, .missingSchemaColumn⟩

/-- All diagnostics that planning the request makes. -/
def findings (r : Request) (schema : Schema) : List Diagnostic :=
  selectFindings r.columns schema ++
    if (select r.columns schema).isEmpty then []
    else
      Filter.findings r.columns schema r.search ++ Order.findings r.columns schema r.order

/-- Appends the WHERE, if there is one. -/
def pushWhere (d : Dialect) (p : Option Predicate) (s : Statement) : Statement :=
  match p with
  | some p => (s.push " WHERE ").pushPredicate d p
  | none => s

/-- A selected column, read as text and named as it is. -/
def selectItem (d : Dialect) (c : SelectedColumn) : String :=
  d.asText (d.escape c.source) ++ " AS " ++ d.escape c.source

/-- The statement for a page. -/
def dataStatement (d : Dialect) (table : String) (selected : List SelectedColumn)
    (filter : Option Predicate) (order : List String) (page : Page) : Statement :=
  let s := Statement.empty
    |>.push "SELECT "
    |>.push (String.intercalate ", " (selected.map (selectItem d)))
    |>.push " FROM "
    |>.push (d.escape table)
  let s := pushWhere d filter s
  let s := if order.isEmpty then s else s.push " ORDER BY " |>.push (String.intercalate ", " order)
  s.push " LIMIT " |>.bind d (.ofNat page.limit) |>.push " OFFSET " |>.bind d (.ofNat page.offset)

/-- The statement for a count. -/
def countStatement (d : Dialect) (table : String) (filter : Option Predicate) : Statement :=
  pushWhere d filter (Statement.empty.push "SELECT COUNT(*) FROM " |>.push (d.escape table))

/-- The plan of a request against a schema. -/
def ofRequest (d : Dialect) (r : Request) (schema : Schema) : Except RequestFault Plan :=
  let selected := select r.columns schema
  if selected.isEmpty then .error (.noKnownColumn r.table)
  else do
    let result ← Condition.group d r.base.result
    let all ← Condition.group d r.base.all
    let filter := (Filter.ofSearch d r.columns schema r.search).predicate
    let found := Predicate.conjunction (filter.toList ++ result.toList ++ all.toList)
    return {
      table := r.table
      selected := selected
      data := dataStatement d r.table selected found
        (Order.items d r.table r.columns schema r.order) r.page
      filteredCount := countStatement d r.table found
      totalCount := countStatement d r.table all }

end Plan

end GridQuery
