import GridQuery.Grid.Diagnostic
import GridQuery.View.Basic
import GridQuery.Widget.Body

/-!
# The request that a body makes of a view

A body names columns by their exposed names. What it asks for in vain, such as sorting by a
column it does not list, is reported and left out.
-/

namespace GridQuery.Widget

namespace BodyColumn

/-- The exposed name: the first of data and name that is not empty. -/
def exposed? (c : BodyColumn) : Option String :=
  (c.data.filter (!·.isEmpty)).or (c.name.filter (!·.isEmpty))

/-- The search entry of a column with a name. -/
def entry? (c : BodyColumn) : Option ColumnSearch :=
  c.exposed?.map fun exposed =>
    ⟨exposed, c.search.value.getD "", c.search.regex.getD false, c.searchable.getD true⟩

end BodyColumn

namespace Body

/-- What the client searches for. -/
def searchOf (b : Body) : Search :=
  ⟨b.columns.filterMap BodyColumn.entry?,
    (b.search.value.filter (!·.isEmpty)).map fun term => ⟨term, b.search.regex.getD false⟩⟩

/-- The column at a place, if the place is one. -/
def columnAt? (b : Body) (i : Int) : Option BodyColumn :=
  if 0 ≤ i then b.columns[i.toNat]? else none

/-- The sort key of an order item, or what is wrong with it. -/
def sortKey (b : Body) (o : BodyOrder) : Except Diagnostic SortKey :=
  let i := o.column.getD (-1)
  match (b.columnAt? i).bind fun c => c.exposed?.map fun n => (c, n) with
  | none => .error ⟨"#" ++ toString i, .unknownColumn⟩
  | some (c, exposed) =>
    if !c.orderable.getD true then .error ⟨exposed, .notSortable⟩
    else
      let direction := o.direction.getD "asc"
      match Direction.ofText? direction with
      | some dir => .ok ⟨exposed, dir⟩
      | none => .error ⟨exposed, .invalidDirection direction⟩

def sortKeys (b : Body) : List SortKey := b.order.filterMap fun o => (b.sortKey o).toOption

/-- The diagnostics of the order items that are left out. -/
def findings (b : Body) : List Diagnostic :=
  b.order.filterMap fun o =>
    match b.sortKey o with
    | .error d => some d
    | .ok _ => none

/-- The page that is shown: no more rows than `maxSize`, and that many if all are asked for. -/
def page (b : Body) (maxSize : Nat) : Page :=
  let limit := match b.length with
    | some n => if 0 < n then min n.toNat maxSize else maxSize
    | none => min Page.first.limit maxSize
  Page.of (b.start.getD 0).toNat limit

/-- The request of the body to a view. -/
def request (b : Body) (v : View) (maxSize : Nat) : Request :=
  ⟨v.table, v.columns, b.searchOf, b.sortKeys, b.page maxSize, b.draw, v.base⟩

end Body

end GridQuery.Widget
