import GridQuery.Grid.Request

/-!
# Views and their registry

A view is the server's half of a request: a table, its exposed columns, and the conditions
that hold whatever the client asks. The registry keeps views in increasing order of their
names.
-/

namespace GridQuery

structure View where
  name : String
  table : String
  columns : List Column
  base : BaseConditions

/-- Views by name. -/
structure Registry where
  views : List View

namespace Registry

def empty : Registry := ⟨[]⟩

/-- Puts a view into its place, instead of one of the same name. -/
def place (v : View) : List View → List View
  | [] => [v]
  | w :: rest =>
    if v.name < w.name then v :: w :: rest
    else if v.name = w.name then v :: rest
    else w :: place v rest

def insert (r : Registry) (v : View) : Registry := ⟨place v r.views⟩

def get? (r : Registry) (name : String) : Option View := r.views.find? (·.name == name)

def names (r : Registry) : List String := r.views.map (·.name)

def size (r : Registry) : Nat := r.views.length

def isEmpty (r : Registry) : Bool := r.views.isEmpty

end Registry

end GridQuery
