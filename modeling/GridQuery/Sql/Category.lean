/-!
# Type categories

A column's raw type is put into one of seven categories, and everything that depends on the
type of a column depends on its category only.
-/

namespace GridQuery

inductive Category where
  | text
  | integer
  | float
  | boolean
  | date
  | dateTime
  | unknown
deriving DecidableEq, Repr

namespace Category

/-- The name in messages. -/
def label : Category → String
  | .text => "text"
  | .integer => "integer"
  | .float => "float"
  | .boolean => "boolean"
  | .date => "date"
  | .dateTime => "datetime"
  | .unknown => "unknown"

/-- The name in data. -/
def key : Category → String
  | .dateTime => "date_time"
  | c => c.label

end Category

/-- A column of a table as its catalog reports it. -/
structure CatalogColumn where
  source : String
  rawType : String
  category : Category
deriving DecidableEq, Repr

/-- The columns of a table, in the order of the catalog. -/
abbrev Schema := List CatalogColumn

/-- The first column with a name. -/
def Schema.find? (schema : Schema) (source : String) : Option CatalogColumn :=
  List.find? (·.source == source) schema

end GridQuery
