import GridQuery.Json.Basic
import GridQuery.Number.Decimal
import GridQuery.Sql.Category

/-!
# Cells

A cell arrives as text and becomes the JSON value that its column's category suggests. A text
that does not fit the category stays a string.
-/

namespace GridQuery

/-- The JSON value of a text in a column of a category. -/
def Json.ofCellText (category : Category) (s : String) : Json :=
  match category with
  | .integer =>
    match IntegerRange.signed64.read? s with
    | some n => .ofInt n
    | none =>
      match IntegerRange.unsigned64.read? s with
      | some n => .ofInt n
      | none => .string s
  | .float =>
    match Double.read? s with
    | some x => .number (.double x)
    | none => .string s
  | .boolean =>
    if s = "t" ∨ s = "true" ∨ s = "1" then .bool true
    else if s = "f" ∨ s = "false" ∨ s = "0" then .bool false
    else .string s
  | _ => .string s

/-- The JSON value of a cell; null for an absent one. -/
def Json.ofCell (category : Category) : Option String → Json
  | some s => .ofCellText category s
  | none => .null

end GridQuery
