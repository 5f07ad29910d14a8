import GridQuery.Calendar.Format
import GridQuery.Calendar.Read
import GridQuery.Grid.Column
import GridQuery.Text.Blank
import GridQuery.Text.Case

/-!
# Transforms

What a view can ask to be done to the texts of a column. Values other than strings pass
unchanged, and so does a text that should be a datetime and is none.
-/

namespace GridQuery

inductive Transform where
  | uppercase
  | lowercase
  | trim
  | dateFormat (f : DateFormat)
deriving DecidableEq, Repr

namespace Transform

/-- The transformed text, unless a format asks for the zone of a datetime. -/
def onText (t : Transform) (s : String) : Option String :=
  match t with
  | .uppercase => some (Text.upper s)
  | .lowercase => some (Text.lower s)
  | .trim => some (Text.trim s)
  | .dateFormat f =>
    match Calendar.readCell s with
    | some dt => f.render? dt
    | none => some s

def onValue (t : Transform) : Json → Option Json
  | .string s => (t.onText s).map .string
  | v => some v

/-- The transform of a column, which looks at its own value only. -/
def toCellTransform (t : Transform) : CellTransform := fun v _ => t.onValue v

end Transform

end GridQuery
