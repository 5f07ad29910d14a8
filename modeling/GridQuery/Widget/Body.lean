import GridQuery.Json.Decode
import GridQuery.Number.Integer
import GridQuery.Text.Blank
import GridQuery.Text.Case

/-!
# Request bodies of the table widget

The widget posts what the user searches for, how the columns are sorted and which page is
shown. It may send a number or a truth value as such or as text, so every scalar is read
leniently; a missing field and a null one mean the same.
-/

namespace GridQuery.Widget

/-! ## Scalars -/

/-- The integer of a number that has sixty-four bits with a sign. -/
def wholeNumber? : Number → Option Int
  | .int n => if IntegerRange.signed64.contains n then some n else none
  | .double _ => none

/-- A text; numbers and truth values are read as their JSON text. -/
def textOf : Json → Except DecodeFault (Option String)
  | .null => .ok none
  | .string s => .ok (some s)
  | .number n => .ok (some n.text)
  | .bool b => .ok (some (if b then "true" else "false"))
  | v => .error (.unfit "a string" v)

/-- A truth value; a number is true unless it is zero or not whole. -/
def boolOf : Json → Except DecodeFault (Option Bool)
  | .null => .ok none
  | .bool b => .ok (some b)
  | .number n => .ok (some ((wholeNumber? n).getD 0 != 0))
  | .string s =>
    match Text.asciiLower (Text.trim s) with
    | "" => .ok none
    | "true" | "1" => .ok (some true)
    | "false" | "0" => .ok (some false)
    | _ => .error (.unfit "a boolean" (.string s))
  | v => .error (.unfit "a boolean" v)

/-- An integer of sixty-four bits with a sign. -/
def integerOf : Json → Except DecodeFault (Option Int)
  | .null => .ok none
  | .number n =>
    match wholeNumber? n with
    | some i => .ok (some i)
    | none => .error (.unfit "an integer" (.number n))
  | .string s =>
    if Text.allBlank s then .ok none
    else
      match IntegerRange.signed64.read? (Text.trim s) with
      | some i => .ok (some i)
      | none => .error (.unfit "an integer" (.string s))
  | v => .error (.unfit "an integer" v)

/-! ## Parts of a body -/

/-- A search box: the term and whether it is a pattern. -/
structure SearchBox where
  value : Option String
  regex : Option Bool

structure BodyColumn where
  data : Option String
  name : Option String
  searchable : Option Bool
  orderable : Option Bool
  search : SearchBox

structure BodyOrder where
  /-- A place in the columns, from 0. -/
  column : Option Int
  direction : Option String

structure Body where
  draw : Json
  start : Option Int
  /-- A negative length asks for all rows. -/
  length : Option Int
  search : SearchBox
  columns : List BodyColumn
  order : List BodyOrder

/-! ## Reading -/

/-- A field of a draft that is read as a value first. -/
def valueField {σ α : Type} (name : String) (get : σ → Option α) (f : Json → Except DecodeFault α)
    (set : α → σ → σ) : Document.Field σ :=
  ⟨name, false, fun e => (get e).isSome, fun room d e => do
    let v ← f (← d.asJson room)
    return set v e⟩

/-- A field of a draft with a form of its own. -/
def formField {σ α : Type} (name : String) (get : σ → Option α)
    (f : Nat → Document → Except DecodeFault α) (set : α → σ → σ) : Document.Field σ :=
  ⟨name, false, fun e => (get e).isSome, fun room d e => (f room d).map fun v => set v e⟩

namespace SearchBox

def empty : SearchBox := ⟨none, none⟩

/-- The fields of a search box that were read. -/
structure Draft where
  value : Option (Option String)
  regex : Option (Option Bool)

def fields : List (Document.Field Draft) :=
  [valueField "value" (·.value) textOf fun v e => { e with value := some v },
    valueField "regex" (·.regex) boolOf fun v e => { e with regex := some v }]

def read (room : Nat) (d : Document) : Except DecodeFault SearchBox :=
  (d.asRecord "DataTablesSearch" fields ⟨none, none⟩ room).map fun e =>
    ⟨e.value.join, e.regex.join⟩

end SearchBox

namespace BodyColumn

/-- The fields of a column that were read. -/
structure Draft where
  data : Option (Option String)
  name : Option (Option String)
  searchable : Option (Option Bool)
  orderable : Option (Option Bool)
  search : Option SearchBox

def fields : List (Document.Field Draft) :=
  [valueField "data" (·.data) textOf fun v e => { e with data := some v },
    valueField "name" (·.name) textOf fun v e => { e with name := some v },
    valueField "searchable" (·.searchable) boolOf fun v e => { e with searchable := some v },
    valueField "orderable" (·.orderable) boolOf fun v e => { e with orderable := some v },
    formField "search" (·.search) SearchBox.read fun v e => { e with search := some v }]

def read (room : Nat) (d : Document) : Except DecodeFault BodyColumn :=
  (d.asRecord "DataTablesColumn" fields ⟨none, none, none, none, none⟩ room).map fun e =>
    ⟨e.data.join, e.name.join, e.searchable.join, e.orderable.join, e.search.getD .empty⟩

end BodyColumn

namespace BodyOrder

/-- The fields of an order item that were read. -/
structure Draft where
  column : Option (Option Int)
  direction : Option (Option String)

def fields : List (Document.Field Draft) :=
  [valueField "column" (·.column) integerOf fun v e => { e with column := some v },
    valueField "dir" (·.direction) textOf fun v e => { e with direction := some v }]

def read (room : Nat) (d : Document) : Except DecodeFault BodyOrder :=
  (d.asRecord "DataTablesOrder" fields ⟨none, none⟩ room).map fun e =>
    ⟨e.column.join, e.direction.join⟩

end BodyOrder

namespace Body

/-- The fields of a body that were read. -/
structure Draft where
  draw : Option Json
  start : Option (Option Int)
  length : Option (Option Int)
  search : Option SearchBox
  columns : Option (List BodyColumn)
  order : Option (List BodyOrder)

def fields : List (Document.Field Draft) :=
  [valueField "draw" (·.draw) .ok fun v e => { e with draw := some v },
    valueField "start" (·.start) integerOf fun v e => { e with start := some v },
    valueField "length" (·.length) integerOf fun v e => { e with length := some v },
    formField "search" (·.search) SearchBox.read fun v e => { e with search := some v },
    formField "columns" (·.columns) (fun room d => d.asList BodyColumn.read room)
      fun v e => { e with columns := some v },
    formField "order" (·.order) (fun room d => d.asList BodyOrder.read room)
      fun v e => { e with order := some v }]

def read (room : Nat) (d : Document) : Except DecodeFault Body :=
  (d.asRecord "DataTablesRequest" fields ⟨none, none, none, none, none, none⟩ room).map fun e =>
    ⟨e.draw.getD .null, e.start.join, e.length.join, e.search.getD .empty, e.columns.getD [],
      e.order.getD []⟩

end Body

end GridQuery.Widget
