import GridQuery.Grid.Transform
import GridQuery.Json.Decode
import GridQuery.Number.Integer
import GridQuery.View.Basic

/-!
# Views documents

A document of views is an object with an entry for each view. Its form is read first
(`ViewEntry.readAll`), then every view is checked (`View.ofEntry`), and the first fault of
either kind fails the whole document.
-/

namespace GridQuery

/-! ## Entries -/

/-- A transform as it is asked for. -/
inductive TransformEntry where
  | uppercase
  | lowercase
  | trim
  | dateFormat (format : String)
deriving DecidableEq, Repr

structure ColumnEntry where
  source : String
  exposed : Option String
  searchable : Bool
  sortable : Bool
  transform : Option TransformEntry

structure ConditionEntry where
  column : String
  comparison : Comparison
  value : Option Json

structure ViewEntry where
  table : String
  columns : List ColumnEntry
  whereResult : List ConditionEntry
  whereAll : List ConditionEntry

namespace TransformEntry

def alternatives : List (Document.Alternative TransformEntry) :=
  [.plain "uppercase" .uppercase, .plain "lowercase" .lowercase, .plain "trim" .trim,
    .withValue "date_format" fun d => d.asString.map .dateFormat]

def read (room : Nat) (d : Document) : Except DecodeFault TransformEntry :=
  d.asChoice alternatives room

end TransformEntry

namespace ColumnEntry

/-- The fields of a column that were read. -/
structure Draft where
  source : Option String
  exposed : Option (Option String)
  searchable : Option Bool
  sortable : Option Bool
  transform : Option (Option TransformEntry)

def fields : List (Document.Field Draft) :=
  [⟨"source", true, (·.source.isSome),
      fun _ d e => d.asString.map fun v => { e with source := some v }⟩,
    ⟨"exposed", false, (·.exposed.isSome),
      fun _ d e => (d.asOption Document.asString).map fun v => { e with exposed := some v }⟩,
    ⟨"searchable", false, (·.searchable.isSome),
      fun _ d e => d.asBool.map fun v => { e with searchable := some v }⟩,
    ⟨"sortable", false, (·.sortable.isSome),
      fun _ d e => d.asBool.map fun v => { e with sortable := some v }⟩,
    ⟨"transform", false, (·.transform.isSome),
      fun room d e => (d.asOption (TransformEntry.read room)).map fun v =>
        { e with transform := some v }⟩]

/-- A column is searchable and sortable unless it says otherwise. -/
def ofDraft (e : Draft) : ColumnEntry :=
  ⟨e.source.getD "", e.exposed.join, e.searchable.getD true, e.sortable.getD true,
    e.transform.join⟩

def read (room : Nat) (d : Document) : Except DecodeFault ColumnEntry :=
  (d.asRecord "ColumnSpec" fields ⟨none, none, none, none, none⟩ room).map ofDraft

end ColumnEntry

namespace ConditionEntry

/-- The fields of a condition that were read. -/
structure Draft where
  column : Option String
  comparison : Option Comparison
  value : Option (Option Json)

def comparisons : List (Document.Alternative Comparison) :=
  Comparison.every.map fun c => .plain c.key c

def fields : List (Document.Field Draft) :=
  [⟨"column", true, (·.column.isSome),
      fun _ d e => d.asString.map fun v => { e with column := some v }⟩,
    ⟨"op", true, (·.comparison.isSome),
      fun room d e => (d.asChoice comparisons room).map fun v => { e with comparison := some v }⟩,
    ⟨"value", false, (·.value.isSome),
      fun room d e => (d.asOption (Document.asJson room)).map fun v => { e with value := some v }⟩]

def ofDraft (e : Draft) : ConditionEntry :=
  ⟨e.column.getD "", e.comparison.getD .eq, e.value.join⟩

def read (room : Nat) (d : Document) : Except DecodeFault ConditionEntry :=
  (d.asRecord "ConditionSpec" fields ⟨none, none, none⟩ room).map ofDraft

end ConditionEntry

namespace ViewEntry

/-- The fields of a view that were read. -/
structure Draft where
  table : Option String
  columns : Option (List ColumnEntry)
  whereResult : Option (List ConditionEntry)
  whereAll : Option (List ConditionEntry)

def fields : List (Document.Field Draft) :=
  [⟨"table", true, (·.table.isSome),
      fun _ d e => d.asString.map fun v => { e with table := some v }⟩,
    ⟨"columns", true, (·.columns.isSome),
      fun room d e => (d.asList ColumnEntry.read room).map fun v => { e with columns := some v }⟩,
    ⟨"where_result", false, (·.whereResult.isSome),
      fun room d e => (d.asList ConditionEntry.read room).map fun v =>
        { e with whereResult := some v }⟩,
    ⟨"where_all", false, (·.whereAll.isSome),
      fun room d e => (d.asList ConditionEntry.read room).map fun v =>
        { e with whereAll := some v }⟩]

def ofDraft (e : Draft) : ViewEntry :=
  ⟨e.table.getD "", e.columns.getD [], e.whereResult.getD [], e.whereAll.getD []⟩

def read (room : Nat) (d : Document) : Except DecodeFault ViewEntry :=
  (d.asRecord "ViewSpec" fields ⟨none, none, none, none⟩ room).map ofDraft

/-- The entries of a document in their order, repeated names included. -/
def readAll (room : Nat) (d : Document) : Except DecodeFault (List (String × ViewEntry)) :=
  d.asMap read room

end ViewEntry

/-! ## Checks -/

/-- Why a view cannot be used. -/
inductive ViewFault where
  | blankTable
  | noColumns
  | badDateFormat (format : String)
  | repeatedName (exposed : String)
  | unusableValue (column : String) (value : Json)
  | missingValue (column : String)

def ViewFault.reason : ViewFault → String
  | .blankTable => "table must not be empty"
  | .noColumns => "at least one column is required"
  | .badDateFormat format => "invalid date_format '" ++ format ++ "'"
  | .repeatedName n => "exposed name '" ++ n ++ "' is used more than once"
  | .unusableValue c v =>
    "value for '" ++ c ++ "' must be a string, number or boolean, got " ++ v.text
  | .missingValue c => "condition on '" ++ c ++ "' requires a value"

/-- The transform, if its format can be read. -/
def Transform.ofEntry : TransformEntry → Except ViewFault Transform
  | .uppercase => .ok .uppercase
  | .lowercase => .ok .lowercase
  | .trim => .ok .trim
  | .dateFormat format =>
    match DateFormat.ofText? format with
    | some f => .ok (.dateFormat f)
    | none => .error (.badDateFormat format)

/-- The column of an entry, exposed under the name of its source unless it says otherwise. -/
def Column.ofEntry (e : ColumnEntry) : Except ViewFault Column := do
  let transform ← match e.transform with
    | some t => (Transform.ofEntry t).map some
    | none => .ok none
  return ⟨e.source, e.exposed.getD e.source, e.sortable, e.searchable,
    transform.map Transform.toCellTransform⟩

/-- The value of a condition. An integer beyond sixty-four bits with a sign becomes a double. -/
def Value.ofJson (column : String) : Json → Except ViewFault Value
  | .string s => .ok (.text s)
  | .bool b => .ok (.bool b)
  | .number (.int n) =>
    .ok (if IntegerRange.signed64.contains n then .int n
      else .float (Double.ofRatio (n < 0) n.natAbs 1))
  | .number (.double x) => .ok (.float x)
  | v => .error (.unusableValue column v)

/-- The condition of an entry. A comparison with null takes no value and ignores one. -/
def Condition.ofEntry (e : ConditionEntry) : Except ViewFault Condition := do
  let value ← match e.value with
    | some v => (Value.ofJson e.column v).map some
    | none => .ok none
  if e.comparison.takesValue then
    if value.isNone then .error (.missingValue e.column)
    else return ⟨e.column, e.comparison, value⟩
  else return ⟨e.column, e.comparison, none⟩

/-- The view of an entry. -/
def View.ofEntry (name : String) (e : ViewEntry) : Except ViewFault View := do
  if Text.allBlank e.table then throw .blankTable
  if e.columns.isEmpty then throw .noColumns
  let columns ← e.columns.mapM Column.ofEntry
  match Column.repeatedName columns with
  | some n => throw (.repeatedName n)
  | none => pure ()
  let result ← e.whereResult.mapM Condition.ofEntry
  let all ← e.whereAll.mapM Condition.ofEntry
  return ⟨name, e.table, columns, ⟨result, all⟩⟩

/-! ## Documents -/

/-- Why a document of views cannot be used. -/
inductive RegistryFault where
  | form (f : DecodeFault)
  | view (name : String) (f : ViewFault)

namespace Registry

/-- Puts an entry into its place, instead of one of the same name. -/
def placeEntry (name : String) (e : ViewEntry) :
    List (String × ViewEntry) → List (String × ViewEntry)
  | [] => [(name, e)]
  | (n, f) :: rest =>
    if name < n then (name, e) :: (n, f) :: rest
    else if name = n then (name, e) :: rest
    else (n, f) :: placeEntry name e rest

/-- The entries in increasing order of their names, the last of each name. -/
def sortEntries (entries : List (String × ViewEntry)) : List (String × ViewEntry) :=
  entries.foldl (fun sorted p => placeEntry p.1 p.2 sorted) []

/-- The views of entries, checked in their order. -/
def ofEntries : List (String × ViewEntry) → Except RegistryFault (List View)
  | [] => .ok []
  | (name, e) :: rest =>
    match View.ofEntry name e with
    | .error f => .error (.view name f)
    | .ok v => (ofEntries rest).map (v :: ·)

/-- The registry of a document. -/
def ofText (text : String) : Except RegistryFault Registry :=
  match Document.decode ViewEntry.readAll text with
  | .error f => .error (.form f)
  | .ok entries => (ofEntries (sortEntries entries)).map (⟨·⟩)

end Registry

end GridQuery
