import GridQuery.Text.Quoted

/-!
# Diagnostics

A column that does not fit the table or the client, and a term that does not fit its column,
are left out of the query and reported beside the response. Each report is kept once.
-/

namespace GridQuery

/-- What is wrong with a column's part in a query. -/
inductive Finding where
  | unknownColumn
  | notSearchable
  | notSortable
  | missingSchemaColumn
  | invalidDirection (value : String)
  | unreadableTerm (category term : String)
  | unsupportedType (rawType : String)
deriving DecidableEq, Repr

namespace Finding

/-- The name in data. -/
def key : Finding → String
  | .unknownColumn => "unknown_column"
  | .notSearchable => "not_searchable"
  | .notSortable => "not_sortable"
  | .missingSchemaColumn => "missing_schema_column"
  | .invalidDirection _ => "invalid_direction"
  | .unreadableTerm _ _ => "value_parse_skip"
  | .unsupportedType _ => "unsupported_category"

/-- The particulars by name. -/
def details : Finding → List (String × String)
  | .invalidDirection value => [("value", value)]
  | .unreadableTerm category term => [("category", category), ("term", term)]
  | .unsupportedType rawType => [("raw_type", rawType)]
  | _ => []

/-- The name in log events. -/
def label : Finding → String
  | .unknownColumn => "UnknownColumn"
  | .notSearchable => "NotSearchable"
  | .notSortable => "NotSortable"
  | .missingSchemaColumn => "MissingSchemaColumn"
  | .invalidDirection _ => "InvalidDirection"
  | .unreadableTerm _ _ => "ValueParseSkip"
  | .unsupportedType _ => "UnsupportedCategory"

/-- The finding with its particulars, as log events show it. -/
def shown (f : Finding) : String :=
  match f.details with
  | [] => f.label
  | ds =>
    f.label ++ " \x7b " ++
      String.intercalate ", " (ds.map fun d => d.1 ++ ": " ++ Text.quoted d.2) ++ " \x7d"

/-- Everything but an unreadable term points at a disagreement between client and server. -/
def isConfigurationWarning : Finding → Bool
  | .unreadableTerm _ _ => false
  | _ => true

end Finding

/-- A finding about a column. -/
structure Diagnostic where
  column : String
  finding : Finding
deriving DecidableEq, Repr

def Diagnostic.text (d : Diagnostic) : String :=
  match d.finding with
  | .unknownColumn =>
    "column '" ++ d.column ++
      "' does not match any exposed name (client `data` must equal the server's exposed name)"
  | .notSearchable =>
    "column '" ++ d.column ++
      "' received a search term but is not searchable (missing searchable: false on the client?)"
  | .notSortable =>
    "column '" ++ d.column ++
      "' was requested for ordering but is not sortable (missing orderable: false on the client?)"
  | .missingSchemaColumn => "column '" ++ d.column ++ "' is not present in the table schema"
  | .invalidDirection value =>
    "column '" ++ d.column ++ "' has invalid sort direction '" ++ value ++ "'"
  | .unreadableTerm category term =>
    "term '" ++ term ++ "' is not a valid " ++ category ++ " value for column '" ++ d.column ++ "'"
  | .unsupportedType rawType =>
    "column '" ++ d.column ++ "' has unsupported type '" ++ rawType ++ "' and is never searched"

/-- The diagnostics of a request, in the order in which they were made. -/
structure Diagnostics where
  entries : List Diagnostic
deriving DecidableEq, Repr

namespace Diagnostics

def empty : Diagnostics := ⟨[]⟩

/-- Adds a diagnostic that is not there yet. -/
def push (ds : Diagnostics) (d : Diagnostic) : Diagnostics :=
  if ds.entries.contains d then ds else ⟨ds.entries ++ [d]⟩

/-- Adds all diagnostics of a list one by one. -/
def pushAll (ds : Diagnostics) (list : List Diagnostic) : Diagnostics := list.foldl push ds

/-- The diagnostics of a list, each once. -/
def collect (list : List Diagnostic) : Diagnostics := empty.pushAll list

/-- Appends the entries of another collection as they are. -/
def extend (ds other : Diagnostics) : Diagnostics := ⟨ds.entries ++ other.entries⟩

def size (ds : Diagnostics) : Nat := ds.entries.length

theorem mem_push (ds : Diagnostics) (d e : Diagnostic) :
    e ∈ (ds.push d).entries ↔ e ∈ ds.entries ∨ e = d := by
  unfold push
  split
  · rename_i h
    have h : d ∈ ds.entries := by simpa using h
    constructor
    · exact Or.inl
    · rintro (he | rfl)
      · exact he
      · exact h
  · simp

theorem mem_pushAll (ds : Diagnostics) (list : List Diagnostic) (e : Diagnostic) :
    e ∈ (ds.pushAll list).entries ↔ e ∈ ds.entries ∨ e ∈ list := by
  induction list generalizing ds with
  | nil => simp [pushAll]
  | cons d list ih =>
    show e ∈ ((ds.push d).pushAll list).entries ↔ _
    rw [ih, mem_push, List.mem_cons, or_assoc]

/-- A collection loses no diagnostic of its list. -/
theorem mem_collect (list : List Diagnostic) (e : Diagnostic) :
    e ∈ (collect list).entries ↔ e ∈ list := by
  rw [collect, mem_pushAll]
  simp [empty]

theorem nodup_push {ds : Diagnostics} (h : ds.entries.Nodup) (d : Diagnostic) :
    (ds.push d).entries.Nodup := by
  unfold push
  split
  · exact h
  · rename_i hd
    have hd : d ∉ ds.entries := by simpa using hd
    exact List.nodup_append.2 ⟨h, by simp, fun a ha b hb => by
      rintro rfl
      simp at hb
      exact hd (hb ▸ ha)⟩

theorem nodup_pushAll {ds : Diagnostics} (h : ds.entries.Nodup) (list : List Diagnostic) :
    (ds.pushAll list).entries.Nodup := by
  induction list generalizing ds with
  | nil => exact h
  | cons d list ih => exact ih (nodup_push h d)

/-- A collection keeps each of its diagnostics once. -/
theorem nodup_collect (list : List Diagnostic) : (collect list).entries.Nodup :=
  nodup_pushAll List.nodup_nil list

end Diagnostics

end GridQuery
