import GridQuery.Grid.Diagnostic
import GridQuery.Grid.Request
import GridQuery.Plan.Term

/-!
# Filters

Every search entry, and for a global search every searchable column, contributes a test on a
column of the table, or a diagnostic, or nothing. The tests of the entries must all hold, of
those of a global search any one.
-/

namespace GridQuery

/-- What a search entry contributes. -/
inductive Contribution where
  | test (source : String) (t : TermTest)
  | finding (d : Diagnostic)
  | nothing

namespace Contribution

def test? : Contribution → Option (String × TermTest)
  | .test source t => some (source, t)
  | _ => none

def finding? : Contribution → Option Diagnostic
  | .finding d => some d
  | _ => none

/-- The predicates of the tests. -/
def predicates (d : Dialect) (cs : List Contribution) : List Predicate :=
  (cs.filterMap test?).map fun t => t.2.predicate d t.1

def findings (cs : List Contribution) : List Diagnostic := cs.filterMap finding?

end Contribution

namespace Search

/-- The diagnostic of a term that the category of a column does not take. -/
def unreadable (c : Column) (live : CatalogColumn) (term : String) : Diagnostic :=
  ⟨c.exposed, .unreadableTerm live.category.label term⟩

/-- What the entry for one column contributes. -/
def ofEntry (columns : List Column) (schema : Schema) (f : ColumnSearch) : Contribution :=
  if f.term.isEmpty then .nothing
  else
    match Column.find? columns f.exposed with
    | none => .finding ⟨f.exposed, .unknownColumn⟩
    | some c =>
      if !f.allowed || !c.searchable then .finding ⟨c.exposed, .notSearchable⟩
      else
        match schema.find? c.source with
        | none => .finding ⟨c.source, .missingSchemaColumn⟩
        | some live =>
          match TermTest.read live.category f.term f.regex with
          | .ok t => .test c.source t
          | .error .emptyTerm => .nothing
          | .error .unparsable => .finding (unreadable c live f.term)
          | .error .unsupportedCategory => .finding ⟨c.exposed, .unsupportedType live.rawType⟩

/-- What a column contributes to a global search. -/
def ofGlobal (schema : Schema) (g : GlobalSearch) (c : Column) : Contribution :=
  match schema.find? c.source with
  | none => .nothing
  | some live =>
    match TermTest.read live.category g.term g.regex with
    | .ok t => .test c.source t
    | .error .unparsable => .finding (unreadable c live g.term)
    | .error _ => .nothing

/-- The contributions of the entries, in their order. -/
def individual (s : Search) (columns : List Column) (schema : Schema) : List Contribution :=
  s.perColumn.map (ofEntry columns schema)

/-- The columns that take part in a global search. -/
def searchedColumns (s : Search) (columns : List Column) : List Column :=
  columns.filter fun c => c.searchable && s.allows c.exposed

/-- The contributions of the columns to the global search. -/
def global (s : Search) (columns : List Column) (schema : Schema) : List Contribution :=
  match s.overall with
  | none => []
  | some g =>
    if g.term.isEmpty then [] else (s.searchedColumns columns).map (ofGlobal schema g)

end Search

/-- The two halves of a filter. -/
structure Filter where
  individual : Option Predicate
  global : Option Predicate
deriving DecidableEq

namespace Filter

/-- The filter of a search. -/
def ofSearch (d : Dialect) (columns : List Column) (schema : Schema) (s : Search) : Filter :=
  ⟨Predicate.all (Contribution.predicates d (s.individual columns schema)),
    Predicate.any (Contribution.predicates d (s.global columns schema))⟩

/-- The diagnostics of a search, in the order in which they are made. -/
def findings (columns : List Column) (schema : Schema) (s : Search) : List Diagnostic :=
  Contribution.findings (s.individual columns schema) ++
    Contribution.findings (s.global columns schema)

/-- Both halves together. -/
def predicate (f : Filter) : Option Predicate :=
  Predicate.conjunction (f.individual.toList ++ f.global.toList)

end Filter

end GridQuery
