import GridQuery.Proofs.Plan.Assembly
import GridQuery.Proofs.Plan.Page

/-!
# Texts without values

A search term decides whether there is a test and of which form it is, but what the test compares
with is bound, as are the values of conditions and the page. So two requests that differ in such
values only, each of which is taken or skipped alike, have plans of the same text.

The templates of predicates carry this from the tests and the conditions up to the WHERE.

Main result: `Plan.agree_texts`.
-/

namespace GridQuery

/-! ## Requests that differ in their values -/

/-- The table has the column's source, and the term gives a predicate on it. -/
def Column.takes (schema : Schema) (term : String) (regex : Bool) (c : Column) : Bool :=
  (schema.find? c.source).any fun live => (TermTest.read live.category term regex).isOk

/-- The entries differ in their terms only, which are empty alike and taken alike. -/
structure ColumnSearch.SameButTerm (columns : List Column) (schema : Schema)
    (f f' : ColumnSearch) : Prop where
  exposed : f'.exposed = f.exposed
  regex : f'.regex = f.regex
  allowed : f'.allowed = f.allowed
  empty : f'.term.isEmpty = f.term.isEmpty
  taken : ∀ c ∈ Column.find? columns f.exposed,
    c.takes schema f'.term f.regex = c.takes schema f.term f.regex

/-- The global searches of the columns differ in their terms only, which are empty alike and taken
alike. -/
structure GlobalSearch.SameButTerm (columns : List Column) (schema : Schema)
    (g g' : GlobalSearch) : Prop where
  regex : g'.regex = g.regex
  empty : g'.term.isEmpty = g.term.isEmpty
  taken : ∀ c ∈ columns, c.takes schema g'.term g.regex = c.takes schema g.term g.regex

/-- The conditions differ in their values only, which both of them have or lack. -/
structure Condition.SameButValue (c c' : Condition) : Prop where
  column : c'.column = c.column
  comparison : c'.comparison = c.comparison
  value : c'.value.isSome = c.value.isSome

/-- The requests differ in their terms, the values of their conditions, the page and the token
only. -/
structure Request.SameButValues (schema : Schema) (r r' : Request) : Prop where
  table : r'.table = r.table
  columns : r'.columns = r.columns
  perColumn : List.Forall₂ (ColumnSearch.SameButTerm r.columns schema)
    r.search.perColumn r'.search.perColumn
  overall : Option.Rel (GlobalSearch.SameButTerm (r.search.searchedColumns r.columns) schema)
    r.search.overall r'.search.overall
  order : r'.order = r.order
  result : List.Forall₂ Condition.SameButValue r.base.result r'.base.result
  all : List.Forall₂ Condition.SameButValue r.base.all r'.base.all

/-! ## Tests -/

namespace TermTest

/-- The test with a value that stands for any of its form. -/
def template : TermTest → TermTest
  | .contains _ => .contains ""
  | .matchesPattern _ => .matchesPattern ""
  | .equals _ => .equals (.bool false)

theorem template_predicate (d : Dialect) (source : String) (t : TermTest) :
    (t.predicate d source).template = (t.template.predicate d source).template := by
  cases d <;> cases t <;> rfl

/-- The form that the tests of a category have. -/
def form (category : Category) (regex : Bool) : TermTest :=
  if category = .text then if regex then .matchesPattern "" else .contains ""
  else .equals (.bool false)

/-- **The form of a test depends on the category and the flag, not on the term.** -/
theorem template_of_read {category : Category} {regex : Bool} {term : String} {t : TermTest}
    (h : read category term regex = .ok t) : t.template = form category regex := by
  unfold read readWith at h
  split at h
  · cases h
  · split at h
    · cases regex with
      | false => cases h; rfl
      | true =>
        simp only [if_true] at h
        split at h
        · cases h; rfl
        · cases h
    · cases h
    · rename_i htext hunknown
      split at h
      · cases h; exact (if_neg htext).symm
      · cases h

end TermTest

/-! ## Contributions -/

namespace Contribution

/-- The test without its value. -/
def template? (c : Contribution) : Option (String × TermTest) :=
  c.test?.map fun t => (t.1, t.2.template)

theorem template_predicates (d : Dialect) (cs : List Contribution) :
    (predicates d cs).map Predicate.template =
      (cs.filterMap template?).map fun t => (t.2.predicate d t.1).template := by
  have hforms : cs.filterMap template? =
      (cs.filterMap test?).map fun t => (t.1, t.2.template) := List.map_filterMap.symm
  rw [hforms, predicates, List.map_map, List.map_map]
  exact List.map_congr_left fun t _ => TermTest.template_predicate d t.1 t.2

end Contribution

/-- The form of the test on a column, if the table has its source and the term is taken. -/
def Column.form? (schema : Schema) (term : String) (regex : Bool) (c : Column) :
    Option (String × TermTest) :=
  if c.takes schema term regex then
    (schema.find? c.source).map fun live => (c.source, .form live.category regex)
  else none

theorem Column.form?_of_live {schema : Schema} {c : Column} {live : CatalogColumn}
    (hlive : schema.find? c.source = some live) (term : String) (regex : Bool) :
    c.form? schema term regex =
      (TermTest.read live.category term regex).toOption.map fun t => (c.source, t.template) := by
  rw [form?, takes, hlive, Option.any_some, Option.map_some]
  cases h : TermTest.read live.category term regex with
  | error skip => rfl
  | ok t => exact congrArg (fun t => some (c.source, t)) (TermTest.template_of_read h).symm

theorem Column.form?_of_missing {schema : Schema} {c : Column}
    (hlive : schema.find? c.source = none) (term : String) (regex : Bool) :
    c.form? schema term regex = none := by
  rw [form?, takes, hlive]
  rfl

namespace Search

variable {columns : List Column} {schema : Schema}

theorem template?_ofEntry (f : ColumnSearch) :
    (ofEntry columns schema f).template? =
      if f.term.isEmpty then none
      else (Column.find? columns f.exposed).bind fun c =>
        if !f.allowed || !c.searchable then none else c.form? schema f.term f.regex := by
  -- Where an entry is refused it has no template, whichever of the checks refuses it.
  unfold ofEntry
  split
  · rfl
  · cases Column.find? columns f.exposed with
    | none => rfl
    | some c =>
      simp only [Option.bind_some]
      split
      · rfl
      · cases hlive : schema.find? c.source with
        | none => exact (Column.form?_of_missing hlive _ _).symm
        | some live =>
          simp only [Column.form?_of_live hlive]
          cases TermTest.read live.category f.term f.regex with
          | ok t => rfl
          | error skip => cases skip <;> rfl

theorem template?_ofGlobal (g : GlobalSearch) (c : Column) :
    (ofGlobal schema g c).template? = c.form? schema g.term g.regex := by
  unfold ofGlobal
  cases hlive : schema.find? c.source with
  | none => exact (Column.form?_of_missing hlive _ _).symm
  | some live =>
    simp only [Column.form?_of_live hlive]
    cases TermTest.read live.category g.term g.regex with
    | ok t => rfl
    | error skip => cases skip <;> rfl

theorem template?_entry {f f' : ColumnSearch} (h : f.SameButTerm columns schema f') :
    (ofEntry columns schema f').template? = (ofEntry columns schema f).template? := by
  rw [template?_ofEntry, template?_ofEntry, h.empty, h.exposed, h.allowed, h.regex]
  cases hc : Column.find? columns f.exposed with
  | none => rfl
  | some c => simp only [Option.bind_some, Column.form?, h.taken c hc]

theorem template?_overall {searched : List Column} {g g' : GlobalSearch}
    (h : g.SameButTerm searched schema g') {c : Column} (hc : c ∈ searched) :
    (ofGlobal schema g' c).template? = (ofGlobal schema g c).template? := by
  rw [template?_ofGlobal, template?_ofGlobal, h.regex, Column.form?, Column.form?, h.taken c hc]

/-- Which columns take part in a global search does not depend on terms. -/
theorem allows_eq (s : Search) (exposed : String) :
    s.allows exposed =
      (s.perColumn.map fun f => (f.exposed, f.allowed)).all fun f => !(f.1 == exposed) || f.2 := by
  rw [allows, List.all_filter, List.all_map]
  rfl

end Search

namespace Request.SameButValues

variable {schema : Schema} {r r' : Request}

theorem searchedColumns (h : r.SameButValues schema r') :
    r'.search.searchedColumns r'.columns = r.search.searchedColumns r.columns := by
  have hentries : r'.search.perColumn.map (fun f => (f.exposed, f.allowed)) =
      r.search.perColumn.map fun f => (f.exposed, f.allowed) :=
    map_eq_of_forall₂ (h.perColumn.imp fun f f' hf => by rw [hf.exposed, hf.allowed])
  have hallows : r'.search.allows = r.search.allows := by
    funext n
    rw [Search.allows_eq, Search.allows_eq, hentries]
  rw [Search.searchedColumns, Search.searchedColumns, h.columns, hallows]

theorem individual (h : r.SameButValues schema r') :
    (r'.search.individual r'.columns schema).filterMap Contribution.template? =
      (r.search.individual r.columns schema).filterMap Contribution.template? := by
  rw [Search.individual, Search.individual, h.columns, List.filterMap_map, List.filterMap_map]
  have hforms : r'.search.perColumn.map (Contribution.template? ∘ Search.ofEntry r.columns schema) =
      r.search.perColumn.map (Contribution.template? ∘ Search.ofEntry r.columns schema) :=
    map_eq_of_forall₂ (h.perColumn.imp fun f f' hf => Search.template?_entry hf)
  simpa only [List.filterMap_map, Function.id_comp] using congrArg (List.filterMap id) hforms

theorem global (h : r.SameButValues schema r') :
    (r'.search.global r'.columns schema).filterMap Contribution.template? =
      (r.search.global r.columns schema).filterMap Contribution.template? := by
  have hoverall := h.overall
  unfold Search.global
  rw [h.searchedColumns]
  -- Both requests search globally or neither does, and then for terms that are blank alike.
  cases hg : r.search.overall with
  | none =>
    rw [hg] at hoverall
    cases hg' : r'.search.overall with
    | none => rfl
    | some g' => rw [hg'] at hoverall; cases hoverall
  | some g =>
    rw [hg] at hoverall
    cases hg' : r'.search.overall with
    | none => rw [hg'] at hoverall; cases hoverall
    | some g' =>
      rw [hg'] at hoverall
      obtain ⟨hsame⟩ := hoverall
      simp only [hsame.empty]
      split
      · rfl
      · rw [List.filterMap_map, List.filterMap_map]
        exact List.filterMap_congr fun c hc => Search.template?_overall hsame hc

end Request.SameButValues

/-! ## Conditions -/

/-- Both conditions are refused, or both have one template. -/
theorem Condition.agree_template (d : Dialect) {c c' : Condition} (h : c.SameButValue c') :
    Agree (fun p p' => p'.template = p.template) (c.predicate d) (c'.predicate d) := by
  have hvalue := h.value
  unfold predicate
  rw [h.column, h.comparison]
  cases c.comparison.takesValue with
  | false => exact .made rfl
  | true =>
    cases hv : c.value with
    | none =>
      rw [hv] at hvalue
      have hv' : c'.value = none := by simpa using hvalue
      rw [hv']
      exact .fault _
    | some v =>
      rw [hv] at hvalue
      obtain ⟨v', hv'⟩ := Option.isSome_iff_exists.1 hvalue
      rw [hv']
      exact .made (by simp)

theorem Condition.agree_templates (d : Dialect) {cs cs' : List Condition}
    (h : List.Forall₂ SameButValue cs cs') :
    Agree (List.Forall₂ fun p p' => p'.template = p.template)
      (cs.mapM (predicate d)) (cs'.mapM (predicate d)) :=
  .mapM h fun _ _ hc => agree_template d hc

namespace Plan

variable {d : Dialect} {r r' : Request} {schema : Schema}

/-! ## The WHERE -/

/-- The templates of the page's WHERE. -/
theorem template_found (d : Dialect) (r : Request) (schema : Schema) (rs as : List Predicate) :
    (found d r schema rs as).map Predicate.template = Predicate.conjunction (
      (Predicate.all (((r.search.individual r.columns schema).filterMap
        Contribution.template?).map fun t => (t.2.predicate d t.1).template)).toList ++
      (Predicate.any (((r.search.global r.columns schema).filterMap
        Contribution.template?).map fun t => (t.2.predicate d t.1).template)).toList ++
      (Predicate.all (rs.map Predicate.template)).toList ++
      (Predicate.all (as.map Predicate.template)).toList) := by
  have htoList : ∀ q : Option Predicate,
      q.toList.map Predicate.template = (q.map Predicate.template).toList := by
    intro q
    cases q <;> rfl
  rw [found_eq, Predicate.template_conjunction, ← Contribution.template_predicates,
    ← Contribution.template_predicates]
  simp only [List.map_append, htoList, Predicate.all, Predicate.any, Predicate.template_group]

theorem whereText_template (q : Option Predicate) :
    whereText d (q.map Predicate.template) = whereText d q := by
  cases q with
  | none => rfl
  | some p => rw [Option.map_some, whereText, Predicate.sqlFrom_template, whereText]

theorem length_whereValues_template (q : Option Predicate) :
    (whereValues (q.map Predicate.template)).length = (whereValues q).length := by
  cases q with
  | none => rfl
  | some p => exact p.length_values_template

/-! ## The texts -/

/-- The texts of the three statements. -/
def sqls (p : Plan) : List String := [p.data.sql, p.filteredCount.sql, p.totalCount.sql]

/-- Statements whose WHERE has one template have one text. -/
theorem sql_template {q q' : Option Predicate}
    (h : q'.map Predicate.template = q.map Predicate.template) (table : String)
    (selected : List SelectedColumn) (order : List String) (page page' : Page) :
    (dataStatement d table selected q' order page').sql =
        (dataStatement d table selected q order page).sql ∧
      (countStatement d table q').sql = (countStatement d table q).sql := by
  have htext : whereText d q' = whereText d q := by
    rw [← whereText_template, h, whereText_template]
  have hlength : (whereValues q').length = (whereValues q).length := by
    rw [← length_whereValues_template, h, length_whereValues_template]
  rw [data_eq, data_eq, sql_count, sql_count, htext, hlength]
  exact ⟨rfl, rfl⟩

/-- **Plans of requests that differ in their values have the same texts.** -/
theorem agree_texts (d : Dialect) (h : r.SameButValues schema r') :
    Agree (fun p p' => p'.sqls = p.sqls) (ofRequest d r schema) (ofRequest d r' schema) := by
  refine (agree_ofRequest h.table h.columns (Condition.agree_templates d h.result)
    (Condition.agree_templates d h.all)).imp ?_
  rintro p p' - - ⟨rs, as, rs', as', hrs, has, rfl, rfl⟩
  have hfound : (found d r' schema rs' as').map Predicate.template =
      (found d r schema rs as).map Predicate.template := by
    rw [template_found, template_found, h.individual, h.global, map_eq_of_forall₂ hrs,
      map_eq_of_forall₂ has]
  have hall : (Predicate.all as').map Predicate.template =
      (Predicate.all as).map Predicate.template := by
    rw [Predicate.all, Predicate.all, Predicate.template_group, Predicate.template_group,
      map_eq_of_forall₂ has]
  obtain ⟨hdata, hfiltered⟩ := sql_template (d := d) hfound r.table (select r.columns schema)
    (Order.items d r.table r.columns schema r.order) r.page r'.page
  obtain ⟨-, htotal⟩ := sql_template (d := d) hall r.table (select r.columns schema)
    (Order.items d r.table r.columns schema r.order) r.page r'.page
  simp only [sqls, assembled, h.table, h.columns, h.order, hdata, hfiltered, htotal]

end Plan

end GridQuery
