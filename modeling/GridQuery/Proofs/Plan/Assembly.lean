import GridQuery.Proofs.Plan.Statement
import GridQuery.Proofs.Sql.Template

/-!
# How a plan is put together

A request has no plan when none of its columns is in the schema, or when a base condition lacks
its value; the conditions on the result are looked at before those on everything. Otherwise the
plan is put together from the predicates of the conditions and cannot fail any more.

Main results: `Plan.mem_select` and `Plan.nodup_select` for the select list, `Plan.ofRequest_eq`,
and `Plan.agree_ofRequest` for two requests or two dialects side by side.
-/

namespace GridQuery

/-! ## The select list -/

theorem nodup_eraseDups : ∀ xs : List String, xs.eraseDups.Nodup
  | [] => List.nodup_nil
  | x :: xs => by
    rw [List.eraseDups_cons, List.nodup_cons]
    exact ⟨by simp, nodup_eraseDups _⟩
termination_by xs => xs.length
decreasing_by exact Nat.lt_succ_of_le (List.length_filter_le _ _)

theorem Schema.source_of_find? {schema : Schema} {source : String} {live : CatalogColumn}
    (h : schema.find? source = some live) : live.source = source := by
  simpa using List.find?_some h

namespace Plan

variable {d d' : Dialect} {r r' : Request} {columns : List Column} {schema : Schema}

theorem mem_select {c : SelectedColumn} :
    c ∈ select columns schema ↔ c.source ∈ columns.map (·.source) ∧
      ∃ live, schema.find? c.source = some live ∧ live.category = c.category := by
  rw [select, List.mem_filterMap]
  constructor
  · rintro ⟨source, hsource, hc⟩
    obtain ⟨live, hlive, rfl⟩ := Option.map_eq_some_iff.1 hc
    obtain rfl := Schema.source_of_find? hlive
    exact ⟨List.mem_eraseDups.1 hsource, live, hlive, rfl⟩
  · rintro ⟨hsource, live, hlive, hcategory⟩
    refine ⟨c.source, List.mem_eraseDups.2 hsource, ?_⟩
    rw [hlive, Option.map_some, Schema.source_of_find? hlive, hcategory]

/-- Each source is selected once. -/
theorem nodup_select (columns : List Column) (schema : Schema) :
    ((select columns schema).map (·.source)).Nodup := by
  have hsources : (select columns schema).map (·.source) =
      (columns.map (·.source)).eraseDups.filter fun source => (schema.find? source).isSome := by
    rw [select, List.map_filterMap, ← List.filterMap_eq_filter]
    refine List.filterMap_congr fun source _ => ?_
    cases hlive : schema.find? source with
    | none => simp [Option.guard, hlive]
    | some live => simp [Option.guard, hlive, Schema.source_of_find? hlive]
  rw [hsources]
  exact (nodup_eraseDups _).filter _

/-! ## The parts of a plan -/

/-- The plan, given the predicates of the base conditions. -/
def assembled (d : Dialect) (r : Request) (schema : Schema) (rs as : List Predicate) : Plan where
  table := r.table
  selected := select r.columns schema
  data := dataStatement d r.table (select r.columns schema) (found d r schema rs as)
    (Order.items d r.table r.columns schema r.order) r.page
  filteredCount := countStatement d r.table (found d r schema rs as)
  totalCount := countStatement d r.table (Predicate.all as)

/-- **A plan in its parts.** -/
theorem ofRequest_eq (d : Dialect) (r : Request) (schema : Schema) :
    ofRequest d r schema =
      if (select r.columns schema).isEmpty then .error (.noKnownColumn r.table)
      else (r.base.result.mapM (Condition.predicate d)).bind fun rs =>
        (r.base.all.mapM (Condition.predicate d)).bind fun as =>
          .ok (assembled d r schema rs as) := by
  simp only [ofRequest, Condition.group]
  split
  · rfl
  · cases r.base.result.mapM (Condition.predicate d) with
    | error f => rfl
    | ok rs => cases r.base.all.mapM (Condition.predicate d) <;> rfl

/-- A plan selects something. -/
theorem isEmpty_select {p : Plan} (h : ofRequest d r schema = .ok p) :
    (select r.columns schema).isEmpty = false := by
  rw [← Bool.not_eq_true]
  intro hempty
  rw [ofRequest_eq, if_pos hempty] at h
  cases h

/-- Requests with the same columns on the same table are planned alike if their conditions are. -/
theorem agree_ofRequest {q : Predicate → Predicate → Prop} (htable : r'.table = r.table)
    (hcolumns : r'.columns = r.columns)
    (hresult : Agree (List.Forall₂ q) (r.base.result.mapM (Condition.predicate d))
      (r'.base.result.mapM (Condition.predicate d')))
    (hall : Agree (List.Forall₂ q) (r.base.all.mapM (Condition.predicate d))
      (r'.base.all.mapM (Condition.predicate d'))) :
    Agree (fun p p' => ∃ rs as rs' as', List.Forall₂ q rs rs' ∧ List.Forall₂ q as as' ∧
        p = assembled d r schema rs as ∧ p' = assembled d' r' schema rs' as')
      (ofRequest d r schema) (ofRequest d' r' schema) := by
  rw [ofRequest_eq, ofRequest_eq, htable, hcolumns]
  split
  · exact .fault _
  · exact hresult.bind fun rs rs' hrs => hall.bind fun as as' has =>
      .made ⟨rs, as, rs', as', hrs, has, rfl, rfl⟩

end Plan

end GridQuery
