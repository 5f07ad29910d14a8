import GridQuery.Proofs.Grid.Record
import GridQuery.Proofs.Http.Posted
import GridQuery.Proofs.Http.Segment
import GridQuery.Proofs.View.Registered

/-!
# The view that a name leads to

A view is stored under its name as the document has it, and looked up without the blanks around the
name. So a name with blanks at its ends never leads to the view that is stored under it: it leads to
the view of the name without them, if there is one, and to none otherwise. The reply to a request
for the columns says which view it is about, so the two cannot be mistaken for each other.

Main result: `Registry.served_iff_trim`.
-/

namespace GridQuery

variable {σ : Type}

namespace Http

/-- The path of the request leads to a route of the name. -/
def Request.Names (r : Request) (route : String → Route) (name : String) : Prop :=
  ∃ segment, routeOf? r.target = some (route segment) ∧ decodeSegment segment = some name

namespace Site

/-- The answer to a request for a page of the view. -/
def pageOf (site : Site σ) (v : View) (r : Request) : Serving σ (Option Reply) :=
  match readBody r with
  | .error f => return some (.failure 422 f.message)
  | .ok b => site.page v b

/-- The answer to a request for the columns of the view. -/
def columnsOf (site : Site σ) (v : View) : Serving σ Reply := do
  match ← site.service.describe v.table with
  | .error f => failed f
  | .ok schema =>
    return .json 200 (.ofPairs [("view", .string v.name), ("table", .string v.table),
      ("dialect", .string site.service.dialect.name),
      ("columns", .array (v.columns.map (columnJson schema)))])

/-- The reply to a name without a view. -/
def missing (name : String) : Reply :=
  .failure 404 ("View '" ++ name ++ "' is not configured")

/-- Requests for the name are answered from the view, and never as if there was none. -/
structure ServesFrom (site : Site σ) (name : String) (v : View) : Prop where
  page : ∀ r : Request, r.Names .page name → r.method = "POST" → site.respond r = site.pageOf v r
  schema : ∀ r : Request, r.Names .schema name → r.method = "GET" →
    site.respond r = some <$> site.columnsOf v
  head : ∀ r : Request, r.Names .schema name → r.method = "HEAD" →
    site.respond r = (fun reply => some reply.withoutContent) <$> site.columnsOf v
  found : ∀ r : Request, r.Names .page name ∨ r.Names .schema name → ∀ st reply,
    ((site.respond r).run st).1 = some reply → reply.status ≠ 404

/-- Requests for the name find no view. -/
structure Misses (site : Site σ) (name : String) : Prop where
  page : ∀ r : Request, r.Names .page name → r.method = "POST" →
    site.respond r = pure (some (missing (Text.trim name)))
  schema : ∀ r : Request, r.Names .schema name → r.method = "GET" →
    site.respond r = pure (some (missing (Text.trim name)))
  head : ∀ r : Request, r.Names .schema name → r.method = "HEAD" →
    site.respond r = pure (some (missing (Text.trim name)).withoutContent)

/-! ## Routes -/

variable {site : Site σ} {r : Request} {name : String}

theorem respond_page (h : r.Names .page name) (hmethod : r.method = "POST") :
    site.respond r = site.query name r := by
  obtain ⟨segment, hroute, hname⟩ := h
  simp only [respond, hroute, hmethod, hname, ne_eq, not_true_eq_false, if_false]

theorem respond_schema (h : r.Names .schema name) (hmethod : r.method = "GET") :
    site.respond r = some <$> site.schema name := by
  obtain ⟨segment, hroute, hname⟩ := h
  simp only [respond, hroute, hmethod, if_true, get, hname, map_eq_pure_bind]

theorem respond_head (h : r.Names .schema name) (hmethod : r.method = "HEAD") :
    site.respond r = (fun reply => some reply.withoutContent) <$> site.schema name := by
  have hget : ("HEAD" : String) ≠ "GET" := by decide
  obtain ⟨segment, hroute, hname⟩ := h
  simp only [respond, hroute, hmethod, hget, if_false, if_true, get, hname, map_eq_pure_bind]

/-- Other methods are not allowed. -/
theorem respond_other
    (h : r.Names .page name ∧ r.method ≠ "POST" ∨
      r.Names .schema name ∧ r.method ≠ "GET" ∧ r.method ≠ "HEAD") :
    site.respond r = pure (some (.empty 405)) := by
  rcases h with ⟨⟨segment, hroute, -⟩, hmethod⟩ | ⟨⟨segment, hroute, -⟩, hget, hhead⟩
  · simp only [respond, hroute, hmethod, ne_eq, not_false_eq_true, if_true]
  · simp only [respond, hroute, hget, hhead, if_false]

/-! ## Views -/

variable {v : View}

theorem query_eq (h : site.views.get? (Text.trim name) = some v) (r : Request) :
    site.query name r = site.pageOf v r := by
  have hview : site.viewOf name = .ok v := by rw [viewOf, h]
  rw [query, hview]
  rfl

theorem schema_eq (h : site.views.get? (Text.trim name) = some v) :
    site.schema name = site.columnsOf v := by
  have hview : site.viewOf name = .ok v := by rw [viewOf, h]
  rw [schema, hview]
  rfl

/-- No failure of the service looks like a name without a view. -/
theorem statusOf_ne (f : EngineFailure) : statusOf f ≠ 404 := by
  cases f <;> simp [statusOf]

theorem status_pageOf {st : ServiceState σ} {reply : Reply}
    (h : ((site.pageOf v r).run st).1 = some reply) : reply.status ≠ 404 := by
  unfold pageOf at h
  cases hbody : readBody r with
  | error f =>
    rw [hbody] at h
    obtain rfl := Option.some.inj h
    show 422 ≠ 404
    decide
  | ok b =>
    rw [hbody, run_page] at h
    cases hresult : (site.processed st v b).1 with
    | ok outcome =>
      rw [hresult] at h
      obtain rfl := Option.some.inj h
      show 200 ≠ 404
      decide
    | error fault =>
      rw [hresult] at h
      cases fault with
      | unwritable => cases h
      | failure f =>
        obtain rfl := Option.some.inj h
        exact statusOf_ne f

theorem run_columnsOf (st : ServiceState σ) :
    ((site.columnsOf v).run st).1 =
      match ((site.service.describe v.table).run st).1 with
      | .error f => .failure (statusOf f) f.message
      | .ok schema => .json 200 (.ofPairs [("view", .string v.name), ("table", .string v.table),
          ("dialect", .string site.service.dialect.name),
          ("columns", .array (v.columns.map (columnJson schema)))]) := by
  rw [columnsOf, Serving.run_bind]
  cases ((site.service.describe v.table).run st).1 <;> rfl

theorem status_columnsOf (st : ServiceState σ) : ((site.columnsOf v).run st).1.status ≠ 404 := by
  rw [run_columnsOf]
  cases ((site.service.describe v.table).run st).1 with
  | error f => exact statusOf_ne f
  | ok schema =>
    show 200 ≠ 404
    decide

/-- **Requests for a name are answered from the view that is stored under the name without the
blanks around it.** -/
theorem servesFrom_of_get? (h : site.views.get? (Text.trim name) = some v) :
    site.ServesFrom name v := by
  have hpage : ∀ r : Request, r.Names .page name → r.method = "POST" →
      site.respond r = site.pageOf v r := fun r hr hmethod => by
    rw [respond_page hr hmethod, query_eq h]
  have hschema : ∀ r : Request, r.Names .schema name → r.method = "GET" →
      site.respond r = some <$> site.columnsOf v := fun r hr hmethod => by
    rw [respond_schema hr hmethod, schema_eq h]
  have hhead : ∀ r : Request, r.Names .schema name → r.method = "HEAD" →
      site.respond r = (fun reply => some reply.withoutContent) <$> site.columnsOf v :=
    fun r hr hmethod => by rw [respond_head hr hmethod, schema_eq h]
  refine ⟨hpage, hschema, hhead, fun r hr st reply hreply => ?_⟩
  -- No method of a known name is answered with 404: the path is there, whatever is asked of it.
  rcases hr with hr | hr
  · by_cases hmethod : r.method = "POST"
    · rw [hpage r hr hmethod] at hreply
      exact status_pageOf hreply
    · rw [respond_other (.inl ⟨hr, hmethod⟩)] at hreply
      obtain rfl := Option.some.inj hreply
      decide
  · by_cases hget : r.method = "GET"
    · rw [hschema r hr hget] at hreply
      obtain rfl := Option.some.inj hreply
      exact status_columnsOf st
    · by_cases hmethod : r.method = "HEAD"
      · rw [hhead r hr hmethod] at hreply
        obtain rfl := Option.some.inj hreply
        exact status_columnsOf st
      · rw [respond_other (.inr ⟨hr, hget, hmethod⟩)] at hreply
        obtain rfl := Option.some.inj hreply
        decide

theorem misses_of_get? (h : site.views.get? (Text.trim name) = none) : site.Misses name := by
  have hquery (r : Request) : site.query name r = pure (some (missing (Text.trim name))) := by
    simp only [query, viewOf, h, missing]
  have hschema : site.schema name = pure (missing (Text.trim name)) := by
    simp only [schema, viewOf, h, missing]
  refine ⟨fun r hr hmethod => ?_, fun r hr hmethod => ?_, fun r hr hmethod => ?_⟩
  · rw [respond_page hr hmethod, hquery]
  · rw [respond_schema hr hmethod, hschema, map_pure]
  · rw [respond_head hr hmethod, hschema, map_pure]

/-! ## Which view it is -/

/-- A service whose tables have no columns. -/
def bareService : Service Memory :=
  ⟨{ Memory.backend .postgres with describe := fun _ => pure (.ok []) }, none⟩

/-- The text under "view" in a reply. -/
def viewName? (reply : Reply) : Option String :=
  match reply.content with
  | .json (.object members) => (Members.get? members "view").bind Json.text?
  | _ => none

/-- What a site with these views and no columns replies about the columns of a view. -/
theorem viewName?_columnsOf (views : Registry) (v : View) :
    viewName? ((columnsOf ⟨bareService, views, 0⟩ v).run sampleState).1 = some v.name := by
  have hdescribe : ((bareService.describe v.table).run sampleState).1 = .ok [] := rfl
  rw [run_columnsOf, hdescribe]
  simp only [viewName?, Reply.json, Json.ofPairs]
  rw [Members.get?_ofList_of_mem (p := ("view", .string v.name)) (by simp) List.mem_cons_self]
  rfl

end Site

/-- A request for the columns of the view of a name. -/
def Request.columns (name : String) : Request := ⟨"GET", schemaPath name, none, ""⟩

/-- Every name can be asked for. -/
theorem Request.names_columns {name : String} (h : name ≠ "") :
    (Request.columns name).Names .schema name :=
  ⟨segmentOf name, routeOf?_schemaPath h, decodeSegment_segmentOf name⟩

end Http

namespace Registry

/-- Every site with these views answers requests for the name from the view. -/
def Serves (r : Registry) (name : String) (v : View) : Prop :=
  ∀ {σ : Type} (site : Http.Site σ), site.views = r → site.ServesFrom name v

/-- No site with these views finds a view for the name. -/
def Misses (r : Registry) (name : String) : Prop :=
  ∀ {σ : Type} (site : Http.Site σ), site.views = r → site.Misses name

variable {r : Registry} {name : String} {v : View}

theorem serves_of_get? (h : r.get? (Text.trim name) = some v) : r.Serves name v := by
  rintro σ site rfl
  exact Http.Site.servesFrom_of_get? h

theorem misses_of_get? (h : r.get? (Text.trim name) = none) : r.Misses name := by
  rintro σ site rfl
  exact Http.Site.misses_of_get? h

/-- **The view that serves a name has the name without the blanks around it.** -/
theorem trim_of_serves (h : r.Serves name v) (hne : name ≠ "") : v.name = Text.trim name := by
  let site : Http.Site Memory := ⟨Http.Site.bareService, r, 0⟩
  have hserves := h site rfl
  have hnames := Http.Request.names_columns hne
  have hreply := hserves.schema _ hnames rfl
  cases hfound : r.get? (Text.trim name) with
  | none =>
    have hmissing := (misses_of_get? hfound site rfl).schema _ hnames rfl
    have hrun : ((site.respond (.columns name)).run Http.sampleState).1 =
        some (Http.Site.missing (Text.trim name)) := by
      rw [hmissing]
      rfl
    exact absurd rfl (hserves.found _ (.inr hnames) _ _ hrun)
  | some w =>
    have hstored := (serves_of_get? hfound site rfl).schema _ hnames rfl
    have hsame := congrArg (fun x => (x.run Http.sampleState).1.bind Http.Site.viewName?)
      (hreply.symm.trans hstored)
    have hview : some v.name = some w.name := by
      rw [← Http.Site.viewName?_columnsOf r v, ← Http.Site.viewName?_columnsOf r w]
      exact hsame
    rw [Option.some.inj hview, name_of_get? hfound]

/-- **A view is reached under its name if and only if the name has no blanks at its ends.**
Otherwise requests for the name are answered from the view of the name without them, if there is
one, and find no view if there is none. -/
theorem served_iff_trim {text : String} (h : ofText text = .ok r) (hname : name ∈ r.names)
    (hne : name ≠ "") :
    ∃ entries e v, Document.decode ViewEntry.readAll text = .ok entries ∧
      LastEntry entries name e ∧ r.get? name = some v ∧ View.Keeps name e v ∧
      (r.Serves name v ↔ Text.trim name = name) ∧
      (Text.trim name ≠ name →
        (∃ w, r.get? (Text.trim name) = some w ∧ w.name = Text.trim name ∧ r.Serves name w) ∨
          r.get? (Text.trim name) = none ∧ r.Misses name) := by
  obtain ⟨entries, hentries, hviews⟩ := ofText_ok h
  have hholds := holds_of_forall₂ hviews
  obtain ⟨e, he⟩ := exists_lastEntry_iff.2 ((hholds.names name).1 hname)
  obtain ⟨v, hv, hkeeps⟩ := hholds.view name e he
  refine ⟨entries, e, v, hentries, he, hv, hkeeps, ⟨fun hserves => ?_, fun htrim => ?_⟩,
    fun _ => ?_⟩
  · rw [← trim_of_serves hserves hne, name_of_get? hv]
  · exact serves_of_get? (htrim.symm ▸ hv)
  · cases hfound : r.get? (Text.trim name) with
    | none => exact .inr ⟨rfl, misses_of_get? hfound⟩
    | some w => exact .inl ⟨w, rfl, name_of_get? hfound, serves_of_get? hfound⟩

/-- A document of two views whose names differ by a blank. -/
def blankText : String :=
  "\x7b\"v\":\x7b\"table\":\"t\",\"columns\":[\x7b\"source\":\"a\"\x7d]\x7d," ++
    "\" v\":\x7b\"table\":\"s\",\"columns\":[\x7b\"source\":\"a\"\x7d]\x7d\x7d"

theorem names_blankText : (ofText blankText).toOption.map (·.names) = some [" v", "v"] := by
  decide +kernel

/-- One of them is reached under its name. -/
theorem served_iff_trim_tight :
    ∃ r, ofText blankText = .ok r ∧ "v" ∈ r.names ∧
      ∃ v, r.get? "v" = some v ∧ v.name = "v" ∧ r.Serves "v" v := by
  obtain ⟨r, hr, hnames⟩ := exists_ok_of_map names_blankText
  have hmem : "v" ∈ r.names := by simp [hnames]
  obtain ⟨-, e, v, -, -, hv, hkeeps, hserves, -⟩ := served_iff_trim hr hmem (by decide)
  exact ⟨r, hr, hmem, v, hv, hkeeps.name, fun {σ} => hserves.2 (by decide +kernel)⟩

/-- The statements that are run for a page of the view " v". -/
def blankPage (r : Registry) : List String :=
  ((Http.Site.respond ⟨⟨Memory.backend .postgres, none⟩, r, 10⟩
    (.post "/api/views/%20v" "\x7b\x7d")).run Http.sampleState).2.world.statements.map (·.sql)

theorem tables_blankText :
    (ofText blankText).toOption.map (fun r =>
      (r.names, (r.get? " v").map (·.table), (r.get? "v").map (·.table), blankPage r)) =
      some ([" v", "v"], some "s", some "t",
        ["SELECT \"a\"::text AS \"a\" FROM \"t\" LIMIT $1 OFFSET $2",
          "SELECT COUNT(*) FROM \"t\"", "SELECT COUNT(*) FROM \"t\""]) := by
  decide +kernel

/-- The other one is not: its name leads to the rows of another table. -/
theorem blank_name_astray :
    ∃ r, ofText blankText = .ok r ∧ " v" ∈ r.names ∧
      Http.decodeSegment "%20v" = some " v" ∧
      ∃ v w, r.get? " v" = some v ∧ v.table = "s" ∧ r.get? "v" = some w ∧ w.table = "t" ∧
        ¬ r.Serves " v" v ∧ r.Serves " v" w ∧
        blankPage r = ["SELECT \"a\"::text AS \"a\" FROM \"t\" LIMIT $1 OFFSET $2",
          "SELECT COUNT(*) FROM \"t\"", "SELECT COUNT(*) FROM \"t\""] := by
  have htrim : Text.trim " v" = "v" := by decide +kernel
  obtain ⟨r, hr, htables⟩ := exists_ok_of_map tables_blankText
  obtain ⟨hnames, hrest⟩ := Prod.mk.inj htables
  obtain ⟨hv, hrest⟩ := Prod.mk.inj hrest
  obtain ⟨hw, hpage⟩ := Prod.mk.inj hrest
  obtain ⟨v, hv, hvtable⟩ := Option.map_eq_some_iff.1 hv
  obtain ⟨w, hw, hwtable⟩ := Option.map_eq_some_iff.1 hw
  refine ⟨r, hr, by simp [hnames], by decide +kernel, v, w, hv, hvtable, hw, hwtable,
    fun hserves => ?_, serves_of_get? (htrim.symm ▸ hw), hpage⟩
  have hname := trim_of_serves hserves (by decide)
  rw [name_of_get? hv, htrim] at hname
  exact absurd hname (by decide)

end Registry

end GridQuery
